import MakeLauncher.Platform

/-! The names of hosts that there are no tools for. A name is refused when nothing in the table
recognises it, and the failure shows the name without the white space around it. -/

namespace MakeLauncher

theorem OsFamily.mem_all (family : OsFamily) : family ∈ OsFamily.all := by
  cases family <;> decide

theorem Processor.mem_all (processor : Processor) : processor ∈ Processor.all := by
  cases processor <;> decide

def OsFamily.Unknown (kernel : String) : Prop :=
  ∀ family, OsFamily.recognises (trim kernel).toList family = false

/-- A machine name that no processor recognises. -/
def Processor.Unknown (machine : String) : Prop :=
  ∀ processor, Processor.recognises (trim machine).toList processor = false

theorem OsFamily.ofKernel_eq_error_iff {kernel : String} {failure : Failure} :
    OsFamily.ofKernel kernel = .error failure ↔
      OsFamily.Unknown kernel ∧ failure = .unsupportedOs (trim kernel) := by
  have hnone : OsFamily.all.find? (recognises (trim kernel).toList) = none ↔ Unknown kernel := by
    simp only [List.find?_eq_none, mem_all, forall_const, Bool.not_eq_true, Unknown]
  unfold ofKernel
  rw [← hnone]
  cases OsFamily.all.find? (recognises (trim kernel).toList) <;> simp [eq_comm (a := failure)]

theorem Processor.ofMachine_eq_error_iff {machine : String} {failure : Failure} :
    Processor.ofMachine machine = .error failure ↔
      Processor.Unknown machine ∧ failure = .unsupportedProcessor (trim machine) := by
  have hnone :
      Processor.all.find? (recognises (trim machine).toList) = none ↔ Unknown machine := by
    simp only [List.find?_eq_none, mem_all, forall_const, Bool.not_eq_true, Unknown]
  unfold ofMachine
  rw [← hnone]
  cases Processor.all.find? (recognises (trim machine).toList) <;> simp [eq_comm (a := failure)]

theorem Platform.ofNames_eq_error_iff {kernel machine : String} {failure : Failure} :
    Platform.ofNames kernel machine = .error failure ↔
      (OsFamily.Unknown kernel ∧ failure = .unsupportedOs (trim kernel)) ∨
      (¬OsFamily.Unknown kernel ∧ Processor.Unknown machine ∧
        failure = .unsupportedProcessor (trim machine)) := by
  unfold Platform.ofNames
  cases hfamily : OsFamily.ofKernel kernel with
  | error cause =>
      obtain ⟨hunknown, rfl⟩ := OsFamily.ofKernel_eq_error_iff.mp hfamily
      simp [bind, Except.bind, hunknown, eq_comm (a := failure)]
  | ok family =>
      have hknown : ¬OsFamily.Unknown kernel := by
        intro hunknown
        have herror := OsFamily.ofKernel_eq_error_iff.mpr ⟨hunknown, rfl⟩
        rw [hfamily] at herror
        cases herror
      simp only [hknown, false_and, not_false_eq_true, true_and, false_or,
        ← Processor.ofMachine_eq_error_iff]
      cases Processor.ofMachine machine <;> simp [bind, Except.bind, pure, Except.pure]

end MakeLauncher
