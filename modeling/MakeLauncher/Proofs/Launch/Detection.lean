import MakeLauncher.Proofs.HostNames
import MakeLauncher.Proofs.Launch.Course
import MakeLauncher.System.Completion

/-! The platform that a launch detects. The program `uname` is asked for the two names of the host, its
answers are trimmed when they are read and once more when they are looked up. Main statement: the platform
is told by the classes that the trimmed names belong to, white space around the names changes nothing, and
so what is detected is what the printed names come to as they are. -/

namespace MakeLauncher

/-- The program `uname` answers both questions, the second in the world that the first has left. -/
structure UnamePrints {World : Type} (start : Starter World) (world : World) (kernel machine : Bytes) :
    Prop where
  kernel : ∃ completion : Completion, (start world Query.kernel.invocation).1 = .ok completion ∧
    completion.status.isClear = true ∧ completion.printed.stdout = kernel
  machine : ∃ completion : Completion,
    (start (start world Query.kernel.invocation).2 Query.machine.invocation).1 = .ok completion ∧
    completion.status.isClear = true ∧ completion.printed.stdout = machine

section

variable {World : Type} {start : Starter World} {world : World} {kernel machine : Bytes}

theorem Query.answer_of_isClear {query : Query} {completion : Completion}
    (hclear : completion.status.isClear = true) :
    query.answer (.ok completion) = .ok (trim completion.printed.stdout.shown) := if_pos hclear

theorem UnamePrints.answers (hprints : UnamePrints start world kernel machine) :
    Probe.uname start world .kernel = .ok (trim kernel.shown) ∧
    Probe.uname start world .machine = .ok (trim machine.shown) := by
  constructor
  · obtain ⟨completion, hcompletion, hclear, rfl⟩ := hprints.kernel
    rw [← Query.answer_of_isClear hclear, ← hcompletion]
    rfl
  · obtain ⟨completion, hcompletion, hclear, rfl⟩ := hprints.machine
    rw [← Query.answer_of_isClear hclear, ← hcompletion]
    rfl

theorem UnamePrints.platform_eq (hprints : UnamePrints start world kernel machine) :
    (Probe.uname start world).platform = Platform.ofNames kernel.shown machine.shown := by
  obtain ⟨hkernel, hmachine⟩ := hprints.answers
  calc (Probe.uname start world).platform
      = Platform.ofNames (trim kernel.shown) (trim machine.shown) := by
        simp only [Probe.platform, hkernel, hmachine, bind, Except.bind]
    _ = Platform.ofNames kernel.shown machine.shown :=
        Platform.ofNames_congr (trim_trim kernel.shown) (trim_trim machine.shown)

end

/-- The platform that two names come to is told by the classes that they belong to when they are trimmed,
of which there is one at most for each name. A kernel name in no class is reported first, a machine name in
none next. White space around the names changes nothing, so asking `uname` comes to the same. -/
theorem Platform.ofNames_told_from_classes (kernel machine : String) :
    (∀ platform, ofNames kernel machine = .ok platform ↔
      ∃ family processor, OsFamily.Names (trim kernel) family ∧
        Processor.Names (trim machine) processor ∧
        platform = if family = .darwin ∧ processor = .arm64 then ⟨.darwin, .x86_64⟩
          else ⟨family, processor⟩) ∧
    ofNames kernel machine ≠ .ok ⟨.darwin, .arm64⟩ ∧
    ((∀ family, ¬OsFamily.Names (trim kernel) family) →
      ofNames kernel machine = .error (.unsupportedOs (trim kernel))) ∧
    (∀ family, OsFamily.Names (trim kernel) family →
      (∀ processor, ¬Processor.Names (trim machine) processor) →
        ofNames kernel machine = .error (.unsupportedProcessor (trim machine))) ∧
    (∀ name family family', OsFamily.Names name family → OsFamily.Names name family' →
      family = family') ∧
    (∀ name processor processor', Processor.Names name processor → Processor.Names name processor' →
      processor = processor') ∧
    (∀ order : List OsFamily, (∀ family, family ∈ order) →
      order.find? (OsFamily.recognises (trim kernel).toList) =
        OsFamily.all.find? (OsFamily.recognises (trim kernel).toList)) ∧
    (∀ order : List Processor, (∀ processor, processor ∈ order) →
      order.find? (Processor.recognises (trim machine).toList) =
        Processor.all.find? (Processor.recognises (trim machine).toList)) ∧
    (Processor.Names (trim machine) .x86 ↔ ∃ b : UInt8,
      Bytes.ofText (trim machine) = [Bytes.ascii 'i', b, Bytes.ascii '8', Bytes.ascii '6']) ∧
    (∀ left right left' right' : String, Blank left.toList → Blank right.toList →
      Blank left'.toList → Blank right'.toList →
      ofNames (left ++ kernel ++ right) (left' ++ machine ++ right') = ofNames kernel machine) ∧
    (∀ (World : Type) (start : Starter World) (world : World) (trace : Trace)
      (printedKernel printedMachine : Bytes),
      UnamePrints start world printedKernel printedMachine →
        (Launch.outcome (Launch.detect (Probe.uname start world)) trace).1 =
          ofNames printedKernel.shown printedMachine.shown) := by
  refine ⟨fun platform => ?_, ?_, ?_, ?_, fun _ _ _ => OsFamily.Names.unique,
    fun _ _ _ => Processor.Names.unique, fun order hall => ?_, fun order hall => ?_,
    Processor.names_x86_iff, ?_, ?_⟩
  · rw [ofNames_eq_ok_iff]
    simp only [ofHost_eq, eq_comm (a := platform)]
  · intro h
    obtain ⟨family, processor, -, -, hhost⟩ := ofNames_eq_ok_iff.mp h
    exact ofHost_ne family processor hhost
  · intro hkernel
    exact ofNames_eq_error_iff.mpr (.inl ⟨OsFamily.unknown_iff.mpr hkernel, rfl⟩)
  · intro family hkernel hmachine
    have hknown : ¬OsFamily.Unknown kernel := fun hunknown =>
      OsFamily.unknown_iff.mp hunknown family hkernel
    exact ofNames_eq_error_iff.mpr (.inr ⟨hknown, Processor.unknown_iff.mpr hmachine, rfl⟩)
  · exact find?_eq_find?_of_unique hall OsFamily.mem_all OsFamily.recognises_unique
  · exact find?_eq_find?_of_unique hall Processor.mem_all Processor.recognises_unique
  · intro left right left' right' hleft hright hleft' hright'
    exact ofNames_congr (trim_surround hleft hright kernel) (trim_surround hleft' hright' machine)
  · intro World start world trace printedKernel printedMachine hprints
    rw [Launch.outcome_detect]
    exact hprints.platform_eq

/-- A program `uname` that prints a kernel name and a machine name. -/
def naming (kernel machine : Bytes) : Starter Unit := fun world invocation =>
  (.ok ⟨⟨0⟩, ⟨if invocation = Query.kernel.invocation then kernel else machine, []⟩⟩, world)

theorem unamePrints_naming (kernel machine : Bytes) :
    UnamePrints (naming kernel machine) () kernel machine := by
  have hclear : (WaitStatus.mk 0).isClear = true := by decide
  have hother : Query.machine.invocation ≠ Query.kernel.invocation := by decide
  have hkernel : (if Query.kernel.invocation = Query.kernel.invocation then kernel else machine) =
      kernel := if_pos rfl
  have hmachine : (if Query.machine.invocation = Query.kernel.invocation then kernel else machine) =
      machine := if_neg hother
  exact ⟨⟨_, rfl, hclear, hkernel⟩, ⟨_, rfl, hclear, hmachine⟩⟩

/-- A host that there are no tools for, one with a letter beyond ASCII in its machine name, and one whose
names stand between odd spaces. -/
theorem Platform.ofNames_told_from_classes_of_hosts :
    ofNames "Plan9\n" "i686" = .error (.unsupportedOs "Plan9") ∧
    OsFamily.Names (trim " Linux") .linux ∧
    ofNames " Linux" "i\u00E986" = .error (.unsupportedProcessor "i\u00E986") ∧
    Blank "\u3000".toList ∧ Blank "\n".toList ∧
    ofNames ("\u3000" ++ "fReeBsD" ++ "\n") ("\u3000" ++ "i686" ++ "\n") = ofNames "fReeBsD" "i686" ∧
    UnamePrints (naming "MSYS_NT-10.0\n" "i[86\n") () "MSYS_NT-10.0\n" "i[86\n" ∧
    (Launch.outcome (Launch.detect (Probe.uname (naming "MSYS_NT-10.0\n" "i[86\n") ())) {}).1 =
      .ok ⟨.cygwin, .x86⟩ := by
  have hplan9 : ∀ family, ¬OsFamily.Names (trim "Plan9\n") family := by
    apply OsFamily.unknown_iff.mp
    intro family
    cases family <;> decide
  have hlinux : OsFamily.Names (trim " Linux") .linux := .linux (by decide)
  have haccent : ∀ processor, ¬Processor.Names (trim "i\u00E986") processor := by
    apply Processor.unknown_iff.mp
    intro processor
    cases processor <;> decide
  have hwide : Blank "\u3000".toList := by decide
  have hnewline : Blank "\n".toList := by decide
  have hprints := unamePrints_naming "MSYS_NT-10.0\n" "i[86\n"
  obtain ⟨-, -, hfamily, -⟩ := ofNames_told_from_classes "Plan9\n" "i686"
  obtain ⟨-, -, -, hprocessor, -⟩ := ofNames_told_from_classes " Linux" "i\u00E986"
  obtain ⟨-, -, -, -, -, -, -, -, -, hsurround, hdetect⟩ := ofNames_told_from_classes "fReeBsD" "i686"
  refine ⟨hfamily hplan9, hlinux, hprocessor _ hlinux haccent, hwide, hnewline,
    hsurround _ _ _ _ hwide hnewline hwide hnewline, hprints, ?_⟩
  rw [hdetect _ _ _ _ _ _ hprints]
  decide

end MakeLauncher
