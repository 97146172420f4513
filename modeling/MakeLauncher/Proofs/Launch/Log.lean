import MakeLauncher.Proofs.Arguments
import MakeLauncher.Proofs.Launch.Course
import MakeLauncher.Proofs.Root

/-! The warnings in the log of a launch. Main statement: a launch warns of a flag without its path once or
not at all, and once just when its root may stand and its arguments end in such a flag. -/

namespace MakeLauncher

namespace Event

theorem count_danglingFlag_ofArguments (arguments : List Bytes) :
    (ofArguments (Argument.classify arguments)).count danglingFlag =
      if Argument.EndsOpen arguments then 1 else 0 := by
  unfold ofArguments
  rw [Argument.awaitsPath_classify]
  by_cases hopen : Argument.EndsOpen arguments <;> simp [hopen]

theorem danglingFlag_notMem_ofSettings (settings : Settings) :
    danglingFlag ∉ ofSettings settings := by
  simp [ofSettings]

theorem danglingFlag_notMem_ofPlatform (platform : Platform) :
    danglingFlag ∉ ofPlatform platform := by
  simp [ofPlatform]

end Event

theorem CygwinTrial.Goes.danglingFlag_notMem {runner : Runner} {earlier calls : List Call}
    {make root : Bytes} {result : Except Failure Bytes} {events : List Event}
    (h : Goes runner earlier make root result calls events) : Event.danglingFlag ∉ events := by
  cases h <;> simp

namespace Launch

theorem danglingFlag_notMem_missing (site : Site) (build : Build) (platform : Platform) :
    Event.danglingFlag ∉ missing site build platform := by
  unfold missing
  split <;> simp

variable (surroundings : Surroundings) (request : Request)

/-- The log of a launch whose root may stand begins with the opening, and the rest has no warning. -/
theorem exists_log_eq_opening_append (hroot : request.root.hasWhiteSpace = false) :
    ∃ rest, (prepared surroundings request).2.log = opening request ++ rest ∧
      Event.danglingFlag ∉ rest := by
  have hcourse := course_prepared surroundings request
  generalize (prepared surroundings request).1 = result at hcourse
  generalize (prepared surroundings request).2 = trace at hcourse ⊢
  have hplatform := Event.danglingFlag_notMem_ofPlatform
  have hmissing := danglingFlag_notMem_missing surroundings.site
  cases hcourse with
  | rejected hspace => exact absurd hspace (by simp [hroot])
  | unknownHost => exact ⟨[], (List.append_nil _).symm, List.not_mem_nil⟩
  | withoutMake => exact ⟨_, List.append_assoc _ _ _, by simp [hplatform, hmissing]⟩
  | untried =>
      simp only [List.append_assoc]
      exact ⟨_, rfl, by simp [hplatform, hmissing]⟩
  | untrusted _ _ _ _ htrial =>
      simp only [List.append_assoc]
      exact ⟨_, rfl, by simp [hplatform, hmissing, htrial.danglingFlag_notMem]⟩
  | tried _ _ _ _ htrial =>
      simp only [List.append_assoc]
      exact ⟨_, rfl, by simp [hplatform, hmissing, htrial.danglingFlag_notMem]⟩

theorem prepared_of_hasWhiteSpace (hroot : request.root.hasWhiteSpace = true) :
    prepared surroundings request = (.error (.whiteSpaceInRoot request.root), {}) := by
  have hrefused := checkRoot_eq_error_iff.mpr ⟨hroot, rfl⟩
  unfold prepared configure
  rw [Build.ofRequest_eq_error_iff.mpr hrefused]
  rfl

/-- A launch warns once, when its root may stand and its arguments end in a flag without its path, and
otherwise not at all. -/
theorem count_danglingFlag_finished : (finished surroundings request).2.log.count .danglingFlag =
    if request.root.hasWhiteSpace = false ∧ Argument.EndsOpen request.arguments then 1 else 0 := by
  rw [log_finished]
  cases hroot : request.root.hasWhiteSpace with
  | true =>
      rw [prepared_of_hasWhiteSpace surroundings request hroot]
      simp
  | false =>
      obtain ⟨rest, hlog, hrest⟩ := exists_log_eq_opening_append surroundings request hroot
      have hsettings := List.count_eq_zero.mpr (Event.danglingFlag_notMem_ofSettings request.settings)
      rw [hlog, opening, List.count_append, List.count_append, List.count_eq_zero.mpr hrest,
        Event.count_danglingFlag_ofArguments, List.count_cons_of_ne (by simp), hsettings]
      simp

end Launch
end MakeLauncher
