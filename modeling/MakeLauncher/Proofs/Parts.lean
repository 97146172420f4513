import MakeLauncher.Event
import MakeLauncher.Proofs.Settings

/-! Arguments that come in parts. A flag waits for its path only within its list, and one that was left
without a path is remembered for good, so it matters where a list is cut. Main statements: what the
settings are after two lists and what they are after both as one, whatever stands in the lists; and how
the arguments of a command line read that are cut in two, where the second part begins with the path of a
flag and where it does not. -/

namespace MakeLauncher

namespace Argument

/-- Among the arguments is a path. -/
def HasPath (arguments : List Argument) : Prop := ∃ path, .projectPath path ∈ arguments

/-- Among the arguments is a flag that no path comes behind. -/
def LeavesFlag (arguments : List Argument) : Prop :=
  ∃ before after, arguments = before ++ .projectFlag :: after ∧ ¬HasPath after

variable {arguments first second : List Argument} {argument : Argument}

theorem hasPath_cons :
    HasPath (argument :: arguments) ↔ (∃ path, argument = .projectPath path) ∨ HasPath arguments := by
  simp only [HasPath, List.mem_cons, exists_or, eq_comm]

theorem not_leavesFlag_nil : ¬LeavesFlag [] := by
  rintro ⟨before, after, hnil, -⟩
  simp at hnil

theorem leavesFlag_cons :
    LeavesFlag (argument :: arguments) ↔
      (argument = .projectFlag ∧ ¬HasPath arguments) ∨ LeavesFlag arguments := by
  constructor
  · rintro ⟨before, after, hsplit, hnone⟩
    cases before with
    | nil =>
        obtain ⟨rfl, rfl⟩ := List.cons.inj hsplit
        exact .inl ⟨rfl, hnone⟩
    | cons first before =>
        obtain ⟨rfl, rfl⟩ := List.cons.inj hsplit
        exact .inr ⟨before, after, rfl, hnone⟩
  · rintro (⟨rfl, hnone⟩ | ⟨before, after, rfl, hnone⟩)
    · exact ⟨[], arguments, rfl, hnone⟩
    · exact ⟨argument :: before, after, rfl, hnone⟩

/-! ### The flag that waits -/

/-- A path is awaited behind arguments when they leave a flag, or when one was awaited before them and
none came. -/
theorem awaitsFrom_eq_true_iff (awaited : Bool) :
    awaitsFrom awaited arguments = true ↔
      LeavesFlag arguments ∨ (awaited = true ∧ ¬HasPath arguments) := by
  induction arguments generalizing awaited with
  | nil => simp [awaitsFrom, not_leavesFlag_nil, HasPath]
  | cons argument arguments ih =>
      rw [leavesFlag_cons, hasPath_cons]
      cases argument with
      | projectFlag =>
          show awaitsFrom true arguments = true ↔ _
          rw [ih]
          by_cases hpath : HasPath arguments <;> simp [hpath]
      | projectPath path =>
          show awaitsFrom false arguments = true ↔ _
          rw [ih]
          simp
      | assignment a =>
          show awaitsFrom awaited arguments = true ↔ _
          rw [ih]
          simp
      | other bytes =>
          show awaitsFrom awaited arguments = true ↔ _
          rw [ih]
          simp

theorem awaitsPath_eq_true_iff : awaitsPath arguments = true ↔ LeavesFlag arguments := by
  rw [awaitsPath, awaitsFrom_eq_true_iff]
  simp

instance : DecidablePred LeavesFlag := fun _ => decidable_of_iff _ awaitsPath_eq_true_iff

theorem awaitsPath_append (first second : List Argument) :
    awaitsPath (first ++ second) = awaitsFrom (awaitsPath first) second := List.foldl_append

theorem leavesFlag_append :
    LeavesFlag (first ++ second) ↔ LeavesFlag second ∨ (LeavesFlag first ∧ ¬HasPath second) := by
  rw [← awaitsPath_eq_true_iff, awaitsPath_append, awaitsFrom_eq_true_iff, awaitsPath_eq_true_iff]

theorem ofArguments_eq (arguments : List Argument) :
    Event.ofArguments arguments = if LeavesFlag arguments then [.danglingFlag] else [] := by
  simp only [Event.ofArguments, awaitsPath_eq_true_iff]

end Argument

namespace Settings

open Argument

/-! ### Lists of any arguments -/

theorem apply_with_danglingFlag (settings : Settings) (dangling : Bool) (argument : Argument) :
    apply { settings with danglingFlag := dangling } argument =
      { settings.apply argument with danglingFlag := dangling } := by
  cases argument with
  | assignment a => cases a <;> rfl
  | _ => rfl

/-- What the arguments set does not depend on whether a flag was left before. -/
theorem foldl_apply_with_danglingFlag (settings : Settings) (dangling : Bool)
    (arguments : List Argument) :
    arguments.foldl apply { settings with danglingFlag := dangling } =
      { arguments.foldl apply settings with danglingFlag := dangling } := by
  induction arguments generalizing settings with
  | nil => rfl
  | cons argument arguments ih =>
      rw [List.foldl_cons, List.foldl_cons, apply_with_danglingFlag, ih]

theorem applyAll_eq (settings : Settings) (arguments : List Argument) :
    settings.applyAll arguments =
      { arguments.foldl apply settings with
        danglingFlag := settings.danglingFlag || awaitsPath arguments } := by
  simp only [applyAll, danglingFlag_foldl_apply]

/-- Two lists as one set what they set one after the other, but for the flag that is left. -/
theorem applyAll_append (settings : Settings) (first second : List Argument) :
    settings.applyAll (first ++ second) =
      { (settings.applyAll first).applyAll second with
        danglingFlag := settings.danglingFlag || awaitsPath (first ++ second) } := by
  simp only [applyAll_eq, List.foldl_append, foldl_apply_with_danglingFlag]

theorem danglingFlag_applyAll_eq_true_iff (settings : Settings) (arguments : List Argument) :
    (settings.applyAll arguments).danglingFlag = true ↔
      settings.danglingFlag = true ∨ LeavesFlag arguments := by
  rw [danglingFlag_applyAll, Bool.or_eq_true, awaitsPath_eq_true_iff]

/-- A flag that was left is remembered through any number of lists, and no other is made up. -/
theorem danglingFlag_foldl_applyAll_eq_true_iff (settings : Settings)
    (lists : List (List Argument)) :
    (lists.foldl applyAll settings).danglingFlag = true ↔
      settings.danglingFlag = true ∨ ∃ arguments ∈ lists, LeavesFlag arguments := by
  induction lists generalizing settings with
  | nil => simp
  | cons arguments lists ih =>
      rw [List.foldl_cons, ih, danglingFlag_applyAll_eq_true_iff, or_assoc]
      simp

theorem danglingFlag_applyAll_applyAll_eq_true_iff (settings : Settings)
    (first second : List Argument) :
    ((settings.applyAll first).applyAll second).danglingFlag = true ↔
      settings.danglingFlag = true ∨ LeavesFlag first ∨ LeavesFlag second := by
  rw [danglingFlag_applyAll_eq_true_iff, danglingFlag_applyAll_eq_true_iff, or_assoc]

/-- What is remembered after both lists as one is remembered after one and the other. -/
theorem danglingFlag_applyAll_applyAll_of_append {settings : Settings} {first second : List Argument}
    (honce : (settings.applyAll (first ++ second)).danglingFlag = true) :
    ((settings.applyAll first).applyAll second).danglingFlag = true := by
  rw [danglingFlag_applyAll_applyAll_eq_true_iff]
  rw [danglingFlag_applyAll_eq_true_iff, leavesFlag_append] at honce
  rcases honce with hbefore | hsecond | ⟨hfirst, -⟩
  · exact .inl hbefore
  · exact .inr (.inr hsecond)
  · exact .inr (.inl hfirst)

/-- A flag is remembered after one list and the other and not after both as one just when it is the first
list that leaves it and its path comes in the second. -/
theorem danglingFlag_applyAll_applyAll_ne_iff (settings : Settings) (first second : List Argument) :
    ((settings.applyAll first).applyAll second).danglingFlag ≠
        (settings.applyAll (first ++ second)).danglingFlag ↔
      settings.danglingFlag = false ∧ LeavesFlag first ∧ HasPath second ∧ ¬LeavesFlag second := by
  have htwice := danglingFlag_applyAll_applyAll_eq_true_iff settings first second
  have honce := danglingFlag_applyAll_eq_true_iff settings (first ++ second)
  rw [leavesFlag_append] at honce
  constructor
  · intro hne
    have hforgotten : ¬(settings.applyAll (first ++ second)).danglingFlag = true := fun h =>
      hne ((danglingFlag_applyAll_applyAll_of_append h).trans h.symm)
    have hremembered : ((settings.applyAll first).applyAll second).danglingFlag = true := by
      rw [Bool.not_eq_true] at hforgotten
      rwa [hforgotten, Bool.ne_false_iff] at hne
    rw [honce, not_or, not_or, not_and, not_not, Bool.not_eq_true] at hforgotten
    obtain ⟨hbefore, hsecond, hpath⟩ := hforgotten
    rcases htwice.mp hremembered with h | hfirst | h
    · rw [hbefore] at h
      cases h
    · exact ⟨hbefore, hfirst, hpath hfirst, hsecond⟩
    · exact absurd h hsecond
  · rintro ⟨hbefore, hfirst, hpath, hsecond⟩ heq
    rw [htwice.mpr (.inr (.inl hfirst))] at heq
    rcases honce.mp heq.symm with h | h | ⟨-, hnone⟩
    · rw [hbefore] at h
      cases h
    · exact hsecond h
    · exact hnone hpath

/-- After two lists the settings are those after both as one, but a flag that the first list leaves is
remembered though its path begins the second. So the two ways differ just when the first leaves a flag,
the second has a path and leaves none, and none was left before. Each way warns of the flags it finds
left, and a flag that is remembered is not forgotten behind any further lists. -/
theorem applyAll_twice_and_once (settings : Settings) (first second : List Argument) :
    (((settings.applyAll first).applyAll second).verbose =
        (settings.applyAll (first ++ second)).verbose ∧
      ((settings.applyAll first).applyAll second).analyze =
        (settings.applyAll (first ++ second)).analyze ∧
      ((settings.applyAll first).applyAll second).analyzerOut =
        (settings.applyAll (first ++ second)).analyzerOut ∧
      ((settings.applyAll first).applyAll second).appAbi =
        (settings.applyAll (first ++ second)).appAbi ∧
      ((settings.applyAll first).applyAll second).projectPath =
        (settings.applyAll (first ++ second)).projectPath) ∧
    (((settings.applyAll first).applyAll second).danglingFlag = true ↔
      settings.danglingFlag = true ∨ LeavesFlag first ∨ LeavesFlag second) ∧
    ((settings.applyAll (first ++ second)).danglingFlag = true ↔
      settings.danglingFlag = true ∨ LeavesFlag (first ++ second)) ∧
    ((settings.applyAll (first ++ second)).danglingFlag = true →
      ((settings.applyAll first).applyAll second).danglingFlag = true) ∧
    (((settings.applyAll first).applyAll second).danglingFlag ≠
        (settings.applyAll (first ++ second)).danglingFlag ↔
      settings.danglingFlag = false ∧ LeavesFlag first ∧ HasPath second ∧ ¬LeavesFlag second) ∧
    Event.ofArguments first ++ Event.ofArguments second =
      (if LeavesFlag first then [.danglingFlag] else []) ++
        (if LeavesFlag second then [.danglingFlag] else []) ∧
    Event.ofArguments (first ++ second) =
      (if LeavesFlag (first ++ second) then [.danglingFlag] else []) ∧
    ∀ further : List (List Argument), settings.danglingFlag = true →
      (further.foldl applyAll settings).danglingFlag = true := by
  refine ⟨?_, danglingFlag_applyAll_applyAll_eq_true_iff settings first second,
    danglingFlag_applyAll_eq_true_iff settings (first ++ second),
    danglingFlag_applyAll_applyAll_of_append,
    danglingFlag_applyAll_applyAll_ne_iff settings first second, ?_, ofArguments_eq _, ?_⟩
  · rw [applyAll_append]
    exact ⟨rfl, rfl, rfl, rfl, rfl⟩
  · rw [ofArguments_eq, ofArguments_eq]
  · intro further hdangling
    exact (danglingFlag_foldl_applyAll_eq_true_iff settings further).mpr (.inl hdangling)

/-- Settings that remember a flag without its path. -/
def remembering : Settings where
  danglingFlag := true

theorem applyAll_twice_and_once_of_cut :
    ((({} : Settings).applyAll [.projectFlag]).applyAll [.projectPath "app"]).danglingFlag ≠
      (({} : Settings).applyAll [.projectFlag, .projectPath "app"]).danglingFlag ∧
    (remembering.applyAll ([.projectFlag] ++ [.projectPath "app"])).danglingFlag = true ∧
    ((remembering.applyAll [.projectFlag]).applyAll [.projectPath "app"]).danglingFlag = true ∧
    remembering.danglingFlag = true ∧
    ([[.projectPath "app"], [.other "clean"]].foldl applyAll remembering).danglingFlag = true := by
  obtain ⟨-, -, -, -, hdiffer, -⟩ :=
    applyAll_twice_and_once {} [.projectFlag] [.projectPath "app"]
  obtain ⟨-, -, -, himplies, -, -, -, hfurther⟩ :=
    applyAll_twice_and_once remembering [.projectFlag] [.projectPath "app"]
  have honce : (remembering.applyAll ([.projectFlag] ++ [.projectPath "app"])).danglingFlag = true :=
    rfl
  have hremembered : remembering.danglingFlag = true := rfl
  have hpath : HasPath [.projectPath "app"] := ⟨"app", List.mem_singleton_self _⟩
  exact ⟨hdiffer.mpr ⟨rfl, by decide, hpath, by decide⟩, honce, himplies honce, hremembered,
    hfurther _ hremembered⟩

/-! ### Arguments of a command line -/

variable {arguments : List Bytes}

/-- Behind a flag that is open comes its path, and the arguments behind that read as they would alone. -/
theorem classify_append_cons_of_endsOpen (hopen : EndsOpen arguments) (path : Bytes)
    (rest : List Bytes) :
    classify (arguments ++ path :: rest) =
      classify arguments ++ .projectPath path :: classify rest := by
  rw [classify_append, decide_eq_true hopen]
  rfl

theorem classify_append_of_not_endsOpen (hopen : ¬EndsOpen arguments) (rest : List Bytes) :
    classify (arguments ++ rest) = classify arguments ++ classify rest := by
  rw [classify_append, decide_eq_false hopen]
  rfl

theorem withArguments_append_of_not_endsOpen (hopen : ¬EndsOpen arguments) (settings : Settings)
    (rest : List Bytes) :
    settings.withArguments (arguments ++ rest) =
      (settings.withArguments arguments).withArguments rest := by
  have hawaits : awaitsPath (classify arguments) = false := by
    rw [awaitsPath_classify, decide_eq_false hopen]
  have hdangling : ((settings.applyAll (classify arguments)).applyAll (classify rest)).danglingFlag =
      (settings.danglingFlag || awaitsPath (classify arguments ++ classify rest)) := by
    rw [danglingFlag_applyAll, danglingFlag_applyAll, awaitsPath_append, hawaits, Bool.or_false]
    rfl
  calc settings.withArguments (arguments ++ rest)
      = settings.applyAll (classify arguments ++ classify rest) := by
        rw [withArguments, classify_append_of_not_endsOpen hopen]
    _ = { (settings.applyAll (classify arguments)).applyAll (classify rest) with
          danglingFlag := settings.danglingFlag ||
            awaitsPath (classify arguments ++ classify rest) } := applyAll_append _ _ _
    _ = (settings.applyAll (classify arguments)).applyAll (classify rest) := by rw [← hdangling]

/-- Of an argument that is the path of a flag only the path is kept, and the flag is not left. -/
theorem withArguments_append_cons_of_endsOpen (hopen : EndsOpen arguments) (settings : Settings)
    (path : Bytes) (rest : List Bytes) :
    settings.withArguments (arguments ++ path :: rest) =
      { { settings.withArguments arguments with projectPath := some path }.withArguments rest with
        danglingFlag := settings.danglingFlag || awaitsPath (classify rest) } := by
  have hawaits : awaitsPath (classify arguments ++ .projectPath path :: classify rest) =
      awaitsPath (classify rest) := awaitsPath_append _ _
  rw [withArguments, classify_append_cons_of_endsOpen hopen, applyAll_append, hawaits]
  rfl

/-- Arguments that are cut in two read as their parts, one after the other, unless the first part ends in
a flag that is open. Then the first argument behind the cut is the path of that flag: it is the path of
the project if no other comes, and sets nothing else, be it an assignment. -/
theorem withArguments_append_by_seam (settings : Settings) (arguments : List Bytes) :
    (¬Odd (trailingFlags arguments) → ∀ rest : List Bytes,
      classify (arguments ++ rest) = classify arguments ++ classify rest ∧
      settings.withArguments (arguments ++ rest) =
        (settings.withArguments arguments).withArguments rest) ∧
    (Odd (trailingFlags arguments) → ∀ (path : Bytes) (rest : List Bytes),
      classify (arguments ++ path :: rest) =
        classify arguments ++ [.projectPath path] ++ classify rest ∧
      (settings.withArguments (arguments ++ path :: rest)).projectPath =
        some (((classify rest).filterMap path?).getLast?.getD path) ∧
      (settings.withArguments (arguments ++ path :: rest)).verbose =
        ((settings.withArguments arguments).withArguments rest).verbose ∧
      (settings.withArguments (arguments ++ path :: rest)).analyze =
        ((settings.withArguments arguments).withArguments rest).analyze ∧
      (settings.withArguments (arguments ++ path :: rest)).analyzerOut =
        ((settings.withArguments arguments).withArguments rest).analyzerOut ∧
      (settings.withArguments (arguments ++ path :: rest)).appAbi =
        ((settings.withArguments arguments).withArguments rest).appAbi) := by
  constructor
  · intro hopen rest
    exact ⟨classify_append_of_not_endsOpen hopen rest,
      withArguments_append_of_not_endsOpen hopen settings rest⟩
  · intro hopen path rest
    refine ⟨?_, ?_, ?_⟩
    · rw [classify_append_cons_of_endsOpen hopen, List.append_assoc, List.singleton_append]
    · rw [withArguments_append_cons_of_endsOpen hopen, projectPath_withArguments,
        ← filterMap_path?_classify]
      cases ((classify rest).filterMap path?).getLast? <;> rfl
    · simp only [withArguments_append_cons_of_endsOpen hopen, verbose_withArguments,
        analyze_withArguments, analyzerOut_withArguments, appAbi_withArguments, and_self]

/-- Arguments of which the first is an assignment and the second sets the target. -/
def assignments : List Bytes := ["NDK_LOG=1", "APP_ABI=x86"]

/-- Behind two flags, of which one is the path of the other, an assignment sets the switch; behind three
it is a path. -/
theorem withArguments_append_by_seam_of_flags :
    ¬Odd (trailingFlags [flag, flag]) ∧ Odd (trailingFlags [flag, flag, flag]) ∧
    (({} : Settings).withArguments ([flag, flag] ++ assignments)).verbose = true ∧
    (({} : Settings).withArguments ([flag, flag, flag] ++ assignments)).verbose = false ∧
    (({} : Settings).withArguments ([flag, flag, flag] ++ assignments)).projectPath =
      some (Bytes.ofText "NDK_LOG=1") := by
  have heven : ¬Odd (trailingFlags [flag, flag]) := by decide
  have hodd : Odd (trailingFlags [flag, flag, flag]) := by decide
  obtain ⟨hparts, -⟩ := withArguments_append_by_seam {} [flag, flag]
  obtain ⟨-, hread⟩ := hparts heven assignments
  obtain ⟨-, hseam⟩ := withArguments_append_by_seam {} [flag, flag, flag]
  obtain ⟨-, hpath, hverbose, -⟩ := hseam hodd "NDK_LOG=1" ["APP_ABI=x86"]
  refine ⟨heven, hodd, ?_, hverbose.trans (by decide), hpath.trans (by decide)⟩
  rw [hread]
  decide

end Settings
end MakeLauncher
