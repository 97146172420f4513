import MakeLauncher.Event
import MakeLauncher.Proofs.Settings

/-! What the argument at a place is. The reader comes to a place with one bit from all the arguments
before it, and the bit is the parity of the run of flags right before the place; so the rule is a local
one. The settings keep a bit of their own while they are drawn from the arguments that have been read,
and it is the same. Main statement: what each argument is, by the run of flags before it and by itself,
and that a list ends in a flag without a path just when the run at its end is odd. -/

namespace MakeLauncher.Argument

/-! ### One argument -/

theorem ofBytes_ne_projectPath (argument path : Bytes) : ofBytes argument ≠ .projectPath path := by
  intro h
  have hpath := path?_ofBytes argument
  rw [h] at hpath
  cases hpath

theorem ofBytes_eq_projectFlag_iff (argument : Bytes) :
    ofBytes argument = .projectFlag ↔ argument = flag := by
  unfold ofBytes
  split
  · simp_all
  · cases Assignment.ofBytes? argument <;> simp_all

theorem ofBytes_eq_assignment_iff (argument : Bytes) (a : Assignment) :
    ofBytes argument = .assignment a ↔ Assignment.ofBytes? argument = some a := by
  rw [← assignment?_ofBytes]
  cases ofBytes argument <;> simp [assignment?]

theorem ofBytes_eq_other_iff (argument bytes : Bytes) :
    ofBytes argument = .other bytes ↔
      argument ≠ flag ∧ Assignment.ofBytes? argument = none ∧ bytes = argument := by
  unfold ofBytes
  split
  · simp_all
  · cases Assignment.ofBytes? argument <;> simp_all [eq_comm]

/-! ### The argument at a place -/

theorem head?_classifyFrom (awaited : Bool) (arguments : List Bytes) :
    (classifyFrom awaited arguments).head? =
      arguments.head?.map fun argument =>
        if awaited then .projectPath argument else ofBytes argument := by
  cases arguments with
  | nil => cases awaited <;> rfl
  | cons argument rest => cases awaited <;> rfl

/-- The argument at a place is a path when the run of flags before the place is odd, and otherwise it is
what it is by itself. -/
theorem getElem?_classify (arguments : List Bytes) (place : Nat) :
    (classify arguments)[place]? =
      arguments[place]?.map fun argument =>
        if IsPathPlace arguments place then .projectPath argument else ofBytes argument := by
  by_cases hplace : place ≤ arguments.length
  · have hbefore : (classify (arguments.take place)).length = place := by
      rw [length_classify, List.length_take_of_le hplace]
    calc (classify arguments)[place]?
        = (classify (arguments.take place ++ arguments.drop place))[place]? := by
          rw [List.take_append_drop]
      _ = (classifyFrom (decide (EndsOpen (arguments.take place)))
            (arguments.drop place)).head? := by
          rw [classify_append, List.getElem?_append_right hbefore.le, hbefore, Nat.sub_self,
            List.head?_eq_getElem?]
      _ = _ := by
          rw [head?_classifyFrom, List.head?_drop]
          simp only [decide_eq_true_eq]
          rfl
  · have hbehind : arguments.length ≤ place := Nat.le_of_not_le hplace
    rw [List.getElem?_eq_none hbehind, List.getElem?_eq_none (by rwa [length_classify])]
    rfl

/-! ### The last argument -/

theorem getLast?_classify_eq_projectFlag_iff (arguments : List Bytes) :
    (classify arguments).getLast? = some .projectFlag ↔ EndsOpen arguments := by
  induction arguments using List.reverseRecOn with
  | nil => simp [classify, classifyFrom]
  | append_singleton arguments argument _ =>
      rw [classify_append_singleton, List.getLast?_append_of_ne_nil _ (List.cons_ne_nil _ _),
        List.getLast?_singleton, Option.some_inj, endsOpen_append_singleton]
      by_cases hopen : EndsOpen arguments
      · simp [hopen]
      · simp only [hopen, if_false, not_false_eq_true, true_and]
        exact ofBytes_eq_projectFlag_iff argument

theorem ofArguments_classify (arguments : List Bytes) :
    Event.ofArguments (classify arguments) =
      if EndsOpen arguments then [.danglingFlag] else [] := by
  rw [Event.ofArguments, awaitsPath_classify]
  simp only [decide_eq_true_eq]

/-- Every argument is told from itself and from the parity of the run of flags before it. A list whose
last run of flags is odd is one that is read as ending in a flag, and it is one that leaves a flag to
the settings, when there was none before, together with a warning. -/
theorem classify_by_parity (arguments : List Bytes) :
    (∀ place argument, arguments[place]? = some argument →
      ∃ kind, (classify arguments)[place]? = some kind ∧
        (∀ path, kind = .projectPath path ↔
          Odd (trailingFlags (arguments.take place)) ∧ path = argument) ∧
        (kind = .projectFlag ↔
          ¬Odd (trailingFlags (arguments.take place)) ∧ argument = flag) ∧
        (∀ a, kind = .assignment a ↔
          ¬Odd (trailingFlags (arguments.take place)) ∧ Assignment.ofBytes? argument = some a) ∧
        (∀ bytes, kind = .other bytes ↔
          ¬Odd (trailingFlags (arguments.take place)) ∧ argument ≠ flag ∧
            Assignment.ofBytes? argument = none ∧ bytes = argument)) ∧
    ((classify arguments).getLast? = some .projectFlag ↔ Odd (trailingFlags arguments)) ∧
    ∀ settings : Settings, settings.danglingFlag = false →
      (settings.applyAll (classify arguments)).danglingFlag =
        decide (Odd (trailingFlags arguments)) ∧
      Event.ofArguments (classify arguments) =
        if Odd (trailingFlags arguments) then [.danglingFlag] else [] := by
  refine ⟨fun place argument hargument => ?_, getLast?_classify_eq_projectFlag_iff arguments,
    fun settings hsettings => ⟨?_, ofArguments_classify arguments⟩⟩
  · have hkind := getElem?_classify arguments place
    rw [hargument, Option.map_some] at hkind
    refine ⟨_, hkind, ?_⟩
    by_cases hpath : IsPathPlace arguments place
    · have hodd : Odd (trailingFlags (arguments.take place)) := hpath
      simp only [hpath, if_true, hodd, not_true_eq_false, false_and, true_and, reduceCtorEq,
        Argument.projectPath.injEq, iff_self, implies_true, and_true]
      exact fun path => eq_comm
    · have heven : ¬Odd (trailingFlags (arguments.take place)) := hpath
      simp only [hpath, if_false, heven, not_false_eq_true, false_and, true_and, iff_false]
      exact ⟨ofBytes_ne_projectPath argument, ofBytes_eq_projectFlag_iff argument,
        ofBytes_eq_assignment_iff argument, ofBytes_eq_other_iff argument⟩
  · have hdangling := Settings.danglingFlag_withArguments settings arguments
    rwa [hsettings, Bool.false_or] at hdangling

/-- Arguments whose flags take one another and an assignment as their paths. -/
def flagRuns : List Bytes := [flag, flag, flag, "NDK_LOG=1", "NDK_LOG=1", flag, flag, flag]

theorem classify_by_parity_of_flagRuns :
    flagRuns[3]? = some (Bytes.ofText "NDK_LOG=1") ∧
    (classify flagRuns)[3]? = some (.projectPath "NDK_LOG=1") ∧
    ({} : Settings).danglingFlag = false ∧
    (({} : Settings).applyAll (classify flagRuns)).danglingFlag = true ∧
    Event.ofArguments (classify flagRuns) = [.danglingFlag] := by
  have hargument : flagRuns[3]? = some (Bytes.ofText "NDK_LOG=1") := rfl
  have hnone : ({} : Settings).danglingFlag = false := rfl
  obtain ⟨hkinds, -, hends⟩ := classify_by_parity flagRuns
  obtain ⟨kind, hkind, hpath, -⟩ := hkinds 3 _ hargument
  obtain ⟨hdangling, hwarning⟩ := hends {} hnone
  have hodd : Odd (trailingFlags (flagRuns.take 3)) := by decide
  rw [(hpath _).mpr ⟨hodd, rfl⟩] at hkind
  exact ⟨hargument, hkind, hnone, hdangling.trans (by decide), hwarning.trans (by decide)⟩

end MakeLauncher.Argument
