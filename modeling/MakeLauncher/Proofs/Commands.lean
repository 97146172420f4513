import MakeLauncher.Invocation
import Mathlib.Data.List.Sort
import Mathlib.Data.String.Basic

/-! Invocations as they are made step by step, and the commands that the system gets of them. Each step
adds to the arguments or to the variables that are taken out and leaves the rest, so the steps count by
the two lists that they add up to. Of the variables the command keeps a set, in the order of their
bytes; an argument with a zero byte is no argument to the system, and a mark stands for it. Main
statement: what an invocation and its command hold, and that two rows of steps give one command just
when their arguments are the same to the system and they take out the same variables. -/

namespace MakeLauncher

namespace Bytes

open String (utf8EncodeChar)

/-! ### The order of names and of their bytes -/

theorem ofNat_cons_lt_iff {m n : Nat} (hm : m < 256) (hn : n < 256) {rest rest' : Bytes} :
    UInt8.ofNat m :: rest < UInt8.ofNat n :: rest' ↔ m < n ∨ m = n ∧ rest < rest' := by
  rw [List.cons_lt_cons_iff, UInt8.lt_iff_toNat_lt, ← UInt8.toNat_inj, UInt8.toNat_ofNat',
    UInt8.toNat_ofNat', Nat.mod_eq_of_lt hm, Nat.mod_eq_of_lt hn]

/-- The forms of two characters are in the order of the characters, whatever stands behind them. -/
theorem utf8EncodeChar_append_lt {c d : Char} (h : c < d) (rest rest' : Bytes) :
    utf8EncodeChar c ++ rest < utf8EncodeChar d ++ rest' := by
  have hlt : c.val.toNat < d.val.toNat := h
  have hlast : d.val.toNat < 0x110000 := by
    rcases d.valid with hlow | hhigh
    · exact hlow.trans (by decide)
    · exact hhigh.2
  have hdigits : ∀ n, n / 4096 = n / 64 / 64 ∧ n / 262144 = n / 64 / 64 / 64 := by
    intro n
    rw [Nat.div_div_eq_div_mul, Nat.div_div_eq_div_mul]
    exact ⟨rfl, rfl⟩
  unfold utf8EncodeChar
  generalize c.val.toNat = m at hlt ⊢
  generalize d.val.toNat = n at hlt hlast ⊢
  dsimp only
  simp only [hdigits]
  split_ifs <;>
    simp (disch := omega) only [List.cons_append, List.nil_append, ofNat_cons_lt_iff] <;> omega

theorem utf8EncodeChar_ne_nil (c : Char) : utf8EncodeChar c ≠ [] := by
  unfold utf8EncodeChar
  dsimp only
  split_ifs <;> exact List.cons_ne_nil _ _

theorem ofChars_lt {chars chars' : List Char} (h : chars < chars') :
    ofChars chars < ofChars chars' := by
  induction h with
  | @nil c rest =>
      obtain ⟨b, more, hform⟩ := List.exists_cons_of_ne_nil (utf8EncodeChar_ne_nil c)
      rw [ofChars, ofChars, List.flatMap_cons, hform]
      exact List.nil_lt_cons _ _
  | cons _ ih => exact List.append_left_lt ih
  | rel hlt => exact utf8EncodeChar_append_lt hlt _ _

theorem ofText_lt {text text' : String} (h : text < text') : ofText text < ofText text' :=
  ofChars_lt h

end Bytes

/-! ### Names in order -/

theorem mem_insertName {name other : String} {names : List String} :
    other ∈ insertName name names ↔ other = name ∨ other ∈ names := by
  induction names with
  | nil => simp [insertName]
  | cons first rest ih =>
      unfold insertName
      split_ifs with hlt heq
      · rw [List.mem_cons]
      · subst heq
        simp
      · rw [List.mem_cons, ih, List.mem_cons, or_left_comm]

theorem pairwise_insertName {names : List String} (h : names.Pairwise (· < ·)) (name : String) :
    (insertName name names).Pairwise (· < ·) := by
  induction names with
  | nil => exact List.pairwise_singleton _ _
  | cons first rest ih =>
      obtain ⟨hfirst, hrest⟩ := List.pairwise_cons.mp h
      unfold insertName
      split_ifs with hlt heq
      · refine List.pairwise_cons.mpr ⟨?_, h⟩
        intro other hother
        rcases List.mem_cons.mp hother with rfl | hother
        · exact hlt
        · exact hlt.trans (hfirst other hother)
      · exact h
      · refine List.pairwise_cons.mpr ⟨?_, ih hrest⟩
        intro other hother
        rcases mem_insertName.mp hother with rfl | hother
        · exact lt_of_le_of_ne (not_lt.mp hlt) (Ne.symm heq)
        · exact hfirst other hother

theorem mem_sortNames {name : String} {names : List String} :
    name ∈ sortNames names ↔ name ∈ names := by
  induction names with
  | nil => rfl
  | cons first rest ih =>
      show name ∈ insertName first (sortNames rest) ↔ _
      rw [mem_insertName, ih, List.mem_cons]

theorem pairwise_sortNames (names : List String) : (sortNames names).Pairwise (· < ·) := by
  induction names with
  | nil => exact .nil
  | cons first rest ih => exact pairwise_insertName ih first

theorem sortNames_eq_iff {names names' : List String} :
    sortNames names = sortNames names' ↔ ∀ name, name ∈ names ↔ name ∈ names' := by
  constructor
  · intro h name
    rw [← mem_sortNames, h, mem_sortNames]
  · intro h
    apply List.Pairwise.eq_of_mem_iff (pairwise_sortNames names) (pairwise_sortNames names')
    intro name
    rw [mem_sortNames, mem_sortNames, h name]

/-! ### Zero bytes -/

theorem maskZero_eq (bytes : Bytes) : maskZero bytes = if 0 ∈ bytes then zeroMark else bytes := by
  simp [maskZero]

theorem zero_notMem_maskZero (bytes : Bytes) : 0 ∉ maskZero bytes := by
  rw [maskZero_eq]
  split_ifs with h
  · decide
  · exact h

theorem maskZero_eq_self_iff {bytes : Bytes} : maskZero bytes = bytes ↔ 0 ∉ bytes := by
  constructor
  · intro h
    rw [← h]
    exact zero_notMem_maskZero bytes
  · intro h
    rw [maskZero_eq, if_neg h]

theorem map_maskZero_eq_self_iff {arguments : List Bytes} :
    arguments.map maskZero = arguments ↔ ∀ argument ∈ arguments, 0 ∉ argument := by
  have hleft : arguments.map maskZero = arguments.map id ↔
      ∀ argument ∈ arguments, maskZero argument = argument := List.map_inj_left
  rw [List.map_id] at hleft
  rw [hleft]
  apply forall₂_congr
  intro argument _
  exact maskZero_eq_self_iff

namespace Invocation

/-! ### Steps -/

def Step.added : Step → List Bytes
  | .argument given => [given]
  | .arguments given => given
  | .clearing _ => []

def Step.taken : Step → List String
  | .clearing name => [name]
  | _ => []

def ofSteps (program : Bytes) (steps : List Step) : Invocation := steps.foldl step { program }

/-- The invocation with more at the ends of its two lists. -/
def extend (invocation : Invocation) (arguments : List Bytes) (names : List String) : Invocation :=
  { invocation with
    arguments := invocation.arguments ++ arguments
    cleared := invocation.cleared ++ names }

theorem step_eq_extend (invocation : Invocation) (s : Step) :
    invocation.step s = invocation.extend s.added s.taken := by
  cases s with
  | argument given => simp [step, withArgument, extend, Step.added, Step.taken]
  | arguments given => simp [step, withArguments, extend, Step.added, Step.taken]
  | clearing name => simp [step, clearing, extend, Step.added, Step.taken]

theorem Step.added_eq_nil_or_taken_eq_nil (s : Step) : s.added = [] ∨ s.taken = [] := by
  cases s with
  | argument _ => exact .inr rfl
  | arguments _ => exact .inr rfl
  | clearing _ => exact .inl rfl

theorem foldl_step_eq_extend (invocation : Invocation) (steps : List Step) :
    steps.foldl step invocation =
      invocation.extend (steps.flatMap Step.added) (steps.flatMap Step.taken) := by
  induction steps generalizing invocation with
  | nil => simp [extend]
  | cons s steps ih =>
      rw [List.foldl_cons, ih, step_eq_extend]
      simp [extend]

theorem ofSteps_eq (program : Bytes) (steps : List Step) :
    ofSteps program steps = ⟨program, steps.flatMap Step.added, steps.flatMap Step.taken⟩ := by
  rw [ofSteps, foldl_step_eq_extend]
  rfl

theorem command_ofSteps_eq (program : Bytes) (steps : List Step) :
    (ofSteps program steps).command =
      ⟨maskZero program, (steps.flatMap Step.added).map maskZero,
        sortNames (steps.flatMap Step.taken)⟩ := by
  rw [ofSteps_eq]
  rfl

theorem command_ofSteps_eq_iff (program : Bytes) (steps others : List Step) :
    (ofSteps program steps).command = (ofSteps program others).command ↔
      (steps.flatMap Step.added).map maskZero = (others.flatMap Step.added).map maskZero ∧
        ∀ name, name ∈ steps.flatMap Step.taken ↔ name ∈ others.flatMap Step.taken := by
  rw [command_ofSteps_eq, command_ofSteps_eq, Command.mk.injEq, sortNames_eq_iff]
  exact and_iff_right rfl

/-- What steps make of a program, whatever their number and order. The invocation holds the program,
all arguments and all names; no step adds to both lists. The command takes out just these names, each
once, in the order of their bytes, and holds the same program and arguments unless one has a zero byte,
which only the mark can stand for. Other steps give the same command just when their arguments are the
same to the system and their names are the same. -/
theorem invocation_and_command_of_steps (program : Bytes) (steps : List Step) :
    ofSteps program steps = ⟨program, steps.flatMap Step.added, steps.flatMap Step.taken⟩ ∧
    (∀ (invocation : Invocation) (s : Step),
      invocation.step s = invocation.extend s.added s.taken ∧ (s.added = [] ∨ s.taken = [])) ∧
    ((ofSteps program steps).command.program = if 0 ∈ program then zeroMark else program) ∧
    ((ofSteps program steps).command.arguments =
      (steps.flatMap Step.added).map fun given => if 0 ∈ given then zeroMark else given) ∧
    ((ofSteps program steps).command.arguments = steps.flatMap Step.added ↔
      ∀ given ∈ steps.flatMap Step.added, 0 ∉ given) ∧
    (∀ name, name ∈ (ofSteps program steps).command.cleared ↔ name ∈ steps.flatMap Step.taken) ∧
    ((ofSteps program steps).command.cleared.map Bytes.ofText).Pairwise (· < ·) ∧
    ∀ others : List Step,
      (ofSteps program steps).command = (ofSteps program others).command ↔
        (steps.flatMap Step.added).map maskZero = (others.flatMap Step.added).map maskZero ∧
          ∀ name, name ∈ steps.flatMap Step.taken ↔ name ∈ others.flatMap Step.taken := by
  have hmask : maskZero = fun given => if 0 ∈ given then zeroMark else given :=
    funext maskZero_eq
  refine ⟨ofSteps_eq program steps, ?extension, ?program, ?arguments, ?same, ?names, ?ordered, ?others⟩
  case extension =>
    intro invocation s
    exact ⟨step_eq_extend invocation s, s.added_eq_nil_or_taken_eq_nil⟩
  case others => exact command_ofSteps_eq_iff program steps
  all_goals rw [command_ofSteps_eq]
  case program => exact maskZero_eq program
  case arguments => rw [hmask]
  case same => exact map_maskZero_eq_self_iff
  case names =>
    intro name
    exact mem_sortNames
  case ordered =>
    apply List.Pairwise.map
    · intro name other hlt
      exact Bytes.ofText_lt hlt
    · exact pairwise_sortNames _

/-- A zero byte in the argument is not in the command. -/
theorem command_arguments_ne_of_zero :
    (ofSteps "make" [.argument [97, 0, 98]]).arguments = [[97, 0, 98]] ∧
      (ofSteps "make" [.argument [97, 0, 98]]).command.arguments = ["<string-with-nul>"] ∧
      (ofSteps "make" [.argument [97, 0, 98]]).command.arguments ≠
        (ofSteps "make" [.argument [97, 0, 98]]).arguments := by
  decide

end Invocation
end MakeLauncher
