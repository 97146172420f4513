import MakeLauncher.Argument
import Mathlib.Algebra.Ring.Parity
import Mathlib.Data.List.DropRight

/-! Which arguments are the paths of flags. The reader of arguments remembers one bit; the bit is the
parity of the run of flags that stands right before the place it has come to. So what an argument is
can be told from the argument and from that run alone, and a list that is cut in two reads as its two
parts when the first one leaves no flag open. -/

namespace MakeLauncher.Argument

/-- The number of flags that stand together at the end of arguments. -/
def trailingFlags (arguments : List Bytes) : Nat :=
  (arguments.rtakeWhile (· = flag)).length

/-- Arguments that end in a run of flags of odd length. The last flag of the run has no path yet. -/
def EndsOpen (arguments : List Bytes) : Prop := Odd (trailingFlags arguments)

instance (arguments : List Bytes) : Decidable (EndsOpen arguments) :=
  inferInstanceAs (Decidable (Odd _))

/-- The places whose argument is the path of a flag, whatever the argument is. -/
def IsPathPlace (arguments : List Bytes) (place : Nat) : Prop := EndsOpen (arguments.take place)

instance (arguments : List Bytes) (place : Nat) : Decidable (IsPathPlace arguments place) :=
  inferInstanceAs (Decidable (EndsOpen _))

def free (arguments : List Bytes) : List Bytes :=
  (arguments.zipIdx.filter fun entry => ¬IsPathPlace arguments entry.2).map Prod.fst

/-- The arguments that are the paths of flags, in order. -/
def paths (arguments : List Bytes) : List Bytes :=
  (arguments.zipIdx.filter fun entry => IsPathPlace arguments entry.2).map Prod.fst

theorem trailingFlags_append_flag (arguments : List Bytes) :
    trailingFlags (arguments ++ [flag]) = trailingFlags arguments + 1 := by
  simp [trailingFlags]

theorem trailingFlags_append_of_ne (arguments : List Bytes) {argument : Bytes}
    (h : argument ≠ flag) : trailingFlags (arguments ++ [argument]) = 0 := by
  simp [trailingFlags, h]

@[simp] theorem not_endsOpen_nil : ¬EndsOpen [] := by decide

/-- A flag is left open by an argument that is the flag and not itself a path. -/
theorem endsOpen_append_singleton (arguments : List Bytes) (argument : Bytes) :
    EndsOpen (arguments ++ [argument]) ↔ ¬EndsOpen arguments ∧ argument = flag := by
  unfold EndsOpen
  by_cases h : argument = flag
  · subst h
    rw [trailingFlags_append_flag, Nat.odd_add_one]
    simp
  · rw [trailingFlags_append_of_ne arguments h]
    simp [h]

/-! ### The bit that the reader remembers -/

/-- Whether a path is awaited behind arguments, when one was before them or was not. -/
def awaitsBehind (awaited : Bool) (arguments : List Bytes) : Bool :=
  arguments.foldl (fun awaited argument => !awaited && argument = flag) awaited

theorem awaitsBehind_false (arguments : List Bytes) :
    awaitsBehind false arguments = decide (EndsOpen arguments) := by
  induction arguments using List.reverseRecOn with
  | nil => simp [awaitsBehind]
  | append_singleton arguments argument ih =>
      unfold awaitsBehind at ih ⊢
      rw [List.foldl_append, ih, List.foldl_cons, List.foldl_nil]
      simp only [endsOpen_append_singleton, Bool.decide_and, decide_not]

theorem classifyFrom_append (awaited : Bool) (arguments rest : List Bytes) :
    classifyFrom awaited (arguments ++ rest) =
      classifyFrom awaited arguments ++ classifyFrom (awaitsBehind awaited arguments) rest := by
  induction arguments generalizing awaited with
  | nil => cases awaited <;> rfl
  | cons argument arguments ih =>
      cases awaited with
      | true => exact congrArg (_ :: ·) (ih false)
      | false => exact congrArg (_ :: ·) (ih _)

/-- The second part of a list reads as it would alone, unless a flag is open before it. -/
theorem classify_append (arguments rest : List Bytes) :
    classify (arguments ++ rest) =
      classify arguments ++ classifyFrom (decide (EndsOpen arguments)) rest := by
  rw [classify, classifyFrom_append, awaitsBehind_false, classify]

theorem classify_append_singleton (arguments : List Bytes) (argument : Bytes) :
    classify (arguments ++ [argument]) =
      classify arguments ++
        [if EndsOpen arguments then .projectPath argument else ofBytes argument] := by
  rw [classify_append]
  by_cases h : EndsOpen arguments <;> simp [h, classifyFrom]

theorem awaitsPath_classify (arguments : List Bytes) :
    awaitsPath (classify arguments) = decide (EndsOpen arguments) := by
  induction arguments using List.reverseRecOn with
  | nil => rfl
  | append_singleton arguments argument ih =>
      unfold awaitsPath awaitsFrom at ih ⊢
      rw [classify_append_singleton, List.foldl_append, ih, List.foldl_cons, List.foldl_nil]
      simp only [endsOpen_append_singleton]
      by_cases hopen : EndsOpen arguments
      · simp [hopen]
      by_cases hflag : argument = flag
      · simp [hopen, hflag, ofBytes]
      · cases hassignment : Assignment.ofBytes? argument <;>
          simp [hopen, hflag, ofBytes, hassignment]

/-! ### Free arguments and paths -/

/-- The arguments that are paths of flags, or those that are not. -/
def sift (isPath : Bool) (arguments : List Bytes) : List Bytes :=
  (arguments.zipIdx.filter fun entry => decide (IsPathPlace arguments entry.2) = isPath).map
    Prod.fst

theorem free_eq_sift (arguments : List Bytes) : free arguments = sift false arguments := by
  simp only [free, sift, decide_eq_false_iff_not]

theorem paths_eq_sift (arguments : List Bytes) : paths arguments = sift true arguments := by
  simp only [paths, sift, decide_eq_true_eq]

/-- A place within arguments is a path place by what stands before it. -/
theorem isPathPlace_append_of_le {arguments : List Bytes} {place : Nat}
    (h : place ≤ arguments.length) (rest : List Bytes) :
    IsPathPlace (arguments ++ rest) place ↔ IsPathPlace arguments place := by
  unfold IsPathPlace
  rw [List.take_append_of_le_length h]

theorem sift_append_singleton (isPath : Bool) (arguments : List Bytes) (argument : Bytes) :
    sift isPath (arguments ++ [argument]) =
      sift isPath arguments ++
        if decide (EndsOpen arguments) = isPath then [argument] else [] := by
  have hold : (arguments.zipIdx.filter fun entry =>
        decide (IsPathPlace (arguments ++ [argument]) entry.2) = isPath) =
      arguments.zipIdx.filter fun entry =>
        decide (IsPathPlace arguments entry.2) = isPath := by
    apply List.filter_congr
    intro entry hentry
    have hlt := (List.mem_zipIdx' hentry).1
    simp only [isPathPlace_append_of_le (Nat.le_of_lt hlt)]
  have hlast : IsPathPlace (arguments ++ [argument]) arguments.length ↔ EndsOpen arguments := by
    rw [isPathPlace_append_of_le le_rfl, IsPathPlace, List.take_length]
  unfold sift
  rw [List.zipIdx_append, List.filter_append, List.map_append, hold]
  congr 1
  by_cases h : decide (EndsOpen arguments) = isPath <;> simp [hlast, h]

theorem free_append_singleton (arguments : List Bytes) (argument : Bytes) :
    free (arguments ++ [argument]) =
      free arguments ++ if EndsOpen arguments then [] else [argument] := by
  rw [free_eq_sift, free_eq_sift, sift_append_singleton]
  by_cases h : EndsOpen arguments <;> simp [h]

theorem paths_append_singleton (arguments : List Bytes) (argument : Bytes) :
    paths (arguments ++ [argument]) =
      paths arguments ++ if EndsOpen arguments then [argument] else [] := by
  rw [paths_eq_sift, paths_eq_sift, sift_append_singleton]
  by_cases h : EndsOpen arguments <;> simp [h]

def path? : Argument → Option Bytes
  | .projectPath path => some path
  | _ => none

theorem path?_ofBytes (argument : Bytes) : (ofBytes argument).path? = none := by
  unfold ofBytes
  split
  · rfl
  · cases Assignment.ofBytes? argument <;> rfl

theorem filterMap_path?_classify (arguments : List Bytes) :
    (classify arguments).filterMap path? = paths arguments := by
  induction arguments using List.reverseRecOn with
  | nil => rfl
  | append_singleton arguments argument ih =>
      rw [classify_append_singleton, paths_append_singleton, List.filterMap_append, ih]
      congr 1
      by_cases h : EndsOpen arguments
      · simp [h, path?]
      · simp [h, path?_ofBytes]

/-! ### Assignments -/

def assignment? : Argument → Option Assignment
  | .assignment a => some a
  | _ => none

theorem assignment?_ofBytes (argument : Bytes) :
    (ofBytes argument).assignment? = Assignment.ofBytes? argument := by
  have hflag : Assignment.ofBytes? flag = none := by decide
  unfold ofBytes
  split
  · rename_i h
    rw [h, hflag]
    rfl
  · cases Assignment.ofBytes? argument <;> rfl

theorem filterMap_assignment?_classify (arguments : List Bytes) :
    (classify arguments).filterMap assignment? =
      (free arguments).filterMap Assignment.ofBytes? := by
  induction arguments using List.reverseRecOn with
  | nil => rfl
  | append_singleton arguments argument ih =>
      rw [classify_append_singleton, free_append_singleton, List.filterMap_append,
        List.filterMap_append, ih]
      congr 1
      by_cases h : EndsOpen arguments
      · simp [h, assignment?]
      · simp [h, List.filterMap_cons, assignment?_ofBytes]

end MakeLauncher.Argument
