import MakeLauncher.Proofs.Assignment
import MakeLauncher.Proofs.Classification

/-! Arguments written out from what they are. A switch is written with a digit, and everything else as
the bytes that it holds. Not every list of arguments can be read out of bytes: a path stands behind a
flag and nowhere else, a flag that is not the last argument has a path behind it, and an argument that is
taken for nothing else must not look like anything else. Main statement: these are the only conditions,
and under them what is written reads back. -/

namespace MakeLauncher

namespace Assignment

def name : Assignment → String
  | .log _ => "NDK_LOG"
  | .analyze _ => "NDK_ANALYZE"
  | .analyzerOut _ => "NDK_ANALYZER_OUT"
  | .appAbi _ => "APP_ABI"

def value : Assignment → String
  | .log on => Event.digit on
  | .analyze on => Event.digit on
  | .analyzerOut path => path
  | .appAbi abi => abi

def write (a : Assignment) : Bytes := Bytes.ofText (a.name ++ "=" ++ a.value)

theorem isOn_digit (on : Bool) : isOn (Event.digit on) = on := by
  cases on <;> rfl

theorem name_mem_names (a : Assignment) : a.name ∈ names := by
  cases a <;> simp [name, names]

theorem equals_notMem_name (a : Assignment) : equals ∉ Bytes.ofText a.name := by
  have hplain : ∀ name ∈ names, equals ∉ Bytes.ofText name := by decide
  exact hplain a.name a.name_mem_names

theorem ofKey?_name_value (a : Assignment) : ofKey? a.name a.value = some a := by
  cases a with
  | log on => simp [ofKey?, name, value, isOn_digit]
  | analyze on => simp [ofKey?, name, value, isOn_digit]
  | analyzerOut path => simp [ofKey?, name, value]
  | appAbi abi => simp [ofKey?, name, value]

theorem ofBytes?_write (a : Assignment) : ofBytes? a.write = some a := by
  rw [write, Bytes.ofText_append, ofBytes?_ofText_append rfl a.equals_notMem_name,
    Bytes.shown_ofText, ofKey?_name_value]

end Assignment

namespace Argument

def write : Argument → Bytes
  | .projectFlag => flag
  | .projectPath path => path
  | .assignment a => a.write
  | .other bytes => bytes

/-- Bytes that are taken for nothing but themselves. -/
def Plain (bytes : Bytes) : Prop := bytes ≠ flag ∧ Assignment.ofBytes? bytes = none

/-- A list that arguments can have been read as. -/
structure WellFormed (kinds : List Argument) : Prop where
  /-- A path comes immediately behind a flag. -/
  path_behind_flag : ∀ before path after, kinds = before ++ .projectPath path :: after →
    before.getLast? = some .projectFlag
  /-- A flag is the last argument, or a path comes immediately behind it. -/
  flag_before_path : ∀ before after, kinds = before ++ .projectFlag :: after →
    after = [] ∨ ∃ path rest, after = .projectPath path :: rest
  other_plain : ∀ bytes, .other bytes ∈ kinds → Plain bytes

variable {kinds : List Argument} {kind : Argument}

/-! ### One argument -/

theorem write_ofBytes {argument : Bytes} (h : ∀ a, ofBytes argument ≠ .assignment a) :
    (ofBytes argument).write = argument := by
  cases hkind : ofBytes argument with
  | projectFlag => exact ((ofBytes_eq_projectFlag_iff argument).mp hkind).symm
  | projectPath path => exact absurd hkind (ofBytes_ne_projectPath argument path)
  | assignment a => exact absurd hkind (h a)
  | other bytes => exact ((ofBytes_eq_other_iff argument bytes).mp hkind).2.2

/-- An argument that is no path reads back by itself, if it is plain where it has to be. -/
theorem ofBytes_write (hpath : ∀ path, kind ≠ .projectPath path)
    (hother : ∀ bytes, kind = .other bytes → Plain bytes) : ofBytes kind.write = kind := by
  cases kind with
  | projectFlag => exact (ofBytes_eq_projectFlag_iff flag).mpr rfl
  | projectPath path => exact absurd rfl (hpath path)
  | assignment a => exact (ofBytes_eq_assignment_iff a.write a).mpr (Assignment.ofBytes?_write a)
  | other bytes =>
      obtain ⟨hflag, hassignment⟩ := hother bytes rfl
      exact (ofBytes_eq_other_iff bytes bytes).mpr ⟨hflag, hassignment, rfl⟩

/-! ### One more argument -/

/-- A place in a list with one more at its end is the end, or a place of the list before. -/
theorem append_singleton_eq_append_cons {α : Type} {xs before after : List α} {x y : α}
    (h : xs ++ [x] = before ++ y :: after) :
    (xs = before ∧ x = y ∧ after = []) ∨
      ∃ rest, after = rest ++ [x] ∧ xs = before ++ y :: rest := by
  rcases List.eq_nil_or_concat after with rfl | ⟨rest, last, rfl⟩
  · obtain ⟨hbefore, hlast⟩ := List.append_inj' h rfl
    exact .inl ⟨hbefore, List.head_eq_of_cons_eq hlast, rfl⟩
  · rw [List.concat_eq_append, ← List.cons_append, ← List.append_assoc] at h
    obtain ⟨hbefore, hlast⟩ := List.append_inj' h rfl
    cases hlast
    exact .inr ⟨rest, List.concat_eq_append, hbefore⟩

/-- A list that is well-formed without its last argument too has a path at its end just when the others
end in a flag. -/
theorem WellFormed.of_append_singleton (h : WellFormed (kinds ++ [kind])) :
    WellFormed kinds ∧ ((∃ path, kind = .projectPath path) ↔ kinds.getLast? = some .projectFlag) := by
  refine ⟨⟨?_, ?_, ?_⟩, ?_, ?_⟩
  · intro before path after hkinds
    exact h.path_behind_flag before path (after ++ [kind]) (by simp [hkinds])
  · intro before after hkinds
    rcases h.flag_before_path before (after ++ [kind]) (by simp [hkinds]) with
      hnil | ⟨path, rest, hrest⟩
    · simp at hnil
    · cases after with
      | nil => exact .inl rfl
      | cons first after =>
          obtain ⟨rfl, -⟩ := List.cons.inj hrest
          exact .inr ⟨path, after, rfl⟩
  · intro bytes hmem
    exact h.other_plain bytes (List.mem_append_left _ hmem)
  · rintro ⟨path, rfl⟩
    exact h.path_behind_flag kinds path [] rfl
  · intro hlast
    obtain ⟨before, rfl⟩ := List.getLast?_eq_some_iff.mp hlast
    rcases h.flag_before_path before [kind] (by simp) with hnil | ⟨path, rest, hrest⟩
    · cases hnil
    · exact ⟨path, List.head_eq_of_cons_eq hrest⟩

/-- One more argument can stand behind others when it is a path just where they end in a flag, and when
it is plain if nothing else tells what it is. -/
theorem WellFormed.append_singleton (h : WellFormed kinds)
    (hpath : (∃ path, kind = .projectPath path) ↔ kinds.getLast? = some .projectFlag)
    (hother : ∀ bytes, kind = .other bytes → Plain bytes) : WellFormed (kinds ++ [kind]) := by
  refine ⟨?_, ?_, ?_⟩
  · intro before path after hkinds
    rcases append_singleton_eq_append_cons hkinds with ⟨rfl, hlast, -⟩ | ⟨rest, -, hrest⟩
    · exact hpath.mp ⟨path, hlast⟩
    · exact h.path_behind_flag before path rest hrest
  · intro before after hkinds
    rcases append_singleton_eq_append_cons hkinds with ⟨-, -, hnil⟩ | ⟨rest, rfl, hrest⟩
    · exact .inl hnil
    · refine .inr ?_
      rcases h.flag_before_path before rest hrest with rfl | ⟨path, later, rfl⟩
      · obtain ⟨path, rfl⟩ := hpath.mpr (by rw [hrest, List.getLast?_concat])
        exact ⟨path, [], rfl⟩
      · exact ⟨path, later ++ [kind], rfl⟩
  · intro bytes hmem
    rcases List.mem_append.mp hmem with hmem | hmem
    · exact h.other_plain bytes hmem
    · exact hother bytes (List.mem_singleton.mp hmem).symm

theorem wellFormed_nil : WellFormed [] := by
  refine ⟨?_, ?_, ?_⟩
  · intro before path after hnil
    simp at hnil
  · intro before after hnil
    simp at hnil
  · intro bytes hmem
    cases hmem

/-! ### Reading and writing -/

theorem wellFormed_classify (arguments : List Bytes) : WellFormed (classify arguments) := by
  induction arguments using List.reverseRecOn with
  | nil => exact wellFormed_nil
  | append_singleton arguments argument ih =>
      rw [classify_append_singleton]
      apply ih.append_singleton
      · rw [getLast?_classify_eq_projectFlag_iff]
        by_cases hopen : EndsOpen arguments
        · simp [hopen]
        · simp [hopen, ofBytes_ne_projectPath]
      · intro bytes hkind
        split at hkind
        · cases hkind
        · obtain ⟨hflag, hassignment, rfl⟩ := (ofBytes_eq_other_iff argument bytes).mp hkind
          exact ⟨hflag, hassignment⟩

theorem classify_map_write (h : WellFormed kinds) : classify (kinds.map write) = kinds := by
  induction kinds using List.reverseRecOn with
  | nil => rfl
  | append_singleton kinds kind ih =>
      obtain ⟨hkinds, hpath⟩ := h.of_append_singleton
      have hread := ih hkinds
      rw [List.map_append, List.map_singleton, classify_append_singleton, hread]
      congr 2
      by_cases hlast : kinds.getLast? = some .projectFlag
      · obtain ⟨path, rfl⟩ := hpath.mpr hlast
        have hopen : EndsOpen (kinds.map write) := by
          rwa [← getLast?_classify_eq_projectFlag_iff, hread]
        rw [if_pos hopen]
        rfl
      · have hopen : ¬EndsOpen (kinds.map write) := by
          rwa [← getLast?_classify_eq_projectFlag_iff, hread]
        rw [if_neg hopen]
        apply ofBytes_write
        · intro path hkind
          exact hlast (hpath.mp ⟨path, hkind⟩)
        · rintro bytes rfl
          exact h.other_plain bytes (List.mem_append_right _ (List.mem_singleton_self _))

instance : DecidablePred WellFormed := fun kinds =>
  decidable_of_iff (classify (kinds.map write) = kinds)
    ⟨fun hread => hread ▸ wellFormed_classify _, classify_map_write⟩

/-- An argument that is read as anything but an assignment is written as it was, at its place. -/
theorem getElem?_map_write_classify {arguments : List Bytes} {place : Nat} {argument : Bytes}
    (hargument : arguments[place]? = some argument)
    (hkind : (classify arguments)[place]? = some kind) (hne : ∀ a, kind ≠ .assignment a) :
    ((classify arguments).map write)[place]? = some argument := by
  have hread := getElem?_classify arguments place
  rw [hkind, hargument, Option.map_some, Option.some_inj] at hread
  rw [List.getElem?_map, hkind, Option.map_some, Option.some_inj]
  by_cases hpath : IsPathPlace arguments place
  · rw [if_pos hpath] at hread
    rw [hread]
    rfl
  · rw [if_neg hpath] at hread
    rw [hread]
    apply write_ofBytes
    intro a ha
    exact hne a (hread.trans ha)

/-- The lists that arguments are read as are the well-formed ones. A list of arguments is written again
with every argument in its place that is no assignment, and a well-formed list reads back. -/
theorem wellFormed_iff_exists_classify :
    (∀ arguments : List Bytes,
      WellFormed (classify arguments) ∧ (classify arguments).length = arguments.length ∧
      ∀ (place : Nat) (argument : Bytes) (kind : Argument), arguments[place]? = some argument →
        (classify arguments)[place]? = some kind → (∀ a, kind ≠ .assignment a) →
          ((classify arguments).map write)[place]? = some argument) ∧
    (∀ kinds, WellFormed kinds → classify (kinds.map write) = kinds) ∧
    ∀ kinds, WellFormed kinds ↔ ∃ arguments, classify arguments = kinds := by
  refine ⟨?_, ?_, ?_⟩
  · intro arguments
    refine ⟨wellFormed_classify arguments, length_classify arguments, ?_⟩
    intro place argument kind hargument hkind hne
    exact getElem?_map_write_classify hargument hkind hne
  · intro kinds h
    exact classify_map_write h
  · intro kinds
    constructor
    · intro h
      exact ⟨kinds.map write, classify_map_write h⟩
    · rintro ⟨arguments, rfl⟩
      exact wellFormed_classify arguments

/-- Arguments of every kind, among them paths that look like a flag and like an assignment. -/
def everyKind : List Argument :=
  [.assignment (.log false), .projectFlag, .projectPath "NDK_LOG=1", .assignment (.appAbi "a=\uFFFD"),
    .other [0xFF, 0x3D], .projectFlag, .projectPath flag, .other "NDK_LOG", .projectFlag]

theorem wellFormed_iff_exists_classify_of_everyKind :
    WellFormed everyKind ∧ classify (everyKind.map write) = everyKind ∧
    flagRuns[3]? = some (Bytes.ofText "NDK_LOG=1") ∧
    (classify flagRuns)[3]? = some (.projectPath "NDK_LOG=1") ∧
    ((classify flagRuns).map write)[3]? = some (Bytes.ofText "NDK_LOG=1") := by
  have hformed : WellFormed everyKind := by decide
  have hargument : flagRuns[3]? = some (Bytes.ofText "NDK_LOG=1") := rfl
  have hkind : (classify flagRuns)[3]? = some (.projectPath "NDK_LOG=1") := by decide
  obtain ⟨hread, hback, -⟩ := wellFormed_iff_exists_classify
  obtain ⟨-, -, hwritten⟩ := hread flagRuns
  exact ⟨hformed, hback everyKind hformed, hargument, hkind,
    hwritten 3 _ _ hargument hkind fun _ => nofun⟩

example : ¬WellFormed [.projectFlag, .other "app"] ∧ ¬WellFormed [.other "app", .projectPath "app"] ∧
    ¬WellFormed [.other "APP_ABI=x86"] := by decide

end Argument
end MakeLauncher
