import MakeLauncher.Site
import Mathlib.Algebra.Group.Action.Defs
import Mathlib.Algebra.Order.BigOperators.Group.List
import Mathlib.Algebra.Order.Ring.Nat

/-! Paths as they are joined and split, and what a process sees of the files by them. An absolute path
means the same to every process; a relative one means what the directory of the process makes of it.
Main statements: what the home has to do with an entry of the search path, and when a path is a
program. -/

namespace MakeLauncher

namespace Bytes

/-! ### Joined paths -/

variable {base path : Bytes}

theorem join_of_isAbsolute (hpath : path.isAbsolute = true) : base.join path = path := by
  rw [join, if_pos hpath]

theorem join_cases (base path : Bytes) :
    (path.isAbsolute = true ∧ base.join path = path) ∨
    (path.isAbsolute = false ∧ base.join path = base ++ path) ∨
    (path.isAbsolute = false ∧ base ≠ [] ∧ base.join path = base ++ slash :: path) := by
  cases hpath : path.isAbsolute with
  | true => exact .inl ⟨rfl, join_of_isAbsolute hpath⟩
  | false =>
      refine .inr ?_
      rw [join, hpath, if_neg Bool.false_ne_true]
      split
      · exact .inl ⟨rfl, rfl⟩
      · rename_i hbase
        refine .inr ⟨rfl, ?_, rfl⟩
        rintro rfl
        exact hbase rfl

theorem isAbsolute_join (base path : Bytes) :
    (base.join path).isAbsolute = (path.isAbsolute || base.isAbsolute) := by
  rcases join_cases base path with ⟨hpath, hjoin⟩ | ⟨hpath, hjoin⟩ | ⟨hpath, hbase, hjoin⟩
  · rw [hjoin, hpath, Bool.true_or]
  · rw [hjoin, hpath, Bool.false_or]
    cases base with
    | nil => exact hpath
    | cons b rest => rfl
  · obtain ⟨b, rest, rfl⟩ := List.exists_cons_of_ne_nil hbase
    rw [hjoin, hpath, Bool.false_or]
    rfl

theorem length_join_le (base path : Bytes) :
    (base.join path).length ≤ base.length + path.length + 1 := by
  rcases join_cases base path with ⟨-, hjoin⟩ | ⟨-, hjoin⟩ | ⟨-, -, hjoin⟩ <;> rw [hjoin]
  · omega
  · rw [List.length_append]
    omega
  · rw [List.length_append, List.length_cons]
    omega

theorem mem_join {b : UInt8} (hmem : b ∈ base.join path) : b ∈ base ∨ b = slash ∨ b ∈ path := by
  rcases join_cases base path with ⟨-, hjoin⟩ | ⟨-, hjoin⟩ | ⟨-, -, hjoin⟩ <;> rw [hjoin] at hmem
  · exact .inr (.inr hmem)
  · exact (List.mem_append.mp hmem).imp id .inr
  · exact (List.mem_append.mp hmem).imp id List.mem_cons.mp

theorem join_ne_nil (hbase : base ≠ []) (path : Bytes) : base.join path ≠ [] := by
  rcases join_cases base path with ⟨hpath, hjoin⟩ | ⟨-, hjoin⟩ | ⟨-, -, hjoin⟩ <;> rw [hjoin]
  · rintro rfl
    cases hpath
  · exact List.append_ne_nil_of_left_ne_nil hbase path
  · exact List.append_ne_nil_of_left_ne_nil hbase _

theorem append_join (front : Bytes) (hbase : base ≠ []) (hpath : path.isAbsolute = false) :
    (front ++ base).join path = front ++ base.join path := by
  have hlast : (front ++ base).getLast? = base.getLast? :=
    List.getLast?_append_of_ne_nil front hbase
  have hempty : (front ++ base).isEmpty = base.isEmpty := by
    rw [List.isEmpty_eq_false_iff.mpr hbase,
      List.isEmpty_eq_false_iff.mpr (List.append_ne_nil_of_right_ne_nil front hbase)]
  rw [join, join, hpath, hlast, hempty]
  split
  · rename_i h
    cases h
  · split <;> simp only [List.append_assoc]

/-! ### Names joined one by one -/

variable {names : List Bytes}

theorem isAbsolute_foldl_join (hnames : ∀ name ∈ names, name.isAbsolute = false) :
    (names.foldl join base).isAbsolute = base.isAbsolute := by
  induction names generalizing base with
  | nil => rfl
  | cons name names ih =>
      rw [List.foldl_cons, ih fun other hmem => hnames other (List.mem_cons_of_mem _ hmem),
        isAbsolute_join, hnames name List.mem_cons_self, Bool.false_or]

theorem foldl_join_ne_nil (hbase : base ≠ []) : names.foldl join base ≠ [] := by
  induction names generalizing base with
  | nil => exact hbase
  | cons name names ih => exact ih (join_ne_nil hbase name)

theorem length_foldl_join_le (base : Bytes) (names : List Bytes) :
    (names.foldl join base).length ≤ base.length + (names.map fun name => name.length + 1).sum := by
  induction names generalizing base with
  | nil => simp
  | cons name names ih =>
      have hjoin := length_join_le base name
      have hrest := ih (base.join name)
      simp only [List.foldl_cons, List.map_cons, List.sum_cons]
      omega

theorem mem_foldl_join {b : UInt8} (hmem : b ∈ names.foldl join base) :
    b ∈ base ∨ b = slash ∨ ∃ name ∈ names, b ∈ name := by
  induction names generalizing base with
  | nil => exact .inl hmem
  | cons name names ih =>
      rcases ih hmem with hjoin | hslash | ⟨other, hother, hb⟩
      · rcases mem_join hjoin with hbase | hslash | hname
        · exact .inl hbase
        · exact .inr (.inl hslash)
        · exact .inr (.inr ⟨name, List.mem_cons_self, hname⟩)
      · exact .inr (.inl hslash)
      · exact .inr (.inr ⟨other, List.mem_cons_of_mem _ hother, hb⟩)

theorem append_foldl_join (front : Bytes) (hbase : base ≠ [])
    (hnames : ∀ name ∈ names, name.isAbsolute = false) :
    names.foldl join (front ++ base) = front ++ names.foldl join base := by
  induction names generalizing base with
  | nil => rfl
  | cons name names ih =>
      rw [List.foldl_cons, List.foldl_cons,
        append_join front hbase (hnames name List.mem_cons_self)]
      exact ih (join_ne_nil hbase name) fun other hmem => hnames other (List.mem_cons_of_mem _ hmem)

/-! ### Split byte strings -/

variable {separator : UInt8} {whole part : Bytes}

/-- The parts and the separators between them are as long as the whole. -/
theorem sum_length_splitOn (separator : UInt8) (whole : Bytes) :
    ((whole.splitOn separator).map fun part => part.length + 1).sum = whole.length + 1 := by
  induction whole with
  | nil => simp
  | cons b rest ih =>
      rw [List.splitOn_cons_eq_if_modifyHead]
      split
      · rw [List.map_cons, List.sum_cons, ih, List.length_nil, List.length_cons, Nat.add_comm]
      · cases hparts : rest.splitOn separator with
        | nil => exact absurd hparts (List.splitOn_ne_nil separator rest)
        | cons first parts =>
            rw [hparts, List.map_cons, List.sum_cons] at ih
            simp only [List.modifyHead_cons, List.map_cons, List.sum_cons, List.length_cons]
            omega

theorem mem_of_mem_splitOn (hpart : part ∈ whole.splitOn separator) :
    separator ∉ part ∧ ∀ b ∈ part, b ∈ whole := by
  induction whole generalizing part with
  | nil =>
      rw [List.splitOn_nil, List.mem_singleton] at hpart
      simp [hpart]
  | cons c rest ih =>
      have hrest : ∀ part ∈ rest.splitOn separator,
          separator ∉ part ∧ ∀ b ∈ part, b ∈ c :: rest := fun part hmem =>
        ⟨(ih hmem).1, fun b hb => List.mem_cons_of_mem _ ((ih hmem).2 b hb)⟩
      rw [List.splitOn_cons_eq_if_modifyHead] at hpart
      split at hpart
      · rcases List.mem_cons.mp hpart with rfl | hmem
        · simp
        · exact hrest part hmem
      · rename_i hne
        cases hparts : rest.splitOn separator with
        | nil => exact absurd hparts (List.splitOn_ne_nil separator rest)
        | cons first parts =>
            rw [hparts] at hpart hrest
            rcases List.mem_cons.mp hpart with rfl | hmem
            · obtain ⟨hnot, hmem⟩ := hrest first List.mem_cons_self
              refine ⟨?_, fun b hb => ?_⟩
              · rw [List.mem_cons, not_or]
                exact ⟨fun hc => hne (beq_iff_eq.mpr hc.symm), hnot⟩
              · rcases List.mem_cons.mp hb with rfl | hb
                · exact List.mem_cons_self
                · exact hmem b hb
            · exact hrest part (List.mem_cons_of_mem _ hmem)

/-- A part leaves room in the whole for the separators. -/
theorem length_add_length_splitOn_le (hpart : part ∈ whole.splitOn separator) :
    part.length + (whole.splitOn separator).length ≤ whole.length + 1 := by
  rw [← sum_length_splitOn separator whole, List.sum_map_add, List.map_const', List.sum_replicate,
    smul_eq_mul, mul_one]
  have := List.le_sum_of_mem (List.mem_map_of_mem hpart (f := List.length))
  omega

/-- A path that can name something: it is not empty, has no zero in it, and is not too long. -/
def Nameable (path : Bytes) : Prop := path ≠ [] ∧ 0 ∉ path ∧ path.length ≤ pathLimit

instance : DecidablePred Nameable := fun _ => inferInstanceAs (Decidable (_ ∧ _))

end Bytes

namespace Site

open Bytes

variable {site : Site} {path entry : Bytes}

/-! ### Seen paths -/

theorem absolute?_of_nameable (hpath : path.Nameable) :
    site.absolute? path = some (site.directory.join path) := by
  obtain ⟨hne, hzero, hlength⟩ := hpath
  rw [absolute?, if_neg]
  simp [hne, hzero, hlength]

theorem absolute?_of_not_nameable (hpath : ¬path.Nameable) : site.absolute? path = none := by
  rw [absolute?, if_pos]
  simp only [Bool.or_eq_true, List.isEmpty_iff, List.contains_iff_mem, decide_eq_true_eq]
  by_contra h
  rw [not_or, not_or, not_lt] at h
  obtain ⟨⟨hne, hzero⟩, hlength⟩ := h
  exact hpath ⟨hne, hzero, hlength⟩

theorem isProgram_eq_true_iff :
    site.isProgram path = true ↔ path.Nameable ∧
      site.files.isFile (site.directory.join path) = true ∧
      site.files.isExecutable (site.directory.join path) = true := by
  unfold isProgram
  by_cases hpath : path.Nameable
  · simp [absolute?_of_nameable hpath, hpath]
  · simp [absolute?_of_not_nameable hpath, hpath]

theorem isFile_eq_true_iff :
    site.isFile path = true ↔
      path.Nameable ∧ site.files.isFile (site.directory.join path) = true := by
  unfold isFile
  by_cases hpath : path.Nameable
  · simp [absolute?_of_nameable hpath, hpath]
  · simp [absolute?_of_not_nameable hpath, hpath]

theorem isFile_congr {other : Site} (hfiles : site.files = other.files)
    (hpath : path.isAbsolute = true) : site.isFile path = other.isFile path := by
  simp only [isFile, absolute?, join_of_isAbsolute hpath, hfiles]

/-- Processes of any directories agree on the paths that are absolute, and on those that name
nothing. -/
theorem isProgram_congr {other : Site} (hfiles : site.files = other.files)
    (hpath : path.isAbsolute = true ∨ ¬path.Nameable) :
    site.isProgram path = other.isProgram path := by
  rw [Bool.eq_iff_iff, isProgram_eq_true_iff, isProgram_eq_true_iff, hfiles]
  rcases hpath with habsolute | hnot
  · rw [join_of_isAbsolute habsolute, join_of_isAbsolute habsolute]
  · simp only [hnot, false_and]

/-! ### Entries of the search path -/

/-- The home stands for the first name of an entry. -/
def LedByTilde (entry : Bytes) : Prop := entry.components.head? = some tilde

instance : DecidablePred LedByTilde := fun _ => inferInstanceAs (Decidable (_ = _))

/-- Behind the tilde of an entry stand names, none of them a path from the root, that fit into the
entry. -/
theorem components_of_ledByTilde (hentry : LedByTilde entry) :
    ∃ names, entry.components = tilde :: names ∧ entry.isAbsolute = false ∧
      (∀ name ∈ names, name.isAbsolute = false ∧ ∀ b ∈ name, b ∈ entry) ∧
      (names.map fun name => name.length + 1).sum + 1 ≤ entry.length := by
  unfold LedByTilde components at hentry
  unfold components
  dsimp only at hentry ⊢
  cases habsolute : entry.isAbsolute with
  | true =>
      rw [habsolute, if_pos rfl, List.head?_cons] at hentry
      exact absurd hentry (by decide)
  | false =>
      rw [habsolute, if_neg Bool.false_ne_true] at hentry
      rw [if_neg Bool.false_ne_true]
      split at hentry
      · rw [List.head?_cons] at hentry
        exact absurd hentry (by decide)
      rename_i hhere
      rw [if_neg hhere]
      obtain ⟨names, hnames⟩ := List.head?_eq_some_iff.mp hentry
      have hsub : (tilde :: names).Sublist (entry.splitOn slash) :=
        hnames ▸ List.filter_sublist
      refine ⟨names, hnames, rfl, fun name hname => ?_, ?_⟩
      · obtain ⟨hslash, hmem⟩ :=
          mem_of_mem_splitOn (hsub.subset (List.mem_cons_of_mem _ hname))
        refine ⟨?_, hmem⟩
        cases name with
        | nil => rfl
        | cons b rest =>
            rw [isAbsolute, List.head?_cons, beq_eq_false_iff_ne]
            rintro ⟨⟩
            exact hslash List.mem_cons_self
      · have hsum := (hsub.map fun name => name.length + 1).sum_le_sum fun _ _ => Nat.zero_le _
        rw [sum_length_splitOn, List.map_cons, List.sum_cons] at hsum
        have htilde : tilde.length = 1 := rfl
        omega

theorem expandHome_of_not_ledByTilde (hentry : ¬LedByTilde entry) :
    site.expandHome entry = entry := by
  unfold LedByTilde at hentry
  unfold expandHome
  cases hcomponents : entry.components with
  | nil => rfl
  | cons first rest =>
      rw [hcomponents, List.head?_cons, Option.some_inj] at hentry
      exact if_neg hentry

theorem expandHome_eq_foldl {names : List Bytes} (hentry : entry.components = tilde :: names) :
    site.expandHome entry = names.foldl Bytes.join site.home := by
  rw [expandHome, hentry]
  exact if_pos rfl

theorem join_expandHome_eq_foldl {names : List Bytes} (hentry : entry.components = tilde :: names)
    (name : Bytes) :
    (site.expandHome entry).join name = (names ++ [name]).foldl Bytes.join site.home := by
  rw [expandHome_eq_foldl hentry, List.foldl_append]
  rfl

theorem isAbsolute_expandHome_iff :
    (site.expandHome entry).isAbsolute = true ↔
      entry.isAbsolute = true ∨ LedByTilde entry ∧ site.home.isAbsolute = true := by
  by_cases hled : LedByTilde entry
  · obtain ⟨names, hnames, habsolute, hrelative, -⟩ := components_of_ledByTilde hled
    rw [expandHome_eq_foldl hnames,
      isAbsolute_foldl_join fun name hname => (hrelative name hname).1]
    simp [hled, habsolute]
  · rw [expandHome_of_not_ledByTilde hled]
    simp [hled]

/-- What stands in front of a home stands in front of every path that comes from it, and the rest is the
same. -/
theorem exists_join_expandHome_eq_append {home name : Bytes} (hentry : LedByTilde entry)
    (hname : name.isAbsolute = false) (hhome : home ≠ []) :
    ∃ rest, ∀ (site : Site) (front : Bytes), site.home = front ++ home →
      (site.expandHome entry).join name = front ++ rest := by
  obtain ⟨names, hnames, -, hrelative, -⟩ := components_of_ledByTilde hentry
  refine ⟨(names ++ [name]).foldl Bytes.join home, fun site front hsite => ?_⟩
  rw [join_expandHome_eq_foldl hnames, hsite]
  refine append_foldl_join front hhome fun other hmem => ?_
  rcases List.mem_append.mp hmem with hmem | hmem
  · exact (hrelative other hmem).1
  · rwa [List.mem_singleton.mp hmem]

/-- A path that comes from a home can name something when the parts leave room for it. -/
theorem nameable_join_expandHome {name : Bytes} (hentry : LedByTilde entry) (hhome : site.home ≠ [])
    (hzero : 0 ∉ site.home ∧ 0 ∉ entry ∧ 0 ∉ name)
    (hlength : site.home.length + entry.length + name.length ≤ pathLimit) :
    ((site.expandHome entry).join name).Nameable := by
  obtain ⟨names, hnames, -, hrelative, hroom⟩ := components_of_ledByTilde hentry
  rw [join_expandHome_eq_foldl hnames]
  refine ⟨foldl_join_ne_nil hhome, fun hmem => ?_, ?_⟩
  · rcases mem_foldl_join hmem with hmem | hslash | ⟨other, hother, hmem⟩
    · exact hzero.1 hmem
    · exact absurd hslash (by decide)
    · rcases List.mem_append.mp hother with hother | hother
      · exact hzero.2.1 ((hrelative other hother).2 0 hmem)
      · exact hzero.2.2 (List.mem_singleton.mp hother ▸ hmem)
  · have := length_foldl_join_le site.home (names ++ [name])
    simp only [List.map_append, List.map_cons, List.map_nil, List.sum_append, List.sum_cons,
      List.sum_nil] at this
    omega

end Site
end MakeLauncher
