import MakeLauncher.Proofs.Decoding
import MakeLauncher.Proofs.Platform
import MakeLauncher.Proofs.Trimming
import Mathlib.Data.List.Forall2

/-! The names that hosts go by. The kernel names of a family are a word, a word in any case, or all names
with some part in them, and a machine name is a word or four characters with one left open. Main
statement: no name belongs to two families or to two processors, so it does not matter in which order they
are tried, and a host has a platform just when both of its names belong somewhere. -/

namespace MakeLauncher

/-! ### Names told by what stands in them -/

/-- The characters of a word, each small or as a capital. -/
def AnyCase (word chars : List Char) : Prop :=
  List.Forall₂ (fun c letter => c = letter ∨ c = letter.toUpper) chars word

/-- The kernel names of a family. -/
inductive OsFamily.Names (kernel : String) : OsFamily → Prop
  | darwin (hword : kernel = "Darwin") : Names kernel .darwin
  | linux (hword : kernel = "Linux") : Names kernel .linux
  | freebsd (hword : AnyCase "freebsd".toList kernel.toList) : Names kernel .freebsd
  | cygwin (hfront : "CYGWIN".toList <+: kernel.toList) : Names kernel .cygwin
  | windows (hpart : "_NT-".toList <:+: kernel.toList) : Names kernel .cygwin

/-- The machine names of a processor. -/
inductive Processor.Names (machine : String) : Processor → Prop
  | arm64 (hword : machine = "arm64") : Names machine .arm64
  | aarch64 (hword : machine = "aarch64") : Names machine .arm64
  | x86_64 (hword : machine = "x86_64") : Names machine .x86_64
  | amd64 (hword : machine = "amd64") : Names machine .x86_64
  | x86 {generation : Char} (hword : machine.toList = ['i', generation, '8', '6'])
      (hascii : generation.toNat < 128) : Names machine .x86

theorem toNat_toLower (c : Char) :
    c.toLower.toNat = if 65 ≤ c.toNat ∧ c.toNat ≤ 90 then c.toNat + 32 else c.toNat := by
  unfold Char.toLower
  simp only [ge_iff_le, UInt32.le_iff_toNat_le, Char.toNat_val]
  split
  · rename_i hcapital
    have hcapital : 65 ≤ c.toNat ∧ c.toNat ≤ 90 := hcapital
    rw [if_pos hcapital, ← Char.toNat_val, UInt32.toNat_add]
    exact Nat.mod_eq_of_lt (Nat.lt_of_le_of_lt (Nat.add_le_add_right hcapital.2 32) (by decide))
  · rename_i hcapital
    exact (if_neg hcapital).symm

theorem toNat_toUpper (c : Char) :
    c.toUpper.toNat = if 97 ≤ c.toNat ∧ c.toNat ≤ 122 then c.toNat - 32 else c.toNat := by
  unfold Char.toUpper
  simp only [UInt32.le_iff_toNat_le, Char.toNat_val]
  split
  · rename_i hsmall
    have hsmall : 97 ≤ c.toNat ∧ c.toNat ≤ 122 := hsmall
    rw [if_pos hsmall, ← Char.toNat_val, UInt32.toNat_add]
    change (c.toNat + 4294967264) % 4294967296 = c.toNat - 32
    omega
  · rename_i hsmall
    exact (if_neg hsmall).symm

theorem toLower_eq_iff {c letter : Char} (hletter : letter.isLower = true) :
    c.toLower = letter ↔ c = letter ∨ c = letter.toUpper := by
  obtain ⟨hfirst, hlast⟩ := Bool.and_eq_true_iff.mp hletter
  have hsmall : 97 ≤ letter.toNat ∧ letter.toNat ≤ 122 :=
    ⟨UInt32.le_iff_toNat_le.mp (of_decide_eq_true hfirst),
      UInt32.le_iff_toNat_le.mp (of_decide_eq_true hlast)⟩
  simp only [← Char.toNat_inj, toNat_toLower, toNat_toUpper, if_pos hsmall]
  split <;> omega

theorem map_toLower_eq_iff {word chars : List Char} (hword : ∀ letter ∈ word, letter.isLower = true) :
    chars.map Char.toLower = word ↔ AnyCase word chars := by
  induction word generalizing chars with
  | nil => simp [AnyCase]
  | cons letter word ih =>
      obtain ⟨hletter, hrest⟩ := List.forall_mem_cons.mp hword
      cases chars with
      | nil => simp [AnyCase]
      | cons c chars =>
          rw [List.map_cons, List.cons.injEq, toLower_eq_iff hletter, ih hrest, AnyCase, AnyCase,
            List.forall₂_cons]

theorem map_toLower_eq_freebsd_iff {chars : List Char} :
    chars.map Char.toLower = "freebsd".toList ↔ AnyCase "freebsd".toList chars := by
  have hsmall : ∀ letter ∈ "freebsd".toList, letter.isLower = true := List.all_eq_true.mp rfl
  exact map_toLower_eq_iff hsmall

theorem OsFamily.occurs_eq_true_iff {part chars : List Char} :
    occurs part chars = true ↔ part <:+: chars := by
  induction chars with
  | nil => rw [occurs, List.isEmpty_iff, List.infix_nil]
  | cons c rest ih =>
      rw [occurs, Bool.or_eq_true, List.isPrefixOf_iff_prefix, ih, List.infix_cons_iff]

section

variable {α : Type} {test : α → Bool} {order order' : List α} {a : α}

theorem find?_eq_some_iff_of_unique (hall : ∀ a, a ∈ order)
    (hunique : ∀ a b, test a = true → test b = true → a = b) :
    order.find? test = some a ↔ test a = true := by
  constructor
  · exact List.find?_some
  · intro ha
    obtain ⟨b, hb⟩ := Option.isSome_iff_exists.mp (List.find?_isSome.mpr ⟨a, hall a, ha⟩)
    rw [hb, hunique b a (List.find?_some hb) ha]

/-- What passes a test that nothing else passes is found in whatever order things are tried. -/
theorem find?_eq_find?_of_unique (hall : ∀ a, a ∈ order) (hall' : ∀ a, a ∈ order')
    (hunique : ∀ a b, test a = true → test b = true → a = b) : order.find? test = order'.find? test := by
  apply Option.ext
  intro a
  rw [find?_eq_some_iff_of_unique hall hunique, find?_eq_some_iff_of_unique hall' hunique]

end

/-! ### Kernel names -/

namespace OsFamily

variable {kernel : String} {family family' : OsFamily}

theorem names_iff : Names kernel family ↔ recognises kernel.toList family = true := by
  constructor
  · intro h
    cases h with
    | darwin hword | linux hword => simp [recognises, hword]
    | freebsd hword =>
        rw [recognises, decide_eq_true_eq, map_toLower_eq_freebsd_iff]
        exact hword
    | cygwin hfront =>
        rw [recognises, Bool.or_eq_true, List.isPrefixOf_iff_prefix]
        exact .inl hfront
    | windows hpart =>
        rw [recognises, Bool.or_eq_true, occurs_eq_true_iff]
        exact .inr hpart
  · intro h
    cases family with
    | darwin => exact .darwin (String.toList_inj.mp (of_decide_eq_true h))
    | linux => exact .linux (String.toList_inj.mp (of_decide_eq_true h))
    | freebsd => exact .freebsd (map_toLower_eq_freebsd_iff.mp (of_decide_eq_true h))
    | cygwin =>
        rcases Bool.or_eq_true_iff.mp h with hfront | hpart
        · exact .cygwin (List.isPrefixOf_iff_prefix.mp hfront)
        · exact .windows (occurs_eq_true_iff.mp hpart)

/-- What tells the kernels of Windows from all others: they begin with a `c` or have an underscore. -/
def Marked (kernel : String) : Prop :=
  (kernel.toList.map Char.toLower).head? = some 'c' ∨ '_' ∈ kernel.toList.map Char.toLower

theorem Names.marked (h : Names kernel .cygwin) : Marked kernel := by
  cases h with
  | cygwin hfront =>
      obtain ⟨rest, hrest⟩ := hfront
      left
      rw [← hrest]
      rfl
  | windows hpart =>
      right
      have hmem : '_' ∈ kernel.toList := hpart.subset (by decide)
      exact List.mem_map.mpr ⟨'_', hmem, by decide⟩

/-- The families other than Windows have one name each, but for the case. -/
theorem Names.map_toLower_eq (h : Names kernel family) (hfamily : family ≠ .cygwin) :
    kernel.toList.map Char.toLower = family.name.toList := by
  cases h with
  | darwin hword | linux hword =>
      rw [hword]
      decide
  | freebsd hword => exact map_toLower_eq_freebsd_iff.mpr hword
  | cygwin | windows => exact absurd rfl hfamily

theorem Names.not_marked (h : Names kernel family) (hfamily : family ≠ .cygwin) : ¬Marked kernel := by
  rw [Marked, h.map_toLower_eq hfamily]
  cases family with
  | cygwin => exact absurd rfl hfamily
  | darwin | linux | freebsd => decide

theorem name_injective (h : family.name = family'.name) : family = family' := by
  revert h
  cases family <;> cases family' <;> decide

theorem Names.unique (h : Names kernel family) (h' : Names kernel family') : family = family' := by
  by_cases hfamily : family = .cygwin
  · subst hfamily
    by_contra hne
    exact h'.not_marked (Ne.symm hne) h.marked
  by_cases hfamily' : family' = .cygwin
  · subst hfamily'
    exact absurd h'.marked (h.not_marked hfamily)
  · apply name_injective
    rw [← String.toList_inj, ← h.map_toLower_eq hfamily, h'.map_toLower_eq hfamily']

theorem recognises_unique (family family' : OsFamily) (h : recognises kernel.toList family = true)
    (h' : recognises kernel.toList family' = true) : family = family' :=
  Names.unique (names_iff.mpr h) (names_iff.mpr h')

theorem ofKernel_eq_ok_iff : ofKernel kernel = .ok family ↔ Names (trim kernel) family := by
  rw [names_iff, ← find?_eq_some_iff_of_unique mem_all recognises_unique, ofKernel]
  cases all.find? (recognises (trim kernel).toList) <;> simp

theorem unknown_iff : Unknown kernel ↔ ∀ family, ¬Names (trim kernel) family := by
  simp only [Unknown, names_iff, Bool.not_eq_true]

end OsFamily

/-! ### Machine names -/

namespace Processor

variable {machine : String} {processor processor' : Processor}

theorem names_iff : Names machine processor ↔ recognises machine.toList processor = true := by
  constructor
  · intro h
    cases h with
    | arm64 hword | aarch64 hword | x86_64 hword | amd64 hword => simp [recognises, hword]
    | x86 hword hascii => simp [recognises, hword, hascii]
  · intro h
    cases processor with
    | arm64 =>
        rcases Bool.or_eq_true_iff.mp h with hword | hword
        · exact .arm64 (String.toList_inj.mp (of_decide_eq_true hword))
        · exact .aarch64 (String.toList_inj.mp (of_decide_eq_true hword))
    | x86_64 =>
        rcases Bool.or_eq_true_iff.mp h with hword | hword
        · exact .x86_64 (String.toList_inj.mp (of_decide_eq_true hword))
        · exact .amd64 (String.toList_inj.mp (of_decide_eq_true hword))
    | x86 =>
        unfold recognises at h
        dsimp only at h
        split at h
        · rename_i hword
          exact .x86 hword (of_decide_eq_true h)
        · cases h

theorem Names.unique (h : Names machine processor) (h' : Names machine processor') :
    processor = processor' := by
  have hother := names_iff.mp h'
  cases h with
  | arm64 hword | aarch64 hword | x86_64 hword | amd64 hword =>
      subst hword
      revert hother
      cases processor' <;> decide
  | x86 hword =>
      cases processor' with
      | x86 => rfl
      | arm64 => simp [recognises, hword] at hother
      | x86_64 => simp [recognises, hword] at hother

theorem recognises_unique (processor processor' : Processor)
    (h : recognises machine.toList processor = true)
    (h' : recognises machine.toList processor' = true) : processor = processor' :=
  Names.unique (names_iff.mpr h) (names_iff.mpr h')

theorem ofMachine_eq_ok_iff : ofMachine machine = .ok processor ↔ Names (trim machine) processor := by
  rw [names_iff, ← find?_eq_some_iff_of_unique mem_all recognises_unique, ofMachine]
  cases all.find? (recognises (trim machine).toList) <;> simp

theorem unknown_iff : Unknown machine ↔ ∀ processor, ¬Names (trim machine) processor := by
  simp only [Unknown, names_iff, Bool.not_eq_true]

open Bytes in
/-- Four bytes with one left open are four characters: no character beyond ASCII has a form of one byte. -/
theorem names_x86_iff :
    Names machine .x86 ↔ ∃ b, ofText machine = [ascii 'i', b, ascii '8', ascii '6'] := by
  constructor
  · intro h
    cases h with
    | @x86 generation hword hascii =>
        refine ⟨ascii generation, ?_⟩
        simp only [ofText, hword, ofChars, List.flatMap_cons, List.flatMap_nil,
          utf8EncodeChar_ascii hascii]
        rfl
  · rintro ⟨b, hb⟩
    have hread : machine.toList = 'i' :: decode [b] ++ ['8', '6'] := by
      have hopen : decode ([b] ++ ascii '8' :: [ascii '6']) = decode [b] ++ '8' :: ['6'] :=
        decode_append_cons_of_form (by decide) [b] [ascii '6']
      calc machine.toList = decode (ofText machine) := (decode_ofChars machine.toList).symm
        _ = 'i' :: decode [b, ascii '8', ascii '6'] := by
          rw [hb]
          exact decode_append_cons_of_form (by decide) [] _
        _ = 'i' :: decode [b] ++ ['8', '6'] := congrArg ('i' :: ·) hopen
    rcases decode_singleton b with ⟨hlt, hchar⟩ | hreplaced
    · rw [hchar] at hread
      refine .x86 hread ?_
      have hvalid : b.toNat.isValidChar := .inl (by omega)
      exact (toNat_val_ofNat hvalid).trans_lt hlt
    · rw [hreplaced] at hread
      have hlength : (ofChars ['i', replacement, '8', '6']).length = 4 := by
        have hchars : ofText machine = ofChars ['i', replacement, '8', '6'] := congrArg ofChars hread
        rw [← hchars, hb]
        rfl
      exact absurd hlength (by decide)

end Processor

namespace Platform

variable {kernel machine : String} {platform : Platform}

theorem ofNames_eq_ok_iff :
    ofNames kernel machine = .ok platform ↔
      ∃ family processor, OsFamily.Names (trim kernel) family ∧
        Processor.Names (trim machine) processor ∧ ofHost family processor = platform := by
  simp only [← OsFamily.ofKernel_eq_ok_iff, ← Processor.ofMachine_eq_ok_iff]
  unfold ofNames
  cases OsFamily.ofKernel kernel with
  | error => simp [bind, Except.bind]
  | ok family => cases Processor.ofMachine machine <;> simp [bind, Except.bind, pure, Except.pure]

theorem ofNames_congr {kernel' machine' : String} (hkernel : trim kernel = trim kernel')
    (hmachine : trim machine = trim machine') : ofNames kernel machine = ofNames kernel' machine' := by
  simp only [ofNames, OsFamily.ofKernel, Processor.ofMachine, hkernel, hmachine]

theorem ofHost_eq (family : OsFamily) (processor : Processor) :
    ofHost family processor =
      if family = .darwin ∧ processor = .arm64 then ⟨.darwin, .x86_64⟩ else ⟨family, processor⟩ := by
  cases family <;> cases processor <;> rfl

theorem ofHost_ne (family : OsFamily) (processor : Processor) :
    ofHost family processor ≠ ⟨.darwin, .arm64⟩ := by
  cases family <;> cases processor <;> decide

end Platform
end MakeLauncher
