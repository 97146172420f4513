import MakeLauncher.Text.WhiteSpace
import Mathlib.Data.List.DropRight

/-! White space around characters. Any characters are cut into white space, a core that neither begins
nor ends with white space, and white space again. Main statement: there is one core only, and trimming
gives it; so trimming twice is trimming once, and more white space around a text changes nothing. -/

namespace MakeLauncher

/-- Characters that are nothing but white space. -/
def Blank (chars : List Char) : Prop := ∀ c ∈ chars, isWhiteSpace c = true

instance : DecidablePred Blank := fun chars => List.decidableBAll (isWhiteSpace · = true) chars

structure Trimmed (chars : List Char) : Prop where
  first : ∀ c, chars.head? = some c → isWhiteSpace c = false
  last : ∀ c, chars.getLast? = some c → isWhiteSpace c = false

variable {chars core left right : List Char}

theorem Blank.append (hleft : Blank left) (hright : Blank right) : Blank (left ++ right) :=
  List.forall_mem_append.mpr ⟨hleft, hright⟩

theorem trimChars_eq_rdropWhile (chars : List Char) :
    trimChars chars = (chars.dropWhile isWhiteSpace).rdropWhile isWhiteSpace := rfl

theorem trimmed_trimChars (chars : List Char) : Trimmed (trimChars chars) := by
  rw [trimChars_eq_rdropWhile]
  constructor
  · intro c hc
    obtain ⟨rest, hrest⟩ := List.rdropWhile_prefix isWhiteSpace (l := chars.dropWhile isWhiteSpace)
    have hfirst : (chars.dropWhile isWhiteSpace).head? = some c := by
      rw [← hrest, List.head?_append, hc]
      rfl
    have hnot := List.head?_dropWhile_not isWhiteSpace chars
    rw [hfirst] at hnot
    simpa using hnot
  · intro c hc
    obtain ⟨hne, rfl⟩ := List.mem_getLast?_eq_getLast hc
    simpa using List.rdropWhile_last_not isWhiteSpace (chars.dropWhile isWhiteSpace) hne

/-- Trimming takes nothing but white space away. -/
theorem exists_eq_append_trimChars (chars : List Char) :
    ∃ left right, Blank left ∧ Blank right ∧ chars = left ++ trimChars chars ++ right := by
  refine ⟨chars.takeWhile isWhiteSpace, (chars.dropWhile isWhiteSpace).rtakeWhile isWhiteSpace,
    fun c hc => List.mem_takeWhile_imp hc, fun c hc => List.mem_rtakeWhile_imp hc, ?_⟩
  calc chars
      = chars.takeWhile isWhiteSpace ++ chars.dropWhile isWhiteSpace :=
        List.takeWhile_append_dropWhile.symm
    _ = chars.takeWhile isWhiteSpace ++ (trimChars chars ++
          (chars.dropWhile isWhiteSpace).rtakeWhile isWhiteSpace) := by
        rw [trimChars_eq_rdropWhile, List.rdropWhile_append_rtakeWhile]
    _ = _ := (List.append_assoc _ _ _).symm

/-- However much white space stands around a core, trimming gives the core. -/
theorem trimChars_append_append (hleft : Blank left) (hcore : Trimmed core) (hright : Blank right) :
    trimChars (left ++ core ++ right) = core := by
  cases core with
  | nil =>
      have hall : Blank (left ++ [] ++ right) := by simpa using hleft.append hright
      rw [trimChars_eq_rdropWhile, List.dropWhile_eq_nil_iff.mpr hall, List.rdropWhile_nil]
  | cons c rest =>
      have hfirst : ¬isWhiteSpace c = true := by simp [hcore.first c rfl]
      have hfront : (left ++ c :: rest ++ right).dropWhile isWhiteSpace = c :: rest ++ right := by
        rw [List.append_assoc, List.dropWhile_append_of_pos hleft, List.cons_append,
          List.dropWhile_cons_of_neg hfirst]
      have hback : (c :: rest).rdropWhile isWhiteSpace = c :: rest := by
        rw [List.rdropWhile_eq_self_iff]
        intro hne
        simp [hcore.last _ (List.getLast?_eq_some_getLast hne)]
      have hreverse : Blank right.reverse := by
        intro c hc
        exact hright c (List.mem_reverse.mp hc)
      rw [trimChars_eq_rdropWhile, hfront, List.rdropWhile, List.reverse_append,
        List.dropWhile_append_of_pos hreverse]
      exact hback

theorem trimChars_eq_iff :
    trimChars chars = core ↔
      Trimmed core ∧ ∃ left right, Blank left ∧ Blank right ∧ chars = left ++ core ++ right := by
  constructor
  · rintro rfl
    exact ⟨trimmed_trimChars chars, exists_eq_append_trimChars chars⟩
  · rintro ⟨hcore, left, right, hleft, hright, rfl⟩
    exact trimChars_append_append hleft hcore hright

theorem trimChars_eq_self_iff : trimChars chars = chars ↔ Trimmed chars := by
  constructor
  · intro h
    exact (trimChars_eq_iff.mp h).1
  · intro htrimmed
    exact trimChars_eq_iff.mpr ⟨htrimmed, [], [], nofun, nofun, by simp⟩

theorem trimChars_eq_nil_iff : trimChars chars = [] ↔ Blank chars := by
  constructor
  · intro h
    obtain ⟨-, left, right, hleft, hright, rfl⟩ := trimChars_eq_iff.mp h
    simpa using hleft.append hright
  · intro hblank
    exact trimChars_eq_iff.mpr ⟨⟨nofun, nofun⟩, chars, [], hblank, nofun, by simp⟩

/-- More white space around characters leaves their core as it is. -/
theorem trimChars_surround (hleft : Blank left) (hright : Blank right) (chars : List Char) :
    trimChars (left ++ chars ++ right) = trimChars chars := by
  obtain ⟨hcore, front, back, hfront, hback, hchars⟩ := trimChars_eq_iff.mp (Eq.refl (trimChars chars))
  refine trimChars_eq_iff.mpr ⟨hcore, left ++ front, back ++ right, hleft.append hfront,
    hback.append hright, ?_⟩
  conv_lhs => rw [hchars]
  simp only [List.append_assoc]

/-! ### Texts -/

theorem toList_trim (text : String) : (trim text).toList = trimChars text.toList :=
  String.toList_ofList

theorem trim_trim (text : String) : trim (trim text) = trim text := by
  have hcore := trimChars_eq_self_iff.mpr (trimmed_trimChars text.toList)
  unfold trim
  rw [String.toList_ofList, hcore]

theorem trim_surround {left right : String} (hleft : Blank left.toList) (hright : Blank right.toList)
    (text : String) : trim (left ++ text ++ right) = trim text := by
  unfold trim
  rw [String.toList_append, String.toList_append, trimChars_surround hleft hright]

example : trim "\u2003C:/Program Files\u0085\n" = "C:/Program Files" ∧
    trim "\u200Bmake " = "\u200Bmake" := by decide

end MakeLauncher
