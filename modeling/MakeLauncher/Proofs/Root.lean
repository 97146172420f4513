import MakeLauncher.Build
import MakeLauncher.Proofs.Decoding

/-! The roots of installations that make can work in. The check looks at a root as it is shown, and
make sees its bytes; the two agree on white space. Main statement: a root is refused just when the
UTF-8 form of a character of white space stands somewhere among its bytes, whatever stands around it. -/

namespace MakeLauncher

/-- The codes of the characters of the property `White_Space`. -/
def whiteSpaceCodes : List Nat :=
  [0x09, 0x0A, 0x0B, 0x0C, 0x0D, 0x20, 0x85, 0xA0, 0x1680, 0x2000, 0x2001, 0x2002, 0x2003, 0x2004,
    0x2005, 0x2006, 0x2007, 0x2008, 0x2009, 0x200A, 0x2028, 0x2029, 0x202F, 0x205F, 0x3000]

theorem isWhiteSpace_eq_true_iff {c : Char} :
    isWhiteSpace c = true ↔ c.toNat ∈ whiteSpaceCodes := by
  simp only [isWhiteSpace, whiteSpaceRanges, whiteSpaceCodes, List.any_cons, List.any_nil,
    Bool.or_eq_true, Bool.and_eq_true, decide_eq_true_eq, Bool.or_false, List.mem_cons,
    List.not_mem_nil, or_false]
  omega

theorem isWhiteSpace_replacement : isWhiteSpace replacement = false := by decide

theorem Bytes.hasWhiteSpace_eq_true_iff {b : Bytes} :
    b.hasWhiteSpace = true ↔ ∃ c, isWhiteSpace c = true ∧ String.utf8EncodeChar c <:+: b := by
  have hread : ∀ c, isWhiteSpace c = true → (c ∈ b.decode ↔ String.utf8EncodeChar c <:+: b) := by
    intro c hspace
    apply mem_decode_iff
    rintro rfl
    rw [isWhiteSpace_replacement] at hspace
    cases hspace
  rw [hasWhiteSpace, List.any_eq_true]
  constructor
  · rintro ⟨c, hmem, hspace⟩
    exact ⟨c, hspace, (hread c hspace).mp hmem⟩
  · rintro ⟨c, hspace, hinfix⟩
    exact ⟨c, (hread c hspace).mpr hinfix, hspace⟩

theorem checkRoot_eq_ok_iff {root : Bytes} :
    checkRoot root = .ok () ↔ root.hasWhiteSpace = false := by
  unfold checkRoot
  cases root.hasWhiteSpace <;> simp

theorem checkRoot_eq_error_iff {root : Bytes} {failure : Failure} :
    checkRoot root = .error failure ↔
      root.hasWhiteSpace = true ∧ failure = .whiteSpaceInRoot root := by
  unfold checkRoot
  cases root.hasWhiteSpace <;> simp [eq_comm (a := failure)]

theorem Build.ofRequest_eq_error_iff {request : Request} {failure : Failure} :
    ofRequest request = .error failure ↔ checkRoot request.root = .error failure := by
  rw [checkRoot_eq_error_iff]
  unfold ofRequest
  by_cases hroot : request.root.hasWhiteSpace = false
  · rw [dif_pos hroot]
    simp [hroot]
  · rw [dif_neg hroot]
    simp [hroot, eq_comm (a := failure)]

/-- A root is refused just when the UTF-8 form of a character of white space stands somewhere among its
bytes, and no other root is. -/
theorem checkRoot_refuses_iff_infix (root : Bytes) :
    (checkRoot root = .error (.whiteSpaceInRoot root) ↔
      ∃ code ∈ whiteSpaceCodes, String.utf8EncodeChar (Char.ofNat code) <:+: root) ∧
    (checkRoot root = .ok () ↔
      ∀ code ∈ whiteSpaceCodes, ¬String.utf8EncodeChar (Char.ofNat code) <:+: root) := by
  have hspace : root.hasWhiteSpace = true ↔
      ∃ code ∈ whiteSpaceCodes, String.utf8EncodeChar (Char.ofNat code) <:+: root := by
    rw [Bytes.hasWhiteSpace_eq_true_iff]
    constructor
    · rintro ⟨c, hc, hinfix⟩
      refine ⟨c.toNat, isWhiteSpace_eq_true_iff.mp hc, ?_⟩
      rwa [Char.ofNat_toNat]
    · rintro ⟨code, hcode, hinfix⟩
      refine ⟨Char.ofNat code, ?_, hinfix⟩
      have hall : ∀ code ∈ whiteSpaceCodes, isWhiteSpace (Char.ofNat code) = true := by decide
      exact hall code hcode
  constructor
  · rw [checkRoot_eq_error_iff, ← hspace]
    exact and_iff_left rfl
  · rw [checkRoot_eq_ok_iff, ← Bool.not_eq_true, hspace]
    simp only [not_exists, not_and]

example : checkRoot [0xE2, 0x80, 0x20] = .error (.whiteSpaceInRoot [0xE2, 0x80, 0x20]) ∧
    checkRoot [0xC0, 0xA0] = .ok () := by decide

end MakeLauncher
