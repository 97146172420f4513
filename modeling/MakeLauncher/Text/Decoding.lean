import MakeLauncher.Bytes

/-! The reading of bytes as text. Well-formed UTF-8 reads as its characters. Of an ill-formed
sequence, each longest beginning of a character reads as one replacement character, and so does each
byte that can begin none. The reader is a machine that takes one byte at a time and remembers what
is owed of the character it is in, so it resumes at every byte that can begin a character. Main
statement: the UTF-8 form of characters reads back as them, whatever stands behind it. -/

namespace MakeLauncher

/-- What stands for bytes that no character has. -/
def replacement : Char := '\uFFFD'

/-- A character of which some bytes are read: the range of the next byte, the number of bytes owed
after that one, and the value of the bits read. -/
structure Unfinished where
  low : Nat
  high : Nat
  owed : Nat
  value : Nat
  deriving DecidableEq, Repr

/-- What a byte does where a character can begin. -/
inductive Lead where
  | whole (c : Char)
  | start (u : Unfinished)
  | stray
  deriving DecidableEq

/-- The lead bytes of UTF-8. The narrower ranges of the second byte leave out the overlong forms,
the surrogates and what lies above the last character. -/
def Lead.ofByte (b : UInt8) : Lead :=
  let n := b.toNat
  if n < 0x80 then .whole (Char.ofNat n)
  else if n < 0xC2 then .stray
  else if n < 0xE0 then .start ⟨0x80, 0xBF, 0, n % 32⟩
  else if n = 0xE0 then .start ⟨0xA0, 0xBF, 1, 0⟩
  else if n = 0xED then .start ⟨0x80, 0x9F, 1, 13⟩
  else if n < 0xF0 then .start ⟨0x80, 0xBF, 1, n % 16⟩
  else if n = 0xF0 then .start ⟨0x90, 0xBF, 2, 0⟩
  else if n < 0xF4 then .start ⟨0x80, 0xBF, 2, n % 8⟩
  else if n = 0xF4 then .start ⟨0x80, 0x8F, 2, 4⟩
  else .stray

/-- Whether a byte goes on with the character. -/
def Unfinished.accepts (u : Unfinished) (b : UInt8) : Bool :=
  u.low ≤ b.toNat && b.toNat ≤ u.high

/-- The value with the six bits of one more byte. -/
def Unfinished.extend (u : Unfinished) (b : UInt8) : Nat := u.value * 64 + b.toNat % 64

namespace Bytes

/-- The characters read from a state on: `none` stands between characters. -/
def decodeFrom : Option Unfinished → Bytes → List Char
  | none, [] => []
  | some _, [] => [replacement]
  | none, b :: rest =>
      match Lead.ofByte b with
      | .whole c => c :: decodeFrom none rest
      | .start u => decodeFrom (some u) rest
      | .stray => replacement :: decodeFrom none rest
  | some u, b :: rest =>
      if u.accepts b then
        match u.owed with
        | 0 => Char.ofNat (u.extend b) :: decodeFrom none rest
        | owed + 1 => decodeFrom (some ⟨0x80, 0xBF, owed, u.extend b⟩) rest
      else
        replacement ::
          match Lead.ofByte b with
          | .whole c => c :: decodeFrom none rest
          | .start u => decodeFrom (some u) rest
          | .stray => replacement :: decodeFrom none rest

def decode (b : Bytes) : List Char := decodeFrom none b

/-- A byte string as it is shown. -/
def shown (b : Bytes) : String := String.ofList b.decode

/-- A byte string is well-formed UTF-8 when its characters give it back. -/
def isText (b : Bytes) : Bool := ofChars b.decode == b

/-- The text that a well-formed byte string is. -/
def text? (b : Bytes) : Option String := if b.isText then some b.shown else none

/-! ### Reading back -/

private theorem char_ofNat {n : Nat} {c : Char} (h : n = c.val.toNat) : Char.ofNat n = c := by
  subst h
  exact Char.ofNat_toNat c

/-- The bytes of a character read as that character, whatever follows them. -/
theorem decodeFrom_utf8EncodeChar (c : Char) (rest : Bytes) :
    decodeFrom none (String.utf8EncodeChar c ++ rest) = c :: decodeFrom none rest := by
  have hv : c.val.toNat < 0xD800 ∨ (0xDFFF < c.val.toNat ∧ c.val.toNat < 0x110000) := c.valid
  unfold String.utf8EncodeChar
  generalize hn : c.val.toNat = v at hv ⊢
  simp only
  split
  · simp only [List.cons_append, List.nil_append, decodeFrom, Lead.ofByte, UInt8.toNat_ofNat']
    rw [if_pos (by omega)]
    simp only
    rw [char_ofNat (c := c) (by omega)]
  split
  · simp only [List.cons_append, List.nil_append, decodeFrom, Lead.ofByte, UInt8.toNat_ofNat',
      Unfinished.accepts, Unfinished.extend, Bool.and_eq_true, decide_eq_true_eq]
    rw [if_neg (by omega), if_neg (by omega), if_pos (by omega)]
    simp only
    rw [if_pos (by omega), char_ofNat (c := c) (by omega)]
  split
  · simp only [List.cons_append, List.nil_append, decodeFrom, Lead.ofByte, UInt8.toNat_ofNat',
      Unfinished.accepts, Unfinished.extend, Bool.and_eq_true, decide_eq_true_eq]
    rw [if_neg (by omega), if_neg (by omega), if_neg (by omega)]
    by_cases hE0 : v / 4096 % 16 = 0
    · rw [if_pos (by omega)]
      simp only
      rw [if_pos (by omega), if_pos (by omega), char_ofNat (c := c) (by omega)]
    by_cases hED : v / 4096 % 16 = 13
    · rw [if_neg (by omega), if_pos (by omega)]
      simp only
      rw [if_pos (by omega), if_pos (by omega), char_ofNat (c := c) (by omega)]
    · rw [if_neg (by omega), if_neg (by omega), if_pos (by omega)]
      simp only
      rw [if_pos (by omega), if_pos (by omega), char_ofNat (c := c) (by omega)]
  · simp only [List.cons_append, List.nil_append, decodeFrom, Lead.ofByte, UInt8.toNat_ofNat',
      Unfinished.accepts, Unfinished.extend, Bool.and_eq_true, decide_eq_true_eq]
    rw [if_neg (by omega), if_neg (by omega), if_neg (by omega), if_neg (by omega),
      if_neg (by omega), if_neg (by omega)]
    by_cases hF0 : v / 262144 % 8 = 0
    · rw [if_pos (by omega)]
      simp only
      rw [if_pos (by omega), if_pos (by omega), if_pos (by omega), char_ofNat (c := c) (by omega)]
    by_cases hF4 : v / 262144 % 8 = 4
    · rw [if_neg (by omega), if_neg (by omega), if_pos (by omega)]
      simp only
      rw [if_pos (by omega), if_pos (by omega), if_pos (by omega), char_ofNat (c := c) (by omega)]
    · rw [if_neg (by omega), if_pos (by omega)]
      simp only
      rw [if_pos (by omega), if_pos (by omega), if_pos (by omega), char_ofNat (c := c) (by omega)]

theorem decode_ofChars_append (chars : List Char) (rest : Bytes) :
    decode (ofChars chars ++ rest) = chars ++ decode rest := by
  induction chars with
  | nil => rfl
  | cons c chars ih =>
      unfold decode at ih ⊢
      rw [show ofChars (c :: chars) ++ rest = String.utf8EncodeChar c ++ (ofChars chars ++ rest) by
        simp [ofChars], decodeFrom_utf8EncodeChar, ih, List.cons_append]

theorem decode_ofChars (chars : List Char) : decode (ofChars chars) = chars := by
  simpa [decode, decodeFrom] using decode_ofChars_append chars []

theorem shown_ofText (text : String) : shown (ofText text) = text := by
  simp [shown, ofText, decode_ofChars]

theorem text?_ofText (text : String) : text? (ofText text) = some text := by
  simp [text?, isText, shown, ofText, decode_ofChars]

theorem text?_eq_some_iff {b : Bytes} {text : String} : text? b = some text ↔ b = ofText text := by
  constructor
  · intro h
    by_cases hb : ofChars (decode b) = b
    · simp only [text?, isText, hb, beq_self_eq_true, if_true, Option.some.injEq] at h
      subst h
      simp [ofText, shown, hb]
    · simp [text?, isText, hb] at h
  · rintro rfl
    exact text?_ofText text

end Bytes
end MakeLauncher
