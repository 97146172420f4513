import MakeLauncher.Text.WhiteSpace
import Mathlib.Data.List.Infix

/-! The characters that a byte string reads as, whatever stands in it. The reader is taken as a machine
that gives characters and comes to a state with each byte. A byte that can begin a character is never
one that goes on with another, so the reading is cut there, and what the reader has of a character that
it is in are always the last bytes that it has read. Main statement: a character other than the
replacement is read just where its UTF-8 form stands among the bytes, whatever stands around it. -/

namespace MakeLauncher

/-- The characters that a byte gives where a character can begin, and the state behind it. -/
def Lead.read : Lead → List Char × Option Unfinished
  | .whole c => ([c], none)
  | .start u => ([], some u)
  | .stray => ([replacement], none)

/-- A byte that begins a character of more bytes: how many they are, the bits that the byte gives, and
the range of the byte behind it. -/
inductive Opens (b : UInt8) : Unfinished → Prop
  | two (hlow : 0xC2 ≤ b.toNat) (hhigh : b.toNat < 0xE0) :
      Opens b ⟨0x80, 0xBF, 0, b.toNat % 32⟩
  | three {low high : Nat} (hlow : 0xE0 ≤ b.toNat) (hhigh : b.toNat < 0xF0)
      (hrange : 0x80 ≤ low ∧ high ≤ 0xBF) (hlong : b.toNat = 0xE0 → low = 0xA0)
      (hsurrogate : b.toNat = 0xED → high = 0x9F) :
      Opens b ⟨low, high, 1, b.toNat % 16⟩
  | four {low high : Nat} (hlow : 0xF0 ≤ b.toNat) (hhigh : b.toNat < 0xF5)
      (hrange : 0x80 ≤ low ∧ high ≤ 0xBF) (hlong : b.toNat = 0xF0 → low = 0x90)
      (hlast : b.toNat = 0xF4 → high = 0x8F) :
      Opens b ⟨low, high, 2, b.toNat % 8⟩

theorem Lead.opens_of_ofByte {b : UInt8} {u : Unfinished} (h : Lead.ofByte b = .start u) :
    Opens b u := by
  unfold Lead.ofByte at h
  dsimp only at h
  split at h
  · cases h
  split at h
  · cases h
  split at h
  · cases h
    exact .two (by omega) (by omega)
  split at h
  · rename_i hb
    cases h
    have hvalue : b.toNat % 16 = 0 := by omega
    exact hvalue ▸ .three (by omega) (by omega) (by omega) (by omega) (by omega)
  split at h
  · rename_i hb
    cases h
    have hvalue : b.toNat % 16 = 13 := by omega
    exact hvalue ▸ .three (by omega) (by omega) (by omega) (by omega) (by omega)
  split at h
  · cases h
    exact .three (by omega) (by omega) (by omega) (by omega) (by omega)
  split at h
  · rename_i hb
    cases h
    have hvalue : b.toNat % 8 = 0 := by omega
    exact hvalue ▸ .four (by omega) (by omega) (by omega) (by omega) (by omega)
  split at h
  · cases h
    exact .four (by omega) (by omega) (by omega) (by omega) (by omega)
  split at h
  · rename_i hb
    cases h
    have hvalue : b.toNat % 8 = 4 := by omega
    exact hvalue ▸ .four (by omega) (by omega) (by omega) (by omega) (by omega)
  · cases h

theorem Lead.ofByte_eq_whole {b : UInt8} {c : Char} (h : Lead.ofByte b = .whole c) :
    b.toNat < 0x80 ∧ c = Char.ofNat b.toNat := by
  unfold Lead.ofByte at h
  dsimp only at h
  repeat' split at h
  all_goals cases h
  rename_i hlt
  exact ⟨hlt, rfl⟩

namespace Bytes

/-! ### The form of a character from its bytes -/

theorem toNat_val_ofNat {n : Nat} (h : n.isValidChar) : (Char.ofNat n).val.toNat = n := by
  rw [Char.ofNat, dif_pos h]
  rfl

private theorem byte_ofNat {n : Nat} {b : UInt8} (h : n = b.toNat) : UInt8.ofNat n = b := by
  rw [h, UInt8.ofNat_toNat]

theorem utf8EncodeChar_one {a : UInt8} (ha : a.toNat < 0x80) :
    String.utf8EncodeChar (Char.ofNat a.toNat) = [a] := by
  have hvalid : a.toNat.isValidChar := Or.inl (by omega)
  unfold String.utf8EncodeChar
  rw [toNat_val_ofNat hvalid]
  dsimp only
  rw [if_pos (by omega), UInt8.ofNat_toNat]

theorem utf8EncodeChar_ascii {c : Char} (hascii : c.toNat < 128) :
    String.utf8EncodeChar c = [ascii c] := by
  have hbyte : (ascii c).toNat = c.toNat := by
    rw [ascii, UInt8.toNat_ofNat']
    omega
  have hform := utf8EncodeChar_one (a := ascii c) (by omega)
  rwa [hbyte, Char.ofNat_toNat] at hform

theorem utf8EncodeChar_two {a b : UInt8} (ha : 0xC2 ≤ a.toNat) (ha' : a.toNat < 0xE0)
    (hb : 0x80 ≤ b.toNat) (hb' : b.toNat ≤ 0xBF) :
    String.utf8EncodeChar (Char.ofNat (a.toNat % 32 * 64 + b.toNat % 64)) = [a, b] := by
  generalize hv : a.toNat % 32 * 64 + b.toNat % 64 = v
  have hvalid : v.isValidChar := Or.inl (by omega)
  unfold String.utf8EncodeChar
  rw [toNat_val_ofNat hvalid]
  dsimp only
  rw [if_neg (by omega), if_pos (by omega), byte_ofNat (b := a) (by omega),
    byte_ofNat (b := b) (by omega)]

theorem utf8EncodeChar_three {a b c : UInt8} (ha : 0xE0 ≤ a.toNat) (ha' : a.toNat < 0xF0)
    (hb : 0x80 ≤ b.toNat) (hb' : b.toNat ≤ 0xBF) (hc : 0x80 ≤ c.toNat) (hc' : c.toNat ≤ 0xBF)
    (hlong : a.toNat = 0xE0 → 0xA0 ≤ b.toNat) (hsurrogate : a.toNat = 0xED → b.toNat ≤ 0x9F) :
    String.utf8EncodeChar
      (Char.ofNat ((a.toNat % 16 * 64 + b.toNat % 64) * 64 + c.toNat % 64)) = [a, b, c] := by
  generalize hv : (a.toNat % 16 * 64 + b.toNat % 64) * 64 + c.toNat % 64 = v
  have hvalid : v.isValidChar := by
    unfold Nat.isValidChar
    omega
  unfold String.utf8EncodeChar
  rw [toNat_val_ofNat hvalid]
  dsimp only
  rw [if_neg (by omega), if_neg (by omega), if_pos (by omega), byte_ofNat (b := a) (by omega),
    byte_ofNat (b := b) (by omega), byte_ofNat (b := c) (by omega)]

theorem utf8EncodeChar_four {a b c d : UInt8} (ha : 0xF0 ≤ a.toNat) (ha' : a.toNat < 0xF5)
    (hb : 0x80 ≤ b.toNat) (hb' : b.toNat ≤ 0xBF) (hc : 0x80 ≤ c.toNat) (hc' : c.toNat ≤ 0xBF)
    (hd : 0x80 ≤ d.toNat) (hd' : d.toNat ≤ 0xBF)
    (hlong : a.toNat = 0xF0 → 0x90 ≤ b.toNat) (hlast : a.toNat = 0xF4 → b.toNat ≤ 0x8F) :
    String.utf8EncodeChar (Char.ofNat
      (((a.toNat % 8 * 64 + b.toNat % 64) * 64 + c.toNat % 64) * 64 + d.toNat % 64)) =
      [a, b, c, d] := by
  generalize hv :
    ((a.toNat % 8 * 64 + b.toNat % 64) * 64 + c.toNat % 64) * 64 + d.toNat % 64 = v
  have hvalid : v.isValidChar := Or.inr (by omega)
  unfold String.utf8EncodeChar
  rw [toNat_val_ofNat hvalid]
  dsimp only
  rw [if_neg (by omega), if_neg (by omega), if_neg (by omega), byte_ofNat (b := a) (by omega),
    byte_ofNat (b := b) (by omega), byte_ofNat (b := c) (by omega), byte_ofNat (b := d) (by omega)]

/-! ### One byte -/

/-- The characters that one more byte gives in a state, and the state behind it. -/
def advance : Option Unfinished → UInt8 → List Char × Option Unfinished
  | none, b => (Lead.ofByte b).read
  | some u, b =>
      if u.accepts b then
        match u.owed with
        | 0 => ([Char.ofNat (u.extend b)], none)
        | owed + 1 => ([], some ⟨0x80, 0xBF, owed, u.extend b⟩)
      else (replacement :: (Lead.ofByte b).read.1, (Lead.ofByte b).read.2)

theorem decodeFrom_cons (state : Option Unfinished) (b : UInt8) (rest : Bytes) :
    decodeFrom state (b :: rest) =
      (advance state b).1 ++ decodeFrom (advance state b).2 rest := by
  cases state with
  | none =>
      simp only [decodeFrom, advance]
      cases Lead.ofByte b <;> rfl
  | some u =>
      simp only [decodeFrom, advance]
      cases u.accepts b with
      | true => cases u.owed <;> rfl
      | false => cases Lead.ofByte b <;> rfl

theorem advance_of_not_accepts {u : Unfinished} {b : UInt8} (h : u.accepts b = false) :
    advance (some u) b = (replacement :: (Lead.ofByte b).read.1, (Lead.ofByte b).read.2) := by
  simp only [advance, h, Bool.false_eq_true, if_false]

theorem advance_of_last {u : Unfinished} {b : UInt8} (h : u.accepts b = true) (howed : u.owed = 0) :
    advance (some u) b = ([Char.ofNat (u.extend b)], none) := by
  simp only [advance, h, howed, if_true]

theorem advance_of_more {u : Unfinished} {b : UInt8} {owed : Nat} (h : u.accepts b = true)
    (howed : u.owed = owed + 1) :
    advance (some u) b = ([], some ⟨0x80, 0xBF, owed, u.extend b⟩) := by
  simp only [advance, h, howed, if_true]

/-- The bytes of the character that a state is in: what the reader has of it. -/
inductive Holds : Bytes → Option Unfinished → Prop
  | between : Holds [] none
  | lead {b : UInt8} {u : Unfinished} (hopens : Opens b u) : Holds [b] (some u)
  | tail {read : Bytes} {u : Unfinished} {b : UInt8} {owed : Nat} (h : Holds read (some u))
      (haccepts : u.accepts b = true) (howed : u.owed = owed + 1) :
      Holds (read ++ [b]) (some ⟨0x80, 0xBF, owed, u.extend b⟩)

variable {read : Bytes} {state : Option Unfinished} {u : Unfinished} {b : UInt8}

theorem accepts_eq_true_iff : u.accepts b = true ↔ u.low ≤ b.toNat ∧ b.toNat ≤ u.high := by
  simp only [Unfinished.accepts, Bool.and_eq_true, decide_eq_true_eq]

/-- A byte that goes on with a character is none that can begin one. -/
theorem Holds.range_of_accepts (h : Holds read (some u)) (haccepts : u.accepts b = true) :
    0x80 ≤ b.toNat ∧ b.toNat ≤ 0xBF := by
  obtain ⟨hlow, hhigh⟩ := accepts_eq_true_iff.mp haccepts
  cases h with
  | lead hopens =>
      cases hopens with
      | two => exact ⟨hlow, hhigh⟩
      | three _ _ hrange => exact ⟨hrange.1.trans hlow, hhigh.trans hrange.2⟩
      | four _ _ hrange => exact ⟨hrange.1.trans hlow, hhigh.trans hrange.2⟩
  | tail => exact ⟨hlow, hhigh⟩

/-- A character has four bytes at most, so at most two are owed behind the one that comes next. -/
theorem Holds.owed_le (h : Holds read (some u)) : u.owed ≤ 2 := by
  generalize hstate : some u = state at h
  induction h generalizing u with
  | between => cases hstate
  | lead hopens =>
      cases hstate
      cases hopens with
      | two => exact Nat.zero_le 2
      | three => exact Nat.le_succ 1
      | four => exact le_rfl
  | tail _ _ howed ih =>
      cases hstate
      have hle := ih rfl
      dsimp only
      omega

/-- A character that the reader completes has as its form the bytes that it was read from. -/
theorem Holds.utf8EncodeChar_extend (h : Holds read (some u)) (haccepts : u.accepts b = true)
    (howed : u.owed = 0) :
    String.utf8EncodeChar (Char.ofNat (u.extend b)) = read ++ [b] := by
  obtain ⟨hb, hb'⟩ := h.range_of_accepts haccepts
  cases h with
  | lead hopens =>
      cases hopens with
      | two hlow hhigh => exact utf8EncodeChar_two hlow hhigh hb hb'
      | three => cases howed
      | four => cases howed
  | tail h hc howed₁ =>
  cases howed
  obtain ⟨hc', hc''⟩ := h.range_of_accepts hc
  obtain ⟨hsecond, hsecond'⟩ := accepts_eq_true_iff.mp hc
  cases h with
  | lead hopens =>
      cases hopens with
      | two => cases howed₁
      | three hlow hhigh _ hlong hsurrogate =>
          exact utf8EncodeChar_three hlow hhigh hc' hc'' hb hb'
            (fun heq => (hlong heq).symm.trans_le hsecond)
            (fun heq => hsecond'.trans_eq (hsurrogate heq))
      | four => cases howed₁
  | tail h hd howed₂ =>
  cases howed₁
  obtain ⟨hd', hd''⟩ := h.range_of_accepts hd
  obtain ⟨hsecond, hsecond'⟩ := accepts_eq_true_iff.mp hd
  cases h with
  | lead hopens =>
      cases hopens with
      | two => cases howed₂
      | three => cases howed₂
      | four hlow hhigh _ hlong hlast =>
          exact utf8EncodeChar_four hlow hhigh hd' hd'' hc' hc'' hb hb'
            (fun heq => (hlong heq).symm.trans_le hsecond)
            (fun heq => hsecond'.trans_eq (hlast heq))
  | tail h _ hmore =>
      cases howed₂
      exact absurd (hmore ▸ h.owed_le) (by decide)

/-- Where a character can begin, a byte gives the replacement, or it gives a character or begins one,
and then all of it is that byte. -/
theorem holds_read (b : UInt8) :
    (∃ read, read <:+ [b] ∧ Holds read (Lead.ofByte b).read.2) ∧
    ∀ c ∈ (Lead.ofByte b).read.1, c ≠ replacement → String.utf8EncodeChar c = [b] := by
  cases h : Lead.ofByte b with
  | whole c =>
      obtain ⟨hlt, rfl⟩ := Lead.ofByte_eq_whole h
      refine ⟨⟨[], List.nil_suffix, .between⟩, fun c hc _ => ?_⟩
      rw [List.mem_singleton.mp hc]
      exact utf8EncodeChar_one hlt
  | start u => exact ⟨⟨[b], List.suffix_rfl, .lead (Lead.opens_of_ofByte h)⟩, nofun⟩
  | stray =>
      refine ⟨⟨[], List.nil_suffix, .between⟩, fun c hc hne => ?_⟩
      exact absurd (List.mem_singleton.mp hc) hne

/-- One byte: what the state behind it has are the last of the bytes, and a character that it completes
has the last of the bytes as its form. -/
theorem Holds.advance {state : Option Unfinished} (h : Holds read state) (b : UInt8) :
    (∃ behind, behind <:+ read ++ [b] ∧ Holds behind (advance state b).2) ∧
    ∀ c ∈ (Bytes.advance state b).1, c ≠ replacement →
      String.utf8EncodeChar c <:+ read ++ [b] := by
  obtain ⟨⟨lead, hlead, hholds⟩, hchars⟩ := holds_read b
  cases state with
  | none =>
      cases h
      exact ⟨⟨lead, hlead, hholds⟩, fun c hc hne => hchars c hc hne ▸ List.suffix_rfl⟩
  | some u =>
  cases haccepts : u.accepts b with
  | false =>
      rw [advance_of_not_accepts haccepts]
      have hlast : [b] <:+ read ++ [b] := List.suffix_append read [b]
      refine ⟨⟨lead, hlead.trans hlast, hholds⟩, fun c hc hne => ?_⟩
      rcases List.mem_cons.mp hc with hreplaced | hc
      · exact absurd hreplaced hne
      · exact hchars c hc hne ▸ hlast
  | true =>
  cases howed : u.owed with
  | zero =>
      rw [advance_of_last haccepts howed]
      refine ⟨⟨[], List.nil_suffix, .between⟩, fun c hc _ => ?_⟩
      rw [List.mem_singleton.mp hc, h.utf8EncodeChar_extend haccepts howed]
  | succ owed =>
      rw [advance_of_more haccepts howed]
      exact ⟨⟨_, List.suffix_rfl, .tail h haccepts howed⟩, nofun⟩

/-- A byte by itself reads as an ASCII character, or it is ill-formed. -/
theorem decode_singleton (b : UInt8) :
    (b.toNat < 128 ∧ decode [b] = [Char.ofNat b.toNat]) ∨ decode [b] = [replacement] := by
  rw [decode, decodeFrom_cons, advance]
  cases hlead : Lead.ofByte b with
  | whole c =>
      obtain ⟨hlt, rfl⟩ := Lead.ofByte_eq_whole hlead
      exact .inl ⟨hlt, rfl⟩
  | start u => exact .inr rfl
  | stray => exact .inr rfl

/-! ### The whole string -/

/-- A byte that can begin a character cuts the reading. -/
theorem decodeFrom_append_of_lead {state : Option Unfinished} (h : Holds read state)
    (hlead : b.toNat < 0x80 ∨ 0xC0 ≤ b.toNat) (before rest : Bytes) :
    decodeFrom state (before ++ b :: rest) =
      decodeFrom state before ++ decodeFrom none (b :: rest) := by
  induction before generalizing state read with
  | nil =>
      cases state with
      | none => rfl
      | some u =>
          have hother : u.accepts b = false := by
            by_contra haccepts
            have hrange := h.range_of_accepts (Bool.not_eq_false _ ▸ haccepts)
            omega
          rw [List.nil_append, decodeFrom_cons, advance_of_not_accepts hother, decodeFrom_cons none]
          rfl
  | cons a before ih =>
      obtain ⟨⟨behind, -, hbehind⟩, -⟩ := h.advance a
      rw [List.cons_append, decodeFrom_cons, ih hbehind, decodeFrom_cons state, List.append_assoc]

theorem infix_of_mem_decodeFrom {state : Option Unfinished} (h : Holds read state) {c : Char}
    (hc : c ≠ replacement) {rest : Bytes} (hmem : c ∈ decodeFrom state rest) :
    String.utf8EncodeChar c <:+: read ++ rest := by
  induction rest generalizing state read with
  | nil =>
      cases state with
      | none => cases hmem
      | some u => exact absurd (List.mem_singleton.mp hmem) hc
  | cons b rest ih =>
      obtain ⟨⟨behind, hsuffix, hbehind⟩, hchars⟩ := h.advance b
      have hcons : read ++ b :: rest = (read ++ [b]) ++ rest := by simp
      rw [decodeFrom_cons, List.mem_append] at hmem
      rw [hcons]
      rcases hmem with hnow | hlater
      · exact (hchars c hnow hc).isInfix.trans (List.prefix_append _ rest).isInfix
      · obtain ⟨front, hfront⟩ := hsuffix
        have hrest : behind ++ rest <:+ (read ++ [b]) ++ rest := ⟨front, by
          rw [← hfront, List.append_assoc]⟩
        exact (ih hbehind hlater).trans hrest.isInfix

/-- The first byte of the form of a character goes on with no other. -/
theorem exists_utf8EncodeChar_eq_cons (c : Char) :
    ∃ b tail, String.utf8EncodeChar c = b :: tail ∧ (b.toNat < 0x80 ∨ 0xC0 ≤ b.toNat) := by
  unfold String.utf8EncodeChar
  generalize c.val.toNat = v
  dsimp only
  split
  · exact ⟨_, _, rfl, .inl (by rw [UInt8.toNat_ofNat']; omega)⟩
  split
  · exact ⟨_, _, rfl, .inr (by rw [UInt8.toNat_ofNat']; omega)⟩
  split
  · exact ⟨_, _, rfl, .inr (by rw [UInt8.toNat_ofNat']; omega)⟩
  · exact ⟨_, _, rfl, .inr (by rw [UInt8.toNat_ofNat']; omega)⟩

/-- Before the form of a character the bytes read as they would alone, and so do those behind it. -/
theorem decode_append_utf8EncodeChar_append (before : Bytes) (c : Char) (after : Bytes) :
    decode (before ++ String.utf8EncodeChar c ++ after) = decode before ++ c :: decode after := by
  obtain ⟨b, tail, hform, hlead⟩ := exists_utf8EncodeChar_eq_cons c
  have hread := decodeFrom_utf8EncodeChar c after
  rw [hform] at hread
  rw [decode, hform, List.append_assoc, List.cons_append,
    decodeFrom_append_of_lead .between hlead before]
  rw [← List.cons_append, hread]
  rfl

/-- A byte that is a character by itself cuts the reading. -/
theorem decode_append_cons_of_form {c : Char} {b : UInt8} (hform : String.utf8EncodeChar c = [b])
    (before after : Bytes) : decode (before ++ b :: after) = decode before ++ c :: decode after := by
  have hread := decode_append_utf8EncodeChar_append before c after
  rwa [hform, List.append_assoc, List.singleton_append] at hread

/-- A character other than the replacement is read out of bytes just when its form stands among
them. -/
theorem mem_decode_iff {c : Char} (hc : c ≠ replacement) {b : Bytes} :
    c ∈ decode b ↔ String.utf8EncodeChar c <:+: b := by
  constructor
  · intro hmem
    exact infix_of_mem_decodeFrom .between hc hmem
  · rintro ⟨before, after, rfl⟩
    rw [decode_append_utf8EncodeChar_append, List.mem_append]
    exact .inr List.mem_cons_self

/-! ### Reading without a replacement -/

/-- A byte that gives no replacement leaves nothing out: the forms of the characters that it gives and
the bytes of the state behind it are all that has been read. -/
theorem Holds.advance_without_replacement {state : Option Unfinished} (h : Holds read state)
    {b : UInt8} (hread : replacement ∉ (Bytes.advance state b).1) :
    ∃ behind, Holds behind (Bytes.advance state b).2 ∧
      ofChars (Bytes.advance state b).1 ++ behind = read ++ [b] := by
  cases state with
  | none =>
      cases h
      cases hlead : Lead.ofByte b with
      | whole c =>
          obtain ⟨hlt, rfl⟩ := Lead.ofByte_eq_whole hlead
          refine ⟨[], ?_⟩
          simp only [Bytes.advance, hlead, Lead.read, ofChars, List.flatMap_cons, List.flatMap_nil,
            List.append_nil, List.nil_append]
          exact ⟨.between, utf8EncodeChar_one hlt⟩
      | start u =>
          refine ⟨[b], ?_⟩
          simp only [Bytes.advance, hlead, Lead.read, ofChars, List.flatMap_nil, and_true]
          exact .lead (Lead.opens_of_ofByte hlead)
      | stray =>
          simp only [Bytes.advance, hlead, Lead.read, List.mem_singleton, not_true_eq_false]
            at hread
  | some u =>
  cases haccepts : u.accepts b with
  | false =>
      rw [advance_of_not_accepts haccepts] at hread
      exact absurd List.mem_cons_self hread
  | true =>
  cases howed : u.owed with
  | zero =>
      rw [advance_of_last haccepts howed]
      refine ⟨[], .between, ?_⟩
      have hform := h.utf8EncodeChar_extend haccepts howed
      simpa only [ofChars, List.flatMap_cons, List.flatMap_nil, List.append_nil] using hform
  | succ owed =>
      rw [advance_of_more haccepts howed]
      exact ⟨read ++ [b], .tail h haccepts howed, rfl⟩

theorem ofChars_decodeFrom {state : Option Unfinished} (h : Holds read state) {rest : Bytes}
    (hread : replacement ∉ decodeFrom state rest) :
    ofChars (decodeFrom state rest) = read ++ rest := by
  induction rest generalizing state read with
  | nil =>
      cases state with
      | none =>
          cases h
          rfl
      | some u => exact absurd (List.mem_singleton_self replacement) hread
  | cons b rest ih =>
      rw [decodeFrom_cons, List.mem_append, not_or] at hread
      obtain ⟨behind, hbehind, hbytes⟩ := h.advance_without_replacement hread.1
      calc ofChars (decodeFrom state (b :: rest))
          = ofChars (Bytes.advance state b).1 ++
              ofChars (decodeFrom (Bytes.advance state b).2 rest) := by
            rw [decodeFrom_cons, ofChars_append]
        _ = (ofChars (Bytes.advance state b).1 ++ behind) ++ rest := by
            rw [ih hbehind hread.2, List.append_assoc]
        _ = read ++ b :: rest := by rw [hbytes, List.append_assoc, List.singleton_append]

theorem decode_eq_iff {chars : List Char} (h : replacement ∉ chars) {b : Bytes} :
    decode b = chars ↔ b = ofChars chars := by
  constructor
  · rintro rfl
    exact (ofChars_decodeFrom .between h).symm
  · rintro rfl
    exact decode_ofChars chars

theorem shown_eq_iff {text : String} (h : replacement ∉ text.toList) {b : Bytes} :
    b.shown = text ↔ b = ofText text := by
  rw [shown, ofText, ← decode_eq_iff h]
  constructor
  · rintro rfl
    exact String.toList_ofList.symm
  · intro hchars
    rw [hchars, String.ofList_toList]

end Bytes
end MakeLauncher
