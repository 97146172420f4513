import MakeLauncher.CommandLine
import MakeLauncher.System.WaitStatus

/-! What status words say, and the exit codes that they come to. A word is told by two of its fields, the
low seven bits and the bits 8 to 15; a sign, a core dump and all bits above them count for nothing. Main
statement: each exit code fits in a byte and is told from the two fields, it counts as success just when
both of them are zero, and 32-bit words are wide enough to come to it. -/

namespace MakeLauncher

namespace WaitStatus

variable {status : WaitStatus}

theorem lt_of_ending_eq_exited {code : Nat} (h : status.ending = .exited code) : code < 256 := by
  unfold ending at h
  dsimp only at h
  split at h
  · cases h
    exact Nat.mod_lt _ (by decide)
  · split at h <;> cases h

theorem signal_of_ending_eq_killed {signal : Nat} {dumped : Bool}
    (h : status.ending = .killed signal dumped) : 0 < signal ∧ signal < 127 := by
  unfold ending at h
  dsimp only at h
  split at h
  · cases h
  · rename_i hzero
    split at h
    · cases h
    · rename_i hfull
      cases h
      have hbits : status.bits % 128 < 128 := Nat.mod_lt _ (by decide)
      omega

/-- An exit code is one of a process that ended by itself, or counts a signal from 128 on, or is 1. -/
theorem exitCode_mem_byte (status : WaitStatus) : 0 ≤ status.exitCode ∧ status.exitCode ≤ 255 := by
  unfold exitCode
  cases hending : status.ending with
  | exited code =>
      have hcode := lt_of_ending_eq_exited hending
      dsimp only
      omega
  | killed signal dumped =>
      have hsignal := signal_of_ending_eq_killed hending
      dsimp only
      omega
  | notEnded => decide

/-! ### The fields of a word -/

/-- The low seven bits of a word: the signal that ended a process, or none of them, or all. -/
def signalBits (status : WaitStatus) : BitVec 7 := status.raw.toBitVec.extractLsb' 0 7

/-- The bits 8 to 15 of a word: the exit code of a process that ended by itself. -/
def codeBits (status : WaitStatus) : BitVec 8 := status.raw.toBitVec.extractLsb' 8 8

theorem toNat_signalBits (status : WaitStatus) : status.signalBits.toNat = status.bits % 128 := by
  rw [signalBits, BitVec.extractLsb'_toNat, Nat.shiftRight_zero]
  rfl

theorem toNat_codeBits (status : WaitStatus) : status.codeBits.toNat = status.bits / 256 % 256 := by
  rw [codeBits, BitVec.extractLsb'_toNat, Nat.shiftRight_eq_div_pow]
  rfl

theorem signalBits_eq_iff {field : BitVec 7} :
    status.signalBits = field ↔ status.bits % 128 = field.toNat := by
  rw [← BitVec.toNat_inj, toNat_signalBits]

/-! ### The exit code from the fields -/

theorem exitCode_of_signalBits_eq_zero (h : status.signalBits = 0) :
    status.exitCode = status.codeBits.toNat := by
  have hlow : status.bits % 128 = 0 := signalBits_eq_iff.mp h
  unfold exitCode ending
  rw [toNat_codeBits, hlow]
  rfl

theorem exitCode_of_signalBits_eq_full (h : status.signalBits = 127) : status.exitCode = 1 := by
  have hlow : status.bits % 128 = 127 := signalBits_eq_iff.mp h
  unfold exitCode ending
  rw [hlow]
  rfl

theorem exitCode_of_signal (hsome : status.signalBits ≠ 0) (hnotAll : status.signalBits ≠ 127) :
    status.exitCode = 128 + status.signalBits.toNat := by
  have hzero : status.bits % 128 ≠ 0 := fun h => hsome (signalBits_eq_iff.mpr h)
  have hfull : status.bits % 128 ≠ 127 := fun h => hnotAll (signalBits_eq_iff.mpr h)
  unfold exitCode ending
  rw [toNat_signalBits]
  simp only [hzero, hfull, if_false]

theorem exitCode_eq_zero_iff :
    status.exitCode = 0 ↔ status.signalBits = 0 ∧ status.codeBits = 0 := by
  by_cases hzero : status.signalBits = 0
  · rw [exitCode_of_signalBits_eq_zero hzero, ← BitVec.toNat_inj (x := status.codeBits)]
    simp [hzero]
  · by_cases hfull : status.signalBits = 127
    · simp [exitCode_of_signalBits_eq_full hfull, hfull]
    · rw [exitCode_of_signal hzero hfull]
      simp only [hzero, false_and, iff_false]
      omega

theorem success_eq_true_iff : status.success = true ↔ status.exitCode = 0 := by
  unfold success exitCode
  rw [decide_eq_true_iff]
  cases hending : status.ending with
  | exited code => simp
  | killed signal dumped =>
      simp only [reduceCtorEq, false_iff]
      omega
  | notEnded => simp

/-- The test of the whole word is the narrower one: stray bits beside the fields fail it alone. -/
theorem success_of_isClear (h : status.isClear = true) : status.success = true := by
  have hword : status = mk 0 := congrArg mk (of_decide_eq_true h)
  rw [hword]
  decide

example : (mk 0x80).success = true ∧ (mk 0x80).isClear = false ∧ (mk 0x10000).success = true ∧
    (mk 0x10000).isClear = false := by decide

/-! ### Words of 32 bits -/

/-- The exit code as 32-bit words come to it: fields are masked out, a shift to the right brings in the
sign, and a sum wraps around. -/
def exitWord (status : WaitStatus) : Int32 :=
  if status.raw &&& 0x7F = 0 then (status.raw >>> 8) &&& 0xFF
  else if status.raw &&& 0x7F = 0x7F then 1
  else 128 + (status.raw &&& 0x7F)

/-- A mask takes what the sign has brought in away again, and leaves a field. -/
theorem sshiftRight_and_allOnes (word : BitVec 32) {start length : Nat}
    (hfield : start + length ≤ 32) :
    word.sshiftRight start &&& (BitVec.allOnes length).setWidth 32 =
      (word.extractLsb' start length).setWidth 32 := by
  apply BitVec.eq_of_getLsbD_eq
  intro place hplace
  rw [BitVec.getLsbD_and, BitVec.getLsbD_sshiftRight, BitVec.getLsbD_setWidth,
    BitVec.getLsbD_setWidth, BitVec.getLsbD_allOnes, BitVec.getLsbD_extractLsb']
  by_cases hinside : place < length
  · have hlt : start + place < 32 := by omega
    simp [hinside, hlt, hplace]
  · simp [hinside]

/-- A field that leaves room for the sign is a number without one. -/
theorem toInt_setWidth_field {length : Nat} (field : BitVec length) (hlength : length < 32) :
    (field.setWidth 32).toInt = field.toNat := by
  have hfield : field.toNat < 2 ^ 31 :=
    Nat.lt_of_lt_of_le field.isLt (Nat.pow_le_pow_right (by decide) (by omega))
  have hwide : (field.setWidth 32).toNat = field.toNat := by
    rw [BitVec.toNat_setWidth]
    exact Nat.mod_eq_of_lt (by omega)
  rw [BitVec.toInt_eq_toNat_of_lt (by omega), hwide]

theorem toInt_low (status : WaitStatus) :
    (status.raw &&& 0x7F).toInt = status.signalBits.toNat := by
  have hmask : (status.raw &&& 0x7F).toBitVec = status.signalBits.setWidth 32 := by
    rw [signalBits, ← sshiftRight_and_allOnes _ (by decide), BitVec.sshiftRight_zero]
    exact Int32.toBitVec_and _ _
  rw [← Int32.toInt_toBitVec, hmask, toInt_setWidth_field _ (by decide)]

theorem toInt_code (status : WaitStatus) :
    ((status.raw >>> 8) &&& 0xFF).toInt = status.codeBits.toNat := by
  have hmask : ((status.raw >>> 8) &&& 0xFF).toBitVec = status.codeBits.setWidth 32 := by
    rw [codeBits, ← sshiftRight_and_allOnes _ (by decide), Int32.toBitVec_and,
      Int32.toBitVec_shiftRight]
    rfl
  rw [← Int32.toInt_toBitVec, hmask, toInt_setWidth_field _ (by decide)]

theorem low_eq_iff {word : Int32} {field : BitVec 7} (hword : word.toInt = field.toNat) :
    status.raw &&& 0x7F = word ↔ status.signalBits = field := by
  rw [← Int32.toInt_inj, toInt_low, hword, ← BitVec.toNat_inj]
  exact Int.ofNat_inj

theorem toInt_exitWord (status : WaitStatus) : status.exitWord.toInt = status.exitCode := by
  have hnone : status.raw &&& 0x7F = 0 ↔ status.signalBits = 0 := low_eq_iff rfl
  have hall : status.raw &&& 0x7F = 0x7F ↔ status.signalBits = 127 := low_eq_iff rfl
  unfold exitWord
  by_cases hzero : status.signalBits = 0
  · rw [if_pos (hnone.mpr hzero), toInt_code, exitCode_of_signalBits_eq_zero hzero]
  · rw [if_neg (mt hnone.mp hzero)]
    by_cases hfull : status.signalBits = 127
    · rw [if_pos (hall.mpr hfull), exitCode_of_signalBits_eq_full hfull]
      rfl
    · have hlt : status.signalBits.toNat < 128 := status.signalBits.isLt
      have hbase : (128 : Int32).toInt = 128 := rfl
      rw [if_neg (mt hall.mp hfull), exitCode_of_signal hzero hfull, Int32.toInt_add, toInt_low, hbase]
      exact Int.bmod_eq_of_le (by omega) (by omega)

/-! ### The core dump -/

def dumpBit : Int32 := 0x80

/-- Words with the same fields come to the same exit code. -/
theorem exitCode_congr {other : WaitStatus} (hsignal : other.signalBits = status.signalBits)
    (hcode : other.codeBits = status.codeBits) : other.exitCode = status.exitCode := by
  by_cases hzero : status.signalBits = 0
  · rw [exitCode_of_signalBits_eq_zero hzero, exitCode_of_signalBits_eq_zero (hsignal.trans hzero),
      hcode]
  · have hzero' : other.signalBits ≠ 0 := hsignal ▸ hzero
    by_cases hfull : status.signalBits = 127
    · rw [exitCode_of_signalBits_eq_full hfull,
        exitCode_of_signalBits_eq_full (hsignal.trans hfull)]
    · have hfull' : other.signalBits ≠ 127 := hsignal ▸ hfull
      rw [exitCode_of_signal hzero hfull, exitCode_of_signal hzero' hfull', hsignal]

/-- The bit of the core dump stands between the fields. -/
theorem exitCode_with_dump (status : WaitStatus) :
    (mk (status.raw ||| dumpBit)).exitCode = status.exitCode := by
  apply exitCode_congr
  · rw [signalBits, Int32.toBitVec_or, BitVec.extractLsb'_or]
    exact BitVec.or_zero
  · rw [codeBits, Int32.toBitVec_or, BitVec.extractLsb'_or]
    exact BitVec.or_zero

theorem exitCode_without_dump (status : WaitStatus) :
    (mk (status.raw &&& ~~~dumpBit)).exitCode = status.exitCode := by
  apply exitCode_congr
  · rw [signalBits, Int32.toBitVec_and, BitVec.extractLsb'_and]
    exact BitVec.and_allOnes
  · rw [codeBits, Int32.toBitVec_and, BitVec.extractLsb'_and]
    exact BitVec.and_allOnes

end WaitStatus

theorem exitByte_exitCode (status : WaitStatus) :
    (exitByte status.exitCode : Int) = status.exitCode := by
  obtain ⟨hnonneg, hle⟩ := status.exitCode_mem_byte
  unfold exitByte
  omega

namespace WaitStatus

/-- The exit code of a word: a byte, which the system keeps as it is, and which 32-bit words come to. It
is 0 just for a process that ended by itself with 0, so neither for one that a signal ended nor for one
that has not ended; it is the code of a process that ended by itself, 128 and the signal of one that a
signal ended, whether there is a core dump or not, and 1 otherwise. Success is that of the exit code here;
the system's own test is of the whole word. -/
theorem exitCode_told_from_fields (status : WaitStatus) :
    (0 ≤ status.exitCode ∧ status.exitCode ≤ 255 ∧
      (exitByte status.exitCode : Int) = status.exitCode) ∧
    (status.exitCode = 0 ↔ status.signalBits = 0 ∧ status.codeBits = 0) ∧
    (status.signalBits = 0 → status.exitCode = status.codeBits.toNat) ∧
    (status.signalBits ≠ 0 → status.signalBits ≠ 127 →
      status.exitCode = 128 + status.signalBits.toNat ∧
      129 ≤ status.exitCode ∧ status.exitCode ≤ 254 ∧
      (mk (status.raw ||| dumpBit)).exitCode = status.exitCode ∧
      (mk (status.raw &&& ~~~dumpBit)).exitCode = status.exitCode) ∧
    (status.signalBits = 127 → status.exitCode = 1) ∧
    (status.signalBits ≠ 0 → status.success = false) ∧
    (status.success = true ↔ status.exitCode = 0) ∧
    status.exitWord.toInt = status.exitCode := by
  obtain ⟨hnonneg, hle⟩ := status.exitCode_mem_byte
  refine ⟨⟨hnonneg, hle, exitByte_exitCode status⟩, exitCode_eq_zero_iff,
    exitCode_of_signalBits_eq_zero, ?_, exitCode_of_signalBits_eq_full, ?_, success_eq_true_iff,
    toInt_exitWord status⟩
  · intro hsome hnotAll
    have hcode := exitCode_of_signal hsome hnotAll
    have hlow : status.signalBits.toNat ≠ 0 := fun h => hsome (BitVec.eq_of_toNat_eq h)
    have hhigh : status.signalBits.toNat ≠ 127 := fun h => hnotAll (BitVec.eq_of_toNat_eq h)
    have hlt : status.signalBits.toNat < 128 := status.signalBits.isLt
    refine ⟨hcode, by omega, by omega, exitCode_with_dump status, exitCode_without_dump status⟩
  · intro hsome
    rw [← Bool.not_eq_true, success_eq_true_iff, exitCode_eq_zero_iff]
    exact fun hzero => hsome hzero.1

/-- Words with stray bits above the fields and a sign: of a process that signal 9 ended with a core dump,
of one that ended by itself with 255, and of one that is stopped. -/
theorem exitCode_told_from_fields_of_strayBits :
    (mk (-32631)).signalBits ≠ 0 ∧ (mk (-32631)).signalBits ≠ 127 ∧
    (mk (-32631)).exitCode = 137 ∧ (mk (-32759)).exitCode = 137 ∧
    (mk (-256)).signalBits = 0 ∧ (mk (-256)).exitCode = 255 ∧
    (mk (-60545)).signalBits = 127 ∧ (mk (-60545)).exitCode = 1 ∧
    (mk (-60545)).signalBits ≠ 0 ∧ (mk (-60545)).success = false := by
  have hsome : (mk (-32631)).signalBits ≠ 0 := by decide
  have hnotAll : (mk (-32631)).signalBits ≠ 127 := by decide
  have hnone : (mk (-256)).signalBits = 0 := by decide
  have hall : (mk (-60545)).signalBits = 127 := by decide
  have hstopped : (mk (-60545)).signalBits ≠ 0 := by decide
  obtain ⟨-, -, -, hkilled, -⟩ := exitCode_told_from_fields (mk (-32631))
  obtain ⟨hcode, -, -, -, hundumped⟩ := hkilled hsome hnotAll
  obtain ⟨-, -, hexited, -⟩ := exitCode_told_from_fields (mk (-256))
  obtain ⟨-, -, -, -, hnotEnded, hfailed, -⟩ := exitCode_told_from_fields (mk (-60545))
  have hcode : (mk (-32631)).exitCode = 137 := hcode
  exact ⟨hsome, hnotAll, hcode, hundumped.trans hcode, hnone, hexited hnone, hall, hnotEnded hall,
    hstopped, hfailed hstopped⟩

end WaitStatus
end MakeLauncher
