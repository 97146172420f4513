import MakeLauncher.Argument
import MakeLauncher.Proofs.Decoding
import Mathlib.Data.List.TakeWhile

/-! The assignments that the launcher takes notice of, told from the bytes of an argument. The reader
looks at an argument as it is shown, where replacement characters stand for ill-formed bytes. An equals
sign is shown just where its byte stands, so the name and the value are cut where the bytes are; and no
name and no value that turns a switch on has a replacement in it, so none is shown for other bytes than
its own. Main statement: an argument is an assignment just when its bytes begin with one of four names
and an equals sign, and what it assigns is told from the bytes behind them. -/

namespace MakeLauncher

/-- A switch is turned on by the bytes of `1` and of `true`, and by none that are only shown so. -/
theorem isOn_shown (value : Bytes) :
    isOn value.shown = decide (value = Bytes.ofText "1" ∨ value = Bytes.ofText "true") := by
  have hone : value.shown = "1" ↔ value = Bytes.ofText "1" := Bytes.shown_eq_iff (by decide)
  have htrue : value.shown = "true" ↔ value = Bytes.ofText "true" :=
    Bytes.shown_eq_iff (by decide)
  simp only [isOn, hone, htrue, Bool.decide_or]

namespace Assignment

def equals : UInt8 := Bytes.ascii '='

/-- The names of the variables whose assignments are taken notice of. -/
def names : List String := ["NDK_LOG", "NDK_ANALYZE", "NDK_ANALYZER_OUT", "APP_ABI"]

/-! ### The place of the equals sign -/

theorem mem_decode_iff_equals_mem (b : Bytes) : '=' ∈ b.decode ↔ equals ∈ b := by
  have hform : String.utf8EncodeChar '=' = [equals] := by decide
  rw [Bytes.mem_decode_iff (by decide), hform, List.singleton_infix_iff]

theorem decode_append_equals (before after : Bytes) :
    (before ++ equals :: after).decode = before.decode ++ '=' :: after.decode :=
  Bytes.decode_append_cons_of_form (by decide) before after

/-- Bytes without an equals sign are passed over whole. -/
theorem ne_equals_of_mem_decode {b : Bytes} (h : equals ∉ b) :
    ∀ c ∈ b.decode, decide (c ≠ '=') = true := by
  intro c hc
  apply decide_eq_true
  rintro rfl
  exact h ((mem_decode_iff_equals_mem b).mp hc)

theorem ofBytes?_of_notMem {argument : Bytes} (h : equals ∉ argument) :
    ofBytes? argument = none := by
  rw [ofBytes?, List.dropWhile_eq_nil_iff.mpr (ne_equals_of_mem_decode h)]

/-- The name ends at the first byte of an equals sign, and the value begins behind it. -/
theorem ofBytes?_append {name : Bytes} (h : equals ∉ name) (value : Bytes) :
    ofBytes? (name ++ equals :: value) = ofKey? name.shown value.shown := by
  have hpassed := ne_equals_of_mem_decode h
  rw [ofBytes?, decode_append_equals, List.dropWhile_append_of_pos hpassed,
    List.takeWhile_append_of_pos hpassed, List.dropWhile_cons_of_neg (by decide),
    List.takeWhile_cons_of_neg (by decide), List.append_nil]
  rfl

/-! ### The names -/

theorem isSome_ofKey?_iff (name value : String) :
    (ofKey? name value).isSome = true ↔ name ∈ names := by
  unfold ofKey?
  split_ifs <;> simp_all [names]

theorem ofBytes?_ofText_append {front name : String} (hfront : front = name ++ "=")
    (h : equals ∉ Bytes.ofText name) (value : Bytes) :
    ofBytes? (Bytes.ofText front ++ value) = ofKey? name value.shown := by
  have hsign : Bytes.ofText "=" = [equals] := by decide
  rw [hfront, Bytes.ofText_append, hsign, List.append_assoc, List.singleton_append, ofBytes?_append h,
    Bytes.shown_ofText]

/-- An argument is an assignment just when its bytes begin with one of the names and an equals sign. -/
theorem isSome_ofBytes?_iff (argument : Bytes) :
    (ofBytes? argument).isSome = true ↔
      ∃ name ∈ names, Bytes.ofText (name ++ "=") <+: argument := by
  have hplain : ∀ name ∈ names, replacement ∉ name.toList ∧ equals ∉ Bytes.ofText name := by decide
  have hsign : Bytes.ofText "=" = [equals] := by decide
  constructor
  · intro hsome
    by_cases hmem : equals ∈ argument
    · obtain ⟨name, value, rfl, hname⟩ := List.eq_append_cons_of_mem hmem
      rw [ofBytes?_append hname, isSome_ofKey?_iff] at hsome
      refine ⟨Bytes.shown name, hsome, value, ?_⟩
      have hbytes := (Bytes.shown_eq_iff (hplain _ hsome).1).mp rfl
      rw [Bytes.ofText_append, ← hbytes, hsign, List.append_assoc, List.singleton_append]
    · rw [ofBytes?_of_notMem hmem] at hsome
      cases hsome
  · rintro ⟨name, hname, value, rfl⟩
    rw [ofBytes?_ofText_append rfl (hplain name hname).2, isSome_ofKey?_iff]
    exact hname

/-- The assignment that an argument spells is told from its bytes: whether it is one by the name and the
equals sign in front, a switch by whether the rest is `1` or `true`, and a value by how the rest is
shown, which is the rest itself where that is a text. -/
theorem ofBytes?_told_from_bytes :
    (∀ argument : Bytes, (ofBytes? argument).isSome = true ↔
      ∃ name ∈ names, Bytes.ofText (name ++ "=") <+: argument) ∧
    (∀ value : Bytes,
      ofBytes? (Bytes.ofText "NDK_LOG=" ++ value) =
        some (.log (decide (value = Bytes.ofText "1" ∨ value = Bytes.ofText "true"))) ∧
      ofBytes? (Bytes.ofText "NDK_ANALYZE=" ++ value) =
        some (.analyze (decide (value = Bytes.ofText "1" ∨ value = Bytes.ofText "true"))) ∧
      ofBytes? (Bytes.ofText "NDK_ANALYZER_OUT=" ++ value) = some (.analyzerOut value.shown) ∧
      ofBytes? (Bytes.ofText "APP_ABI=" ++ value) = some (.appAbi value.shown)) ∧
    (∀ text : String,
      ofBytes? (Bytes.ofText ("NDK_ANALYZER_OUT=" ++ text)) = some (.analyzerOut text) ∧
      ofBytes? (Bytes.ofText ("APP_ABI=" ++ text)) = some (.appAbi text)) := by
  have hlog : ∀ value, ofBytes? (Bytes.ofText "NDK_LOG=" ++ value) =
      some (.log (isOn value.shown)) :=
    @ofBytes?_ofText_append _ "NDK_LOG" (by decide) (by decide)
  have hanalyze : ∀ value, ofBytes? (Bytes.ofText "NDK_ANALYZE=" ++ value) =
      some (.analyze (isOn value.shown)) :=
    @ofBytes?_ofText_append _ "NDK_ANALYZE" (by decide) (by decide)
  have hout : ∀ value, ofBytes? (Bytes.ofText "NDK_ANALYZER_OUT=" ++ value) =
      some (.analyzerOut value.shown) :=
    @ofBytes?_ofText_append _ "NDK_ANALYZER_OUT" (by decide) (by decide)
  have habi : ∀ value, ofBytes? (Bytes.ofText "APP_ABI=" ++ value) = some (.appAbi value.shown) :=
    @ofBytes?_ofText_append _ "APP_ABI" (by decide) (by decide)
  refine ⟨isSome_ofBytes?_iff, fun value => ?_, fun text => ?_⟩
  · rw [← isOn_shown]
    exact ⟨hlog value, hanalyze value, hout value, habi value⟩
  · rw [Bytes.ofText_append, Bytes.ofText_append, hout, habi, Bytes.shown_ofText]
    exact ⟨rfl, rfl⟩

example : Assignment.ofBytes? (Bytes.ofText "APP_ABI" ++ 0xE2 :: Bytes.ofText "=x86") = none ∧
    Assignment.ofBytes? (Bytes.ofText "NDK_LOG=" ++ [0xFF, 0x31]) = some (.log false) ∧
    Assignment.ofBytes? "APP_ABI=a=b" = some (.appAbi "a=b") := by decide

end Assignment
end MakeLauncher
