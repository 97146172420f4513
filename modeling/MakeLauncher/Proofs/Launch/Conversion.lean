import MakeLauncher.Proofs.Launch.Trial
import MakeLauncher.Proofs.Root
import MakeLauncher.Proofs.Trimming
import MakeLauncher.System.Completion

/-! The path that a converter prints, and the path that a launch takes from it. What is printed is read
as text, the white space at both ends goes, and the rest is written as bytes again; a newline ends the
line even where the bytes before it break off in the middle of a character. Main statement: a line comes
back as it was printed just when it is the UTF-8 form of a text that has neither white space at an end
nor no character at all, a line of nothing but white space is the only one that is an error, and any
other line comes back as another path. -/

namespace MakeLauncher

namespace Bytes

def newline : UInt8 := ascii '\n'

/-- What comes back of bytes that are read as text, trimmed and written again. -/
def trimmed (b : Bytes) : Bytes := ofText (trim b.shown)

/-- A line that neither begins nor ends with white space, of a text that is not empty. -/
structure Kept (line : Bytes) : Prop where
  nonempty : line ≠ []
  wellFormed : ∃ text, line = ofText text
  first : ∀ c, isWhiteSpace c = true → ¬String.utf8EncodeChar c <+: line
  last : ∀ c, isWhiteSpace c = true → ¬String.utf8EncodeChar c <:+ line

/-- A line of white space and nothing else, of which there may be none. -/
def BlankLine (line : Bytes) : Prop := ∃ chars, Blank chars ∧ line = ofChars chars

variable {c : Char} {chars : List Char} {line : Bytes}

theorem ofText_ofList (chars : List Char) : ofText (String.ofList chars) = ofChars chars := by
  rw [ofText, String.toList_ofList]

theorem trimmed_eq (b : Bytes) : b.trimmed = ofChars (trimChars b.decode) := by
  rw [trimmed, ofText, toList_trim, shown, String.toList_ofList]

theorem ofChars_eq_nil_iff : ofChars chars = [] ↔ chars = [] := by
  constructor
  · intro h
    rw [← decode_ofChars chars, h]
    rfl
  · rintro rfl
    rfl

/-- The newline behind a line is white space at its end, whatever the line is. -/
theorem trimmed_append_newline (line : Bytes) : (line ++ [newline]).trimmed = line.trimmed := by
  have hnone : Blank [] := nofun
  have hblank : Blank ['\n'] := by decide
  have hread : (line ++ [newline]).decode = line.decode ++ ['\n'] :=
    decode_append_cons_of_form (by decide) line []
  calc (line ++ [newline]).trimmed
      = ofChars (trimChars ([] ++ line.decode ++ ['\n'])) := by
        rw [trimmed_eq, hread, List.nil_append]
    _ = line.trimmed := by rw [trimChars_surround hnone hblank, trimmed_eq]

/-- White space is never read out of ill-formed bytes, so what reads as white space is its form. -/
theorem blank_decode_iff : Blank line.decode ↔ BlankLine line := by
  constructor
  · intro hblank
    have hread : replacement ∉ line.decode := by
      intro hmem
      have hspace := hblank replacement hmem
      rw [isWhiteSpace_replacement] at hspace
      cases hspace
    exact ⟨line.decode, hblank, (decode_eq_iff hread).mp rfl⟩
  · rintro ⟨chars, hblank, rfl⟩
    rwa [decode_ofChars]

theorem trimmed_eq_nil_iff : line.trimmed = [] ↔ BlankLine line := by
  rw [trimmed_eq, ofChars_eq_nil_iff, trimChars_eq_nil_iff, blank_decode_iff]

theorem trimmed_eq_self_iff :
    line.trimmed = line ↔ ∃ chars, Trimmed chars ∧ line = ofChars chars := by
  constructor
  · intro h
    refine ⟨trimChars line.decode, trimmed_trimChars line.decode, ?_⟩
    rw [← trimmed_eq, h]
  · rintro ⟨chars, htrimmed, rfl⟩
    rw [trimmed_eq, decode_ofChars, trimChars_eq_self_iff.mpr htrimmed]

/-! ### The ends of a text, among its bytes -/

theorem utf8EncodeChar_prefix_ofChars_iff :
    String.utf8EncodeChar c <+: ofChars chars ↔ chars.head? = some c := by
  constructor
  · rintro ⟨after, hafter⟩
    have hread : chars = c :: decode after := by
      rw [← decode_ofChars chars, ← hafter]
      exact decodeFrom_utf8EncodeChar c after
    rw [hread]
    rfl
  · intro h
    obtain ⟨rest, rfl⟩ := List.head?_eq_some_iff.mp h
    exact List.prefix_append (String.utf8EncodeChar c) (ofChars rest)

theorem utf8EncodeChar_suffix_ofChars_iff :
    String.utf8EncodeChar c <:+ ofChars chars ↔ chars.getLast? = some c := by
  constructor
  · rintro ⟨before, hbefore⟩
    have hread : chars = decode before ++ [c] := by
      have hcut := decode_append_utf8EncodeChar_append before c []
      rwa [List.append_nil, hbefore, decode_ofChars] at hcut
    rw [hread]
    exact List.getLast?_concat
  · intro h
    obtain ⟨front, rfl⟩ := List.getLast?_eq_some_iff.mp h
    refine ⟨ofChars front, ?_⟩
    rw [ofChars_append]
    exact congrArg (ofChars front ++ ·) (List.append_nil _).symm

theorem trimmed_iff_ofChars : Trimmed chars ↔
    ∀ c, isWhiteSpace c = true →
      ¬String.utf8EncodeChar c <+: ofChars chars ∧ ¬String.utf8EncodeChar c <:+ ofChars chars := by
  simp only [utf8EncodeChar_prefix_ofChars_iff, utf8EncodeChar_suffix_ofChars_iff]
  constructor
  · intro htrimmed c hspace
    constructor
    · intro hfirst
      rw [htrimmed.first c hfirst] at hspace
      cases hspace
    · intro hlast
      rw [htrimmed.last c hlast] at hspace
      cases hspace
  · intro h
    constructor
    · intro c hfirst
      exact Bool.eq_false_iff.mpr fun hspace => (h c hspace).1 hfirst
    · intro c hlast
      exact Bool.eq_false_iff.mpr fun hspace => (h c hspace).2 hlast

theorem kept_iff : Kept line ↔ line ≠ [] ∧ line.trimmed = line := by
  rw [trimmed_eq_self_iff]
  constructor
  · intro hkept
    obtain ⟨text, rfl⟩ := hkept.wellFormed
    have hends := trimmed_iff_ofChars.mpr fun c hspace => ⟨hkept.first c hspace, hkept.last c hspace⟩
    exact ⟨hkept.nonempty, text.toList, hends, rfl⟩
  · rintro ⟨hnonempty, chars, htrimmed, rfl⟩
    have hends := trimmed_iff_ofChars.mp htrimmed
    exact ⟨hnonempty, ⟨_, (ofText_ofList chars).symm⟩, fun c hspace => (hends c hspace).1,
      fun c hspace => (hends c hspace).2⟩

theorem kept_of_ends {first last : Char} (hfirst : isWhiteSpace first = false)
    (hlast : isWhiteSpace last = false) (inner : List Char) :
    Kept (ofChars (first :: inner ++ [last])) := by
  have hends : Trimmed (first :: inner ++ [last]) := by
    constructor
    · rintro c ⟨⟩
      exact hfirst
    · intro c hc
      rw [List.getLast?_concat] at hc
      cases hc
      exact hlast
  have hnonempty : ofChars (first :: inner ++ [last]) ≠ [] := by
    rw [ne_eq, ofChars_eq_nil_iff]
    nofun
  exact kept_iff.mpr ⟨hnonempty, trimmed_eq_self_iff.mpr ⟨_, hends, rfl⟩⟩

end Bytes

open Bytes

namespace CygwinTrial

variable {World : Type} {start : Starter World} {world : World} {earlier : List Call}
  {style : PathStyle} {path line : Bytes}

/-- The converter, started behind earlier calls, exits with 0 and has printed a line. -/
def PrintsLine (start : Starter World) (world : World) (earlier : List Call) (style : PathStyle)
    (path line : Bytes) : Prop :=
  ∃ completion : Completion,
    (start (start.after world (earlier.map (·.invocation))) (conversion style path)).1 =
      .ok completion ∧
    completion.status.exitCode = 0 ∧ completion.printed.stdout = line ++ [newline]

theorem PrintsLine.converted_eq (hprints : PrintsLine start world earlier style path line) :
    converted (Runner.ofStarter start world) earlier style path =
      if line.trimmed = [] then .error (.notStarted converter (.notConverted path 0))
      else .ok line.trimmed := by
  obtain ⟨completion, hcompletion, hcode, hprinted⟩ := hprints
  have hreply : Runner.ofStarter start world earlier (conversionCall style path) =
      .ok (completion.reply .output) := congrArg (Except.map _) hcompletion
  have hpath : ofText (completion.reply .output).stdout = line.trimmed := by
    rw [← trimmed_append_newline line, ← hprinted]
    rfl
  have hempty : (completion.reply .output).stdout = "" ↔ line.trimmed = [] := by
    rw [← hpath, ofText, ofChars_eq_nil_iff, String.toList_eq_nil_iff]
  have hzero : (completion.reply .output).code = 0 := hcode
  unfold converted
  rw [hreply]
  dsimp only
  rw [hpath, hzero]
  by_cases h : line.trimmed = []
  · rw [if_pos h, if_neg (fun hkept => hkept.2 (hempty.mpr h))]
  · rw [if_neg h, if_pos ⟨rfl, mt hempty.mp h⟩]

theorem PrintsLine.converted_of_blank (hprints : PrintsLine start world earlier style path line)
    (hblank : BlankLine line) : converted (Runner.ofStarter start world) earlier style path =
      .error (.notStarted converter (.notConverted path 0)) := by
  rw [hprints.converted_eq, if_pos (trimmed_eq_nil_iff.mpr hblank)]

theorem PrintsLine.converted_of_not_blank (hprints : PrintsLine start world earlier style path line)
    (hblank : ¬BlankLine line) :
    converted (Runner.ofStarter start world) earlier style path = .ok line.trimmed := by
  rw [hprints.converted_eq, if_neg (mt trimmed_eq_nil_iff.mp hblank)]

theorem PrintsLine.converted_eq_line_iff (hprints : PrintsLine start world earlier style path line) :
    converted (Runner.ofStarter start world) earlier style path = .ok line ↔ Kept line := by
  rw [kept_iff]
  by_cases hblank : BlankLine line
  · rw [hprints.converted_of_blank hblank]
    refine ⟨nofun, fun ⟨hnonempty, hself⟩ => ?_⟩
    exact absurd (hself.symm.trans (trimmed_eq_nil_iff.mpr hblank)) hnonempty
  · rw [hprints.converted_of_not_blank hblank, Except.ok.injEq]
    refine ⟨fun hself => ⟨fun hnil => ?_, hself⟩, And.right⟩
    exact hblank (trimmed_eq_nil_iff.mp (hself.trans hnil))

/-- A line comes back as it was printed just when it is kept, so with the white space inside it; the only
line that is an error is one of white space, and one that is no text never comes back as printed. -/
theorem convert_gives_line_iff (trace : Trace)
    (hprints : PrintsLine start world trace.calls style path line) :
    let result := (Launch.outcome (convert (Runner.ofStarter start world) style path) trace).1
    (result = .ok line ↔ Kept line) ∧
    ((∃ failure, result = .error failure) ↔ BlankLine line) ∧
    (BlankLine line → result = .error (.notStarted converter (.notConverted path 0))) ∧
    (¬Kept line → ¬BlankLine line → ∃ other, other ≠ line ∧ result = .ok other) ∧
    (∀ first inner last, isWhiteSpace first = false → isWhiteSpace last = false →
      line = ofChars (first :: inner ++ [last]) → result = .ok line) ∧
    ((∀ text, line ≠ ofText text) → ∃ other, other ≠ line ∧ result = .ok other) := by
  intro result
  have hresult : result = converted (Runner.ofStarter start world) trace.calls style path :=
    congrArg Prod.fst (outcome_convert _ style path trace)
  have hkept : result = .ok line ↔ Kept line := hresult ▸ hprints.converted_eq_line_iff
  have hblank : BlankLine line → result = .error (.notStarted converter (.notConverted path 0)) :=
    fun h => hresult.trans (hprints.converted_of_blank h)
  have hother : ¬BlankLine line → result = .ok line.trimmed :=
    fun h => hresult.trans (hprints.converted_of_not_blank h)
  have hchanged : ¬Kept line → ¬BlankLine line → ∃ other, other ≠ line ∧ result = .ok other := by
    intro hnot h
    refine ⟨line.trimmed, fun hself => hnot (hkept.mp ?_), hother h⟩
    rw [hother h, hself]
  refine ⟨hkept, ⟨?_, fun h => ⟨_, hblank h⟩⟩, hblank, hchanged, ?_, ?_⟩
  · rintro ⟨failure, hfailure⟩
    by_contra h
    rw [hother h] at hfailure
    cases hfailure
  · rintro first inner last hfirst hlast rfl
    exact hkept.mpr (kept_of_ends hfirst hlast inner)
  · intro hnoText
    apply hchanged
    · intro h
      obtain ⟨text, htext⟩ := h.wellFormed
      exact hnoText text htext
    · rintro ⟨chars, -, hchars⟩
      exact hnoText _ (hchars.trans (ofText_ofList chars).symm)

/-- A converter that exits with 0 and prints a line, whatever it is asked. -/
def printing (line : Bytes) : Starter Unit := fun world _ => (.ok ⟨⟨0⟩, ⟨line ++ [newline], []⟩⟩, world)

theorem printsLine_printing (line : Bytes) (earlier : List Call) (style : PathStyle) (path : Bytes) :
    PrintsLine (printing line) () earlier style path line := by
  have hcode : (WaitStatus.mk 0).exitCode = 0 := by decide
  exact ⟨_, rfl, hcode, rfl⟩

/-- A path with a space in it, a line of one wide space, and a line that breaks off just before the
newline in the middle of a character. -/
theorem convert_gives_line_iff_of_printing :
    PrintsLine (printing "/c/My Tools/make") () [] .unix "make.exe" "/c/My Tools/make" ∧
    (Launch.outcome (convert (Runner.ofStarter (printing "/c/My Tools/make") ()) .unix "make.exe") {}).1 =
      .ok (ofText "/c/My Tools/make") ∧
    PrintsLine (printing "\u3000") () [] .mixed "/make" "\u3000" ∧
    (Launch.outcome (convert (Runner.ofStarter (printing "\u3000") ()) .mixed "/make") {}).1 =
      .error (.notStarted "cygpath" (.notConverted "/make" 0)) ∧
    PrintsLine (printing [0x2F, 0xE2, 0x80]) () [] .unix "make.exe" [0x2F, 0xE2, 0x80] ∧
    ∃ other, other ≠ [0x2F, 0xE2, 0x80] ∧
      (Launch.outcome (convert (Runner.ofStarter (printing [0x2F, 0xE2, 0x80]) ()) .unix "make.exe")
        {}).1 = .ok other := by
  have hspaced := printsLine_printing "/c/My Tools/make" [] .unix "make.exe"
  have hblank := printsLine_printing "\u3000" [] .mixed "/make"
  have hcut := printsLine_printing [0x2F, 0xE2, 0x80] [] .unix "make.exe"
  obtain ⟨-, -, -, -, hinner, -⟩ := convert_gives_line_iff {} hspaced
  obtain ⟨-, -, herror, -, -, -⟩ := convert_gives_line_iff {} hblank
  obtain ⟨-, -, -, -, -, hother⟩ := convert_gives_line_iff {} hcut
  refine ⟨hspaced, hinner '/' "c/My Tools/mak".toList 'e' ?_ ?_ ?_, hblank, herror ?_, hcut, hother ?_⟩
  · decide
  · decide
  · decide
  · exact ⟨['\u3000'], by decide, rfl⟩
  · intro text htext
    have hread := congrArg ofText (congrArg shown htext)
    rw [shown_ofText, ← htext] at hread
    revert hread
    decide

end CygwinTrial
end MakeLauncher
