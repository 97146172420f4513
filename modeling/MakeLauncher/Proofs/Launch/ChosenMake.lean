import MakeLauncher.Proofs.Launch.Finding

/-! The make that the user names in `GNUMAKE`. The search goes by the name that the environment keeps,
and the environment keeps names that are texts. Main statement: for a name that is set and not empty,
the search stays with it just when it is well-formed UTF-8; any other is as good as not set, and the
search goes on to the prebuilt make and to the search path. -/

namespace MakeLauncher

theorem Variables.value?_clear (vars : Variables) (names : List String) (name : String) :
    (vars.clear names).value? name = if names.contains name then none else vars.value? name := by
  unfold value? clear
  induction vars with
  | nil => cases names.contains name <;> rfl
  | cons entry rest ih =>
      obtain ⟨key, value⟩ := entry
      cases hcleared : names.contains key with
      | true =>
          rw [List.filter_cons_of_neg (by simp only [hcleared]; decide), ih, List.lookup_cons]
          by_cases hkey : name = key
          · rw [hkey, hcleared, if_pos rfl, if_pos rfl]
          · rw [beq_false_of_ne hkey]
      | false =>
          rw [List.filter_cons_of_pos (by simp only [hcleared]; decide), List.lookup_cons,
            List.lookup_cons, ih]
          by_cases hkey : name = key
          · rw [hkey, hcleared, beq_self_eq_true]
            rfl
          · rw [beq_false_of_ne hkey]

namespace Environment

theorem chosenMake_capture_of_isText {vars : Variables} {value : Bytes}
    (hvalue : vars.value? "GNUMAKE" = some value) (hne : value ≠ [])
    (htext : value.isText = true) : (capture vars).chosenMake = some value.shown := by
  have hshown : value.text? = some value.shown := by rw [Bytes.text?, if_pos htext]
  have hsome : value.shown ≠ "" := by
    intro hempty
    apply hne
    rw [Bytes.text?_eq_some_iff.mp hshown, hempty]
    rfl
  simp [capture, Variables.text?, hvalue, hshown, hsome]

theorem chosenMake_capture_of_not_isText {vars : Variables} {value : Bytes}
    (hvalue : vars.value? "GNUMAKE" = some value) (htext : value.isText = false) :
    (capture vars).chosenMake = none := by
  have hnone : value.text? = none := by simp [Bytes.text?, htext]
  simp [capture, Variables.text?, hvalue, hnone]

theorem capture_clear_of_not_isText {vars : Variables} {value : Bytes}
    (hvalue : vars.value? "GNUMAKE" = some value) (htext : value.isText = false) :
    capture (vars.clear ["GNUMAKE"]) = capture vars := by
  have hset : vars.text? "GNUMAKE" = none := chosenMake_capture_of_not_isText hvalue htext
  have hcleared : (vars.clear ["GNUMAKE"]).text? "GNUMAKE" = none := by
    rw [Variables.text?, Variables.value?_clear]
    rfl
  have hother : ∀ name, ["GNUMAKE"].contains name = false →
      (vars.clear ["GNUMAKE"]).value? name = vars.value? name := by
    intro name hname
    rw [Variables.value?_clear, hname]
    rfl
  have htextOther : ∀ name, ["GNUMAKE"].contains name = false →
      (vars.clear ["GNUMAKE"]).text? name = vars.text? name := by
    intro name hname
    rw [Variables.text?, hother name hname, Variables.text?]
  rw [capture, capture, hset, hcleared, htextOther "OSTYPE" (by decide),
    htextOther "NDK_LOG" (by decide), htextOther "NDK_ANALYZE" (by decide),
    hother "PATH" (by decide)]

end Environment

namespace Launch

/-- A search for make that stays with the name that the user gave: it finds a make of that name, or it
complains of the name. -/
def StaysWithName (result : Except Failure Make) : Prop :=
  (∃ path, result = .ok ⟨path, .chosen⟩) ∨ ∃ name, result = .error (.invalidOverride name)

theorem staysWithName_makeFor_iff {site : Site} {build : Build} {platform : Platform} :
    StaysWithName (makeFor site build platform) ↔ build.environment.chosenMake ≠ none := by
  unfold StaysWithName
  cases hname : build.environment.chosenMake with
  | some name =>
      rw [makeFor_of_chosen hname]
      cases searchFor site build name <;> simp
  | none =>
      cases hfile : site.isFile (Make.prebuiltPath build.root platform) with
      | true => simp [makeFor_of_prebuilt hname hfile]
      | false =>
          rw [makeFor_of_missing hname hfile]
          cases searchFor site build Make.defaultName <;> simp

/-- A search by a name that is set and not empty stays with that name just when it is a text. Then a
complaint shows the very name; and a name that is no text is as good as not set. -/
theorem staysWithName_iff_isText {vars : Variables} {value : Bytes}
    (hvalue : vars.value? "GNUMAKE" = some value) (hne : value ≠ []) :
    (∀ (site : Site) (build : Build) (platform : Platform),
      build.environment = Environment.capture vars →
        (StaysWithName (makeFor site build platform) ↔ value.isText = true) ∧
        ∀ name, makeFor site build platform = .error (.invalidOverride name) →
          Bytes.ofText name = value) ∧
    (value.isText = false →
      Environment.capture (vars.clear ["GNUMAKE"]) = Environment.capture vars) := by
  refine ⟨fun site build platform henvironment => ?_,
    Environment.capture_clear_of_not_isText hvalue⟩
  rw [staysWithName_makeFor_iff]
  cases htext : value.isText with
  | true =>
      have hname : build.environment.chosenMake = some value.shown :=
        henvironment ▸ Environment.chosenMake_capture_of_isText hvalue hne htext
      refine ⟨by simp [hname], fun name hcomplaint => ?_⟩
      rcases makeFor_eq_error_iff.mp hcomplaint with ⟨other, hother, -, heq⟩ | ⟨hnone, -⟩
      · cases heq
        cases Option.some.inj (hname.symm.trans hother)
        exact (Bytes.text?_eq_some_iff.mp (by rw [Bytes.text?, if_pos htext])).symm
      · rw [hname] at hnone
        cases hnone
  | false =>
      have hname : build.environment.chosenMake = none :=
        henvironment ▸ Environment.chosenMake_capture_of_not_isText hvalue htext
      refine ⟨by simp [hname], fun name hcomplaint => ?_⟩
      rcases makeFor_eq_error_iff.mp hcomplaint with ⟨other, hother, -⟩ | ⟨-, -, -, heq⟩
      · rw [hname] at hother
        cases hother
      · cases heq

/-- A site with a make for Linux in the installation at `/ndk`, and with no other file. -/
def installedSite : Site where
  files :=
    { isFile := (· = Bytes.ofText "/ndk/prebuilt/linux-x86_64/bin/make")
      isExecutable := (· = Bytes.ofText "/ndk/prebuilt/linux-x86_64/bin/make") }
  directory := "/"
  home := "/"

theorem staysWithName_iff_isText_of_missing :
    (Variables.value? [("GNUMAKE", "/no/make")] "GNUMAKE" = some (Bytes.ofText "/no/make") ∧
      ∃ build : Build, build.environment = Environment.capture [("GNUMAKE", "/no/make")] ∧
        StaysWithName (makeFor installedSite build ⟨.linux, .x86_64⟩)) ∧
    Environment.capture (Variables.clear [("GNUMAKE", [0xFF])] ["GNUMAKE"]) =
      Environment.capture [("GNUMAKE", [0xFF])] := by
  have hvalue : Variables.value? [("GNUMAKE", "/no/make")] "GNUMAKE" =
      some (Bytes.ofText "/no/make") := rfl
  have hother : Variables.value? [("GNUMAKE", [0xFF])] "GNUMAKE" = some [0xFF] := rfl
  refine ⟨⟨hvalue, ⟨⟨"/ndk", "/", [], Environment.capture [("GNUMAKE", "/no/make")]⟩,
    by decide⟩, rfl, ?_⟩, ?_⟩
  · exact (((staysWithName_iff_isText hvalue (by decide)).1 installedSite _ _ rfl).1).mpr
      (by decide)
  · exact (staysWithName_iff_isText hother (by decide)).2 (by decide)

/-- The search does not stay with a name that is a single byte of no text: it takes the prebuilt
make. -/
theorem prebuilt_found_despite_name :
    ∃ (vars : Variables) (value : Bytes) (build : Build),
      vars.value? "GNUMAKE" = some value ∧ value ≠ [] ∧
      build.environment = Environment.capture vars ∧
      makeFor installedSite build ⟨.linux, .x86_64⟩ =
        .ok ⟨"/ndk/prebuilt/linux-x86_64/bin/make", .prebuilt⟩ := by
  refine ⟨[("GNUMAKE", [0xFF])], [0xFF],
    ⟨⟨"/ndk", "/", [], Environment.capture [("GNUMAKE", [0xFF])]⟩, by decide⟩, rfl, by decide,
    rfl, ?_⟩
  rfl

end Launch
end MakeLauncher
