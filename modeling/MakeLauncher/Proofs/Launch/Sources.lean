import MakeLauncher.Proofs.Launch.Standpoint

/-! The sources that make is taken from, in their order: the name that the user gives, the installation,
and the search path. The first that has one decides, and what comes behind it is not looked at. Main
statement: the search goes in one of five ways, each of which says what there is and what there is not
where it looks; so a name that is given is all that counts beside the search path, a prebuilt make is
taken whatever the search path holds, and more entries at the end of the search path never change what is
found. -/

namespace MakeLauncher

namespace Bytes

/-- What a base puts in front of a relative path is the same for all of them. -/
theorem exists_join_eq_append (base : Bytes) :
    ∃ front, ∀ path, isAbsolute path = false → base.join path = front ++ path := by
  by_cases hbase : (base.isEmpty || base.getLast? == some slash) = true
  · refine ⟨base, ?_⟩
    intro path hpath
    rw [join, hpath, if_neg Bool.false_ne_true, if_pos hbase]
  · refine ⟨base ++ [slash], ?_⟩
    intro path hpath
    rw [join, hpath, if_neg Bool.false_ne_true, if_neg hbase, List.append_assoc,
      List.singleton_append]

/-- Two relative paths that are joined one by one are joined as one path with a slash in it. -/
theorem join_join (base : Bytes) {front path : Bytes} (hfront : front.isAbsolute = false)
    (hname : front ≠ [] ∧ front.getLast? ≠ some slash) (hpath : path.isAbsolute = false) :
    (base.join front).join path = base.join (front ++ slash :: path) := by
  obtain ⟨lead, hlead⟩ := exists_join_eq_append base
  have hjoined : front.join path = front ++ slash :: path := by
    rw [join, hpath, if_neg Bool.false_ne_true, if_neg]
    simp [hname]
  have hwhole : isAbsolute (front ++ slash :: path) = false := by
    rw [← hjoined, isAbsolute_join, hfront, hpath]
    rfl
  rw [hlead front hfront, append_join lead hname.1 hpath, hjoined, hlead _ hwhole]

end Bytes

open Bytes

theorem Platform.tag_between_slashes (platform : Platform) :
    isAbsolute (ofText platform.tag) = false ∧ ofText platform.tag ≠ [] ∧
      (ofText platform.tag).getLast? ≠ some slash := by
  obtain ⟨family, processor⟩ := platform
  cases family <;> cases processor <;> decide

/-- The place of the make for a platform, as one path in the installation. -/
theorem Make.prebuiltPath_eq (root : Bytes) (platform : Platform) :
    Make.prebuiltPath root platform =
      root.join (ofText ("prebuilt/" ++ platform.tag ++ "/bin/make")) := by
  obtain ⟨hrelative, hne, hlast⟩ := platform.tag_between_slashes
  let tools := ofText "prebuilt" ++ slash :: ofText platform.tag
  have htools : tools ≠ [] ∧ tools.getLast? ≠ some slash := by
    refine ⟨List.cons_ne_nil _ _, ?_⟩
    show (ofText "prebuilt" ++ ([slash] ++ ofText platform.tag)).getLast? ≠ some slash
    rwa [← List.append_assoc, List.getLast?_append_of_ne_nil _ hne]
  have hbin : tools ++ slash :: ofText "bin" ≠ [] ∧
      (tools ++ slash :: ofText "bin").getLast? ≠ some slash := by
    refine ⟨List.cons_ne_nil _ _, ?_⟩
    rw [List.getLast?_append_of_ne_nil _ (List.cons_ne_nil _ _)]
    decide
  have hfront : ofText "prebuilt/" = ofText "prebuilt" ++ [slash] := by decide
  have hback : ofText "/bin/make" = slash :: ofText "bin" ++ slash :: ofText "make" := by decide
  calc Make.prebuiltPath root platform
      = ((root.join tools).join "bin").join "make" := by
        rw [Make.prebuiltPath, join_join root (by decide) (by decide) hrelative]
        rfl
    _ = (root.join (tools ++ slash :: ofText "bin")).join "make" := by
        rw [join_join root rfl htools rfl]
    _ = root.join (tools ++ slash :: ofText "bin" ++ slash :: ofText "make") :=
        join_join root rfl hbin rfl
    _ = root.join (ofText ("prebuilt/" ++ platform.tag ++ "/bin/make")) := by
        rw [ofText_append, ofText_append, hfront, hback]
        simp [tools]

namespace Site

variable {site : Site} {paths : List Bytes} {path : Bytes}

/-- A path is the first program among paths: it is one of them and a program, and none before it is. -/
def IsFirstProgram (site : Site) (paths : List Bytes) (path : Bytes) : Prop :=
  ∃ place : Nat, paths[place]? = some path ∧ site.isProgram path = true ∧
    ∀ (earlier : Nat) other, earlier < place → paths[earlier]? = some other →
      ¬site.isProgram other = true

theorem find?_eq_some_iff_isFirstProgram :
    paths.find? site.isProgram = some path ↔ site.IsFirstProgram paths path := by
  rw [List.find?_eq_some_iff_getElem]
  constructor
  · rintro ⟨hprogram, place, hplace, rfl, hearlier⟩
    refine ⟨place, List.getElem?_eq_getElem hplace, hprogram, ?_⟩
    intro earlier other hlt hother
    obtain ⟨_, rfl⟩ := List.getElem?_eq_some_iff.mp hother
    simpa using hearlier earlier hlt
  · rintro ⟨place, hpath, hprogram, hearlier⟩
    obtain ⟨hplace, rfl⟩ := List.getElem?_eq_some_iff.mp hpath
    refine ⟨hprogram, place, hplace, rfl, ?_⟩
    intro earlier hlt
    simp [hearlier earlier _ hlt (List.getElem?_eq_getElem (hlt.trans hplace))]

/-- The path of make that an entry of the search path stands for. A tilde in front of the entry is the
home. -/
def makeAt (site : Site) (entry : Bytes) : Bytes :=
  (site.expandHome entry).join (ofText Make.defaultName)

theorem makeAt_of_not_ledByTilde {entry : Bytes} (hentry : ¬LedByTilde entry) :
    site.makeAt entry = entry.join (ofText Make.defaultName) := by
  rw [makeAt, expandHome_of_not_ledByTilde hentry]

theorem candidates_defaultName (site : Site) (searchPath directory : Bytes) :
    site.candidates searchPath directory (ofText Make.defaultName) =
      (searchPath.splitOn colon).map site.makeAt :=
  if_neg (by decide)

/-- More paths behind the others leave the first program as it is. -/
theorem IsFirstProgram.append (h : site.IsFirstProgram paths path) (others : List Bytes) :
    site.IsFirstProgram (paths ++ others) path := by
  obtain ⟨place, hpath, hprogram, hearlier⟩ := h
  obtain ⟨hplace, -⟩ := List.getElem?_eq_some_iff.mp hpath
  refine ⟨place, ?_, hprogram, ?_⟩
  · rw [List.getElem?_append_left hplace]
    exact hpath
  · intro earlier other hlt hother
    rw [List.getElem?_append_left (hlt.trans hplace)] at hother
    exact hearlier earlier other hlt hother

/-- With more entries behind a search path there are more paths to try behind the others, or none. -/
theorem exists_candidates_append (site : Site) (searchPath more directory name : Bytes) :
    ∃ others, site.candidates (searchPath ++ colon :: more) directory name =
      site.candidates searchPath directory name ++ others := by
  unfold candidates
  by_cases hseveral : 1 < name.components.length
  · rw [if_pos hseveral, if_pos hseveral]
    exact ⟨[], (List.append_nil _).symm⟩
  · rw [if_neg hseveral, if_neg hseveral, List.splitOn_append_cons_self, List.map_append]
    exact ⟨_, rfl⟩

end Site

def Build.withMoreEntries (build : Build) (more : Bytes) : Build :=
  { build with
    environment :=
      { build.environment with
        searchPath := build.environment.searchPath ++ colon :: more } }

theorem Build.entries_withMoreEntries (build : Build) (more : Bytes) :
    (build.withMoreEntries more).entries = build.entries ++ more.splitOn colon :=
  List.splitOn_append_cons_self _ _

namespace Launch

variable {site : Site} {build : Build} {platform : Platform}

/-- The ways in which the search for make can go: what it ends with, and its entries in the log. -/
inductive Finds (site : Site) (build : Build) (platform : Platform) :
    Except Failure Make → List Event → Prop
  | chosen {name : String} {path : Bytes} (hname : build.environment.chosenMake = some name)
      (hfirst : site.IsFirstProgram
        (site.candidates build.environment.searchPath build.directory name) path) :
      Finds site build platform (.ok ⟨path, .chosen⟩) []
  | invalid {name : String} (hname : build.environment.chosenMake = some name)
      (hnone : ∀ path ∈ site.candidates build.environment.searchPath build.directory name,
        ¬site.isProgram path = true) :
      Finds site build platform (.error (.invalidOverride name)) []
  | prebuilt (hname : build.environment.chosenMake = none)
      (hfile : site.isFile (Make.prebuiltPath build.root platform) = true) :
      Finds site build platform (.ok ⟨Make.prebuiltPath build.root platform, .prebuilt⟩) []
  | searched {path : Bytes} (hname : build.environment.chosenMake = none)
      (hfile : site.isFile (Make.prebuiltPath build.root platform) = false)
      (hfirst : site.IsFirstProgram (build.entries.map site.makeAt) path) :
      Finds site build platform (.ok ⟨path, .searchPath⟩)
        [.noPrebuilt (Make.prebuiltPath build.root platform)]
  | nowhere (hname : build.environment.chosenMake = none)
      (hfile : site.isFile (Make.prebuiltPath build.root platform) = false)
      (hnone : ∀ path ∈ build.entries.map site.makeAt, ¬site.isProgram path = true) :
      Finds site build platform (.error .noMake)
        [.noPrebuilt (Make.prebuiltPath build.root platform)]

/-! ### The ways and the search -/

variable {result : Except Failure Make} {log : List Event}

theorem searchFor_defaultName :
    searchFor site build Make.defaultName =
      (build.entries.map site.makeAt).find? site.isProgram := by
  rw [searchFor, Site.search, Site.candidates_defaultName]
  rfl

theorem Finds.outcome_findMake (h : Finds site build platform result log) (trace : Trace) :
    outcome (findMake site build platform) trace =
      (result, { trace with log := trace.log ++ log }) := by
  cases h with
  | @chosen name path hname hfirst =>
      have hsearch : searchFor site build name = some path :=
        Site.find?_eq_some_iff_isFirstProgram.mpr hfirst
      rw [outcome_findMake_of_chosen hname, hsearch, List.append_nil]
      rfl
  | @invalid name hname hnone =>
      have hsearch : searchFor site build name = none := List.find?_eq_none.mpr hnone
      rw [outcome_findMake_of_chosen hname, hsearch, List.append_nil]
      rfl
  | prebuilt hname hfile =>
      rw [outcome_findMake_of_prebuilt hname hfile, List.append_nil]
  | @searched path hname hfile hfirst =>
      have hsearch : searchFor site build Make.defaultName = some path := by
        rw [searchFor_defaultName]
        exact Site.find?_eq_some_iff_isFirstProgram.mpr hfirst
      rw [outcome_findMake_of_missing hname hfile, hsearch]
      rfl
  | nowhere hname hfile hnone =>
      have hsearch : searchFor site build Make.defaultName = none := by
        rw [searchFor_defaultName]
        exact List.find?_eq_none.mpr hnone
      rw [outcome_findMake_of_missing hname hfile, hsearch]
      rfl

/-- The search always goes in one of the ways. -/
theorem exists_finds (site : Site) (build : Build) (platform : Platform) :
    ∃ result log, Finds site build platform result log := by
  cases hname : build.environment.chosenMake with
  | some name =>
      cases hsearch : searchFor site build name with
      | some path => exact ⟨_, _, .chosen hname (Site.find?_eq_some_iff_isFirstProgram.mp hsearch)⟩
      | none => exact ⟨_, _, .invalid hname (List.find?_eq_none.mp hsearch)⟩
  | none =>
      cases hfile : site.isFile (Make.prebuiltPath build.root platform) with
      | true => exact ⟨_, _, .prebuilt hname hfile⟩
      | false =>
          cases hsearch : (build.entries.map site.makeAt).find? site.isProgram with
          | some path =>
              have hfirst := Site.find?_eq_some_iff_isFirstProgram.mp hsearch
              exact ⟨_, _, .searched hname hfile hfirst⟩
          | none =>
              have hnone := List.find?_eq_none.mp hsearch
              exact ⟨_, _, .nowhere hname hfile hnone⟩

/-- The search ends as it does, and leaves what it leaves, by the one way that it goes. -/
theorem outcome_findMake_eq_iff (trace after : Trace) :
    outcome (findMake site build platform) trace = (result, after) ↔
      ∃ log, Finds site build platform result log ∧
        after = { trace with log := trace.log ++ log } := by
  constructor
  · intro houtcome
    obtain ⟨found, log, hfinds⟩ := exists_finds site build platform
    rw [hfinds.outcome_findMake] at houtcome
    obtain ⟨rfl, rfl⟩ := Prod.mk.inj houtcome
    exact ⟨log, hfinds, rfl⟩
  · rintro ⟨log, hfinds, rfl⟩
    exact hfinds.outcome_findMake trace

/-! ### What does not count -/

/-- Beside a name that is given, neither the installation nor the platform counts. -/
theorem outcome_findMake_congr_of_chosen {name : String} {other : Build}
    (hname : build.environment.chosenMake = some name)
    (henvironment : other.environment = build.environment)
    (hdirectory : other.directory = build.directory) (platform' : Platform) (trace : Trace) :
    outcome (findMake site other platform') trace = outcome (findMake site build platform) trace := by
  have hother : other.environment.chosenMake = some name := by rw [henvironment, hname]
  have hsearch : searchFor site other name = searchFor site build name := by
    rw [searchFor, searchFor, henvironment, hdirectory]
  rw [outcome_findMake_of_chosen hname, outcome_findMake_of_chosen hother, hsearch]

theorem makeFor_eq_prebuilt_iff (hname : build.environment.chosenMake = none) :
    makeFor site build platform = .ok ⟨Make.prebuiltPath build.root platform, .prebuilt⟩ ↔
      site.isFile (Make.prebuiltPath build.root platform) = true := by
  constructor
  · intro hmake
    by_contra hfile
    rw [Bool.not_eq_true] at hfile
    rw [makeFor_of_missing hname hfile] at hmake
    cases hsearch : searchFor site build Make.defaultName with
    | none =>
        rw [hsearch] at hmake
        cases hmake
    | some path =>
        rw [hsearch] at hmake
        cases hmake
  · exact makeFor_of_prebuilt hname

theorem makeFor_eq_noMake_iff (hname : build.environment.chosenMake = none) :
    makeFor site build platform = .error .noMake ↔
      site.isFile (Make.prebuiltPath build.root platform) = false ∧
        ∀ path ∈ build.entries.map site.makeAt, ¬site.isProgram path = true := by
  rw [makeFor_eq_error_iff, searchFor_defaultName, List.find?_eq_none]
  simp [hname]

/-- With more entries behind the search path the search goes in the same way, if it finds a make. -/
theorem Finds.withMoreEntries {make : Make} (h : Finds site build platform (.ok make) log)
    (more : Bytes) : Finds site (build.withMoreEntries more) platform (.ok make) log := by
  cases h with
  | @chosen name path hname hfirst =>
      obtain ⟨others, hothers⟩ := Site.exists_candidates_append site
        build.environment.searchPath more build.directory name
      refine .chosen hname ?_
      show site.IsFirstProgram (site.candidates
        (build.environment.searchPath ++ colon :: more) build.directory name) path
      rw [hothers]
      exact hfirst.append others
  | prebuilt hname hfile => exact .prebuilt hname hfile
  | @searched path hname hfile hfirst =>
      refine .searched hname hfile ?_
      rw [Build.entries_withMoreEntries, List.map_append]
      exact hfirst.append _

/-- The search for make tries its sources in their order, and the first that has one decides. -/
theorem findMake_by_first_source (site : Site) (build : Build) (platform : Platform) (trace : Trace) :
    (∀ result after, outcome (findMake site build platform) trace = (result, after) ↔
      ∃ log, Finds site build platform result log ∧
        after = { trace with log := trace.log ++ log }) ∧
    (∀ name, build.environment.chosenMake = some name →
      ∀ (other : Build) (platform' : Platform), other.environment = build.environment →
        other.directory = build.directory →
          outcome (findMake site other platform') trace =
            outcome (findMake site build platform) trace) ∧
    (build.environment.chosenMake = none →
      (makeFor site build platform =
          .ok ⟨build.root.join (ofText ("prebuilt/" ++ platform.tag ++ "/bin/make")), .prebuilt⟩ ↔
        site.isFile (build.root.join (ofText ("prebuilt/" ++ platform.tag ++ "/bin/make"))) =
          true) ∧
      (makeFor site build platform = .error .noMake ↔
        site.isFile (build.root.join (ofText ("prebuilt/" ++ platform.tag ++ "/bin/make"))) = false ∧
          ∀ path ∈ build.entries.map site.makeAt, ¬site.isProgram path = true)) ∧
    (∀ entry ∈ build.entries, ¬Site.LedByTilde entry →
      site.makeAt entry = entry.join (ofText Make.defaultName)) ∧
    ∀ make after (more : Bytes),
      outcome (findMake site build platform) trace = (.ok make, after) →
        outcome (findMake site (build.withMoreEntries more) platform) trace = (.ok make, after) := by
  refine ⟨?_, ?_, ?_, ?_, ?_⟩
  · intro result after
    exact outcome_findMake_eq_iff trace after
  · intro name hname other platform' henvironment hdirectory
    exact outcome_findMake_congr_of_chosen hname henvironment hdirectory platform' trace
  · intro hname
    rw [← Make.prebuiltPath_eq]
    exact ⟨makeFor_eq_prebuilt_iff hname, makeFor_eq_noMake_iff hname⟩
  · intro entry _ hentry
    exact Site.makeAt_of_not_ledByTilde hentry
  · intro make after more hfound
    obtain ⟨log, hfinds, rfl⟩ := (outcome_findMake_eq_iff trace after).mp hfound
    exact (hfinds.withMoreEntries more).outcome_findMake trace

/-- A site with a make in `/a` that may not be executed and with one in `/b` that may. -/
def twoMakes : Site where
  files :=
    { isFile := fun path => path = ofText "/a/make" || path = ofText "/b/make"
      isExecutable := fun path => path = ofText "/b/make" }
  directory := "/"
  home := "/"

/-- A build that searches `/a` and then `/b`, for the name that is given. -/
def searchingBuild (chosenMake : Option String) : Build :=
  { relativeBuild with environment := { chosenMake, searchPath := "/a:/b" } }

theorem findMake_by_first_source_of_twoMakes :
    (searchingBuild none).environment.chosenMake = none ∧
    outcome (findMake twoMakes (searchingBuild none) ⟨.linux, .x86_64⟩) {} =
      (.ok ⟨"/b/make", .searchPath⟩, { log := [.noPrebuilt "/ndk/prebuilt/linux-x86_64/bin/make"] }) ∧
    outcome (findMake twoMakes ((searchingBuild none).withMoreEntries "/a") ⟨.linux, .x86_64⟩) {} =
      (.ok ⟨"/b/make", .searchPath⟩, { log := [.noPrebuilt "/ndk/prebuilt/linux-x86_64/bin/make"] }) ∧
    makeFor twoMakes (searchingBuild none) ⟨.linux, .x86_64⟩ ≠ .error .noMake ∧
    ofText "/a" ∈ (searchingBuild none).entries ∧ ¬Site.LedByTilde "/a" ∧
    twoMakes.makeAt "/a" = ofText "/a/make" ∧
    (searchingBuild (some "gmake")).environment.chosenMake = some "gmake" ∧
    outcome (findMake twoMakes { searchingBuild (some "gmake") with root := "/b", clean := by decide }
      ⟨.darwin, .arm64⟩) {} = (.error (.invalidOverride "gmake"), {}) := by
  have hnone : (searchingBuild none).environment.chosenMake = none := rfl
  have hentry : ofText "/a" ∈ (searchingBuild none).entries := by decide
  have hled : ¬Site.LedByTilde "/a" := by decide
  have hname : (searchingBuild (some "gmake")).environment.chosenMake = some "gmake" := rfl
  have hfound : outcome (findMake twoMakes (searchingBuild none) ⟨.linux, .x86_64⟩) {} =
      (.ok ⟨"/b/make", .searchPath⟩,
        { log := [.noPrebuilt "/ndk/prebuilt/linux-x86_64/bin/make"] }) := rfl
  obtain ⟨-, -, hsources, hentries, hmore⟩ :=
    findMake_by_first_source twoMakes (searchingBuild none) ⟨.linux, .x86_64⟩ {}
  obtain ⟨-, hchosen, -⟩ :=
    findMake_by_first_source twoMakes (searchingBuild (some "gmake")) ⟨.linux, .x86_64⟩ {}
  obtain ⟨-, hnowhere⟩ := hsources hnone
  refine ⟨hnone, hfound, hmore _ _ "/a" hfound, ?_, hentry, hled, ?_, hname, ?_⟩
  · intro hmake
    have hprogram := (hnowhere.mp hmake).2 (ofText "/b/make") (by decide)
    exact absurd hprogram (by decide)
  · exact (hentries "/a" hentry hled).trans (by decide)
  · exact (hchosen "gmake" hname _ ⟨.darwin, .arm64⟩ rfl rfl).trans rfl

end Launch
end MakeLauncher
