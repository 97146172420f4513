import MakeLauncher.Proofs.Launch.Finding
import MakeLauncher.Proofs.Search
import Mathlib.Data.List.Find
import Mathlib.Data.List.Nodup
import Mathlib.Data.List.Perm.Subperm

/-! What the search for make has to do with the process that it is made by. A build says in which
directory it was asked for, and yet the entries of the search path are read from the directory of the
process, and a tilde from its home. Main statement: for which builds the search finds the same from any
directory, and for any home, and that the directory of the request has no part in it where the name is no
path. -/

namespace MakeLauncher

open Bytes

namespace Build

variable (build : Build)

/-- The name that a program is searched by when there is no prebuilt make. -/
def searchedName : String := build.environment.chosenMake.getD Make.defaultName

def entries : List Bytes := build.environment.searchPath.splitOn colon

/-- The name says by itself where the program is, so that no entry has a part. -/
def NamesPlace : Prop :=
  1 < (ofText build.searchedName).components.length ∨ (ofText build.searchedName).isAbsolute = true

instance : Decidable build.NamesPlace := inferInstanceAs (Decidable (_ ∨ _))

end Build

/-- The files of a tree with a single one, a program. -/
def Files.only (place : Bytes) : Files where
  isFile path := path = place
  isExecutable _ := true

namespace Launch

/-- The paths that a process of a site tries for a build. -/
def candidatesFor (site : Site) (build : Build) : List Bytes :=
  site.candidates build.environment.searchPath build.directory (ofText build.searchedName)

/-- The search finds the same from any directory, for a home. -/
def SameFromAnyDirectory (home : Bytes) (build : Build) (platform : Platform) : Prop :=
  ∀ (files : Files) (directory directory' : Bytes),
    directory.isAbsolute = true → directory'.isAbsolute = true →
      makeFor ⟨files, directory, home⟩ build platform =
        makeFor ⟨files, directory', home⟩ build platform

/-- The search finds the same for any home. -/
def SameForAnyHome (build : Build) (platform : Platform) : Prop :=
  ∀ (files : Files) (directory home home' : Bytes),
    makeFor ⟨files, directory, home⟩ build platform =
      makeFor ⟨files, directory, home'⟩ build platform

variable {site site' : Site} {build : Build} {platform : Platform} {path : Bytes}

/-! ### Searches that agree -/

theorem isAbsolute_prebuiltPath {root : Bytes} (hroot : root.isAbsolute = true) :
    (Make.prebuiltPath root platform).isAbsolute = true := by
  simp only [Make.prebuiltPath, isAbsolute_join, hroot, Bool.or_true]

theorem makeFor_congr {build' : Build}
    (hchosen : build'.environment.chosenMake = build.environment.chosenMake)
    (hroot : build'.root = build.root)
    (hfile : site.isFile (Make.prebuiltPath build.root platform) =
      site'.isFile (Make.prebuiltPath build.root platform))
    (hsearch : searchFor site build build.searchedName = searchFor site' build' build.searchedName) :
    makeFor site build platform = makeFor site' build' platform := by
  unfold Build.searchedName at hsearch
  cases hname : build.environment.chosenMake with
  | some name =>
      rw [hname, Option.getD_some] at hsearch
      rw [makeFor_of_chosen hname, makeFor_of_chosen (hchosen.trans hname), hsearch]
  | none =>
      rw [hname, Option.getD_none] at hsearch
      have hname' := hchosen.trans hname
      rw [← hroot] at hfile
      cases hprebuilt : site.isFile (Make.prebuiltPath build.root platform) with
      | true =>
          rw [makeFor_of_prebuilt hname hprebuilt,
            makeFor_of_prebuilt hname' (hfile ▸ hroot ▸ hprebuilt), hroot]
      | false =>
          rw [makeFor_of_missing hname hprebuilt,
            makeFor_of_missing hname' (hfile ▸ hroot ▸ hprebuilt), hsearch]

/-- Processes that try the same paths, each of them absolute or of no use, find the same. -/
theorem makeFor_congr_of_candidates (hroot : build.root.isAbsolute = true)
    (hfiles : site.files = site'.files)
    (hcandidates : candidatesFor site build = candidatesFor site' build)
    (hagree : ∀ path ∈ candidatesFor site build, site.isProgram path = site'.isProgram path) :
    makeFor site build platform = makeFor site' build platform := by
  refine makeFor_congr rfl rfl (Site.isFile_congr hfiles (isAbsolute_prebuiltPath hroot)) ?_
  show (candidatesFor site build).find? _ = (candidatesFor site' build).find? _
  rw [← hcandidates]
  exact List.find?_congr hagree

theorem candidatesFor_of_not_namesPlace (hplace : ¬build.NamesPlace) :
    candidatesFor site build =
      build.entries.map fun entry => (site.expandHome entry).join (ofText build.searchedName) := by
  rw [Build.NamesPlace, not_or] at hplace
  exact if_neg hplace.1

/-- The paths to try for a name that is a place do not depend on the process, and are absolute. -/
theorem candidatesFor_of_namesPlace (site site' : Site)
    (hdirectory : build.directory.isAbsolute = true) (hplace : build.NamesPlace) :
    candidatesFor site build = candidatesFor site' build ∧
      ∀ path ∈ candidatesFor site build, path.isAbsolute = true := by
  unfold candidatesFor Site.candidates
  by_cases hseveral : 1 < (ofText build.searchedName).components.length
  · rw [if_pos hseveral, if_pos hseveral]
    simp [isAbsolute_join, hdirectory]
  · have habsolute := hplace.resolve_left hseveral
    rw [if_neg hseveral, if_neg hseveral]
    simp only [join_of_isAbsolute habsolute, List.mem_map, true_and]
    rintro _ ⟨_, _, rfl⟩
    exact habsolute

/-! ### Searches that differ -/

theorem exists_makeFor_eq (build : Build) (platform : Platform) :
    ∃ failure origin, ∀ site : Site,
      site.isFile (Make.prebuiltPath build.root platform) = false →
        makeFor site build platform =
          (searchFor site build build.searchedName).elim (.error failure) fun path =>
            .ok ⟨path, origin⟩ := by
  unfold Build.searchedName
  cases hname : build.environment.chosenMake with
  | some name => exact ⟨_, _, fun site _ => makeFor_of_chosen hname⟩
  | none => exact ⟨_, _, fun site hfile => makeFor_of_missing hname hfile⟩

/-- If there is but one file, a process that tries its place and one that does not come to different
ends. -/
theorem makeFor_ne_of_only {place : Bytes} (hfiles : site.files = Files.only place)
    (hfiles' : site'.files = Files.only place) (hroot : build.root.isAbsolute = true)
    (hprebuilt : Make.prebuiltPath build.root platform ≠ place)
    (hpath : path ∈ candidatesFor site build) (hnameable : path.Nameable)
    (hplace : site.directory.join path = place)
    (hlost : ∀ path ∈ candidatesFor site' build, path.Nameable →
      site'.directory.join path ≠ place) :
    makeFor site build platform ≠ makeFor site' build platform := by
  have hfound : (searchFor site build build.searchedName).isSome = true := by
    refine List.find?_isSome.mpr ⟨path, hpath, Site.isProgram_eq_true_iff.mpr ⟨hnameable, ?_⟩⟩
    rw [hfiles, hplace]
    exact ⟨decide_eq_true rfl, rfl⟩
  have hnone : searchFor site' build build.searchedName = none := by
    refine List.find?_eq_none.mpr fun path hmem hprogram => ?_
    obtain ⟨hnameable, hfile, -⟩ := Site.isProgram_eq_true_iff.mp hprogram
    rw [hfiles'] at hfile
    exact hlost path hmem hnameable (of_decide_eq_true hfile)
  obtain ⟨found, hfound⟩ := Option.isSome_iff_exists.mp hfound
  have hmissing : ∀ other : Site, other.files = Files.only place →
      other.isFile (Make.prebuiltPath build.root platform) = false := by
    intro other hother
    rw [Bool.eq_false_iff, Ne, Site.isFile_eq_true_iff, hother,
      join_of_isAbsolute (isAbsolute_prebuiltPath hroot)]
    exact fun hfile => hprebuilt (of_decide_eq_true hfile.2)
  obtain ⟨failure, origin, hmake⟩ := exists_makeFor_eq build platform
  rw [hmake site (hmissing site hfiles), hmake site' (hmissing site' hfiles'), hfound, hnone]
  nofun

/-- The beginning of a path from the root, with so many letters of its first name. -/
def remote (count : Nat) : Bytes := slash :: List.replicate count (ascii 'a')

theorem length_remote (count : Nat) : (remote count).length = count + 1 := by simp [remote]

theorem zero_notMem_remote (count : Nat) : 0 ∉ remote count := by
  intro hmem
  rcases List.mem_cons.mp hmem with hslash | hletter
  · exact absurd hslash (by decide)
  · exact absurd (List.eq_of_mem_replicate hletter) (by decide)

/-- There are more beginnings than paths to avoid. -/
theorem exists_remote_notMem (rest : Bytes) (avoid : List Bytes) :
    ∃ count ≤ avoid.length, remote count ++ rest ∉ avoid := by
  by_contra hall
  have hinjective : Function.Injective fun count => remote count ++ rest := by
    intro count count' heq
    simpa [length_remote] using congrArg List.length heq
  have hsub : (List.range (avoid.length + 1)).map (fun count => remote count ++ rest) ⊆ avoid := by
    intro path hmem
    obtain ⟨count, hcount, rfl⟩ := List.mem_map.mp hmem
    by_contra hnot
    exact hall ⟨count, Nat.lt_succ_iff.mp (List.mem_range.mp hcount), hnot⟩
  have := ((List.nodup_range.map hinjective).subperm hsub).length_le
  rw [List.length_map, List.length_range] at this
  omega

/-- A path that is not absolute, if it can name something, is a program seen from one directory and
nothing seen from another. -/
theorem not_sameFromAnyDirectory (hroot : build.root.isAbsolute = true)
    (hpath : path ∈ candidatesFor site build) (hrelative : path.isAbsolute = false)
    (hnameable : path.Nameable) : ¬SameFromAnyDirectory site.home build platform := by
  obtain ⟨count, -, hfresh⟩ := exists_remote_notMem (join [ascii 'a'] path)
    (Make.prebuiltPath build.root platform :: (candidatesFor site build).map (join [slash]))
  rw [List.mem_cons, not_or] at hfresh
  obtain ⟨hprebuilt, hfresh⟩ := hfresh
  let place := remote count ++ join [ascii 'a'] path
  let found : Site := ⟨.only place, remote count ++ [ascii 'a'], site.home⟩
  let lost : Site := ⟨.only place, [slash], site.home⟩
  have hdiffer : makeFor found build platform ≠ makeFor lost build platform := by
    refine makeFor_ne_of_only rfl rfl hroot (Ne.symm hprebuilt) hpath hnameable
      (append_join _ (List.cons_ne_nil _ _) hrelative) ?_
    rintro other hother - heq
    exact hfresh (List.mem_map.mpr ⟨other, hother, heq⟩)
  exact fun hsame => hdiffer (hsame _ _ _ rfl rfl)

/-- Behind a home that is too long, only an entry that no tilde leads can name something. -/
theorem exists_entry_of_nameable (hplace : ¬build.NamesPlace)
    (hhome : site.home = remote pathLimit ++ [ascii 'a']) (hpath : path ∈ candidatesFor site build)
    (hnameable : path.Nameable) :
    ∃ entry ∈ build.entries, entry.join (ofText build.searchedName) = path := by
  rw [candidatesFor_of_not_namesPlace hplace] at hpath
  obtain ⟨entry, hentry, rfl⟩ := List.mem_map.mp hpath
  rw [Build.NamesPlace, not_or, Bool.not_eq_true] at hplace
  by_cases hled : Site.LedByTilde entry
  · obtain ⟨rest, hrest⟩ :=
      Site.exists_join_expandHome_eq_append hled hplace.2 (List.cons_ne_nil _ _)
    have hlength := hnameable.2.2
    rw [hrest site (remote pathLimit) hhome, List.length_append, length_remote] at hlength
    omega
  · rw [Site.expandHome_of_not_ledByTilde hled]
    exact ⟨entry, hentry, rfl⟩

/-- A tilde in front of an entry makes a program of one home be nothing for another, if there is room
for a path behind it. -/
theorem not_sameForAnyHome {entry : Bytes} (hroot : build.root.isAbsolute = true)
    (hplace : ¬build.NamesPlace) (hentry : entry ∈ build.entries) (hled : Site.LedByTilde entry)
    (hzero : 0 ∉ build.environment.searchPath) (hzero' : 0 ∉ ofText build.searchedName)
    (hshort : build.environment.searchPath.length + (ofText build.searchedName).length + 4 ≤
      pathLimit) : ¬SameForAnyHome build platform := by
  have hname : (ofText build.searchedName).isAbsolute = false := by
    rw [Build.NamesPlace, not_or] at hplace
    exact Bool.eq_false_iff.mpr hplace.2
  have hletter : [ascii 'a'] ≠ [] := List.cons_ne_nil _ _
  obtain ⟨rest, hrest⟩ := Site.exists_join_expandHome_eq_append hled hname hletter
  obtain ⟨count, hcount, hfresh⟩ := exists_remote_notMem rest
    (Make.prebuiltPath build.root platform ::
      build.entries.map fun entry => join [slash] (entry.join (ofText build.searchedName)))
  rw [List.mem_cons, not_or] at hfresh
  obtain ⟨hprebuilt, hfresh⟩ := hfresh
  let found : Site := ⟨.only (remote count ++ rest), [slash], remote count ++ [ascii 'a']⟩
  let lost : Site := ⟨.only (remote count ++ rest), [slash], remote pathLimit ++ [ascii 'a']⟩
  have hpath : (found.expandHome entry).join (ofText build.searchedName) = remote count ++ rest :=
    hrest found (remote count) rfl
  have hmem : remote count ++ rest ∈ candidatesFor found build := by
    rw [candidatesFor_of_not_namesPlace hplace, ← hpath]
    exact List.mem_map_of_mem hentry
  have hzeroHome : 0 ∉ remote count ++ [ascii 'a'] := by
    rw [List.mem_append, not_or]
    exact ⟨zero_notMem_remote count, by decide⟩
  have hroom : (remote count ++ [ascii 'a']).length + entry.length +
      (ofText build.searchedName).length ≤ pathLimit := by
    have hentries : entry.length + build.entries.length ≤
        build.environment.searchPath.length + 1 := length_add_length_splitOn_le hentry
    rw [List.length_cons, List.length_map] at hcount
    rw [List.length_append, length_remote, List.length_singleton]
    omega
  have hnameable : Nameable (remote count ++ rest) := by
    rw [← hpath]
    exact Site.nameable_join_expandHome hled (List.cons_ne_nil _ _)
      ⟨hzeroHome, fun hmem => hzero ((mem_of_mem_splitOn hentry).2 0 hmem), hzero'⟩ hroom
  have hdiffer : makeFor found build platform ≠ makeFor lost build platform := by
    refine makeFor_ne_of_only rfl rfl hroot (Ne.symm hprebuilt) hmem hnameable rfl ?_
    intro path hmem hnameable heq
    obtain ⟨other, hother, rfl⟩ := exists_entry_of_nameable hplace rfl hmem hnameable
    exact hfresh (List.mem_map.mpr ⟨other, hother, heq⟩)
  exact fun hsame => hdiffer (hsame _ _ _ _)

/-! ### Builds that find the same from anywhere -/

theorem sameFromAnyDirectory_iff (hroot : build.root.isAbsolute = true)
    (hdirectory : build.directory.isAbsolute = true) (site : Site) :
    SameFromAnyDirectory site.home build platform ↔
      build.NamesPlace ∨ ∀ entry ∈ build.entries,
        entry.isAbsolute = true ∨ Site.LedByTilde entry ∧ site.home.isAbsolute = true ∨
          ¬((site.expandHome entry).join (ofText build.searchedName)).Nameable := by
  constructor
  · intro hsame
    by_cases hplace : build.NamesPlace
    · exact .inl hplace
    refine .inr fun entry hentry => ?_
    by_contra hnot
    rw [← or_assoc, ← Site.isAbsolute_expandHome_iff, not_or, not_not] at hnot
    obtain ⟨hrelative, hnameable⟩ := hnot
    refine not_sameFromAnyDirectory hroot ?_ ?_ hnameable hsame
    · rw [candidatesFor_of_not_namesPlace hplace]
      exact List.mem_map_of_mem hentry
    · rw [Build.NamesPlace, not_or] at hplace
      rw [isAbsolute_join, Bool.eq_false_iff.mpr hplace.2, Bool.eq_false_iff.mpr hrelative]
      rfl
  · rintro h files directory directory' - -
    refine makeFor_congr_of_candidates hroot rfl rfl fun path hpath =>
      Site.isProgram_congr rfl ?_
    by_cases hplace : build.NamesPlace
    · exact .inl ((candidatesFor_of_namesPlace _ site hdirectory hplace).2 path hpath)
    rw [candidatesFor_of_not_namesPlace hplace] at hpath
    obtain ⟨entry, hentry, rfl⟩ := List.mem_map.mp hpath
    have hentry := h.resolve_left hplace entry hentry
    rw [← or_assoc, ← Site.isAbsolute_expandHome_iff] at hentry
    refine hentry.imp (fun habsolute => ?_) id
    rw [isAbsolute_join]
    exact Bool.or_eq_true_iff.mpr (.inr habsolute)

theorem sameForAnyHome_of (hroot : build.root.isAbsolute = true)
    (hdirectory : build.directory.isAbsolute = true)
    (h : build.NamesPlace ∨ ∀ entry ∈ build.entries, ¬Site.LedByTilde entry) :
    SameForAnyHome build platform := by
  intro files directory home home'
  refine makeFor_congr_of_candidates hroot rfl ?_ fun _ _ => rfl
  by_cases hplace : build.NamesPlace
  · exact (candidatesFor_of_namesPlace _ _ hdirectory hplace).1
  rw [candidatesFor_of_not_namesPlace hplace, candidatesFor_of_not_namesPlace hplace]
  refine List.map_congr_left fun entry hentry => ?_
  have hled := h.resolve_left hplace entry hentry
  rw [Site.expandHome_of_not_ledByTilde hled, Site.expandHome_of_not_ledByTilde hled]

theorem makeFor_withDirectory (hsingle : (ofText build.searchedName).components.length ≤ 1)
    (site : Site) (directory : Bytes) :
    makeFor site { build with directory := directory } platform = makeFor site build platform := by
  symm
  refine makeFor_congr rfl rfl rfl ?_
  rw [searchFor, searchFor, Site.search, Site.search, Site.candidates, Site.candidates,
    if_neg (Nat.not_lt.mpr hsingle), if_neg (Nat.not_lt.mpr hsingle)]

/-- In an installation and for a request at absolute paths, the search for make finds the same from any
directory just when the name is a path or every entry of use is absolute, be it by the home. It finds
the same for any home just when the name is a path or no tilde leads an entry. For a name that is no
path, the directory of the request has no part in it. -/
theorem makeFor_sameFromElsewhere_iff (hroot : build.root.isAbsolute = true)
    (hdirectory : build.directory.isAbsolute = true) :
    (∀ site : Site, SameFromAnyDirectory site.home build platform ↔
      build.NamesPlace ∨ ∀ entry ∈ build.entries,
        entry.isAbsolute = true ∨ Site.LedByTilde entry ∧ site.home.isAbsolute = true ∨
          ¬((site.expandHome entry).join (ofText build.searchedName)).Nameable) ∧
    ((build.NamesPlace ∨ ∀ entry ∈ build.entries, ¬Site.LedByTilde entry) →
      SameForAnyHome build platform) ∧
    (0 ∉ build.environment.searchPath → 0 ∉ ofText build.searchedName →
      build.environment.searchPath.length + (ofText build.searchedName).length + 4 ≤ pathLimit →
        SameForAnyHome build platform →
          build.NamesPlace ∨ ∀ entry ∈ build.entries, ¬Site.LedByTilde entry) ∧
    ((ofText build.searchedName).components.length ≤ 1 → ∀ (site : Site) (directory : Bytes),
      makeFor site { build with directory := directory } platform =
        makeFor site build platform) := by
  refine ⟨sameFromAnyDirectory_iff hroot hdirectory, sameForAnyHome_of hroot hdirectory,
    fun hzero hzero' hshort hsame => ?_, makeFor_withDirectory⟩
  by_contra hnot
  rw [not_or] at hnot
  obtain ⟨hplace, hled⟩ := hnot
  refine hled fun entry hentry hled => ?_
  exact not_sameForAnyHome hroot hplace hentry hled hzero hzero' hshort hsame

/-- A build for a request at `/work` that searches a relative directory and one of the home. -/
def relativeBuild : Build where
  root := "/ndk"
  directory := "/work"
  arguments := []
  environment := { searchPath := "bin:~/bin" }
  clean := by decide

theorem makeFor_sameFromElsewhere_iff_of_relativeBuild :
    relativeBuild.root.isAbsolute = true ∧ relativeBuild.directory.isAbsolute = true ∧
    (∀ site : Site, ¬SameFromAnyDirectory site.home relativeBuild ⟨.linux, .x86_64⟩) ∧
    ¬SameForAnyHome relativeBuild ⟨.linux, .x86_64⟩ ∧
    ∀ (site : Site) (directory : Bytes),
      makeFor site { relativeBuild with directory := directory } ⟨.linux, .x86_64⟩ =
        makeFor site relativeBuild ⟨.linux, .x86_64⟩ := by
  have hroot : relativeBuild.root.isAbsolute = true := rfl
  have hdirectory : relativeBuild.directory.isAbsolute = true := rfl
  have hplace : ¬relativeBuild.NamesPlace := by decide
  obtain ⟨hfromDirectory, -, hforHome, hsingle⟩ :=
    @makeFor_sameFromElsewhere_iff relativeBuild ⟨.linux, .x86_64⟩ hroot hdirectory
  refine ⟨hroot, hdirectory, fun site hsame => ?_, fun hsame => ?_, hsingle (by decide)⟩
  · have hentry := ((hfromDirectory site).mp hsame).resolve_left hplace "bin" (by decide)
    have hled : ¬Site.LedByTilde "bin" := by decide
    rw [Site.expandHome_of_not_ledByTilde hled] at hentry
    revert hentry
    simp only [hled, false_and, false_or]
    decide
  · have hnone := (hforHome (by decide) (by decide) (by decide) hsame).resolve_left hplace
    exact hnone "~/bin" (by decide) (by decide)

/-- A make in the directory that the process happens to be in is found though the request was made
elsewhere, and one in its home is; neither is by a process that is the same but for that. -/
theorem makeFor_ne_from_elsewhere :
    relativeBuild.root.isAbsolute = true ∧ relativeBuild.directory.isAbsolute = true ∧
    makeFor ⟨.only "/bin/make", "/", "/home"⟩ relativeBuild ⟨.linux, .x86_64⟩ =
      .ok ⟨"bin/make", .searchPath⟩ ∧
    makeFor ⟨.only "/bin/make", "/tmp", "/home"⟩ relativeBuild ⟨.linux, .x86_64⟩ =
      .error .noMake ∧
    makeFor ⟨.only "/home/bin/make", "/tmp", "/home"⟩ relativeBuild ⟨.linux, .x86_64⟩ =
      .ok ⟨"/home/bin/make", .searchPath⟩ ∧
    makeFor ⟨.only "/home/bin/make", "/tmp", "/root"⟩ relativeBuild ⟨.linux, .x86_64⟩ =
      .error .noMake :=
  ⟨rfl, rfl, rfl, rfl, rfl, rfl⟩

end Launch
end MakeLauncher
