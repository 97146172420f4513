import MakeLauncher.Proofs.Launch.Places
import MakeLauncher.Proofs.Programs

/-! What is started when a make has been found. The system takes a program by its path if the path has a
slash in it, and otherwise searches for it once more, in its own way. An entry of the search path that
comes to nothing leaves the bare name as the path of a make. Main statement: for which builds this can
happen; the make that is started is the one that was found if its path has a slash, and some other one
along the search path if it has none. -/

namespace MakeLauncher

namespace Bytes

variable {base path : Bytes} {names : List Bytes}

/-! ### Slashes -/

theorem nil_join (path : Bytes) : join [] path = path := by
  rw [join]
  split_ifs with _ hbase
  · rfl
  · rfl
  · exact absurd rfl hbase

theorem slash_mem_of_isAbsolute (h : path.isAbsolute = true) : slash ∈ path :=
  List.mem_of_head? (beq_iff_eq.mp h)

theorem slash_mem_join_iff : slash ∈ base.join path ↔ base ≠ [] ∨ slash ∈ path := by
  by_cases hbase : base = []
  · rw [hbase, nil_join]
    simp
  simp only [ne_eq, hbase, not_false_eq_true, true_or, iff_true]
  cases hpath : path.isAbsolute with
  | true =>
      rw [join_of_isAbsolute hpath]
      exact slash_mem_of_isAbsolute hpath
  | false =>
      obtain ⟨front, -, hjoin⟩ := exists_join_eq_append_slash hbase hpath
      rw [hjoin]
      exact List.mem_append_right _ List.mem_cons_self

theorem eq_of_join_eq_join {path' : Bytes} (hpath : path.isAbsolute = false)
    (hpath' : path'.isAbsolute = false) (h : base.join path = base.join path') : path = path' := by
  obtain ⟨front, hfront⟩ := exists_join_eq_append base
  rw [hfront path hpath, hfront path' hpath'] at h
  exact List.append_cancel_left h

theorem slash_mem_of_components (h : 1 < path.components.length) : slash ∈ path := by
  by_contra hnot
  have hrelative : path.isAbsolute = false := Bool.eq_false_iff.mpr (mt slash_mem_of_isAbsolute hnot)
  rw [components, hrelative, List.splitOn_eq_singleton hnot, if_neg Bool.false_ne_true] at h
  by_cases hhere : path = here
  · rw [hhere] at h
    exact absurd h (by decide)
  · rw [if_neg (by simpa using hhere)] at h
    exact absurd h (Nat.not_lt.mpr (List.length_filter_le _ _))

/-! ### Paths that come to nothing -/

theorem join_ne_nil_of_path (base : Bytes) (hpath : path ≠ []) : base.join path ≠ [] := by
  rcases join_cases base path with ⟨-, hjoin⟩ | ⟨-, hjoin⟩ | ⟨-, -, hjoin⟩ <;> rw [hjoin]
  · exact hpath
  · exact List.append_ne_nil_of_right_ne_nil base hpath
  · exact List.append_ne_nil_of_right_ne_nil base (List.cons_ne_nil _ _)

theorem ne_nil_of_mem_components {name : Bytes} (h : name ∈ path.components) : name ≠ [] := by
  have hnames : ∀ other ∈ (path.splitOn slash).filter (fun name => name ≠ [] && name ≠ here),
      other ≠ [] := by
    intro other hother
    have hkept := (List.mem_filter.mp hother).2
    rw [Bool.and_eq_true] at hkept
    exact of_decide_eq_true hkept.1
  rw [components] at h
  split_ifs at h
  · rcases List.mem_cons.mp h with rfl | h
    · exact List.cons_ne_nil _ _
    · exact hnames name h
  · rcases List.mem_cons.mp h with rfl | h
    · exact List.cons_ne_nil _ _
    · exact hnames name h
  · exact hnames name h

theorem foldl_join_eq_nil_iff (hnames : ∀ name ∈ names, name ≠ []) :
    names.foldl join base = [] ↔ base = [] ∧ names = [] := by
  cases names with
  | nil => simp
  | cons name rest =>
      have hname := hnames name List.mem_cons_self
      have hjoined : rest.foldl join (base.join name) ≠ [] :=
        foldl_join_ne_nil (join_ne_nil_of_path base hname)
      simp [hjoined]

end Bytes

open Bytes

theorem Site.expandHome_eq_nil_iff {site : Site} {entry : Bytes} :
    site.expandHome entry = [] ↔ entry = [] ∨ site.home = [] ∧ entry.components = [Site.tilde] := by
  by_cases hled : Site.LedByTilde entry
  · obtain ⟨names, hnames, -⟩ := Site.components_of_ledByTilde hled
    have hentry : entry ≠ [] := by
      rintro rfl
      exact absurd hled (by decide)
    have hne : ∀ name ∈ names, name ≠ [] := by
      intro name hname
      have hcomponent : name ∈ entry.components := hnames ▸ List.mem_cons_of_mem _ hname
      exact ne_nil_of_mem_components hcomponent
    rw [Site.expandHome_eq_foldl hnames, foldl_join_eq_nil_iff hne, hnames]
    simp [hentry]
  · rw [Site.expandHome_of_not_ledByTilde hled]
    constructor
    · exact .inl
    · rintro (h | ⟨-, h⟩)
      · exact h
      · exact absurd (congrArg List.head? h) hled

namespace Launch

open Machine (ProgramCall World defaultSearchPath searchedPaths)

variable {site : Site} {build : Build} {platform : Platform} {make : Make} {path : Bytes}

/-! ### Paths of makes -/

theorem slash_mem_prebuiltPath (root : Bytes) (platform : Platform) :
    slash ∈ Make.prebuiltPath root platform := by
  rw [Make.prebuiltPath, slash_mem_join_iff]
  exact .inl (join_ne_nil_of_path _ (by decide))

/-- A make that is found is the prebuilt one or a program that was tried. -/
theorem path_of_makeFor (h : makeFor site build platform = .ok make) :
    make.path = Make.prebuiltPath build.root platform ∧ site.isFile make.path = true ∨
      make.path ∈ candidatesFor site build ∧ site.isProgram make.path = true := by
  obtain ⟨result, log, hfinds⟩ := exists_finds site build platform
  have hresult : makeFor site build platform = result :=
    congrArg Prod.fst (hfinds.outcome_findMake {})
  rw [h] at hresult
  subst hresult
  cases hfinds with
  | chosen hname hfirst =>
      obtain ⟨place, hpath, hprogram, -⟩ := hfirst
      refine .inr ⟨?_, hprogram⟩
      rw [candidatesFor, Build.searchedName, hname]
      exact List.mem_of_getElem? hpath
  | prebuilt hname hfile => exact .inl ⟨rfl, hfile⟩
  | searched hname hfile hfirst =>
      obtain ⟨place, hpath, hprogram, -⟩ := hfirst
      refine .inr ⟨?_, hprogram⟩
      rw [candidatesFor, Build.searchedName, hname, Option.getD_none, Site.candidates_defaultName]
      exact List.mem_of_getElem? hpath

theorem nameable_of_makeFor (h : makeFor site build platform = .ok make) : make.path.Nameable := by
  rcases path_of_makeFor h with ⟨-, hfile⟩ | ⟨-, hprogram⟩
  · exact (Site.isFile_eq_true_iff.mp hfile).1
  · exact (Site.isProgram_eq_true_iff.mp hprogram).1

theorem eq_name_of_mem_candidatesFor (hmem : path ∈ candidatesFor site build) (hslash : slash ∉ path) :
    path = ofText build.searchedName ∧ ∃ entry ∈ build.entries, site.expandHome entry = [] := by
  unfold candidatesFor Site.candidates at hmem
  split_ifs at hmem with hseveral
  · rw [List.mem_singleton] at hmem
    rw [hmem, slash_mem_join_iff] at hslash
    exact absurd (.inr (slash_mem_of_components hseveral)) hslash
  · obtain ⟨entry, hentry, rfl⟩ := List.mem_map.mp hmem
    rw [slash_mem_join_iff, not_or, not_not] at hslash
    refine ⟨?_, entry, hentry, hslash.1⟩
    rw [hslash.1, nil_join]

theorem eq_name_of_makeFor (h : makeFor site build platform = .ok make) (hslash : slash ∉ make.path) :
    make.path = ofText build.searchedName ∧ ∃ entry ∈ build.entries, site.expandHome entry = [] := by
  rcases path_of_makeFor h with ⟨hpath, -⟩ | ⟨hmem, -⟩
  · rw [hpath] at hslash
    exact absurd (slash_mem_prebuiltPath build.root platform) hslash
  · exact eq_name_of_mem_candidatesFor hmem hslash

theorem not_namesPlace_of_slash_notMem (h : slash ∉ ofText build.searchedName) :
    ¬build.NamesPlace := by
  rintro (hseveral | habsolute)
  · exact h (slash_mem_of_components hseveral)
  · exact h (slash_mem_of_isAbsolute habsolute)

/-- From some directory none of some other paths means the file that a relative path means. -/
theorem exists_directory_apart {name : Bytes} (hname : name.isAbsolute = false) (paths : List Bytes) :
    ∃ directory : Bytes, directory.isAbsolute = true ∧
      ∀ path ∈ paths, directory.join path = directory.join name → path = name := by
  obtain ⟨count, -, hfresh⟩ := exists_remote_notMem (join [ascii 'a'] name) paths
  refine ⟨remote count ++ [ascii 'a'], rfl, ?_⟩
  rw [← append_join (remote count) (List.cons_ne_nil _ _) hname] at hfresh
  intro path hpath heq
  cases habsolute : path.isAbsolute with
  | true =>
      rw [join_of_isAbsolute habsolute] at heq
      rw [← heq] at hfresh
      exact absurd hpath hfresh
  | false => exact eq_of_join_eq_join habsolute hname heq

/-- If there is but one file and one path to it among those that are tried, this path is found. -/
theorem exists_makeFor_of_only (hfiles : site.files = .only (site.directory.join path))
    (hprebuilt : site.directory.join (Make.prebuiltPath build.root platform) ≠
      site.directory.join path)
    (hpath : path ∈ candidatesFor site build) (hnameable : path.Nameable)
    (honly : ∀ other ∈ candidatesFor site build,
      site.directory.join other = site.directory.join path → other = path) :
    ∃ origin, makeFor site build platform = .ok ⟨path, origin⟩ := by
  have hmissing : site.isFile (Make.prebuiltPath build.root platform) = false := by
    rw [Bool.eq_false_iff, Ne, Site.isFile_eq_true_iff, hfiles]
    exact fun hfile => hprebuilt (of_decide_eq_true hfile.2)
  have hfound : (searchFor site build build.searchedName).isSome = true := by
    refine List.find?_isSome.mpr ⟨path, hpath, Site.isProgram_eq_true_iff.mpr ⟨hnameable, ?_⟩⟩
    rw [hfiles]
    exact ⟨decide_eq_true rfl, rfl⟩
  obtain ⟨found, hsearch⟩ := Option.isSome_iff_exists.mp hfound
  have hprogram := Site.isProgram_eq_true_iff.mp (List.find?_some hsearch)
  rw [hfiles] at hprogram
  have heq : found = path :=
    honly found (List.mem_of_find?_eq_some hsearch) (of_decide_eq_true hprogram.2.1)
  obtain ⟨failure, origin, hmake⟩ := exists_makeFor_eq build platform
  refine ⟨origin, ?_⟩
  rw [hmake site hmissing, hsearch, heq]
  rfl

/-- Where an entry comes to nothing, a make of that name in the directory of the process is found by the
bare name, as long as it is the only file. -/
theorem exists_makeFor_eq_name {home entry : Bytes} (platform : Platform)
    (hslash : slash ∉ ofText build.searchedName) (hnameable : (ofText build.searchedName).Nameable)
    (hmem : entry ∈ build.entries) (hentry : ∀ files directory,
      Site.expandHome ⟨files, directory, home⟩ entry = []) :
    ∃ (files : Files) (directory : Bytes) (make : Make), directory.isAbsolute = true ∧
      makeFor ⟨files, directory, home⟩ build platform = .ok make ∧
      make.path = ofText build.searchedName := by
  have hrelative : (ofText build.searchedName).isAbsolute = false :=
    Bool.eq_false_iff.mpr (mt slash_mem_of_isAbsolute hslash)
  -- Which paths are tried depends on the home alone, so they are known before the files are.
  obtain ⟨directory, hdirectory, hapart⟩ := exists_directory_apart hrelative
    (Make.prebuiltPath build.root platform :: candidatesFor ⟨.only [], [], home⟩ build)
  have hprebuilt : directory.join (Make.prebuiltPath build.root platform) ≠
      directory.join (ofText build.searchedName) := by
    intro heq
    have hsame := hapart _ List.mem_cons_self heq
    rw [← hsame] at hslash
    exact hslash (slash_mem_prebuiltPath build.root platform)
  let site : Site := ⟨.only (directory.join (ofText build.searchedName)), directory, home⟩
  have hname : ofText build.searchedName ∈ candidatesFor site build := by
    rw [candidatesFor_of_not_namesPlace (not_namesPlace_of_slash_notMem hslash)]
    refine List.mem_map.mpr ⟨entry, hmem, ?_⟩
    rw [hentry, nil_join]
  obtain ⟨origin, hmake⟩ := exists_makeFor_of_only (rfl : site.files = _) hprebuilt hname hnameable
    fun other hother => hapart other (List.mem_cons_of_mem _ hother)
  exact ⟨_, directory, _, hdirectory, hmake, rfl⟩

/-- A make that is found has a slash in its path, whatever the files are, from any directory. -/
def FindsByPath (home : Bytes) (build : Build) (platform : Platform) : Prop :=
  ∀ (files : Files) (directory : Bytes) (make : Make), directory.isAbsolute = true →
    makeFor ⟨files, directory, home⟩ build platform = .ok make → slash ∈ make.path

theorem findsByPath_iff {home : Bytes} :
    FindsByPath home build platform ↔
      slash ∈ ofText build.searchedName ∨ ¬(ofText build.searchedName).Nameable ∨
        ∀ entry ∈ build.entries, entry ≠ [] ∧ (home = [] → entry.components ≠ [Site.tilde]) := by
  constructor
  · intro hfinds
    by_contra hnot
    simp only [not_or, not_not, not_forall] at hnot
    obtain ⟨hslash, hnameable, entry, hmem, hentry⟩ := hnot
    have hnothing : ∀ files directory, Site.expandHome ⟨files, directory, home⟩ entry = [] := by
      intro files directory
      rw [Site.expandHome_eq_nil_iff]
      by_contra hsome
      rw [not_or, not_and] at hsome
      exact hentry hsome
    obtain ⟨files, directory, make, hdirectory, hmake, hpath⟩ :=
      exists_makeFor_eq_name platform hslash hnameable hmem hnothing
    have hfound := hfinds files directory make hdirectory hmake
    rw [hpath] at hfound
    exact hslash hfound
  · intro h files directory make _ hmake
    by_contra hslash
    obtain ⟨hname, entry, hmem, hentry⟩ := eq_name_of_makeFor hmake hslash
    rcases h with h | h | h
    · exact hslash (hname ▸ h)
    · exact h (hname ▸ nameable_of_makeFor hmake)
    · obtain ⟨hne, hhome⟩ := h entry hmem
      rcases Site.expandHome_eq_nil_iff.mp hentry with hempty | ⟨hnone, htilde⟩
      · exact hne hempty
      · exact hhome hnone htilde

/-! ### Makes that are started -/

/-- Every make that is found has a slash in its path just when the name has one, or can name nothing, or
no entry of the search path comes to nothing; a path without a slash is the bare name. A make whose path
has a slash is started by this path, and the file that runs is the one that was looked at. For the bare
name a process that keeps its search path goes along it once more, and takes one of its paths. -/
theorem started_path_of_found_make (build : Build) (platform : Platform) :
    (∀ home, FindsByPath home build platform ↔
      slash ∈ ofText build.searchedName ∨ ¬(ofText build.searchedName).Nameable ∨
        ∀ entry ∈ build.entries, entry ≠ [] ∧ (home = [] → entry.components ≠ [Site.tilde])) ∧
    (∀ (site : Site) (make : Make), makeFor site build platform = .ok make → slash ∉ make.path →
      make.path = ofText build.searchedName) ∧
    ∀ (world : World) (site : Site) (make : Make) (invocation : Invocation) (call : ProgramCall),
      world.Sees site → makeFor site build platform = .ok make → invocation.program = make.path →
        world.choose invocation = .ok call →
          (slash ∈ make.path → call.path = make.path ∧
            ∃ file, world.executable make.path = .ok file ∧
              world.tree.find? (site.directory.join make.path) = world.tree.node? file.place) ∧
          (slash ∉ make.path → "PATH" ∉ invocation.cleared →
            call.path ∈ searchedPaths ((world.self.vars.value? "PATH").getD defaultSearchPath)
              make.path) := by
  refine ⟨fun home => findsByPath_iff, ?_, ?_⟩
  · intro site make hmake hslash
    exact (eq_name_of_makeFor hmake hslash).1
  · intro world site make invocation call hsees hmake hprogram hcall
    constructor
    · intro hslash
      rw [← hprogram] at hslash
      obtain ⟨hpath, file, hfile⟩ := World.path_of_choose_of_slash hslash hcall
      rw [hpath, hprogram] at hfile
      exact ⟨hpath.trans hprogram, file, hfile, hsees.find?_eq (nameable_of_makeFor hmake) hfile⟩
    · intro hslash hcleared
      rw [← hprogram] at hslash ⊢
      exact World.path_of_choose_of_name hslash hcleared hcall

/-- A tree with a make in the root and another one in a directory that has the name of the home. -/
def twoMakesTree : FileTree where
  nodes := #[⟨.directory 0 [("make", 1), ("~", 2)], 0o755, 0⟩, .file (Utility.ofName "true").content true,
    ⟨.directory 0 [("make", 3)], 0o755, 0⟩, .file (Utility.ofName "false").content true]

def worldSearching (searchPath : Bytes) : World where
  tree := twoMakesTree
  processes := [(0, {
    parent := 0, directory := FileTree.root, vars := [("PATH", searchPath)], streams := [] })]

def siteInRoot : Site := ⟨twoMakesTree.files, "/", "/home"⟩

def buildSearching (searchPath : Bytes) : Build :=
  { relativeBuild with environment := { searchPath } }

theorem plain_twoMakesTree : twoMakesTree.Plain := by simp [FileTree.Plain, twoMakesTree, Node.file]

theorem sees_siteInRoot (searchPath : Bytes) : (worldSearching searchPath).Sees siteInRoot := by
  have hwalk := plain_twoMakesTree.walk_eq 0 { place := FileTree.root } (FileTree.steps "/")
  exact ⟨rfl, none, hwalk.trans rfl⟩

/-- The call of a make at a path, which was found by another one. -/
def callOf (searchPath path found : Bytes) : ProgramCall where
  path := path
  words := found :: ((buildSearching searchPath).invocation found).arguments
  vars := [("PATH", searchPath)]

theorem makeFor_siteInRoot : makeFor siteInRoot (buildSearching "~:") ⟨.linux, .x86_64⟩ =
    .ok ⟨"make", .searchPath⟩ := by
  rw [siteInRoot, plain_twoMakesTree.files_eq]
  rfl

/-- Both paths of the make in the directory lead to it, and it can be loaded. -/
theorem loadCall_worldSearching {searchPath found path : Bytes} (hpath : path.Nameable)
    (hplace : twoMakesTree.plainWalk { place := FileTree.root } (FileTree.steps path) =
      .ok ⟨3, some ⟨2, "make"⟩⟩) (hfits : (callOf searchPath path found).fits = true) :
    (worldSearching searchPath).loadCall (callOf searchPath path found) =
      .ok ⟨Utility.ofName "false", (callOf searchPath path found).words, ⟨3, some ⟨2, "make"⟩⟩⟩ := by
  have harrive : (worldSearching searchPath).tree.arrive FileTree.root path =
      .ok ⟨3, some ⟨2, "make"⟩⟩ := by
    rw [worldSearching, plain_twoMakesTree.arrive_eq _ hpath]
    unfold FileTree.start
    rwa [ite_self]
  have hnode : twoMakesTree.node? 3 = some (.file (Utility.ofName "false").content true) := rfl
  have hexecutable : (worldSearching searchPath).executable path = .ok ⟨3, some ⟨2, "make"⟩⟩ :=
    World.executable_of_arrive harrive hnode (by decide) rfl
  exact World.loadCall_of_executable hfits hexecutable rfl rfl

theorem choose_worldSearching :
    (worldSearching "~:").choose ((buildSearching "~:").invocation "make") =
      .ok (callOf "~:" "~/make" "make") := by
  have hpaths : searchedPaths "~:" "make" = [ofText "~/make", ofText "make"] := by decide
  exact World.choose_of_first (by decide) (by decide) (by decide) (by decide) hpaths
    (loadCall_worldSearching (by decide) rfl (by decide))

theorem choose_worldSearching_of_slash :
    (worldSearching "/~").choose ((buildSearching "/~").invocation "/~/make") =
      .ok (callOf "/~" "/~/make" "/~/make") :=
  World.choose_of_slash (by decide) (loadCall_worldSearching (by decide) rfl (by decide))

theorem started_path_of_found_make_of_siteInRoot :
    FindsByPath [] (buildSearching "/a:/b") ⟨.linux, .x86_64⟩ ∧
    ¬FindsByPath "/home" (buildSearching "~:") ⟨.linux, .x86_64⟩ ∧
    (worldSearching "~:").Sees siteInRoot ∧
    makeFor siteInRoot (buildSearching "~:") ⟨.linux, .x86_64⟩ = .ok ⟨"make", .searchPath⟩ ∧
    (worldSearching "~:").choose ((buildSearching "~:").invocation "make") =
      .ok (callOf "~:" "~/make" "make") ∧
    ofText "~/make" ∈ searchedPaths "~:" "make" ∧
    (worldSearching "/~").Sees siteInRoot ∧
    makeFor siteInRoot (buildSearching "/~") ⟨.linux, .x86_64⟩ = .ok ⟨"/~/make", .searchPath⟩ ∧
    (worldSearching "/~").choose ((buildSearching "/~").invocation "/~/make") =
      .ok (callOf "/~" "/~/make" "/~/make") ∧
    ∃ file, (worldSearching "/~").executable "/~/make" = .ok file ∧
      twoMakesTree.find? "/~/make" = twoMakesTree.node? file.place := by
  have hpath : makeFor siteInRoot (buildSearching "/~") ⟨.linux, .x86_64⟩ =
      .ok ⟨"/~/make", .searchPath⟩ := by
    rw [siteInRoot, plain_twoMakesTree.files_eq]
    rfl
  obtain ⟨hfinds, -, -⟩ := started_path_of_found_make (buildSearching "/a:/b") ⟨.linux, .x86_64⟩
  obtain ⟨hloses, -, hsearched⟩ :=
    started_path_of_found_make (buildSearching "~:") ⟨.linux, .x86_64⟩
  obtain ⟨-, -, hstarts⟩ := started_path_of_found_make (buildSearching "/~") ⟨.linux, .x86_64⟩
  obtain ⟨-, hlookedFor⟩ :=
    hsearched _ _ _ _ _ (sees_siteInRoot "~:") makeFor_siteInRoot rfl choose_worldSearching
  obtain ⟨hlookedAt, -⟩ := hstarts _ _ _ _ _ (sees_siteInRoot "/~") hpath rfl choose_worldSearching_of_slash
  refine ⟨(hfinds []).mpr (by decide), ?_, sees_siteInRoot "~:", makeFor_siteInRoot,
    choose_worldSearching, hlookedFor (by decide) (by decide), sees_siteInRoot "/~", hpath,
    choose_worldSearching_of_slash, (hlookedAt (by decide)).2⟩
  intro hall
  exact absurd ((hloses "/home").mp hall) (by decide)

/-- The make in the root is found by its bare name, and the other one is started. -/
theorem started_make_ne_found :
    (worldSearching "~:").Sees siteInRoot ∧
    makeFor siteInRoot (buildSearching "~:") ⟨.linux, .x86_64⟩ = .ok ⟨"make", .searchPath⟩ ∧
    slash ∉ ofText "make" ∧
    (worldSearching "~:").choose ((buildSearching "~:").invocation "make") =
      .ok (callOf "~:" "~/make" "make") ∧
    twoMakesTree.find? "/make" ≠ twoMakesTree.find? "/~/make" := by
  refine ⟨sees_siteInRoot "~:", makeFor_siteInRoot, by decide, choose_worldSearching, ?_⟩
  rw [plain_twoMakesTree.find?_eq]
  decide

end Launch
end MakeLauncher
