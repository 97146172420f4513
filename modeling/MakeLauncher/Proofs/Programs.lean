import MakeLauncher.Machine.Load
import MakeLauncher.Proofs.Launch.ChosenMake
import MakeLauncher.Proofs.Walks

/-! The programs that a process starts. One whose path has a slash is started by the path and by nothing
else; for any other the process goes along its search path. What is started can be loaded, so there is a
file at its path. Main statement: this file is the one that is seen at the path from the directory of the
process. -/

namespace MakeLauncher.Machine

open Bytes (Nameable slash)

variable {world : World} {call : ProgramCall} {name path : Bytes}

theorem exists_of_bind_eq_ok {ε α β : Type} {first : Except ε α} {next : α → Except ε β} {result : β}
    (h : first >>= next = .ok result) : ∃ a, first = .ok a ∧ next a = .ok result := by
  cases first with
  | error e => cases h
  | ok a => exact ⟨a, rfl, h⟩

theorem exists_of_tryCandidates {α : Type} {attempt : Bytes → Except Errno α} {denied : Bool}
    {last : Errno} {paths : List Bytes} {result : α}
    (h : tryCandidates attempt denied last paths = .ok result) :
    ∃ path ∈ paths, attempt path = .ok result := by
  induction paths generalizing denied last with
  | nil => cases h
  | cons path rest ih =>
      unfold tryCandidates at h
      cases hattempt : attempt path with
      | ok found =>
          rw [hattempt] at h
          exact ⟨path, List.mem_cons_self, hattempt.trans h⟩
      | error errno =>
          simp only [hattempt] at h
          split_ifs at h
          obtain ⟨other, hother, hfound⟩ := ih h
          exact ⟨other, List.mem_cons_of_mem _ hother, hfound⟩

namespace World

/-! ### The path that is taken -/

/-- A program that is found can be loaded, and it is at the path that is its name, or at one along the
search path if the name has no slash. -/
theorem loads_of_search {arguments : List Bytes} {vars : Variables}
    (h : world.search false name arguments vars = .ok call) :
    (∃ loaded, world.loadCall call = .ok loaded) ∧
      if slash ∈ name then call.path = name
      else call.path ∈ searchedPaths ((vars.value? "PATH").getD defaultSearchPath) name := by
  unfold search at h
  extract_lets checked shell attempt searchPath at h
  have hattempt : ∀ path, attempt path = .ok call →
      (∃ loaded, world.loadCall call = .ok loaded) ∧ call.path = path := by
    intro path hpath
    cases hchecked : checked ⟨path, name :: arguments, vars⟩ with
    | error errno =>
        simp only [attempt, hchecked] at hpath
        cases errno <;> cases hpath
    | ok found =>
        simp only [attempt, hchecked, Except.ok.injEq] at hpath
        subst hpath
        obtain ⟨loaded, hloaded, hfound⟩ := exists_of_bind_eq_ok hchecked
        cases hfound
        exact ⟨⟨loaded, hloaded⟩, rfl⟩
  split_ifs at h with hempty hslash hlong
  · rw [if_pos (List.contains_iff_mem.mp hslash)]
    exact hattempt name h
  · rw [if_neg (mt List.contains_iff_mem.mpr hslash)]
    obtain ⟨path, hmem, hfound⟩ := exists_of_tryCandidates h
    obtain ⟨hloads, rfl⟩ := hattempt path hfound
    exact ⟨hloads, hmem⟩

/-- A process that keeps its search path looks for a program without a slash along it. -/
theorem path_of_choose_of_name {invocation : Invocation} (hslash : slash ∉ invocation.program)
    (hcleared : "PATH" ∉ invocation.cleared) (h : world.choose invocation = .ok call) :
    call.path ∈ searchedPaths ((world.self.vars.value? "PATH").getD defaultSearchPath)
      invocation.program := by
  have hcontains : invocation.cleared.contains "PATH" = false :=
    Bool.eq_false_iff.mpr (mt List.contains_iff_mem.mp hcleared)
  rw [choose, hcontains, Bool.false_and] at h
  obtain ⟨-, hpath⟩ := loads_of_search h
  rw [if_neg hslash, Variables.value?_clear, hcontains, if_neg Bool.false_ne_true] at hpath
  exact hpath

/-! ### The file at the path -/

theorem exists_executable_of_loadWith {interpret : Bytes → List Bytes → Except Errno Loaded}
    {words : List Bytes} {loaded : Loaded} (h : world.loadWith interpret path words = .ok loaded) :
    ∃ file, world.executable path = .ok file := by
  obtain ⟨file, hfile, -⟩ := exists_of_bind_eq_ok h
  exact ⟨file, hfile⟩

theorem exists_executable_of_loadCall {loaded : Loaded} (h : world.loadCall call = .ok loaded) :
    ∃ file, world.executable call.path = .ok file := by
  unfold loadCall at h
  split_ifs at h
  exact exists_executable_of_loadWith h

theorem place_of_executable {file : FileTree.Arrival} (h : world.executable path = .ok file) :
    world.tree.place world.self.directory path = .ok file.place := by
  obtain ⟨arrival, harrival, hfile⟩ := exists_of_bind_eq_ok h
  rw [FileTree.place, harrival]
  dsimp only at hfile
  split_ifs at hfile
  cases hfile
  rfl

theorem path_of_choose_of_slash {invocation : Invocation} (hslash : slash ∈ invocation.program)
    (h : world.choose invocation = .ok call) :
    call.path = invocation.program ∧ ∃ file, world.executable call.path = .ok file := by
  have hcontains : invocation.program.contains slash = true := List.contains_iff_mem.mpr hslash
  rw [choose, hcontains, Bool.not_true, Bool.and_false] at h
  obtain ⟨⟨loaded, hloaded⟩, hpath⟩ := loads_of_search h
  rw [if_pos hslash] at hpath
  exact ⟨hpath, exists_executable_of_loadCall hloaded⟩

/-! ### Programs that are there -/

theorem executable_of_arrive {file : FileTree.Arrival} {node : Node}
    (hfile : world.tree.arrive world.self.directory path = .ok file)
    (hnode : world.tree.node? file.place = some node)
    (hruns : node.isFile = true ∧ node.isExecutable = true) (hfree : world.isWritten file.place = false) :
    world.executable path = .ok file := by
  unfold executable
  rw [hfile]
  simp [bind, Except.bind, pure, Except.pure, hnode, hruns, hfree]

theorem loadCall_of_executable {file : FileTree.Arrival} {utility : Utility}
    (hfits : call.fits = true) (hfile : world.executable call.path = .ok file)
    (hcontent : world.tree.content file.place = utility.content)
    (hutility : Utility.ofContent? utility.content = some utility) :
    world.loadCall call = .ok ⟨utility, call.words, file⟩ := by
  rw [loadCall, if_pos hfits]
  unfold load loadWith
  simp only [scriptLimit]
  rw [hfile]
  simp only [bind, Except.bind, hcontent, hutility]
  rfl

def callAt (world : World) (invocation : Invocation) (path : Bytes) : ProgramCall where
  path := path
  words := invocation.program :: invocation.arguments
  vars := world.self.vars.clear invocation.cleared

/-- A program whose path has a slash is started by this path, as long as it can be loaded. -/
theorem choose_of_slash {invocation : Invocation} {loaded : Loaded}
    (hslash : slash ∈ invocation.program)
    (hload : world.loadCall (world.callAt invocation invocation.program) = .ok loaded) :
    world.choose invocation = .ok (world.callAt invocation invocation.program) := by
  have hcontains : invocation.program.contains slash = true := List.contains_iff_mem.mpr hslash
  have hne : invocation.program.isEmpty = false :=
    List.isEmpty_eq_false_iff.mpr (List.ne_nil_of_mem hslash)
  unfold callAt at hload ⊢
  unfold choose search
  simp only [hcontains, hne, hload, Bool.not_true, Bool.and_false]
  rfl

/-- A program without a slash in its name is started by the first path along the search path, as long
as it can be loaded there. -/
theorem choose_of_first {invocation : Invocation} {loaded : Loaded} {rest : List Bytes}
    (hslash : slash ∉ invocation.program) (hne : invocation.program ≠ [])
    (hlength : invocation.program.length ≤ FileTree.nameLimit)
    (hcleared : "PATH" ∉ invocation.cleared)
    (hpaths : searchedPaths ((world.self.vars.value? "PATH").getD defaultSearchPath)
      invocation.program = path :: rest)
    (hload : world.loadCall (world.callAt invocation path) = .ok loaded) :
    world.choose invocation = .ok (world.callAt invocation path) := by
  have hcontains : invocation.program.contains slash = false :=
    Bool.eq_false_iff.mpr (mt List.contains_iff_mem.mp hslash)
  have hpath : invocation.cleared.contains "PATH" = false :=
    Bool.eq_false_iff.mpr (mt List.contains_iff_mem.mp hcleared)
  have hkept : (world.self.vars.clear invocation.cleared).value? "PATH" =
      world.self.vars.value? "PATH" := by
    rw [Variables.value?_clear, hpath, if_neg Bool.false_ne_true]
  unfold callAt at hload ⊢
  unfold choose search
  simp only [hcontains, hpath, List.isEmpty_eq_false_iff.mpr hne, Nat.not_lt.mpr hlength, hkept,
    hpaths, hload, tryCandidates, Bool.false_and]
  rfl

/-! ### What a site sees -/

/-- A site sees the files as the process that runs now does. -/
structure Sees (world : World) (site : Site) : Prop where
  files : site.files = world.tree.files
  directory : world.tree.LiesAt world.self.directory site.directory

/-- The file that a path is looked up as is the one that is loaded by it. -/
theorem Sees.find?_eq {site : Site} {file : FileTree.Arrival} (h : world.Sees site)
    (hpath : Nameable path) (hfile : world.executable path = .ok file) :
    world.tree.find? (site.directory.join path) = world.tree.node? file.place := by
  rw [FileTree.find?_join h.directory hpath, place_of_executable hfile]
  rfl

end World
end MakeLauncher.Machine
