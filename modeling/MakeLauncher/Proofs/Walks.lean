import MakeLauncher.Machine.FileTree
import MakeLauncher.Proofs.Search

/-! Walks through a file tree. A walk that meets no link can be cut in two anywhere, and the first part
serves any walk that goes on differently. Main statement: a process and one who knows the path of its
directory mean the same node by a path. -/

namespace MakeLauncher

open Bytes

namespace FileTree

variable {tree : FileTree} {source source' arrival : Arrival}

/-! ### Names to walk -/

def namesIn (path : Bytes) : List Bytes := (path.splitOn slash).filter (· ≠ [])

theorem steps_eq (path : Bytes) :
    steps path = namesIn path ++ if path.getLast? = some slash then [here] else [] :=
  rfl

theorem namesIn_append_slash (front path : Bytes) :
    namesIn (front ++ slash :: path) = namesIn front ++ namesIn path := by
  rw [namesIn, List.splitOn_append_cons_self, List.filter_append]
  rfl

theorem namesIn_concat_slash (front : Bytes) : namesIn (front ++ [slash]) = namesIn front := by
  rw [namesIn_append_slash]
  exact List.append_nil _

theorem steps_join (directory : Bytes) {path : Bytes} (hpath : path ≠ [])
    (hrelative : path.isAbsolute = false) :
    steps (directory.join path) = namesIn directory ++ steps path := by
  have hlast : ∀ front : Bytes, (front ++ path).getLast? = path.getLast? :=
    fun front => List.getLast?_append_of_ne_nil front hpath
  rw [join, hrelative, if_neg Bool.false_ne_true]
  split_ifs with hbase
  · rw [steps_eq, hlast, steps_eq, ← List.append_assoc]
    congr 1
    rcases Bool.or_eq_true_iff.mp hbase with hempty | hslash
    · rw [List.isEmpty_iff.mp hempty]
      rfl
    · obtain ⟨front, rfl⟩ := List.getLast?_eq_some_iff.mp (beq_iff_eq.mp hslash)
      rw [List.append_assoc, List.singleton_append, namesIn_append_slash, namesIn_concat_slash]
  · have hwhole : directory ++ slash :: path = (directory ++ [slash]) ++ path := by simp
    rw [steps_eq, namesIn_append_slash, hwhole, hlast, steps_eq, List.append_assoc]

/-! ### Walks without a link -/

theorem walk_nil (links : Nat) : tree.walk links source [] = .ok source := by rw [walk]

theorem walk_here_cons (links : Nat) (rest : List Bytes) :
    tree.walk links source (here :: rest) =
      if tree.isDirectory source.place then tree.walk links { place := source.place } rest
      else .error .notDirectory := by
  rw [walk, if_pos rfl]
  cases tree.isDirectory source.place <;> rfl

/-- The first step of a walk that meets no link is the same on every walk. -/
theorem exists_step_of_walk {name : Bytes} {rest : List Bytes}
    (h : tree.walk 0 source (name :: rest) = .ok arrival) :
    ∃ next, tree.walk 0 next rest = .ok arrival ∧
      ∀ links more, tree.walk links source (name :: more) = tree.walk links next more := by
  rw [walk] at h
  split_ifs at h with hdirectory hhere habove hlong
  · refine ⟨_, h, ?_⟩
    intro links more
    rw [walk, if_neg hdirectory, if_pos hhere]
  · refine ⟨_, h, ?_⟩
    intro links more
    rw [walk, if_neg hdirectory, if_neg hhere, if_pos habove]
  · cases hchild : tree.child? ⟨source.place, name⟩ with
    | none =>
        simp only [hchild] at h
        cases h
    | some next =>
        simp only [hchild] at h
        split at h
        · cases h
        · rename_i hkind
          refine ⟨_, h, ?_⟩
          intro links more
          rw [walk, if_neg hdirectory, if_neg hhere, if_neg habove, if_neg hlong]
          simp only [hchild]

/-- A walk that meets no link goes on from where its first names lead, and so does every other walk that
starts with them. -/
theorem exists_walk_of_append {names more : List Bytes}
    (h : tree.walk 0 source (names ++ more) = .ok arrival) :
    ∃ between, tree.walk 0 between more = .ok arrival ∧
      ∀ links others, tree.walk links source (names ++ others) = tree.walk links between others := by
  induction names generalizing source with
  | nil => exact ⟨source, h, fun _ _ => rfl⟩
  | cons name names ih =>
      obtain ⟨next, hnext, hstep⟩ := exists_step_of_walk h
      obtain ⟨between, hbetween, hwalk⟩ := ih hnext
      refine ⟨between, hbetween, ?_⟩
      intro links others
      rw [List.cons_append, hstep, hwalk]

/-- How a walk got to its source does not matter to where it leads. -/
theorem map_place_walk_congr (h : source.place = source'.place) (links : Nat) (names : List Bytes) :
    (tree.walk links source names).map (·.place) = (tree.walk links source' names).map (·.place) := by
  cases names with
  | nil => rw [walk_nil, walk_nil, Except.map, Except.map, h]
  | cons name rest => rw [walk, walk, h]

/-! ### Trees without links -/

/-- Where names lead to from some place when there are no links. It is computed from the names alone. -/
def plainWalk (tree : FileTree) (source : Arrival) : List Bytes → Except Errno Arrival
  | [] => .ok source
  | name :: rest =>
      if !tree.isDirectory source.place then .error .notDirectory
      else if name = here then tree.plainWalk { place := source.place } rest
      else if name = Bytes.above then tree.plainWalk { place := tree.above source.place } rest
      else if name.length > nameLimit then .error .nameTooLong
      else
        match tree.child? ⟨source.place, name⟩ with
        | none => .error .noEntry
        | some next => tree.plainWalk { place := next, slot? := some ⟨source.place, name⟩ } rest

def plainFind? (tree : FileTree) (path : Bytes) : Option Node :=
  (tree.plainWalk { place := root } (steps path)).toOption.bind (tree.node? ·.place)

def Plain (tree : FileTree) : Prop := ∀ node ∈ tree.nodes.toList, ∀ target, node.kind ≠ .link target

theorem Plain.kind?_ne (h : tree.Plain) (place : Place) (target : Bytes) :
    tree.kind? place ≠ some (.link target) := by
  intro hlink
  obtain ⟨node, hnode, hkind⟩ := Option.map_eq_some_iff.mp hlink
  exact h node (Array.mem_toList_iff.mpr (Array.mem_of_getElem? hnode)) target hkind

theorem Plain.walk_eq (h : tree.Plain) (links : Nat) (source : Arrival) (names : List Bytes) :
    tree.walk links source names = tree.plainWalk source names := by
  induction names generalizing source with
  | nil => exact walk_nil links
  | cons name rest ih =>
      rw [walk, plainWalk, ih, ih]
      dsimp only
      cases hchild : tree.child? ⟨source.place, name⟩ with
      | none => rfl
      | some next =>
          dsimp only
          cases hkind : tree.kind? next with
          | none => rw [ih]
          | some kind =>
              cases kind with
              | link target => exact absurd hkind (h.kind?_ne next target)
              | directory | file | device => rw [ih]

theorem Plain.find?_eq (h : tree.Plain) : tree.find? = tree.plainFind? := by
  funext path
  rw [find?, h.walk_eq, plainFind?]
  cases tree.plainWalk { place := root } (steps path) <;> rfl

theorem Plain.files_eq (h : tree.Plain) : tree.files =
    { isFile := fun path => (tree.plainFind? path).any (·.isFile)
      isExecutable := fun path =>
        (tree.plainFind? path).any fun node => node.isDirectory || node.isExecutable } := by
  unfold files
  rw [h.find?_eq]

/-! ### Paths of a process -/

/-- A directory is at a path, with no link on the way to it. -/
def LiesAt (tree : FileTree) (place : Place) (path : Bytes) : Prop :=
  ∃ slot?, tree.walk 0 { place := root } (steps path) = .ok { place, slot? }

theorem LiesAt.exists_walk {place : Place} {path : Bytes} (h : tree.LiesAt place path) :
    ∃ between : Arrival, between.place = place ∧
      ∀ links others,
        tree.walk links { place := root } (namesIn path ++ others) =
          tree.walk links between others := by
  obtain ⟨slot?, hwalk⟩ := h
  rw [steps_eq] at hwalk
  obtain ⟨between, hbetween, hwalks⟩ := exists_walk_of_append hwalk
  refine ⟨between, ?_, hwalks⟩
  split at hbetween
  · rw [walk_here_cons] at hbetween
    split_ifs at hbetween
    rw [walk_nil, Except.ok.injEq] at hbetween
    exact congrArg Arrival.place hbetween
  · rw [walk_nil, Except.ok.injEq] at hbetween
    rw [hbetween]

theorem find?_eq (tree : FileTree) (path : Bytes) :
    tree.find? path =
      (((tree.walk linkLimit { place := root } (steps path)).map (·.place)).toOption).bind
        tree.node? := by
  unfold find?
  cases tree.walk linkLimit { place := root } (steps path) <;> rfl

theorem checkPath_of_nameable {path : Bytes} (hpath : path.Nameable) : checkPath path = .ok () := by
  obtain ⟨hne, -, hlength⟩ := hpath
  rw [checkPath, if_neg (by simpa using hne), if_neg (Nat.not_lt.mpr hlength)]

theorem place_of_nameable (place : Place) {path : Bytes} (hpath : path.Nameable) :
    tree.place place path =
      (tree.walk linkLimit { place := start place path } (steps path)).map (·.place) := by
  rw [FileTree.place, arrive, checkPath_of_nameable hpath]
  rfl

theorem Plain.arrive_eq (h : tree.Plain) (directory : Place) {path : Bytes} (hpath : path.Nameable) :
    tree.arrive directory path =
      tree.plainWalk { place := start directory path } (steps path) := by
  rw [arrive, checkPath_of_nameable hpath, h.walk_eq]
  rfl

/-- What is at the path that joins a directory and a path is what a process in the directory gets to by
the path. -/
theorem find?_join {place : Place} {directory path : Bytes} (hdirectory : tree.LiesAt place directory)
    (hpath : path.Nameable) :
    tree.find? (directory.join path) = (tree.place place path).toOption.bind tree.node? := by
  rw [find?_eq, place_of_nameable place hpath]
  congr 2
  cases habsolute : path.isAbsolute with
  | true => rw [join_of_isAbsolute habsolute, start, habsolute, if_pos rfl]
  | false =>
      obtain ⟨between, hplace, hwalks⟩ := hdirectory.exists_walk
      rw [steps_join directory hpath.1 habsolute, hwalks, start, habsolute]
      exact map_place_walk_congr hplace linkLimit (steps path)

end FileTree
end MakeLauncher
