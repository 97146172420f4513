/-! What processes may use at most: the resources of a machine and the limits on them. A process may raise
its soft limit, which is the one that counts, up to its hard one. -/

namespace MakeLauncher.Machine

/-- Something of which a process may use so much only. -/
structure Resource where
  letter : Char
  name : String
  /-- The size of the units in which it is told. -/
  unit : Nat
  deriving DecidableEq, Repr

/-- The resources, in the order in which they are told about. -/
def resources : List Resource :=
  [⟨'t', "time(seconds)", 1⟩, ⟨'f', "file(blocks)", 512⟩, ⟨'d', "data(kbytes)", 1024⟩,
    ⟨'s', "stack(kbytes)", 1024⟩, ⟨'c', "coredump(blocks)", 512⟩, ⟨'m', "memory(kbytes)", 1024⟩,
    ⟨'l', "locked memory(kbytes)", 1024⟩, ⟨'p', "process", 1⟩, ⟨'n', "nofiles", 1⟩,
    ⟨'v', "vmemory(kbytes)", 1024⟩, ⟨'w', "locks", 1⟩, ⟨'r', "rtprio", 1⟩]

structure Limit where
  soft? : Option Nat := none
  hard? : Option Nat := none
  deriving DecidableEq, Repr

/-- The soft limit is no larger than the hard one. -/
def Limit.isSound (limit : Limit) : Bool :=
  match limit.soft?, limit.hard? with
  | _, none => true
  | none, some _ => false
  | some soft, some hard => soft ≤ hard

/-- The limits of a process, by the letters of the resources. There is none on a resource that is
missing. -/
structure Limits where
  entries : List (Char × Limit)
  deriving DecidableEq, Repr

namespace Limits

def of (limits : Limits) (resource : Resource) : Limit :=
  (limits.entries.lookup resource.letter).getD {}

def set (limits : Limits) (resource : Resource) (limit : Limit) : Limits :=
  ⟨(resource.letter, limit) :: limits.entries.filter (·.1 ≠ resource.letter)⟩

def usual : Limits :=
  ⟨[('s', { soft? := some 8388608 }), ('c', { soft? := some 0 }),
    ('l', { soft? := some 8388608, hard? := some 8388608 }),
    ('n', { soft? := some 1048576, hard? := some 1048576 }),
    ('r', { soft? := some 0, hard? := some 0 })]⟩

end Limits
end MakeLauncher.Machine
