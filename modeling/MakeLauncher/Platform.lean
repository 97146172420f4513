import MakeLauncher.Failure
import MakeLauncher.Text.WhiteSpace

/-! The platform that make runs on: the operating system and the processor, which together name the
directory of the prebuilt tools. -/

namespace MakeLauncher

/-- The families of operating systems that there are prebuilt tools for. -/
inductive OsFamily where
  | darwin
  | linux
  | freebsd
  | cygwin
  deriving DecidableEq, Repr

namespace OsFamily

/-- The families, in the order in which a kernel name is tried on them. -/
def all : List OsFamily := [.darwin, .linux, .freebsd, .cygwin]

/-- The part of a tag that names the family. -/
def name : OsFamily → String
  | .darwin => "darwin"
  | .linux => "linux"
  | .freebsd => "freebsd"
  | .cygwin => "cygwin"

/-- Whether the characters of `part` stand together somewhere in a list of characters. -/
def occurs (part : List Char) : List Char → Bool
  | [] => part.isEmpty
  | c :: rest => part.isPrefixOf (c :: rest) || occurs part rest

/-- The kernel names of a family. -/
def recognises (kernel : List Char) : OsFamily → Bool
  | .darwin => kernel = "Darwin".toList
  | .linux => kernel = "Linux".toList
  | .freebsd => kernel.map Char.toLower = "freebsd".toList
  | .cygwin => "CYGWIN".toList.isPrefixOf kernel || occurs "_NT-".toList kernel

/-- The family that a kernel name belongs to. White space around the name does not count. -/
def ofKernel (kernel : String) : Except Failure OsFamily :=
  match all.find? (recognises (trim kernel).toList) with
  | some family => .ok family
  | none => .error (.unsupportedOs (trim kernel))

end OsFamily

/-- The processors that there are prebuilt tools for. -/
inductive Processor where
  | arm64
  | x86
  | x86_64
  deriving DecidableEq, Repr

namespace Processor

/-- The processors, in the order in which a machine name is tried on them. -/
def all : List Processor := [.arm64, .x86_64, .x86]

def name : Processor → String
  | .arm64 => "arm64"
  | .x86 => "x86"
  | .x86_64 => "x86_64"

/-- The machine names of a processor. For the 32-bit one any ASCII character may stand for the
generation. -/
def recognises (machine : List Char) : Processor → Bool
  | .arm64 => machine = "arm64".toList || machine = "aarch64".toList
  | .x86_64 => machine = "x86_64".toList || machine = "amd64".toList
  | .x86 =>
      match machine with
      | ['i', generation, '8', '6'] => generation.toNat < 128
      | _ => false

/-- The processor that a machine name stands for. White space around the name does not count. -/
def ofMachine (machine : String) : Except Failure Processor :=
  match all.find? (recognises (trim machine).toList) with
  | some processor => .ok processor
  | none => .error (.unsupportedProcessor (trim machine))

end Processor

/-- The pair that names a directory of prebuilt tools. -/
structure Platform where
  family : OsFamily
  processor : Processor
  deriving DecidableEq, Repr

namespace Platform

/-- The platform of a host. The tools for macOS run on both of its processors and are kept under one
name. -/
def ofHost : OsFamily → Processor → Platform
  | .darwin, .arm64 => ⟨.darwin, .x86_64⟩
  | family, processor => ⟨family, processor⟩

def tag (platform : Platform) : String := platform.family.name ++ "-" ++ platform.processor.name

/-- The platform of the host with these kernel and machine names. Of two unknown names the kernel is
reported. -/
def ofNames (kernel machine : String) : Except Failure Platform := do
  let family ← OsFamily.ofKernel kernel
  let processor ← Processor.ofMachine machine
  return ofHost family processor

end Platform
end MakeLauncher
