import MakeLauncher.Bytes

/-! The programs that a machine has in the form of the system, and the files that hold them. -/

namespace MakeLauncher

/-- A program in the form of the system, by its name. -/
structure Utility where
  name : String
  deriving DecidableEq, Repr

namespace Utility

def launcher : Utility := ⟨"launcher"⟩

def shell : Utility := ⟨"sh"⟩

/-- The names under which every machine has programs. -/
def names : List String :=
  ["[", "arch", "basename", "cat", "chmod", "cmp", "cp", "cut", "dash", "dirname", "echo", "egrep",
    "env", "expr", "false", "fgrep", "fold", "grep", "head", "id", "link", "ln", "ls", "make",
    "mkdir", "mv", "nice", "nl", "nohup", "paste", "printenv", "printf", "pwd", "readlink",
    "realpath", "rev", "rm", "rmdir", "seq", "setsid", "sh", "sleep", "sort", "stat", "stdbuf",
    "sync", "tac", "tail", "tee", "test", "timeout", "touch", "tr", "true", "tty", "uname", "uniq",
    "unlink", "wc", "which", "whoami", "xargs", "yes"]

/-- The program that a name stands for. -/
def ofName (name : String) : Utility := if name = "dash" then shell else ⟨name⟩

/-- What the file of a program starts with. -/
def mark : Bytes := Bytes.ascii '\x7f' :: Bytes.ofText "ELF"

def content (utility : Utility) : Bytes := mark ++ Bytes.ofText utility.name ++ [0]

/-- The program that a file with this content is, if it is one. -/
def ofContent? (content : Bytes) : Option Utility :=
  if mark.isPrefixOf content then
    let name : Bytes := (content.drop mark.length).takeWhile (· ≠ 0)
    ("launcher" :: names).find? (Bytes.ofText · == name) |>.map Utility.mk
  else none

end Utility
end MakeLauncher
