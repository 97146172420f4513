import MakeLauncher.Argument

/-! The settings that the launcher draws from its arguments, over those it starts from. For each of
them the last argument that names it wins. -/

namespace MakeLauncher

structure Settings where
  verbose : Bool := false
  analyze : Bool := false
  analyzerOut : Option String := none
  appAbi : Option String := none
  projectPath : Option Bytes := none
  /-- Whether some list of arguments has ended in a `-C` with no path behind it. -/
  danglingFlag : Bool := false
  deriving DecidableEq, Repr

namespace Settings

def apply (settings : Settings) : Argument → Settings
  | .projectPath path => { settings with projectPath := some path }
  | .assignment (.log on) => { settings with verbose := on }
  | .assignment (.analyze on) => { settings with analyze := on }
  | .assignment (.analyzerOut path) => { settings with analyzerOut := some path }
  | .assignment (.appAbi abi) => { settings with appAbi := some abi }
  | .projectFlag => settings
  | .other _ => settings

/-- The settings after arguments of which it is known what they are. A flag left without its path is
remembered for good, and changes nothing else. -/
def applyAll (settings : Settings) (arguments : List Argument) : Settings :=
  let settled := arguments.foldl apply settings
  { settled with danglingFlag := settled.danglingFlag || Argument.awaitsPath arguments }

def withArguments (settings : Settings) (arguments : List Bytes) : Settings :=
  settings.applyAll (Argument.classify arguments)

theorem danglingFlag_apply (settings : Settings) (argument : Argument) :
    (settings.apply argument).danglingFlag = settings.danglingFlag := by
  cases argument with
  | assignment assignment => cases assignment <;> rfl
  | _ => rfl

theorem danglingFlag_foldl_apply (settings : Settings) (arguments : List Argument) :
    (arguments.foldl apply settings).danglingFlag = settings.danglingFlag := by
  induction arguments generalizing settings with
  | nil => rfl
  | cons argument rest ih => rw [List.foldl_cons, ih, danglingFlag_apply]

theorem danglingFlag_applyAll (settings : Settings) (arguments : List Argument) :
    (settings.applyAll arguments).danglingFlag =
      (settings.danglingFlag || Argument.awaitsPath arguments) := by
  simp only [applyAll, danglingFlag_foldl_apply]

end Settings
end MakeLauncher
