import MakeLauncher.Proofs.Arguments
import MakeLauncher.Settings

/-! The settings as a function of the whole list of arguments. Each setting is read by its own kind of
argument and left alone by the others, so after all arguments it is what the last one of that kind
says, and without one what it was before. -/

namespace MakeLauncher

namespace Assignment

/-- The switch of the log in an assignment that sets it. -/
def log? : Assignment → Option Bool
  | .log on => some on
  | _ => none

/-- The switch of the analyzer in an assignment that sets it. -/
def analyze? : Assignment → Option Bool
  | .analyze on => some on
  | _ => none

/-- The path for the reports of the analyzer in an assignment that sets it. -/
def analyzerOut? : Assignment → Option String
  | .analyzerOut path => some path
  | _ => none

/-- The target in an assignment that sets it. -/
def appAbi? : Assignment → Option String
  | .appAbi abi => some abi
  | _ => none

end Assignment

/-- What the last of the assignments that `read` takes notice of says, among the arguments that are
not the paths of flags. -/
def Argument.lastFree {α : Type} (read : Assignment → Option α) (arguments : List Bytes) :
    Option α :=
  (((free arguments).filterMap Assignment.ofBytes?).filterMap read).getLast?

namespace Settings

/-- A value that each item replaces or leaves is, at the end, the last one put in its place. -/
theorem foldl_eq_getLast? {σ τ α : Type} (get : σ → α) (step : σ → τ → σ) (read : τ → Option α)
    (hstep : ∀ state item, get (step state item) = (read item).getD (get state))
    (state : σ) (items : List τ) :
    get (items.foldl step state) = ((items.filterMap read).getLast?).getD (get state) := by
  induction items generalizing state with
  | nil => rfl
  | cons item items ih =>
      rw [List.foldl_cons, ih, hstep, List.filterMap_cons]
      cases read item with
      | none => rfl
      | some value => simp [List.getLast?_cons]

/-- A setting that only assignments replace is at the end as the last of these has it that is no
path. -/
theorem get_withArguments {α : Type} (get : Settings → α) (read : Assignment → Option α)
    (happly : ∀ (settings : Settings) (assignment : Assignment),
      get (settings.apply (.assignment assignment)) = (read assignment).getD (get settings))
    (hpath : ∀ (settings : Settings) (path : Option Bytes),
      get { settings with projectPath := path } = get settings)
    (hdangling : ∀ (settings : Settings) (dangling : Bool),
      get { settings with danglingFlag := dangling } = get settings)
    (settings : Settings) (arguments : List Bytes) :
    get (settings.withArguments arguments) =
      (Argument.lastFree read arguments).getD (get settings) := by
  have hstep : ∀ (settings : Settings) (argument : Argument),
      get (settings.apply argument) =
        (argument.assignment?.bind read).getD (get settings) := by
    intro settings argument
    cases argument with
    | assignment assignment => exact happly settings assignment
    | projectPath path => exact hpath settings (some path)
    | projectFlag => rfl
    | other => rfl
  have hfold := foldl_eq_getLast? get apply (fun argument => argument.assignment?.bind read)
    hstep settings (Argument.classify arguments)
  rw [Argument.lastFree, ← Argument.filterMap_assignment?_classify, List.filterMap_filterMap]
  exact (hdangling _ _).trans hfold

theorem getD_getLast?_map_some {α β : Type} (read : β → Option α) (items : List β)
    (before : Option α) :
    ((items.filterMap fun item => (read item).map some).getLast?).getD before =
      (items.filterMap read).getLast?.or before := by
  rw [← List.map_filterMap, List.getLast?_map]
  cases (items.filterMap read).getLast? <;> rfl

/-- The log is switched by the last assignment to its variable that is no path. -/
theorem verbose_withArguments (settings : Settings) (arguments : List Bytes) :
    (settings.withArguments arguments).verbose =
      (Argument.lastFree Assignment.log? arguments).getD settings.verbose := by
  apply get_withArguments Settings.verbose _ _ (fun _ _ => rfl) fun _ _ => rfl
  intro settings assignment
  cases assignment <;> rfl

theorem analyze_withArguments (settings : Settings) (arguments : List Bytes) :
    (settings.withArguments arguments).analyze =
      (Argument.lastFree Assignment.analyze? arguments).getD settings.analyze := by
  apply get_withArguments Settings.analyze _ _ (fun _ _ => rfl) fun _ _ => rfl
  intro settings assignment
  cases assignment <;> rfl

theorem analyzerOut_withArguments (settings : Settings) (arguments : List Bytes) :
    (settings.withArguments arguments).analyzerOut =
      (Argument.lastFree Assignment.analyzerOut? arguments).or settings.analyzerOut := by
  rw [Argument.lastFree, ← getD_getLast?_map_some]
  apply get_withArguments Settings.analyzerOut _ _ (fun _ _ => rfl) fun _ _ => rfl
  intro settings assignment
  cases assignment <;> rfl

theorem appAbi_withArguments (settings : Settings) (arguments : List Bytes) :
    (settings.withArguments arguments).appAbi =
      (Argument.lastFree Assignment.appAbi? arguments).or settings.appAbi := by
  rw [Argument.lastFree, ← getD_getLast?_map_some]
  apply get_withArguments Settings.appAbi _ _ (fun _ _ => rfl) fun _ _ => rfl
  intro settings assignment
  cases assignment <;> rfl

/-- The path of the project is the last path among arguments of which it is known what they are. -/
theorem projectPath_applyAll (settings : Settings) (arguments : List Argument) :
    (settings.applyAll arguments).projectPath =
      (arguments.filterMap Argument.path?).getLast?.or settings.projectPath := by
  have happly : ∀ (settings : Settings) (argument : Argument),
      (settings.apply argument).projectPath =
        (argument.path?.map some).getD settings.projectPath := by
    intro settings argument
    cases argument with
    | assignment assignment => cases assignment <;> rfl
    | _ => rfl
  rw [← getD_getLast?_map_some]
  exact foldl_eq_getLast? Settings.projectPath apply _ happly settings _

theorem projectPath_withArguments (settings : Settings) (arguments : List Bytes) :
    (settings.withArguments arguments).projectPath =
      (Argument.paths arguments).getLast?.or settings.projectPath := by
  rw [← Argument.filterMap_path?_classify]
  exact projectPath_applyAll settings (Argument.classify arguments)

theorem danglingFlag_withArguments (settings : Settings) (arguments : List Bytes) :
    (settings.withArguments arguments).danglingFlag =
      (settings.danglingFlag || decide (Argument.EndsOpen arguments)) := by
  rw [withArguments, danglingFlag_applyAll, Argument.awaitsPath_classify]

end Settings
end MakeLauncher
