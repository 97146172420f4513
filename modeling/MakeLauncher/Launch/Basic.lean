import MakeLauncher.Event
import MakeLauncher.Failure
import MakeLauncher.Invocation

/-! A launch as a computation over its trace: the log it writes, the questions it asks about the
host and the processes it starts, each in order. The answers come from a `Probe` and a `Runner`, so
that a launch is a function of them. The lemmas on `Launch.outcome` say what each step does to the
trace, and how computations that follow one another compose. -/

namespace MakeLauncher

inductive CallKind where
  /-- The launcher reads what the process prints. -/
  | output
  /-- The process prints where the launcher does. -/
  | status
  deriving DecidableEq, Repr

/-- A process that a launch starts. -/
structure Call where
  kind : CallKind
  invocation : Invocation
  deriving DecidableEq, Repr

structure Streams where
  stdout : Bytes := []
  stderr : Bytes := []
  deriving DecidableEq, Repr

/-- What a launch learns from a process that has ended. -/
structure Reply where
  code : Int := 0
  /-- The text that the process printed for the launcher to read. -/
  stdout : String := ""
  /-- What the process printed where the launcher prints. -/
  printed : Streams := {}
  deriving DecidableEq, Repr

/-- The answers to calls. An answer may depend on the calls before it. -/
abbrev Runner := List Call → Call → Except IoFailure Reply

/-- Answers from a list, the n-th call getting the n-th. When the list is over, processes succeed
and print nothing. -/
def Runner.scripted (replies : List (Except IoFailure Reply)) : Runner :=
  fun earlier _ => replies.getD earlier.length (.ok {})

/-- The questions about the host. -/
inductive Query where
  | kernel
  | machine
  deriving DecidableEq, Repr

/-- What a question asks for. -/
def Query.subject : Query → String
  | .kernel => "kernel name"
  | .machine => "machine name"

/-- The answers to the questions about the host. -/
abbrev Probe := Query → Except Failure String

/-- What a launch has done so far. -/
structure Trace where
  log : List Event := []
  queries : List Query := []
  calls : List Call := []
  deriving DecidableEq, Repr

/-- A computation that goes on with a trace, and ends with a value or a failure. -/
abbrev Launch := ExceptT Failure (StateM Trace)

namespace Launch

variable {α β : Type}

def outcome (launch : Launch α) (trace : Trace) : Except Failure α × Trace :=
  (ExceptT.run launch).run trace

def noteAll (events : List Event) : Launch Unit :=
  modify fun trace => { trace with log := trace.log ++ events }

def note (event : Event) : Launch Unit := noteAll [event]

/-- End with a result that is known. -/
def ofExcept : Except Failure α → Launch α
  | .ok a => pure a
  | .error failure => throw failure

def ask (probe : Probe) (query : Query) : Launch String := do
  modify fun trace => { trace with queries := trace.queries ++ [query] }
  ofExcept (probe query)

def call (runner : Runner) (kind : CallKind) (invocation : Invocation) : Launch Reply := do
  let trace ← get
  let call : Call := ⟨kind, invocation⟩
  set { trace with calls := trace.calls ++ [call] }
  match runner trace.calls call with
  | .ok reply => pure reply
  | .error cause => throw (.notStarted invocation.program.shown cause)

/-! ### Outcomes -/

@[simp] theorem outcome_pure (a : α) (trace : Trace) :
    outcome (pure a : Launch α) trace = (.ok a, trace) := rfl

@[simp] theorem outcome_throw (failure : Failure) (trace : Trace) :
    outcome (throw failure : Launch α) trace = (.error failure, trace) := rfl

/-- A failure ends a computation, and what has been done until then stays done. -/
theorem outcome_bind (launch : Launch α) (next : α → Launch β) (trace : Trace) :
    outcome (launch >>= next) trace =
      match outcome launch trace with
      | (.ok a, trace) => outcome (next a) trace
      | (.error failure, trace) => (.error failure, trace) := by
  unfold outcome
  simp only [ExceptT.run_bind, StateT.run_bind]
  cases h : (ExceptT.run launch).run trace with
  | mk result trace' => cases result <;> rfl

/-- A failure that is caught leaves the trace of what was tried. -/
theorem outcome_tryCatch (launch : Launch α) (handler : Failure → Launch α) (trace : Trace) :
    outcome (tryCatch launch handler) trace =
      match outcome launch trace with
      | (.ok a, trace) => (.ok a, trace)
      | (.error failure, trace) => outcome (handler failure) trace := by
  unfold outcome
  simp only [tryCatch, tryCatchThe, MonadExceptOf.tryCatch, ExceptT.tryCatch]
  cases h : (ExceptT.run launch).run trace with
  | mk result trace' =>
      simp only [ExceptT.run, ExceptT.mk, StateT.run, bind, StateT.bind] at h ⊢
      rw [h]
      cases result <;> rfl

@[simp] theorem outcome_noteAll (events : List Event) (trace : Trace) :
    outcome (noteAll events) trace = (.ok (), { trace with log := trace.log ++ events }) := rfl

@[simp] theorem outcome_note (event : Event) (trace : Trace) :
    outcome (note event) trace = (.ok (), { trace with log := trace.log ++ [event] }) := rfl

@[simp] theorem outcome_ofExcept (result : Except Failure α) (trace : Trace) :
    outcome (ofExcept result) trace = (result, trace) := by
  cases result <;> rfl

@[simp] theorem outcome_ask (probe : Probe) (query : Query) (trace : Trace) :
    outcome (ask probe query) trace =
      (probe query, { trace with queries := trace.queries ++ [query] }) := by
  unfold ask
  rw [outcome_bind]
  exact outcome_ofExcept _ _

@[simp] theorem outcome_call (runner : Runner) (kind : CallKind) (invocation : Invocation)
    (trace : Trace) :
    outcome (call runner kind invocation) trace =
      ((runner trace.calls ⟨kind, invocation⟩).mapError (.notStarted invocation.program.shown),
        { trace with calls := trace.calls ++ [⟨kind, invocation⟩] }) := by
  unfold call
  rw [outcome_bind]
  show outcome _ _ = _
  rw [outcome_bind]
  show outcome _ _ = _
  cases runner trace.calls ⟨kind, invocation⟩ <;> rfl

variable {runner : Runner} {calls : List Call} {kind : CallKind} {invocation : Invocation}

theorem outcome_call_of_eq_ok {reply : Reply}
    (h : runner calls ⟨kind, invocation⟩ = .ok reply) (log : List Event) (queries : List Query) :
    outcome (call runner kind invocation) ⟨log, queries, calls⟩ =
      (.ok reply, ⟨log, queries, calls ++ [⟨kind, invocation⟩]⟩) := by
  rw [outcome_call, h]
  rfl

theorem outcome_call_of_eq_error {cause : IoFailure}
    (h : runner calls ⟨kind, invocation⟩ = .error cause) (log : List Event)
    (queries : List Query) :
    outcome (call runner kind invocation) ⟨log, queries, calls⟩ =
      (.error (.notStarted invocation.program.shown cause),
        ⟨log, queries, calls ++ [⟨kind, invocation⟩]⟩) := by
  rw [outcome_call, h]
  rfl

end Launch
end MakeLauncher
