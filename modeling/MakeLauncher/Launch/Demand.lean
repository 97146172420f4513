import MakeLauncher.Launch.Basic

/-! A launch taken step by step. What a launch has been told so far decides what it asks or calls for
next, so one that waits for its answers can be taken up again from the start when there is one more. -/

namespace MakeLauncher

/-- What a launch has been told so far: the answers to its questions, and the replies to its calls, in
order. -/
structure Answers where
  queries : List (Query × Except Failure String) := []
  replies : List (Except IoFailure Reply) := []

namespace Answers

/-- The failure that stands for what a launch has not been told yet. -/
def unknown : IoFailure := .other ""

def probe (answers : Answers) : Probe := fun query =>
  (answers.queries.lookup query).getD (.error (.unknownHost query.subject unknown.message))

def runner (answers : Answers) : Runner := fun earlier _ =>
  answers.replies.getD earlier.length (.error unknown)

end Answers

/-- What a launch needs next. -/
inductive Demand (α : Type) where
  | query (query : Query)
  | call (call : Call)
  /-- It is over. -/
  | nothing (result : Except Failure α)

/-- What a launch needs next when it has been told something, and what it has written into its log until
then. Without an answer a launch fails and writes no more. -/
def Launch.demand {α : Type} (launch : Probe → Runner → Launch α) (answers : Answers) :
    Demand α × List Event :=
  let (result, trace) := (launch answers.probe answers.runner).outcome {}
  let demand :=
    match trace.queries[answers.queries.length]?, trace.calls[answers.replies.length]? with
    | some query, _ => Demand.query query
    | none, some call => .call call
    | none, none => .nothing result
  (demand, trace.log)

end MakeLauncher
