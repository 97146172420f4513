import MakeLauncher.Proofs.Launch.Trial

/-! The trial of make as an exchange with a script of replies. The later calls are made up from the
texts of the earlier replies, and each reply decides whether there is a call behind it. Main statement:
the calls are the first ones of a fixed list of four, how many of them is told from the replies, and so
is what the trial ends with; the fourth reply decides nothing but how a make that has failed is shown. -/

namespace MakeLauncher.CygwinTrial

/-- The reply of a script to the call at a place. Behind its end processes succeed and print nothing. -/
def replyAt (replies : List (Except IoFailure Reply)) (place : Nat) : Except IoFailure Reply :=
  replies.getD place (.ok {})

def textOf : Except IoFailure Reply → String
  | .ok reply => reply.stdout
  | .error _ => ""

/-- A reply that gives a path in another style. -/
def Converts : Except IoFailure Reply → Prop
  | .ok reply => reply.code = 0 ∧ reply.stdout ≠ ""
  | .error _ => False

/-- A reply of a process that was started and has succeeded. -/
def Succeeds : Except IoFailure Reply → Prop
  | .ok reply => reply.code = 0
  | .error _ => False

/-- A reply of a process that was started and has failed. -/
def Refuses : Except IoFailure Reply → Prop
  | .ok reply => reply.code ≠ 0
  | .error _ => False

instance : DecidablePred Converts
  | .ok _ => inferInstanceAs (Decidable (_ ∧ _))
  | .error _ => inferInstanceAs (Decidable False)

instance : DecidablePred Succeeds
  | .ok _ => inferInstanceAs (Decidable (_ = _))
  | .error _ => inferInstanceAs (Decidable False)

instance : DecidablePred Refuses
  | .ok _ => inferInstanceAs (Decidable (_ ≠ _))
  | .error _ => inferInstanceAs (Decidable False)

/-- What the conversion of a path fails with, by a reply that gives none. -/
def conversionFailure (path : Bytes) : Except IoFailure Reply → Failure
  | .error cause => .notStarted "cygpath" cause
  | .ok reply => .notStarted "cygpath" (.notConverted path reply.code)

/-- The calls of a trial that makes all of them, when its first two replies read `unix` and `mixed`. -/
def protocol (make root : Bytes) (unix mixed : String) : List Call :=
  [⟨.output, { program := "cygpath", arguments := ["-u", make] }⟩,
    ⟨.output, { program := "cygpath", arguments := ["-m", root] }⟩,
    ⟨.output, {
      program := unix
      arguments := ["-f", Bytes.join mixed "core/check-cygwin-make.mk"] }⟩,
    ⟨.output, { program := "cygpath", arguments := ["-m", unix] }⟩]

/-- The number of calls that a trial makes, by its first three replies. -/
def callCount (first second third : Except IoFailure Reply) : Nat :=
  if ¬Converts first then 1 else if ¬Converts second then 2 else if Refuses third then 4 else 3

theorem converted_scripted (replies : List (Except IoFailure Reply)) (earlier : List Call)
    (style : PathStyle) (path : Bytes) :
    converted (Runner.scripted replies) earlier style path =
      if Converts (replyAt replies earlier.length) then
        .ok (Bytes.ofText (textOf (replyAt replies earlier.length)))
      else .error (conversionFailure path (replyAt replies earlier.length)) := by
  unfold converted
  change (match replyAt replies earlier.length with | .error _ => _ | .ok reply => _) = _
  cases replyAt replies earlier.length with
  | error cause => rfl
  | ok reply => rfl

theorem shown_converted (replies : List (Except IoFailure Reply)) (earlier : List Call)
    (style : PathStyle) (path : Bytes) :
    ((converted (Runner.scripted replies) earlier style path).toOption.getD path).shown =
      if Converts (replyAt replies earlier.length) then textOf (replyAt replies earlier.length)
      else path.shown := by
  rw [converted_scripted]
  split
  · exact Bytes.shown_ofText _
  · rfl

/-! ### The ways of a trial, by the script -/

section

variable {replies : List (Except IoFailure Reply)} (make root : Bytes)

theorem converted_make (h : Converts (replyAt replies 0)) :
    converted (Runner.scripted replies) [] .unix make =
      .ok (Bytes.ofText (textOf (replyAt replies 0))) :=
  (converted_scripted replies [] .unix make).trans (if_pos h)

theorem converted_root (h : Converts (replyAt replies 1)) :
    converted (Runner.scripted replies) [conversionCall .unix make] .mixed root =
      .ok (Bytes.ofText (textOf (replyAt replies 1))) :=
  (converted_scripted replies [_] .mixed root).trans (if_pos h)

theorem outcome_of_unconvertedMake (hmake : ¬Converts (replyAt replies 0)) :
    Launch.outcome (run (Runner.scripted replies) make root) {} =
      (.error (conversionFailure make (replyAt replies 0)),
        { calls := (protocol make root (textOf (replyAt replies 0))
          (textOf (replyAt replies 1))).take 1 }) := by
  have hfailed := (converted_scripted replies [] .unix make).trans (if_neg hmake)
  exact (Goes.unconvertedMake hfailed).outcome_run {}

theorem outcome_of_unconvertedRoot (hmake : Converts (replyAt replies 0))
    (hroot : ¬Converts (replyAt replies 1)) :
    Launch.outcome (run (Runner.scripted replies) make root) {} =
      (.error (conversionFailure root (replyAt replies 1)),
        { calls := (protocol make root (textOf (replyAt replies 0))
          (textOf (replyAt replies 1))).take 2 }) := by
  have hfailed := (converted_scripted replies [conversionCall .unix make] .mixed root).trans
    (if_neg hroot)
  exact (Goes.unconvertedRoot (converted_make make hmake) hfailed).outcome_run {}

theorem outcome_of_notStarted (hmake : Converts (replyAt replies 0))
    (hroot : Converts (replyAt replies 1)) {cause : IoFailure}
    (htrial : replyAt replies 2 = .error cause) :
    Launch.outcome (run (Runner.scripted replies) make root) {} =
      (.error (.notStarted (textOf (replyAt replies 0)) cause),
        { calls := (protocol make root (textOf (replyAt replies 0))
          (textOf (replyAt replies 1))).take 3 }) := by
  have hgoes := Goes.notStarted (converted_make make hmake) (converted_root make root hroot) htrial
  rw [Bytes.shown_ofText] at hgoes
  exact hgoes.outcome_run {}

theorem outcome_of_passed (hmake : Converts (replyAt replies 0))
    (hroot : Converts (replyAt replies 1)) {tried : Reply}
    (htrial : replyAt replies 2 = .ok tried) (hcode : tried.code = 0) :
    Launch.outcome (run (Runner.scripted replies) make root) {} =
      (.ok (Bytes.ofText (textOf (replyAt replies 0))),
        { log := [.cygwinMake]
          calls := (protocol make root (textOf (replyAt replies 0))
            (textOf (replyAt replies 1))).take 3 }) := by
  have hgoes := Goes.passed (converted_make make hmake) (converted_root make root hroot) htrial
    hcode
  exact hgoes.outcome_run {}

theorem outcome_of_failed (hmake : Converts (replyAt replies 0))
    (hroot : Converts (replyAt replies 1)) {tried : Reply}
    (htrial : replyAt replies 2 = .ok tried) (hcode : tried.code ≠ 0) :
    Launch.outcome (run (Runner.scripted replies) make root) {} =
      (.error (.incompatibleMake (if Converts (replyAt replies 3) then textOf (replyAt replies 3)
        else textOf (replyAt replies 0))),
        { calls := (protocol make root (textOf (replyAt replies 0))
          (textOf (replyAt replies 1))).take 4 }) := by
  have hgoes := Goes.failed (converted_make make hmake) (converted_root make root hroot) htrial
    hcode
  rw [shown_converted, Bytes.shown_ofText] at hgoes
  exact hgoes.outcome_run {}

end

/-- A trial makes the calls of the protocol up to the one whose reply ends it, and writes an entry just
when it ends well. It ends well, with the text of the first reply as the path of make, just when two
conversions succeed and the make does. Otherwise it ends with the failure of the first conversion that
gives no path, with that of a make that cannot be started, or with the complaint that the make is
incompatible, which shows it as the fourth reply has it when that is a path. -/
theorem run_follows_protocol (replies : List (Except IoFailure Reply)) (make root : Bytes) :
    let reply := replyAt replies
    let unix := textOf (reply 0)
    let mixed := textOf (reply 1)
    let trial := Launch.outcome (run (Runner.scripted replies) make root) {}
    trial.2.calls =
      (protocol make root unix mixed).take (callCount (reply 0) (reply 1) (reply 2)) ∧
    trial.2.queries = [] ∧
    trial.2.log =
      (if Converts (reply 0) ∧ Converts (reply 1) ∧ Succeeds (reply 2) then [.cygwinMake]
      else []) ∧
    (∀ program, trial.1 = .ok program ↔
      Converts (reply 0) ∧ Converts (reply 1) ∧ Succeeds (reply 2) ∧
        program = Bytes.ofText unix) ∧
    ∀ failure, trial.1 = .error failure ↔
      (¬Converts (reply 0) ∧ failure = conversionFailure make (reply 0)) ∨
      (Converts (reply 0) ∧ ¬Converts (reply 1) ∧ failure = conversionFailure root (reply 1)) ∨
      (Converts (reply 0) ∧ Converts (reply 1) ∧
        ∃ cause, reply 2 = .error cause ∧ failure = .notStarted unix cause) ∨
      (Converts (reply 0) ∧ Converts (reply 1) ∧ Refuses (reply 2) ∧
        failure = .incompatibleMake (if Converts (reply 3) then textOf (reply 3) else unix)) := by
  intro reply unix mixed trial
  by_cases hmake : Converts (reply 0)
  · by_cases hroot : Converts (reply 1)
    · cases htrial : reply 2 with
      | error cause =>
          have htold : trial = _ := outcome_of_notStarted make root hmake hroot htrial
          rw [htold]
          simp [hmake, hroot, callCount, Succeeds, Refuses, unix, mixed, reply,
            eq_comm (a := Failure.notStarted _ _)]
      | ok tried =>
          by_cases hcode : tried.code = 0
          · have htold : trial = _ := outcome_of_passed make root hmake hroot htrial hcode
            rw [htold]
            simp [hmake, hroot, hcode, callCount, Succeeds, Refuses, unix, mixed, reply,
              eq_comm (a := Bytes.ofText _)]
          · have htold : trial = _ := outcome_of_failed make root hmake hroot htrial hcode
            rw [htold]
            simp [hmake, hroot, hcode, callCount, Succeeds, Refuses, unix, mixed, reply,
              eq_comm (a := Failure.incompatibleMake _)]
    · have htold : trial = _ := outcome_of_unconvertedRoot make root hmake hroot
      rw [htold]
      simp [hmake, hroot, callCount, unix, mixed, reply, eq_comm (a := conversionFailure _ _)]
  · have htold : trial = _ := outcome_of_unconvertedMake make root hmake
    rw [htold]
    simp [hmake, callCount, unix, mixed, reply, eq_comm (a := conversionFailure _ _)]

example : (Launch.outcome (run (Runner.scripted
      [.ok { stdout := "/c/make" }, .ok { stdout := "C:/ndk" }, .ok { code := 2 },
        .error (.other "gone")]) "C:/make" "/ndk") {}).1 =
    .error (.incompatibleMake "/c/make") := rfl

end MakeLauncher.CygwinTrial
