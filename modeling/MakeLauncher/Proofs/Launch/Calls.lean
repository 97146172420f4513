import MakeLauncher.Proofs.Launch.Invocation
import MakeLauncher.Proofs.Launch.Stages

/-! The processes that a launch starts, over all answers that it can get. Main statement: before the
build there are only those of a trial, the build is started once at most and at the very end, and
under Cygwin only as the program that has just stood its trial. -/

namespace MakeLauncher

namespace CygwinTrial

variable {runner : Runner} {earlier calls : List Call} {make root program : Bytes}
  {result : Except Failure Bytes} {events : List Event}

theorem Goes.kind_eq_output (h : Goes runner earlier make root result calls events) {call : Call}
    (hcall : call ∈ calls) : call.kind = .output := by
  cases h <;> simp only [List.mem_cons, List.not_mem_nil, or_false] at hcall
  case unconvertedMake => subst hcall; rfl
  case unconvertedRoot => rcases hcall with rfl | rfl <;> rfl
  case failed => rcases hcall with rfl | rfl | rfl | rfl <;> rfl
  all_goals rcases hcall with rfl | rfl | rfl <;> rfl

theorem Goes.length_le (h : Goes runner earlier make root result calls events) :
    calls.length ≤ 4 := by
  cases h <;> simp

/-- A trial that is stood takes three processes, of which the last is the make itself, and succeeds. -/
theorem Goes.calls_of_ok (h : Goes runner earlier make root (.ok program) calls events) :
    ∃ first second third reply, calls = [first, second, third] ∧
      third.invocation.program = program ∧
      runner (earlier ++ [first, second]) third = .ok reply ∧ reply.code = 0 := by
  cases h with
  | passed _ _ htrial hcode => exact ⟨_, _, _, _, rfl, rfl, htrial, hcode⟩

end CygwinTrial

namespace Launch

variable (surroundings : Surroundings) (request : Request)

theorem kind_eq_output_of_mem_prepared {call : Call}
    (hcall : call ∈ (prepared surroundings request).2.calls) : call.kind = .output := by
  have hcourse := course_prepared surroundings request
  generalize (prepared surroundings request).1 = result at hcourse
  generalize (prepared surroundings request).2 = trace at hcourse hcall
  cases hcourse with
  | untrusted _ _ _ _ htrial => exact htrial.kind_eq_output hcall
  | tried _ _ _ _ htrial => exact htrial.kind_eq_output hcall
  | _ => cases hcall

theorem length_prepared_calls_le : (prepared surroundings request).2.calls.length ≤ 4 := by
  have hcourse := course_prepared surroundings request
  generalize (prepared surroundings request).1 = result at hcourse
  generalize (prepared surroundings request).2 = trace at hcourse
  cases hcourse with
  | untrusted _ _ _ _ htrial => exact htrial.length_le
  | tried _ _ _ _ htrial => exact htrial.length_le
  | _ => exact Nat.zero_le 4

variable {surroundings request}

theorem prepared_calls_eq_nil
    (h : request.environment.ostype ≠ some "cygwin" ∨
      ∃ stage failure, stage ≠ .trial ∧ Fails surroundings request stage failure) :
    (prepared surroundings request).2.calls = [] := by
  have hno : ∀ {build : Build} {platform : Platform} {make : Make},
      build.toRequest = request → surroundings.probe.platform = .ok platform →
      makeFor surroundings.site build platform = .ok make →
      request.environment.isCygwin = true → False := by
    intro build platform make hbuild hplatform hmake hcygwin
    rcases h with hostype | ⟨stage, failure, hstage, hfails⟩
    · exact hostype (Environment.isCygwin_eq_true_iff.mp hcygwin)
    · exact passesBefore_trial hbuild hplatform hmake stage (Stage.rank_lt_trial hstage) failure
        hfails
  have hcourse := course_prepared surroundings request
  generalize (prepared surroundings request).1 = result at hcourse
  generalize (prepared surroundings request).2 = trace at hcourse
  cases hcourse with
  | untrusted hbuild hplatform hmake hcygwin => exact (hno hbuild hplatform hmake hcygwin).elim
  | tried hbuild hplatform hmake hcygwin => exact (hno hbuild hplatform hmake hcygwin).elim
  | _ => rfl

/-- The calls of a launch that comes to start make. Under Cygwin they are those of a trial which that
program has stood. -/
theorem prepared_calls_of_ok {invocation : Invocation}
    (h : (prepared surroundings request).1 = .ok invocation) :
    (request.environment.ostype ≠ some "cygwin" ∧ (prepared surroundings request).2.calls = []) ∨
    ∃ first second third reply, (prepared surroundings request).2.calls = [first, second, third] ∧
      third.invocation.program = invocation.program ∧
      surroundings.runner [first, second] third = .ok reply ∧ reply.code = 0 := by
  have hcourse := course_prepared surroundings request
  rw [h] at hcourse
  generalize (prepared surroundings request).2 = trace at hcourse ⊢
  cases hcourse with
  | untried _ _ _ hcygwin => exact .inl ⟨Environment.isCygwin_eq_false_iff.mp hcygwin, rfl⟩
  | tried _ _ _ _ htrial =>
      obtain ⟨first, second, third, reply, hcalls, hprogram, hreply, hcode⟩ := htrial.calls_of_ok
      exact .inr ⟨first, second, third, reply, hcalls, hprogram, hreply, hcode⟩

/-- The calls of a whole launch are those before make is started, and the start of make if it comes to
that. -/
theorem finished_calls :
    (finished surroundings request).2.calls =
      (prepared surroundings request).2.calls ++
        match (prepared surroundings request).1 with
        | .ok invocation => [⟨.status, invocation⟩]
        | .error _ => [] := by
  rw [finished_eq]
  rcases prepared surroundings request with ⟨failure | invocation, trace⟩
  · exact (List.append_nil _).symm
  · rfl

theorem countP_status_finished_calls :
    (finished surroundings request).2.calls.countP (·.kind = .status) =
      if (prepared surroundings request).1.isOk then 1 else 0 := by
  have hcount : (prepared surroundings request).2.calls.countP (·.kind = .status) = 0 := by
    rw [List.countP_eq_zero]
    intro call hcall
    simp [kind_eq_output_of_mem_prepared surroundings request hcall]
  rw [finished_calls, List.countP_append, hcount]
  cases (prepared surroundings request).1 <;> rfl

theorem length_finished_calls_le : (finished surroundings request).2.calls.length ≤ 4 := by
  rw [finished_calls]
  cases h : (prepared surroundings request).1 with
  | error failure =>
      rw [List.append_nil]
      exact length_prepared_calls_le surroundings request
  | ok invocation =>
      rcases prepared_calls_of_ok h with ⟨-, hcalls⟩ | ⟨first, second, third, _, hcalls, -⟩ <;>
        simp [hcalls]

theorem finished_calls_of_cygwin (hostype : request.environment.ostype = some "cygwin")
    {call : Call} (hcall : call ∈ (finished surroundings request).2.calls)
    (hkind : call.kind = .status) :
    ∃ first second third reply,
      (finished surroundings request).2.calls = [first, second, third, call] ∧
      first.kind = .output ∧ second.kind = .output ∧ third.kind = .output ∧
      third.invocation.program = call.invocation.program ∧
      surroundings.runner [first, second] third = .ok reply ∧ reply.code = 0 := by
  have houtput : ∀ call ∈ (prepared surroundings request).2.calls, call.kind = .output :=
    fun call => kind_eq_output_of_mem_prepared surroundings request
  have hlater : call ∉ (prepared surroundings request).2.calls := by
    intro hearlier
    rw [houtput call hearlier] at hkind
    cases hkind
  rw [finished_calls] at hcall ⊢
  cases h : (prepared surroundings request).1 with
  | error failure =>
      rw [h, List.append_nil] at hcall
      exact absurd hcall hlater
  | ok invocation =>
      rw [h] at hcall
      obtain rfl := List.mem_singleton.mp ((List.mem_append.mp hcall).resolve_left hlater)
      rcases prepared_calls_of_ok h with ⟨hother, -⟩ |
        ⟨first, second, third, reply, hcalls, hprogram, hreply, hcode⟩
      · exact absurd hostype hother
      · simp only [hcalls, List.mem_cons, List.not_mem_nil, or_false, forall_eq_or_imp,
          forall_eq] at houtput
        obtain ⟨hfirst, hsecond, hthird⟩ := houtput
        refine ⟨first, second, third, reply, ?_, hfirst, hsecond, hthird, hprogram, hreply, hcode⟩
        rw [hcalls]
        rfl

/-- The processes of a launch: what is started before make, when make is, and what has been tried
then. -/
theorem calls_of_launch (surroundings : Surroundings) (request : Request) :
    (∀ call ∈ (prepared surroundings request).2.calls, call.kind = .output) ∧
    (request.environment.ostype ≠ some "cygwin" ∨
        (∃ stage failure, stage ≠ .trial ∧ Fails surroundings request stage failure) →
      (prepared surroundings request).2.calls = []) ∧
    (finished surroundings request).2.calls =
      (prepared surroundings request).2.calls ++
        (match (prepared surroundings request).1 with
        | .ok invocation => [⟨.status, invocation⟩]
        | .error _ => []) ∧
    (finished surroundings request).2.calls.countP (·.kind = .status) =
      (if (prepared surroundings request).1.isOk then 1 else 0) ∧
    (finished surroundings request).2.calls.length ≤ 4 ∧
    (request.environment.ostype = some "cygwin" →
      ∀ call ∈ (finished surroundings request).2.calls, call.kind = .status →
        ∃ first second third reply,
          (finished surroundings request).2.calls = [first, second, third, call] ∧
          first.kind = .output ∧ second.kind = .output ∧ third.kind = .output ∧
          third.invocation.program = call.invocation.program ∧
          surroundings.runner [first, second] third = .ok reply ∧ reply.code = 0) := by
  exact ⟨fun call => kind_eq_output_of_mem_prepared surroundings request, prepared_calls_eq_nil,
    finished_calls, countP_status_finished_calls, length_finished_calls_le,
    fun hostype call hcall hkind => finished_calls_of_cygwin hostype hcall hkind⟩

theorem calls_of_launch_of_analyzingRequest :
    analyzingRequest.environment.ostype = some "cygwin" ∧
    ∃ call ∈ (finished cygwinShell analyzingRequest).2.calls, call.kind = .status ∧
      ∃ first second third reply,
        (finished cygwinShell analyzingRequest).2.calls = [first, second, third, call] ∧
        first.kind = .output ∧ second.kind = .output ∧ third.kind = .output ∧
        third.invocation.program = call.invocation.program ∧
        cygwinShell.runner [first, second] third = .ok reply ∧ reply.code = 0 := by
  obtain ⟨-, -, -, hcount, -, htrial⟩ := calls_of_launch cygwinShell analyzingRequest
  have hok : (prepared cygwinShell analyzingRequest).1.isOk = true := by decide
  rw [hok, if_pos rfl] at hcount
  obtain ⟨call, hcall, hkind⟩ := List.countP_pos_iff.mp (hcount ▸ Nat.one_pos)
  have hstatus : call.kind = .status := by simpa using hkind
  exact ⟨rfl, call, hcall, hstatus, htrial rfl call hcall hstatus⟩

end Launch
end MakeLauncher
