import MakeLauncher.Launch.CygwinTrial

/-! The trial of make under Cygwin, told by the ways in which it can go. It starts up to four
processes, and each of them goes by the replies to those before it. Main statement: a trial goes in
one of five ways, which fix what it ends with, the calls it makes and the entries it writes. -/

namespace MakeLauncher.CygwinTrial

def conversionCall (style : PathStyle) (path : Bytes) : Call := ⟨.output, conversion style path⟩

def trialCall (make root : Bytes) : Call := ⟨.output, trial make root⟩

/-- What a conversion ends with, behind earlier calls. -/
def converted (runner : Runner) (earlier : List Call) (style : PathStyle) (path : Bytes) :
    Except Failure Bytes :=
  match runner earlier (conversionCall style path) with
  | .error cause => .error (.notStarted converter cause)
  | .ok reply =>
      if reply.code = 0 ∧ reply.stdout ≠ "" then .ok (Bytes.ofText reply.stdout)
      else .error (.notStarted converter (.notConverted path reply.code))

/-- The ways in which a trial of `make` can go behind earlier calls, for the installation at `root`:
what it ends with, its calls and its entries. -/
inductive Goes (runner : Runner) (earlier : List Call) (make root : Bytes) :
    Except Failure Bytes → List Call → List Event → Prop
  | unconvertedMake {failure : Failure}
      (hmake : converted runner earlier .unix make = .error failure) :
      Goes runner earlier make root (.error failure) [conversionCall .unix make] []
  | unconvertedRoot {unix : Bytes} {failure : Failure}
      (hmake : converted runner earlier .unix make = .ok unix)
      (hroot : converted runner (earlier ++ [conversionCall .unix make]) .mixed root =
        .error failure) :
      Goes runner earlier make root (.error failure)
        [conversionCall .unix make, conversionCall .mixed root] []
  | notStarted {unix mixed : Bytes} {cause : IoFailure}
      (hmake : converted runner earlier .unix make = .ok unix)
      (hroot : converted runner (earlier ++ [conversionCall .unix make]) .mixed root = .ok mixed)
      (htrial : runner (earlier ++ [conversionCall .unix make, conversionCall .mixed root])
        (trialCall unix mixed) = .error cause) :
      Goes runner earlier make root (.error (.notStarted unix.shown cause))
        [conversionCall .unix make, conversionCall .mixed root, trialCall unix mixed] []
  | passed {unix mixed : Bytes} {reply : Reply}
      (hmake : converted runner earlier .unix make = .ok unix)
      (hroot : converted runner (earlier ++ [conversionCall .unix make]) .mixed root = .ok mixed)
      (htrial : runner (earlier ++ [conversionCall .unix make, conversionCall .mixed root])
        (trialCall unix mixed) = .ok reply)
      (hcode : reply.code = 0) :
      Goes runner earlier make root (.ok unix)
        [conversionCall .unix make, conversionCall .mixed root, trialCall unix mixed]
        [.cygwinMake]
  | failed {unix mixed : Bytes} {reply : Reply}
      (hmake : converted runner earlier .unix make = .ok unix)
      (hroot : converted runner (earlier ++ [conversionCall .unix make]) .mixed root = .ok mixed)
      (htrial : runner (earlier ++ [conversionCall .unix make, conversionCall .mixed root])
        (trialCall unix mixed) = .ok reply)
      (hcode : reply.code ≠ 0) :
      Goes runner earlier make root
        (.error (.incompatibleMake (((converted runner
          (earlier ++ [conversionCall .unix make, conversionCall .mixed root,
            trialCall unix mixed]) .mixed unix).toOption).getD unix).shown))
        [conversionCall .unix make, conversionCall .mixed root, trialCall unix mixed,
          conversionCall .mixed unix] []

theorem outcome_convert (runner : Runner) (style : PathStyle) (path : Bytes) (trace : Trace) :
    Launch.outcome (convert runner style path) trace =
      (converted runner trace.calls style path,
        { trace with calls := trace.calls ++ [conversionCall style path] }) := by
  have hname : (conversion style path).program.shown = converter := Bytes.shown_ofText converter
  unfold convert converted
  rw [Launch.outcome_bind]
  cases hreply : runner trace.calls (conversionCall style path) with
  | error cause =>
      rw [Launch.outcome_call_of_eq_error hreply, hname]
      rfl
  | ok reply =>
      rw [Launch.outcome_call_of_eq_ok hreply]
      dsimp only
      split <;> rfl

theorem Goes.outcome_run {runner : Runner} {make root : Bytes} (trace : Trace)
    {result : Except Failure Bytes} {calls : List Call} {events : List Event}
    (h : Goes runner trace.calls make root result calls events) :
    Launch.outcome (run runner make root) trace =
      (result, { trace with log := trace.log ++ events, calls := trace.calls ++ calls }) := by
  unfold run
  cases h with
  | unconvertedMake hmake =>
      simp only [Launch.outcome_bind, outcome_convert, hmake, List.append_nil]
  | unconvertedRoot hmake hroot =>
      simp only [Launch.outcome_bind, outcome_convert, hmake, hroot, List.append_assoc,
        List.cons_append, List.nil_append, List.append_nil]
  | notStarted hmake hroot htrial =>
      have htried := Launch.outcome_call_of_eq_error htrial
      simp only [Launch.outcome_bind, outcome_convert, hmake, hroot, htried, List.append_assoc,
        List.cons_append, List.nil_append, List.append_nil]
      rfl
  | passed hmake hroot htrial hcode =>
      have htried := Launch.outcome_call_of_eq_ok htrial
      simp only [Launch.outcome_bind, outcome_convert, Launch.outcome_note, Launch.outcome_pure,
        hmake, hroot, htried, hcode, if_true, trialCall, List.append_assoc, List.cons_append,
        List.nil_append]
  | @failed unix mixed reply hmake hroot htrial hcode =>
      have htried := Launch.outcome_call_of_eq_ok htrial
      simp only [Launch.outcome_bind, outcome_convert, Launch.outcome_tryCatch, hmake, hroot,
        htried, hcode, if_false, trialCall, List.append_assoc, List.cons_append, List.nil_append,
        List.append_nil]
      cases converted runner (trace.calls ++ [conversionCall .unix make,
        conversionCall .mixed root, ⟨.output, trial unix mixed⟩]) .mixed unix <;> rfl

theorem exists_goes (runner : Runner) (earlier : List Call) (make root : Bytes) :
    ∃ result calls events, Goes runner earlier make root result calls events := by
  cases hmake : converted runner earlier .unix make with
  | error failure => exact ⟨_, _, _, .unconvertedMake hmake⟩
  | ok unix =>
  cases hroot : converted runner (earlier ++ [conversionCall .unix make]) .mixed root with
  | error failure => exact ⟨_, _, _, .unconvertedRoot hmake hroot⟩
  | ok mixed =>
  cases htrial : runner (earlier ++ [conversionCall .unix make, conversionCall .mixed root])
      (trialCall unix mixed) with
  | error cause => exact ⟨_, _, _, .notStarted hmake hroot htrial⟩
  | ok reply =>
  by_cases hcode : reply.code = 0
  · exact ⟨_, _, _, .passed hmake hroot htrial hcode⟩
  · exact ⟨_, _, _, .failed hmake hroot htrial hcode⟩

end MakeLauncher.CygwinTrial
