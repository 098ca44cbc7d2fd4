import GsKernel.Gvotable.Result
import GsKernel.Gvotable.Voters

/-!
# Failed casts

A cast that fails leaves the election alone, but for the number of voters when the vote of
a new voter cannot be copied.
-/

namespace GsKernel.Gvotable

open Lib.Strings

section Failures

variable {V : Type} {params : Params V}

lemma buffered_foldl (calls : List (Env V × Call V)) :
    Buffered params (calls.foldl (callStep params) (created params)).votes :=
  List.foldlRecOn (motive := fun el : Election V => Buffered params el.votes) calls
    (callStep params) fresh_created.buffered
    fun _ before step _ => buffered_callStep before step.2

/-- A vote that cannot be recorded changes at most the number of voters. -/
lemma Recorded.unchanged {env : Env V} {el : Election V} {reason : CString} {adds enabled : Bool}
    {value : V → V} {after : Int × Election V}
    (recorded : Recorded params env el reason adds value enabled after)
    (buffered : Buffered params el.votes) (failed : after.1 < 0) :
    after.2 = el ∨ after.2 = { el with numVoters := el.numVoters + 1 } ∧
      locateBallot params reason el.votes = none ∧ params.useAlloc = true ∧
      env.voteAlloc = false := by
  cases recorded with
  | refused => exact .inl rfl
  | unbuffered absent adding allocated copies full => exact .inr ⟨rfl, absent, copies, full⟩
  | entered | moved | disabled => exact absurd failed (Int.lt_irrefl 0)
  | lost found copies missing =>
    exact absurd ((buffered.found found copies).symm.trans missing) Bool.noConfusion

/-- A cast on any election that returns an error has called the callback and returns what
the callback did; or it has not called it and leaves the election as it was, except that the
voter is counted when the vote of a new voter cannot be copied. -/
theorem castVote_failed_unchanged (params : Params V) (calls : List (Env V × Call V)) (env : Env V)
    (reason : CString) (vote : Option V) (enabled : Bool) :
    let el := calls.foldl (callStep params) (created params)
    let outcome := castVote params env el reason vote enabled
    outcome.ret < 0 → .callback ∈ outcome.trace ∧ outcome.ret = env.callback.ret ∨
      .callback ∉ outcome.trace ∧ (outcome.el = el ∨
        outcome.el = { el with numVoters := el.numVoters + 1 } ∧
          locateBallot params reason el.votes = none ∧ params.useAlloc = true ∧
          env.voteAlloc = false) := by
  intro el
  have buffered : Buffered params el.votes := buffered_foldl calls
  simp only [castVote]
  split_ifs
  · exact fun _ => .inr ⟨by simp, .inl rfl⟩
  · exact fun _ => .inr ⟨by simp, .inl rfl⟩
  intro failed
  have recorded := recorded_vote params env el reason (castValue params vote enabled) enabled
  generalize recordVote params env el reason (castValue params vote enabled) enabled = after
    at recorded failed ⊢
  by_cases refused : after.1 < 0
  · refine .inr ?_
    simpa [settle, refused, Outcome.afterLock, unlockElection] using
      recorded.unchanged buffered refused
  · simp only [settle, if_neg refused, Outcome.afterLock, conclude] at failed ⊢
    split_ifs at failed ⊢
    · exact .inl ⟨by simp, rfl⟩
    · exact absurd failed refused

/-- Two voters have voted, one of them was disabled, and the ballot of a third one cannot be
allocated. -/
theorem castVote_failed_unchanged_noBallot :
    let env : Env Ptr := ⟨true, true, ⟨0, []⟩⟩
    let calls := [(env, .castVote voterA (some 1) true), (env, .castVote voterB (some 2) true),
      (env, .castVote voterB (some 2) false)]
    let el := calls.foldl (callStep copyingParams) (created copyingParams)
    let outcome := castVote copyingParams { env with ballotAlloc := false } el voterC (some 3) true
    el.votes.length = 2 ∧ outcome.ret < 0 ∧ outcome.el = el := by
  intro env calls
  refine ⟨by decide +kernel, by decide +kernel, ?_⟩
  rcases castVote_failed_unchanged copyingParams calls { env with ballotAlloc := false } voterC
    (some 3) true (by decide +kernel) with ⟨called, -⟩ | ⟨-, same | ⟨-, -, -, full⟩⟩
  · exact absurd called (by decide +kernel)
  · exact same
  · exact absurd full (by decide)

/-- A callback that fails has its error returned for a vote that counts, and a new voter
whose vote cannot be copied is counted. -/
theorem castVote_failed_changed :
    (let outcome := castVote exampleParams ⟨true, true, ⟨-EINVAL, []⟩⟩ (created exampleParams)
      voterA (some 1) true
    outcome.ret = -EINVAL ∧ .callback ∈ outcome.trace ∧ outcome.el.votes.length = 1) ∧
    (let outcome := castVote copyingParams ⟨true, false, ⟨0, []⟩⟩ (created copyingParams) voterA
      (some 1) true
    outcome.ret = -ENOMEM ∧ outcome.el.votes = [] ∧ outcome.el.numVoters = 1) := by
  decide +kernel

end Failures

end GsKernel.Gvotable
