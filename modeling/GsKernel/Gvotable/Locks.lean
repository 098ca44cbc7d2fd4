import GsKernel.Gvotable.Calls
import GsKernel.Lib.Runs

/-!
# Lock discipline

A call keeps the discipline of the two mutexes when it starts and ends with both free, never
releases a lock it does not hold, and calls the callback with `cb_lock` alone.
`gvotable_set_default` does not, with a new default in use and an election that asks for no
callback: it returns with `re_lock` held.
-/

namespace GsKernel.Gvotable

open Lib.Strings

/-- The state of the two mutexes; `true` is held. -/
structure Locks where
  cb : Bool
  re : Bool
deriving DecidableEq

/-- Both mutexes free. -/
def Locks.free : Locks := ⟨false, false⟩

/-- What a lock event can run into. -/
inductive LockFault where
  | blocked
  | notHeld
  | callbackContext
deriving DecidableEq

/-- A lock event: taking a held mutex blocks, and the callback has to run under
`cb_lock` alone. -/
def LockEvent.exec (locks : Locks) : LockEvent → Except LockFault Locks
  | .lockCb => if locks.cb then .error .blocked else .ok { locks with cb := true }
  | .lockRe => if locks.re then .error .blocked else .ok { locks with re := true }
  | .unlockRe => if locks.re then .ok { locks with re := false } else .error .notHeld
  | .unlockCb => if locks.cb then .ok { locks with cb := false } else .error .notHeld
  | .callback => if locks.cb && !locks.re then .ok locks else .error .callbackContext

/-- A trace that can run from free locks to free locks. -/
def Disciplined (trace : List LockEvent) : Prop :=
  trace.foldlM LockEvent.exec Locks.free = .ok Locks.free

instance (trace : List LockEvent) : Decidable (Disciplined trace) :=
  inferInstanceAs (Decidable (_ = _))

variable {V : Type} (params : Params V)

/-- Whether the election's reason or result differs from a reason and a vote. -/
def Election.Differs (el : Election V) (reason : CString) (vote : V) : Prop :=
  el.reasonDiffers reason = true ∨ params.cmp el.result vote ≠ 0

/-- Whether running the election in this state asks for the callback. -/
def Election.NeedsCallback (el : Election V) : Prop :=
  params.hasCallback = true ∧ el.forceResultIsEnabled = false ∧
    match el.votes.find? (·.enabled) with
    | some ballot => el.Differs params ballot.reason.toCString ballot.vote
    | none =>
      if el.hasDefaultVote = 1 then el.Differs params defaultReason (params.deref el.defaultVote)
      else el.resultIsValid = true

/-- The calls that return with `re_lock` held: a default in use is replaced, and the
election asks for no callback. -/
def LeavesResultLocked (el : Election V) : Call V → Prop
  | .setDefault defaultVal =>
    params.isBoolType = false ∧ el.hasDefaultVote = 1 ∧ el.defaultVote ≠ defaultVal ∧
      ¬ Election.NeedsCallback params { el with defaultVote := defaultVal }
  | _ => False

lemma declareResult_fst (el : Election V) (reason : CString) (vote newResult : V) :
    (declareResult params el reason vote newResult).1 = true ↔ el.Differs params reason vote := by
  unfold declareResult Election.Differs
  cases el.reasonDiffers reason with
  | true => simp
  | false => by_cases equal : params.cmp el.result vote = 0 <;> simp [equal]

lemma internalRunElection_fst (el : Election V) :
    (internalRunElection params el).1 = true ↔ el.NeedsCallback params := by
  unfold internalRunElection Election.NeedsCallback
  cases forced : el.forceResultIsEnabled with
  | true => simp
  | false =>
    cases winner : el.votes.find? (·.enabled) with
    | some ballot => simp [declareResult_fst, and_comm]
    | none =>
      by_cases inUse : el.hasDefaultVote = 1
      · simp [inUse, declareResult_fst, and_comm]
      · simp [inUse, and_comm]

/-- What is left to do with both locks held: drop them, with or without the callback
in between. -/
def Closing (trace : List LockEvent) : Prop :=
  trace = [.unlockRe, .callback, .unlockCb] ∨ trace = [.unlockRe, .unlockCb]

lemma Closing.disciplined {trace : List LockEvent} (closing : Closing trace) :
    Disciplined (.lockCb :: .lockRe :: trace) := by
  rcases closing with rfl | rfl <;> decide

variable {params} {env : Env V} {el : Election V}

lemma closing_conclude (ret : Int) : Closing (conclude params env ret el).trace := by
  unfold conclude
  cases due : (internalRunElection params el).1 <;> simp [due, Closing]

lemma closing_unlockElection (ret : Int) : Closing (unlockElection ret el).trace := Or.inr rfl

lemma closing_callbackIf (due : Prop) [Decidable due] :
    Closing (callbackIf params env due el).trace := by
  unfold callbackIf
  by_cases needed : due <;> simp [needed, Closing]

lemma disciplined_nil : Disciplined [] := rfl

lemma not_disciplined_unlockCb : ¬ Disciplined [.lockCb, .lockRe, .unlockCb] := nofun

lemma disciplined_lockRe : Disciplined [.lockRe, .unlockRe] := rfl

lemma disciplined_afterLock {outcome : Outcome V} (closing : Closing outcome.trace) :
    Disciplined outcome.afterLock.trace := closing.disciplined

lemma closing_settle (recorded : Int × Election V) :
    Closing (settle params env recorded).trace := by
  unfold settle
  split_ifs
  · exact closing_unlockElection _
  · exact closing_conclude _

lemma disciplined_castVote (reason : CString) (vote : Option V) (enabled : Bool) :
    Disciplined (castVote params env el reason vote enabled).trace := by
  unfold castVote
  by_cases empty : reason.chars = []
  · simpa only [if_pos empty] using disciplined_nil
  · by_cases missing : params.useAlloc = true ∧ vote = none
    · simpa only [if_neg empty, if_pos missing] using disciplined_nil
    · simpa only [if_neg empty, if_neg missing] using disciplined_afterLock (closing_settle _)

lemma disciplined_useDefault (defaultIsEnabled : Bool) :
    Disciplined (useDefault params env el defaultIsEnabled).trace := by
  unfold useDefault
  split_ifs
  · exact disciplined_nil
  · exact disciplined_afterLock (closing_conclude _)
  · exact disciplined_afterLock (closing_conclude _)

/-- A changed default is announced or leaves `re_lock` held. -/
lemma disciplined_rerunForDefault :
    Disciplined (.lockCb :: .lockRe :: (rerunForDefault params env el).trace) ↔
      el.NeedsCallback params := by
  rw [← internalRunElection_fst]
  unfold rerunForDefault
  rcases internalRunElection params el with ⟨due, next⟩
  cases due with
  | true => exact iff_of_true (Closing.disciplined (Or.inl rfl)) rfl
  | false => exact iff_of_false not_disciplined_unlockCb Bool.false_ne_true

/-- `gvotable_set_default` keeps the discipline exactly when it does not leave
`re_lock` held. -/
lemma disciplined_setDefault (defaultVal : Ptr) :
    Disciplined (setDefault params env el defaultVal).trace ↔
      ¬ LeavesResultLocked params el (.setDefault defaultVal) := by
  unfold setDefault
  by_cases isBool : params.isBoolType = true
  · rw [if_pos isBool]
    exact iff_of_true disciplined_nil fun leaves => absurd (leaves.1.symm.trans isBool)
      Bool.false_ne_true
  rw [if_neg isBool]
  by_cases changed : el.hasDefaultVote = 1 ∧ el.defaultVote ≠ defaultVal
  · simp only [if_pos changed]
    refine disciplined_rerunForDefault.trans ⟨fun needed leaves => leaves.2.2.2 needed, ?_⟩
    intro kept
    by_contra silent
    exact kept ⟨Bool.not_eq_true _ ▸ isBool, changed.1, changed.2, silent⟩
  · simp only [if_neg changed]
    exact iff_of_true (closing_unlockElection 0).disciplined
      fun leaves => changed ⟨leaves.2.1, leaves.2.2.1⟩

/-- A call keeps the discipline exactly when it does not leave `re_lock` held. -/
lemma disciplined_run (call : Call V) :
    Disciplined (call.run params env el).trace ↔ ¬ LeavesResultLocked params el call := by
  cases call with
  | castVote reason vote enabled => exact iff_of_true (disciplined_castVote reason vote enabled) id
  | recastBallot _ _ => exact iff_of_true (disciplined_afterLock (closing_settle _)) id
  | setDefault defaultVal => exact disciplined_setDefault defaultVal
  | useDefault defaultIsEnabled => exact iff_of_true (disciplined_useDefault defaultIsEnabled) id
  | getDefault =>
    refine iff_of_true ?_ id
    by_cases unset : el.hasDefaultVote = 0
    · simpa [Call.run, unset] using disciplined_nil
    · simpa [Call.run, unset] using by decide
  | getVote _ | isEnabled _ => exact iff_of_true disciplined_lockRe id
  | runElection _ | forceIntValue _ | forceIntActive _ =>
    exact iff_of_true (disciplined_afterLock (closing_callbackIf _)) id

variable (params)

/-- A call on an election and its mutexes. -/
def lockStep (state : Election V × Locks) (step : Env V × Call V) :
    Except LockFault (Election V × Locks) := do
  let locks ← (step.2.run params step.1 state.1).trace.foldlM LockEvent.exec state.2
  return (callStep params state.1 step, locks)

lemma lockStep_free {step : Env V × Call V} (disciplined : ¬ LeavesResultLocked params el step.2) :
    lockStep params (el, .free) step = .ok (callStep params el step, .free) := by
  have clean : (step.2.run params step.1 el).trace.foldlM LockEvent.exec Locks.free =
      .ok Locks.free := (disciplined_run step.2).mpr disciplined
  simp only [lockStep, clean]
  rfl

/-- A run of calls none of which leaves `re_lock` held neither blocks nor misuses a
lock, and ends with both free. -/
lemma lockStep_foldlM (calls : List (Env V × Call V)) (el : Election V)
    (along : Lib.Runs.Along (callStep params)
      (fun el step => ¬ LeavesResultLocked params el step.2) el calls) :
    calls.foldlM (lockStep params) (el, .free) = .ok (calls.foldl (callStep params) el, .free) := by
  induction calls generalizing el with
  | nil => rfl
  | cons step calls ih =>
    rw [List.foldlM_cons, lockStep_free params along.1]
    exact ih _ along.2

/-- For every state, environment and argument a call keeps the discipline if and only
if it does not leave `re_lock` held, and no run of calls that do not blocks on a lock
or misuses one. -/
theorem lock_discipline : (∀ (env : Env V) (el : Election V) (call : Call V),
      Disciplined (call.run params env el).trace ↔ ¬ LeavesResultLocked params el call) ∧
    ∀ (calls : List (Env V × Call V)) (el : Election V),
      Lib.Runs.Along (callStep params) (fun el step => ¬ LeavesResultLocked params el step.2)
        el calls →
      calls.foldlM (lockStep params) (el, .free) = .ok (calls.foldl (callStep params) el, .free) :=
  ⟨fun _ _ => disciplined_run, lockStep_foldlM params⟩

/-- A default is set, a voter wins, and the default is replaced. -/
def leakingCalls : List (Env Ptr × Call Ptr) :=
  [(quietEnv, .setDefault 5), (quietEnv, .castVote voterA (some 10) true),
    (quietEnv, .setDefault 7)]

/-- Setting the first default and casting a vote leave both locks free. -/
theorem lock_discipline_two_calls :
    (leakingCalls.take 2).foldlM (lockStep exampleParams) (createElection exampleParams, .free) =
      .ok ((leakingCalls.take 2).foldl (callStep exampleParams) (createElection exampleParams),
        .free) :=
  (lock_discipline exampleParams).2 (leakingCalls.take 2) (createElection exampleParams)
    ⟨fun leaves => absurd leaves.2.1 (by decide), id, trivial⟩

/-- The voter wins before and after the default is replaced, so no callback is due,
`gvotable_set_default` keeps `re_lock`, and the next call blocks. -/
theorem setDefault_leaves_result_locked :
    ¬ Disciplined ((Call.setDefault 7).run exampleParams quietEnv
      ((leakingCalls.take 2).foldl (callStep exampleParams) (createElection exampleParams))).trace ∧
    (leakingCalls ++ [(quietEnv, Call.castVote voterB (some 3) true)]).foldlM (lockStep exampleParams)
      (createElection exampleParams, .free) = .error .blocked := by
  decide +kernel

end GsKernel.Gvotable
