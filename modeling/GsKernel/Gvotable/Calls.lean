import GsKernel.Gvotable.Election

/-!
# The entry points of an election

Each call with its return value, the election it leaves, and the trace of its locks and of its
calls of `el->callback`. Its environment is whether allocations succeed, and what the callback
returns and sets with `gvotable_election_set_result`. The pointers a caller passes are not NULL.
-/

namespace GsKernel.Gvotable

open Lib.Strings

/-- What a call does to `cb_lock`, `re_lock` and the callback. -/
inductive LockEvent where
  | lockCb
  | lockRe
  | unlockRe
  | unlockCb
  | callback
deriving DecidableEq

/-- A callback's return value, and its calls of `gvotable_election_set_result`. -/
structure CallbackOutcome (V : Type) where
  ret : Int
  setResults : List (CString × Option V)

/-- What one call finds outside the election. -/
structure Env (V : Type) where
  ballotAlloc : Bool
  voteAlloc : Bool
  callback : CallbackOutcome V

/-- Return value, election and trace of a call. -/
structure Outcome (V : Type) where
  ret : Int
  el : Election V
  trace : List LockEvent

variable {V : Type} (params : Params V) (env : Env V)

/-- `gvotable_election_set_result`. -/
def electionSetResult (el : Election V) (reason : CString) (result : Option V) : Int × Election V :=
  if reason.chars = [] then (-EINVAL, el)
  else if params.useAlloc = true ∧ result = none then (-EINVAL, el)
  else if params.cmpIsNone = false then (-EINVAL, el)
  else (0, { el with
    reason := strlcpy reason GVOTABLE_MAX_REASON_LEN
    result := result.getD params.zeroVote
    resultIsValid := true })

/-- `el->callback`: what it returns and what it leaves of the election. -/
def callback (el : Election V) : Int × Election V :=
  (env.callback.ret, env.callback.setResults.foldl (fun el (reason, result) =>
      (electionSetResult params el reason result).2) el)

/-- The end most calls share: run the election, drop `re_lock`, call the callback if
the election asks for it, drop `cb_lock`. -/
def conclude (ret : Int) (el : Election V) : Outcome V :=
  let (due, el) := internalRunElection params el
  if due then
    let (ret, el) := callback params env el
    ⟨ret, el, [.unlockRe, .callback, .unlockCb]⟩
  else ⟨ret, el, [.unlockRe, .unlockCb]⟩

/-- The rest of a call after `gvotable_lock_election`. -/
def Outcome.afterLock (outcome : Outcome V) : Outcome V :=
  { outcome with trace := .lockCb :: .lockRe :: outcome.trace }

/-- `gvotable_unlock_election` and return. -/
def unlockElection (ret : Int) (el : Election V) : Outcome V := ⟨ret, el, [.unlockRe, .unlockCb]⟩

/-- The ballot `gvotable_cast_vote` allocates for a new reason. -/
def newBallot (reason : CString) : Ballot V where
  enabled := false
  reasonHash := params.hash reason
  reason := strlcpy reason GVOTABLE_MAX_REASON_LEN
  vote := params.zeroVote
  hasBuffer := false
  numVotes := 0

/-- What `gvotable_cast_vote` does to the ballots, with its error code: an enabled
vote moves its ballot, an existing vote is disabled in place. -/
def recordVote (el : Election V) (reason : CString) (vote : V) (enabled : Bool) :
    Int × Election V :=
  match locateBallot params reason el.votes with
  | none =>
    if env.ballotAlloc = false then (-ENOMEM, el)
    else
      let el := { el with numVoters := el.numVoters + 1 }
      let (ret, ballot) := updateBallot params env.voteAlloc (newBallot params reason) vote enabled
      (ret, if ret < 0 then el else addBallot params el ballot enabled)
  | some (front, ballot, back) =>
    let (ret, ballot) := updateBallot params env.voteAlloc ballot vote enabled
    if enabled then
      let el := { el with votes := front ++ back }
      (ret, if ret < 0 then el else addBallot params el ballot enabled)
    else (ret, { el with votes := front ++ ballot :: back })

/-- What `gvotable_recast_ballot` does to the ballots, with its error code. -/
def recordRecast (el : Election V) (reason : CString) (enabled : Bool) : Int × Election V :=
  match locateBallot params reason el.votes with
  | none => (-EINVAL, el)
  | some (front, ballot, back) =>
    let el := { el with votes := front ++ back }
    let (ret, ballot) := updateBallot params env.voteAlloc ballot ballot.vote enabled
    (ret, if ret < 0 then el else addBallot params el ballot enabled)

/-- Leave with the error, or run the election on the new ballots. -/
def settle (recorded : Int × Election V) : Outcome V :=
  if recorded.1 < 0 then unlockElection recorded.1 recorded.2
  else conclude params env recorded.1 recorded.2

/-- The vote `gvotable_cast_vote` records: bool elections ignore the one passed. -/
def castValue (vote : Option V) (enabled : Bool) : V :=
  if params.isBoolType then params.boolVote enabled else vote.getD params.zeroVote

/-- `gvotable_cast_vote`. -/
def castVote (el : Election V) (reason : CString) (vote : Option V) (enabled : Bool) : Outcome V :=
  if reason.chars = [] then ⟨-EINVAL, el, []⟩
  else if params.useAlloc = true ∧ vote = none then ⟨-EINVAL, el, []⟩
  else
    (settle params env
      (recordVote params env el reason (castValue params vote enabled) enabled)).afterLock

/-- `gvotable_recast_ballot`. -/
def recastBallot (el : Election V) (reason : CString) (enabled : Bool) : Outcome V :=
  (settle params env (recordRecast params env el reason enabled)).afterLock

/-- The branch of `gvotable_set_default` for a changed default: without a callback to
call, `re_lock` is not dropped. -/
def rerunForDefault (el : Election V) : Outcome V :=
  let (due, el) := internalRunElection params el
  if due then
    let (ret, el) := callback params env el
    ⟨ret, el, [.unlockRe, .callback, .unlockCb]⟩
  else ⟨0, el, [.unlockCb]⟩

/-- `gvotable_set_default`. -/
def setDefault (el : Election V) (defaultVal : Ptr) : Outcome V :=
  if params.isBoolType then ⟨-EINVAL, el, []⟩
  else
    let changed := el.hasDefaultVote = 1 ∧ el.defaultVote ≠ defaultVal
    let el := { el with defaultVote := defaultVal }
    let outcome := if changed then rerunForDefault params env el else unlockElection 0 el
    Outcome.afterLock { outcome with el := { outcome.el with hasDefaultVote := 1 } }

/-- `gvotable_use_default`. -/
def useDefault (el : Election V) (defaultIsEnabled : Bool) : Outcome V :=
  if params.isBoolType then ⟨-EINVAL, el, []⟩
  else
    (conclude params env 0
      { el with hasDefaultVote := if defaultIsEnabled then 1 else 0 }).afterLock

/-- The part of `gvotable_run_election` and of the debugfs writes between the two
unlocks: call the callback or not. -/
def callbackIf (due : Prop) [Decidable due] (el : Election V) : Outcome V :=
  if due then
    let (ret, el) := callback params env el
    ⟨ret, el, [.unlockRe, .callback, .unlockCb]⟩
  else ⟨0, el, [.unlockRe, .unlockCb]⟩

/-- `gvotable_run_election`; while a result is forced the callback always runs. -/
def runElection (el : Election V) (forceCallback : Bool) : Outcome V :=
  let (due, el) := internalRunElection params el
  (callbackIf params env (params.hasCallback = true ∧
      (el.forceResultIsEnabled = true ∨ due = true ∨ forceCallback = true)) el).afterLock

/-- `debugfs_force_int_value`. -/
def forceIntValue (el : Election V) (val : Ptr) : Outcome V :=
  let preVal := el.forceResult
  let el := { el with forceResult := val }
  (callbackIf params env
    (params.hasCallback = true ∧ el.forceResultIsEnabled = true ∧ preVal ≠ val) el).afterLock

/-- `debugfs_force_int_active`. -/
def forceIntActive (el : Election V) (val : Ptr) : Outcome V :=
  let el := { el with forceResultIsEnabled := decide (val ≠ 0) }
  (callbackIf params env (params.hasCallback = true) el).afterLock

/-- What `gvotable_get_default` reads: any `has_default_vote` but 0 passes its check. -/
def getDefault (el : Election V) : Except Int V :=
  if el.hasDefaultVote = 0 then .error (-EINVAL) else .ok (params.deref el.defaultVote)

/-- What `gvotable_get_vote` reads; a bool election answers NULL for an unknown
reason. -/
def getVote (el : Election V) (reason : CString) : Except Int (Option V) :=
  match locateBallot params reason el.votes with
  | none => if params.isBoolType then .ok none else .error (-ENODEV)
  | some (_, ballot, _) =>
    if params.isBoolType = false ∧ ballot.enabled = false then .error (-EINVAL)
    else .ok (some ballot.vote)

/-- What `gvotable_is_enabled` reads. -/
def isEnabled (el : Election V) (reason : CString) : Except Int Bool :=
  match locateBallot params reason el.votes with
  | none => .error (-ENODEV)
  | some (_, ballot, _) => .ok ballot.enabled

/-- The return value of a call that reads. -/
def status {α : Type} : Except Int α → Int
  | .error code => code
  | .ok _ => 0

/-- A call of one of the entry points. -/
inductive Call (V : Type) where
  | castVote (reason : CString) (vote : Option V) (enabled : Bool)
  | recastBallot (reason : CString) (enabled : Bool)
  | setDefault (defaultVal : Ptr)
  | useDefault (defaultIsEnabled : Bool)
  | getDefault
  | runElection (forceCallback : Bool)
  | getVote (reason : CString)
  | isEnabled (reason : CString)
  | forceIntValue (val : Ptr)
  | forceIntActive (val : Ptr)

/-- A call on an election. -/
def Call.run (el : Election V) : Call V → Outcome V
  | .castVote reason vote enabled => Gvotable.castVote params env el reason vote enabled
  | .recastBallot reason enabled => Gvotable.recastBallot params env el reason enabled
  | .setDefault defaultVal => Gvotable.setDefault params env el defaultVal
  | .useDefault defaultIsEnabled => Gvotable.useDefault params env el defaultIsEnabled
  | .getDefault => ⟨status (Gvotable.getDefault params el), el,
      if el.hasDefaultVote = 0 then [] else [.lockCb, .lockRe, .unlockRe, .unlockCb]⟩
  | .runElection forceCallback => Gvotable.runElection params env el forceCallback
  | .getVote reason => ⟨status (Gvotable.getVote params el reason), el, [.lockRe, .unlockRe]⟩
  | .isEnabled reason => ⟨status (Gvotable.isEnabled params el reason), el, [.lockRe, .unlockRe]⟩
  | .forceIntValue val => Gvotable.forceIntValue params env el val
  | .forceIntActive val => Gvotable.forceIntActive params env el val

/-- The election a call leaves. -/
def callStep (el : Election V) (step : Env V × Call V) : Election V :=
  (step.2.run params step.1 el).el

/-- Casts and recasts, the calls that change ballots. -/
def Call.IsVote : Call V → Prop
  | .castVote .. => True
  | .recastBallot .. => True
  | _ => False

section Concrete

/-- Allocations succeed and the callback returns 0 and sets nothing. -/
def quietEnv : Env V := ⟨true, true, ⟨0, []⟩⟩

/-- A minimum election with a callback. -/
def exampleParams : Params Ptr := intParams comparatorIntMin true fullNameHash

/-- Three voters of the concrete elections, "A", "B" and "C". -/
def voterA : CString := ⟨[65], by decide +kernel⟩

@[inherit_doc voterA]
def voterB : CString := ⟨[66], by decide +kernel⟩

@[inherit_doc voterA]
def voterC : CString := ⟨[67], by decide +kernel⟩

end Concrete

end GsKernel.Gvotable
