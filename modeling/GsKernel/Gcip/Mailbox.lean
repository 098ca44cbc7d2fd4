import GsKernel.Lib.Runs
import GsKernel.Lib.Tasks

/-!
# Awaiters of a mailbox

`gcip_mailbox_put_cmd_flags` makes an awaiter, arms its timeout and queues its command; the
response, the timeout work, `gcip_mailbox_cancel_awaiter` and `gcip_mailbox_flush_awaiter` then
race for its entry on the wait list. Entries are found by the sequence number in the response
buffer.

An awaiter has one put and one timeout work, whose progress is part of it; the other calls are
tasks of a pool. A section under `wait_list_lock` is one step. An awaiter keeps its number after
it has been freed.
-/

namespace GsKernel.Gcip

open Lib.Tasks

/-- What the mailbox uses of its operators. `handlesFlushed` is whether
`handle_awaiter_flushed` is defined. -/
structure MailboxOps (ρ : Type*) where
  getRespElemSeq : Option ρ → Nat
  setRespElemSeq : ρ → Nat → ρ
  doesResponseMatchWaiter : ρ → Option ρ → Bool
  handlesFlushed : Bool

/-- The default of `does_response_match_waiter`. -/
def MailboxOps.matchBySeq {ρ : Type*} (getRespElemSeq : Option ρ → Nat) (incoming : ρ)
    (waiting : Option ρ) : Bool :=
  decide (getRespElemSeq (some incoming) = getRespElemSeq waiting)

/-- How far the put of an awaiter is: its number is known from `waiting` on, in the response
buffer before `pushing`, and its entry is on the wait list from `queued` on. `dropping` and
`freeing` end a put that failed. -/
inductive PutPhase where
  | absent
  | locking
  | waiting (seq : Nat)
  | pushing (seq : Nat)
  | adding (seq : Nat)
  | queued (seq : Nat)
  | done (seq : Nat)
  | failed
  | dropping
  | freeing
  | freed
deriving DecidableEq

/-- How far the timeout work of an awaiter is. It is under way from `running` to
`dropping`. -/
inductive TimeoutPhase where
  | idle
  | pending
  | running
  | deleting (seq : Nat)
  | handling (removed : Bool)
  | dropping
deriving DecidableEq

/-- `owned` is whether the owner has not released the awaiter. -/
structure Awaiter (ρ : Type*) where
  refs : Nat
  resp : Option ρ
  put : PutPhase
  timeout : TimeoutPhase
  owned : Bool
  frees : Nat

/-- `gcip_mailbox_awaiter_dec_refs`, with the free of the last reference. -/
def Awaiter.decRefs {ρ : Type*} (awaiter : Awaiter ρ) : Awaiter ρ :=
  { awaiter with
    refs := awaiter.refs - 1
    frees := if awaiter.refs = 1 then awaiter.frees + 1 else awaiter.frees }

/-- What has been decided about an awaiter, and the entries that the timeout or the
cancellation of an awaiter has removed. -/
inductive Outcome (ρ : Type*) where
  | arrived (awaiter : Nat) (resp : ρ)
  | timedOut (awaiter : Nat)
  | cancelled (awaiter : Nat)
  | flushed (awaiter : Nat)
  | removed (awaiter entry : Nat)
deriving DecidableEq

structure Mailbox (ρ : Type*) where
  curSeq : Nat
  txQueueLock : Option Nat
  waitList : List Nat
  awaiters : Nat → Awaiter ρ
  log : List (Outcome ρ)

/-- The calls that are under way, besides puts and timeout works. -/
inductive Call (ρ : Type*) where
  | handleResponse (resp : ρ)
  | arrived (awaiter : Nat) (resp : ρ)
  | arrivedDropping (awaiter : Nat) (resp : ρ)
  | arrivedHandling (awaiter : Nat) (resp : ρ)
  | arrivedReleasing (awaiter : Nat)
  | cancelAwaiter (awaiter : Nat)
  | cancelDeleting (awaiter seq : Nat)
  | cancelTimeout (awaiter : Nat) (removed : Bool)
  | cancelDropping (awaiter : Nat) (removed : Bool)
  | flushAwaiter
  | flushing (entries : List Nat)
  | flushDropping (awaiter : Nat) (entries : List Nat)
  | flushHandling (awaiter : Nat) (entries : List Nat)
deriving DecidableEq

namespace Mailbox

variable {ρ : Type*} (ops : MailboxOps ρ) (mailbox : Mailbox ρ) (id : Nat)

def update (change : Awaiter ρ → Awaiter ρ) : Mailbox ρ :=
  { mailbox with awaiters := Function.update mailbox.awaiters id (change (mailbox.awaiters id)) }

section

variable (change : Awaiter ρ → Awaiter ρ)
include change

@[simp]
lemma update_self : (mailbox.update id change).awaiters id = change (mailbox.awaiters id) :=
  Function.update_self ..

@[simp]
lemma update_of_ne {other : Nat} (ne : other ≠ id) :
    (mailbox.update id change).awaiters other = mailbox.awaiters other :=
  Function.update_of_ne ne ..

@[simp]
lemma update_waitList : (mailbox.update id change).waitList = mailbox.waitList := rfl

@[simp]
lemma update_log : (mailbox.update id change).log = mailbox.log := rfl

end

lemma update_update (first second : Awaiter ρ → Awaiter ρ) :
    (mailbox.update id first).update id second = mailbox.update id (second ∘ first) := by
  simp [update]

def awaiterDecRefs : Mailbox ρ := mailbox.update id Awaiter.decRefs

def setPut (phase : PutPhase) : Mailbox ρ :=
  mailbox.update id fun awaiter => { awaiter with put := phase }

def setTimeout (phase : TimeoutPhase) : Mailbox ρ :=
  mailbox.update id fun awaiter => { awaiter with timeout := phase }

def record (outcome : Outcome ρ) : Mailbox ρ := { mailbox with log := mailbox.log ++ [outcome] }

/-- The locked section of `gcip_mailbox_del_wait_resp`, for an awaiter whose response
buffer held the number `seq`. -/
def delWaitResp (seq : Nat) : Mailbox ρ × Bool :=
  match mailbox.waitList.find? fun entry =>
      decide (ops.getRespElemSeq (mailbox.awaiters entry).resp = seq) with
  | none => (mailbox, false)
  | some entry =>
    ((({ mailbox with waitList := mailbox.waitList.erase entry } : Mailbox ρ).awaiterDecRefs
      entry).record (.removed id entry), true)

/-- `gcip_mailbox_put_cmd_flags` up to `gcip_mailbox_enqueue_cmd`. -/
def putCmdFlags (resp : Option ρ) (noTimeout : Bool) : Option (Mailbox ρ) :=
  if (mailbox.awaiters id).put = .absent then
    some (mailbox.update id fun _ =>
      { refs := if noTimeout then 1 else 2
        resp := resp
        put := .locking
        timeout := if noTimeout then .idle else .pending
        owned := true
        frees := 0 })
  else none

/-- A step of the put. `succeeds` is the result of `wait_for_tx_queue_not_full`, of
`gcip_mailbox_push_wait_resp` up to its locked section, or of `after_enqueue_cmd`.
`cancel_delayed_work_sync` waits for a work that is under way. -/
def continuePut (succeeds : Bool) : Option (Mailbox ρ) :=
  match (mailbox.awaiters id).put with
  | .locking =>
    if mailbox.txQueueLock = none then
      some { mailbox.setPut id (.waiting mailbox.curSeq) with txQueueLock := some id }
    else none
  | .waiting seq =>
    if succeeds then
      some (mailbox.update id fun awaiter =>
        match awaiter.resp with
        | none => { awaiter with put := .queued seq }
        | some resp =>
          { awaiter with put := .pushing seq, resp := some (ops.setRespElemSeq resp seq) })
    else some { mailbox.setPut id .failed with txQueueLock := none }
  | .pushing seq =>
    if succeeds then
      some (mailbox.update id fun awaiter =>
        { awaiter with put := .adding seq, refs := awaiter.refs + 1 })
    else some { mailbox.setPut id .failed with txQueueLock := none }
  | .adding seq =>
    some { mailbox.setPut id (.queued seq) with waitList := mailbox.waitList ++ [id] }
  | .queued seq =>
    if succeeds then
      some { mailbox.setPut id (.done seq) with
        txQueueLock := none, curSeq := (mailbox.curSeq + 1) % 2 ^ 64 }
    else some { mailbox.setPut id .failed with txQueueLock := none }
  | .failed =>
    match (mailbox.awaiters id).timeout with
    | .idle => some (mailbox.setPut id .freeing)
    | .pending => some ((mailbox.setTimeout id .idle).setPut id .dropping)
    | _ => none
  | .dropping => some ((mailbox.awaiterDecRefs id).setPut id .freeing)
  | .freeing =>
    some (mailbox.update id fun awaiter =>
      { awaiter with put := .freed, owned := false, frees := awaiter.frees + 1 })
  | _ => none

/-- A step of `gcip_mailbox_async_cmd_timeout_work`; the delay of a pending work may be
over at any time. -/
def continueTimeout : Option (Mailbox ρ) :=
  match (mailbox.awaiters id).timeout with
  | .idle => none
  | .pending => some (mailbox.setTimeout id .running)
  | .running =>
    some (mailbox.setTimeout id (.deleting (ops.getRespElemSeq (mailbox.awaiters id).resp)))
  | .deleting seq =>
    let (deleted, removed) := mailbox.delWaitResp ops id seq
    some (deleted.setTimeout id (.handling removed))
  | .handling removed =>
    let handled := if removed then mailbox.record (.timedOut id) else mailbox
    some (handled.setTimeout id .dropping)
  | .dropping => some ((mailbox.awaiterDecRefs id).setTimeout id .idle)

/-- A step of one of the other calls. -/
def continueCall (call : Call ρ) (_ : Unit) : Option (Mailbox ρ × List (Call ρ)) :=
  match call with
  | .handleResponse resp =>
    match mailbox.waitList.find? fun entry =>
        ops.doesResponseMatchWaiter resp (mailbox.awaiters entry).resp with
    | none => some (mailbox, [])
    | some entry =>
      some ({ mailbox.update entry fun awaiter => { awaiter with resp := some resp } with
        waitList := mailbox.waitList.erase entry }, [.arrived entry resp])
  | .arrived id resp =>
    if (mailbox.awaiters id).timeout = .pending then
      some (mailbox.setTimeout id .idle, [.arrivedDropping id resp])
    else some (mailbox, [.arrivedHandling id resp])
  | .arrivedDropping id resp => some (mailbox.awaiterDecRefs id, [.arrivedHandling id resp])
  | .arrivedHandling id resp => some (mailbox.record (.arrived id resp), [.arrivedReleasing id])
  | .arrivedReleasing id => some (mailbox.awaiterDecRefs id, [])
  | .cancelAwaiter id =>
    some (mailbox, [.cancelDeleting id (ops.getRespElemSeq (mailbox.awaiters id).resp)])
  | .cancelDeleting id seq =>
    let (deleted, removed) := mailbox.delWaitResp ops id seq
    some (deleted, [.cancelTimeout id removed])
  | .cancelTimeout id removed =>
    match (mailbox.awaiters id).timeout with
    | .idle => some (if removed then mailbox.record (.cancelled id) else mailbox, [])
    | .pending => some (mailbox.setTimeout id .idle, [.cancelDropping id removed])
    | _ => none
  | .cancelDropping id removed =>
    let dropped := mailbox.awaiterDecRefs id
    some (if removed then dropped.record (.cancelled id) else dropped, [])
  | .flushAwaiter =>
    some (mailbox.waitList.foldl awaiterDecRefs { mailbox with waitList := [] },
      [.flushing mailbox.waitList])
  | .flushing [] => some (mailbox, [])
  | .flushing (id :: entries) =>
    match (mailbox.awaiters id).timeout with
    | .idle => some (mailbox, [.flushHandling id entries])
    | .pending => some (mailbox.setTimeout id .idle, [.flushDropping id entries])
    | _ => none
  | .flushDropping id entries => some (mailbox.awaiterDecRefs id, [.flushHandling id entries])
  | .flushHandling id entries =>
    let flushed := mailbox.record (.flushed id)
    some (if ops.handlesFlushed then flushed
      else (flushed.awaiterDecRefs id).update id fun awaiter => { awaiter with owned := false },
      [.flushing entries])

variable {mailbox shared : Mailbox ρ} {ops : MailboxOps ρ} {succeeds : Bool}

/-- A step of a put leaves the other awaiters and their entries alone. -/
lemma continuePut_frame {subject id : Nat} (other : id ≠ subject)
    (ran : mailbox.continuePut ops subject succeeds = some shared) :
    shared.awaiters id = mailbox.awaiters id ∧
      shared.waitList.count id = mailbox.waitList.count id := by
  have single : [subject].count id = 0 := by simp [other.symm]
  unfold Mailbox.continuePut at ran
  repeat' split at ran
  all_goals
    first
    | contradiction
    | cases ran
      simp [other, Mailbox.setPut, Mailbox.setTimeout, Mailbox.awaiterDecRefs, single]

lemma continuePut_log {subject : Nat}
    (ran : mailbox.continuePut ops subject succeeds = some shared) :
    shared.log = mailbox.log := by
  unfold Mailbox.continuePut at ran
  repeat' split at ran
  all_goals
    first
    | contradiction
    | cases ran
      rfl

end Mailbox

/-- A call starts or goes on. -/
inductive MailboxEvent (ρ : Type*) where
  | putCmdFlags (id : Nat) (resp : Option ρ) (noTimeout : Bool)
  | continuePut (id : Nat) (succeeds : Bool)
  | continueTimeout (id : Nat)
  | handleResponse (resp : ρ)
  | cancelAwaiter (id : Nat)
  | flushAwaiter
  | releaseAwaiter (id : Nat)
  | continueCall (index : Nat)
deriving DecidableEq

/-- The entry of the awaiter has been put on the wait list. -/
def PutPhase.isQueued : PutPhase → Bool
  | .queued _ | .done _ => true
  | _ => false

/-- A mailbox and the calls under way. -/
abbrev MailboxSystem (ρ : Type*) := Pool (Mailbox ρ) (Call ρ)

/-- One step. The owner may use its awaiter as soon as a handler can pass it on, and
releases it once. -/
def MailboxSystem.step {ρ : Type*} (ops : MailboxOps ρ) (system : MailboxSystem ρ) :
    MailboxEvent ρ → Option (MailboxSystem ρ)
  | .putCmdFlags id resp noTimeout =>
    (system.shared.putCmdFlags id resp noTimeout).map fun shared => { system with shared := shared }
  | .continuePut id succeeds =>
    (system.shared.continuePut ops id succeeds).map fun shared => { system with shared := shared }
  | .continueTimeout id =>
    (system.shared.continueTimeout ops id).map fun shared => { system with shared := shared }
  | .handleResponse resp => some { system with tasks := .handleResponse resp :: system.tasks }
  | .cancelAwaiter id =>
    if (system.shared.awaiters id).put.isQueued = true ∧ (system.shared.awaiters id).owned = true then
      some { system with tasks := .cancelAwaiter id :: system.tasks }
    else none
  | .flushAwaiter => some { system with tasks := .flushAwaiter :: system.tasks }
  | .releaseAwaiter id =>
    if (system.shared.awaiters id).put.isQueued = true ∧ (system.shared.awaiters id).owned = true then
      some { system with
        shared := (system.shared.awaiterDecRefs id).update id fun awaiter =>
          { awaiter with owned := false } }
    else none
  | .continueCall index => system.run (fun shared => shared.continueCall ops) index ()

/-- A mailbox without awaiters. -/
def MailboxSystem.initial (ρ : Type*) : MailboxSystem ρ :=
  ⟨⟨0, none, [], fun _ => ⟨0, none, .absent, .idle, false, 0⟩, []⟩, []⟩

end GsKernel.Gcip
