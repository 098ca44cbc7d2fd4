import GsKernel.Lwis.Trigger

/-!
# How a level-triggered condition is judged

What has happened before the submission counts: the judgement is accumulated node by node in the
count, the flag to queue immediately and the error code of the response. A submission is brought
down to a fold over the states of its nodes.
-/

namespace GsKernel.Lwis

open Client SubmitReplies

/-- What a submission decides about its transaction. -/
inductive Decision where
  | execute
  | cancel
  | pending
deriving DecidableEq

/-- What `lwis_transaction_submit_locked` decides, read off the process queue: a transaction that
is not there is pending, one there with an error code is cancelled. `none` is a refusal. -/
def Client.submitDecision (client : Client) (info : TransactionInfo) (replies : SubmitReplies) :
    Option Decision :=
  match client.submit info replies with
  | (_, .error _) => none
  | (after, .ok _) =>
    if after.processQueue = client.processQueue then some .pending
    else
      (if info.isHighPriorityTransaction then after.processQueue.head?
        else after.processQueue.getLast?).map fun transaction =>
          if transaction.errorCode = 0 then .execute else .cancel

/-- What has become of a node before the submission. -/
inductive NodeState where
  /-- An event that is not at its counter, or whose precondition fence is not signaled
  successfully, and a fence that is not signaled. -/
  | waiting
  /-- An event at its counter. -/
  | reached
  /-- A fence that is signaled successfully. -/
  | signaled
  /-- A fence that is signaled with an error. -/
  | failed
deriving DecidableEq

/-- The state of a node as the device and the fences answer. -/
def SubmitReplies.nodeState (replies : SubmitReplies) : TriggerNode → NodeState
  | .event id counter preconditionFence =>
    if explicitEventCounter counter ∧ replies.eventCounter (plainEventId id) = some counter ∧
        ∀ fence ∈ preconditionFence, replies.fenceStatus fence = some fenceSuccessfullySignaled
    then .reached else .waiting
  | .fence fd =>
    if replies.fenceStatus fd = some 0 then .waiting
    else if replies.fenceStatus fd = some fenceSuccessfullySignaled then .signaled
    else .failed

/-- The fence a node names. -/
def TriggerNode.fence? : TriggerNode → Option Nat
  | .event _ _ preconditionFence => preconditionFence
  | .fence fd => some fd

/-- The replies with which no submission of these nodes is refused: allocations succeed, the
trigger event is not missed, the outputs are valid, the nodes are not too many, every descriptor
is a fence. -/
structure SubmitReplies.Admits (replies : SubmitReplies) (info : TransactionInfo) : Prop where
  checked : ∃ queueImmediately, checkTransactionParam replies info = .ok queueImmediately
  response : replies.responseAllocated = true
  weak : ∀ index, replies.weakAllocated index = true ∧ replies.weakListed index = true
  callback : ∀ index, replies.callbackAllocated index = true
  completion : replies.completionFences = none
  highPriority : replies.highPriorityAdded = true
  eventList : replies.eventListFound = true
  few : info.triggerNodes.length ≤ triggerNodesMaxNum
  fences : ∀ node ∈ info.triggerNodes, ∀ fence ∈ node.fence?,
    (replies.fenceStatus fence).isSome = true

/-! ## The judgement, node by node -/

/-- The three fields in which the judgement is accumulated. -/
structure Tally where
  count : Nat
  queue : Bool
  cancelled : Bool
deriving DecidableEq

/-- What a node does to the fields, with `all` nodes in the condition. An event that is
reached overwrites the flag, a fence only ever sets it. -/
def Tally.add (operator : TriggerOperator) (all : Nat) (tally : Tally) : NodeState → Tally
  | .waiting => tally
  | .reached => ⟨tally.count + 1, operator ≠ .and || tally.count + 1 == all, tally.cancelled⟩
  | .signaled =>
    ⟨tally.count + 1, tally.queue || (tally.count + 1 == all || operator == .or), tally.cancelled⟩
  | .failed =>
    ⟨tally.count + 1, tally.queue || (tally.count + 1 == all || operator == .and),
      tally.cancelled || (tally.count + 1 == all || operator == .and)⟩

/-- The decision the fields stand for. -/
def Tally.decision (tally : Tally) : Decision :=
  if tally.queue then if tally.cancelled then .cancel else .execute else .pending

/-- A transaction with these fields. -/
def Transaction.tallied (transaction : Transaction) (tally : Tally) : Transaction :=
  { transaction with
    signaledCount := tally.count
    queueImmediately := tally.queue
    errorCode := if tally.cancelled then -125 else 0 }

variable {replies : SubmitReplies} {info : TransactionInfo} {transaction : Transaction}

open Tally Transaction

/-- A node of a level-triggered condition changes the fields as `Tally.add` says. -/
lemma addTriggerNode_tally (client : Client) (index : Nat) (tally : Tally)
    (level : transaction.info.isLevelTriggered = true)
    (combined : transaction.info.operatorType = .and ∨ transaction.info.operatorType = .or)
    (weak : ∀ index, replies.weakAllocated index = true ∧ replies.weakListed index = true)
    (callback : ∀ index, replies.callbackAllocated index = true) (node : TriggerNode)
    (fences : ∀ fence ∈ node.fence?, (replies.fenceStatus fence).isSome = true) :
    ∃ next, client.addTriggerNode replies index (transaction.tallied tally) node =
        .ok (next, transaction.tallied (tally.add transaction.info.operatorType
          transaction.info.triggerNodes.length (replies.nodeState node))) ∧
      next.processQueue = client.processQueue := by
  cases node with
  | event id counter preconditionFence =>
    -- a node that waits is listed with its event, one that is reached is only counted
    let listed := client.addToEventList id (.weak transaction.id preconditionFence)
    have kept : listed.processQueue = client.processQueue := rfl
    cases preconditionFence with
    | none =>
      by_cases reached : explicitEventCounter counter = true ∧
          replies.eventCounter (plainEventId id) = some counter
      · refine ⟨client, ?_, rfl⟩
        rcases combined with operator | operator <;>
          simp [addTriggerNode, triggerEventAdd, level, reached, operator,
            nodeState, add, tallied]
      · exact ⟨listed, by simp [listed, addTriggerNode, triggerEventAdd, level,
          reached, weak, addWeakTransaction, nodeState, add,
          tallied, Except.map], kept⟩
    | some fence =>
      obtain ⟨status, found⟩ := Option.isSome_iff_exists.mp (fences fence rfl)
      by_cases reached : (explicitEventCounter counter = true ∧
          replies.eventCounter (plainEventId id) = some counter) ∧
          status = fenceSuccessfullySignaled
      · refine ⟨client, ?_, rfl⟩
        rcases combined with operator | operator <;>
          simp [addTriggerNode, triggerEventAdd, level, reached, operator, found,
            nodeState, add, tallied]
      refine ⟨listed, ?_, kept⟩
      rw [not_and] at reached
      by_cases counted : explicitEventCounter counter = true ∧
          replies.eventCounter (plainEventId id) = some counter
      · simp [listed, addTriggerNode, triggerEventAdd, level, reached counted,
          counted, weak, addWeakTransaction, found, nodeState, add,
          tallied, Except.map]
      · simp [listed, addTriggerNode, triggerEventAdd, level, counted, weak, found,
          addWeakTransaction, nodeState, ← and_assoc, add,
          tallied, Except.map]
  | fence fd =>
    obtain ⟨status, found⟩ := Option.isSome_iff_exists.mp (fences fd rfl)
    by_cases unsignaled : status = 0
    · refine ⟨{ client with fenceCallbacks := client.fenceCallbacks ++ [(fd, transaction.id)] },
        ?_, rfl⟩
      simp [addTriggerNode, triggerFenceAdd, callback, found, unsignaled,
        nodeState, add, tallied]
    refine ⟨client, ?_, rfl⟩
    by_cases success : status = 1 <;>
      by_cases last : tally.count + 1 = transaction.info.triggerNodes.length <;>
      rcases combined with operator | operator <;>
      simp [addTriggerNode, triggerFenceAdd, callback, found, unsignaled, success,
        level, last, operator, nodeState, add, tallied,
        fenceTriggeredConditionReady, fenceSuccessfullySignaled]

/-- The nodes of a level-triggered condition are judged one after the other. -/
lemma parseTriggerNodes_tally (level : transaction.info.isLevelTriggered = true)
    (combined : transaction.info.operatorType = .and ∨ transaction.info.operatorType = .or)
    (weak : ∀ index, replies.weakAllocated index = true ∧ replies.weakListed index = true)
    (callback : ∀ index, replies.callbackAllocated index = true) (nodes : List TriggerNode)
    (fences : ∀ node ∈ nodes, ∀ fence ∈ node.fence?, (replies.fenceStatus fence).isSome = true)
    (client : Client) (index : Nat) (tally : Tally) :
    ∃ next, client.parseTriggerNodes replies nodes index (transaction.tallied tally) =
        (next, .ok (transaction.tallied ((nodes.map replies.nodeState).foldl
          (add transaction.info.operatorType transaction.info.triggerNodes.length)
          tally))) ∧
      next.processQueue = client.processQueue := by
  induction nodes generalizing client index tally with
  | nil => exact ⟨client, rfl, rfl⟩
  | cons node nodes ih =>
    obtain ⟨own, later⟩ := List.forall_mem_cons.mp fences
    obtain ⟨next, added, kept⟩ := addTriggerNode_tally client index tally level combined weak
      callback node own
    obtain ⟨last, parsed, rest⟩ := ih later next (index + 1) (tally.add
      transaction.info.operatorType transaction.info.triggerNodes.length (replies.nodeState node))
    refine ⟨last, ?_, rest.trans kept⟩
    rw [parseTriggerNodes, added]
    exact parsed

/-- The judgement of a level-triggered condition whose nodes are in these states. -/
def judgeNodes (operator : TriggerOperator) (queueImmediately : Bool)
    (states : List NodeState) : Tally :=
  states.foldl (add operator states.length) ⟨0, queueImmediately, false⟩

/-- A transaction that is not to be queued waits outside the process queue. -/
lemma queueTransaction_waiting (client : Client) (transaction : Transaction)
    (found : replies.eventListFound = true) (waits : transaction.queueImmediately = false) :
    ∃ next, client.queueTransaction replies transaction = (next, .ok ()) ∧
      next.processQueue = client.processQueue := by
  unfold queueTransaction
  rw [if_neg (by simp [waits])]
  by_cases condition : transaction.info.triggeredByCondition = true
  · rw [if_pos condition]
    exact ⟨_, rfl, rfl⟩
  · rw [if_neg condition, if_neg (by simp [found])]
    exact ⟨_, rfl, rfl⟩

/-- The nodes of an admitted submission are added, and the transaction carries the
judgement. -/
lemma prepareTransactionFences_judged (client : Client) (transaction : Transaction)
    (level : transaction.info.isLevelTriggered = true)
    (combined : transaction.info.operatorType = .and ∨ transaction.info.operatorType = .or)
    (admits : replies.Admits transaction.info) (fresh : transaction.signaledCount = 0)
    (clean : transaction.errorCode = 0) :
    ∃ next, client.prepareTransactionFences replies transaction =
        (next, .ok (transaction.tallied (judgeNodes transaction.info.operatorType
          transaction.queueImmediately (transaction.info.triggerNodes.map replies.nodeState)))) ∧
      next.processQueue = client.processQueue := by
  obtain ⟨next, parsed, kept⟩ := parseTriggerNodes_tally level combined admits.weak
    admits.callback transaction.info.triggerNodes admits.fences client 0
    ⟨0, transaction.queueImmediately, false⟩
  have untouched : transaction.tallied ⟨0, transaction.queueImmediately, false⟩ = transaction := by
    simp [tallied, ← fresh, ← clean]
  rw [untouched] at parsed
  refine ⟨next, ?_, kept⟩
  unfold prepareTransactionFences
  rw [if_neg fun many => Nat.not_lt.mpr admits.few many.2, parsed]
  simp only [admits.completion, judgeNodes, List.length_map]

/-- A submission decides what its judgement says. -/
lemma submitDecision_eq (client : Client) (level : info.isLevelTriggered = true)
    (combined : info.operatorType = .and ∨ info.operatorType = .or)
    (admits : replies.Admits info) {queueImmediately : Bool}
    (checked : checkTransactionParam replies info = .ok queueImmediately) :
    client.submitDecision info replies = some (judgeNodes info.operatorType queueImmediately
      (info.triggerNodes.map replies.nodeState)).decision := by
  obtain ⟨next, prepared, kept⟩ := prepareTransactionFences_judged client.numbered
    ⟨client.transactionCounter, info, 0, 0, queueImmediately⟩ level combined admits rfl rfl
  simp only at prepared
  generalize judgeNodes info.operatorType queueImmediately
    (info.triggerNodes.map replies.nodeState) = tally at prepared ⊢
  unfold submitDecision submit
  simp only [checked, admits.response, Bool.not_true, Bool.false_eq_true, if_false, prepared]
  have unnumbered : next.processQueue = client.processQueue := kept
  by_cases queued : tally.queue = true
  · have linked : next.queueTransaction replies
        (tallied ⟨client.transactionCounter, info, 0, 0, queueImmediately⟩ tally) =
        (next.addTransactionToQueue
          (tallied ⟨client.transactionCounter, info, 0, 0, queueImmediately⟩ tally),
          .ok ()) := by
      simp [queueTransaction, tallied, queued, admits.highPriority]
    simp only [linked]
    by_cases high : info.isHighPriorityTransaction = true <;> cases cancelled : tally.cancelled <;>
      simp [addTransactionToQueue, tallied, decision, high, queued,
        cancelled, unnumbered]
  · obtain ⟨last, waits, same⟩ := queueTransaction_waiting next
      (tallied ⟨client.transactionCounter, info, 0, 0, queueImmediately⟩ tally)
      admits.eventList (Bool.eq_false_iff.mpr queued)
    simp only [waits, same, unnumbered, decision, if_neg queued, if_true]

end GsKernel.Lwis
