import Mathlib

/-!
# Transactions that wait for events and fences

A transaction is queued at once, waits in the list of one event, or waits for a condition over
several events and fences: the transaction itself is then in a map of pending ones, and a *weak*
transaction, which carries only its id, in the list of each event. The submission, the delivery of
an occurrence and the signal of a fence, up to the queue.
-/

namespace GsKernel.Lwis

open Function

/-- `LWIS_EVENT_ID_NONE`. -/
def eventIdNone : BitVec 64 := 0

/-- `LWIS_EVENT_COUNTER_ON_NEXT_OCCURRENCE`. -/
def onNextOccurrence : Int := -1

/-- `LWIS_EVENT_COUNTER_EVERY_TIME`. -/
def everyTime : Int := -2

/-- `EXPLICIT_EVENT_COUNTER`. -/
def explicitEventCounter (counter : Int) : Bool :=
  counter ≠ onNextOccurrence && counter ≠ everyTime

/-- `LWIS_OVERFLOW_IRQ_EVENT_FLAG`. -/
def overflowIrqEventFlag : BitVec 64 := BitVec.twoPow 64 59

/-- The event an id stands for: the overflow flag of an interrupt is taken out. -/
def plainEventId (eventId : BitVec 64) : BitVec 64 :=
  if eventId &&& overflowIrqEventFlag ≠ 0 then eventId ^^^ overflowIrqEventFlag else eventId

/-- `LWIS_FENCE_STATUS_SUCCESSFULLY_SIGNALED`; an unsignaled fence has status 0. -/
def fenceSuccessfullySignaled : Int := 1

/-- `LWIS_TRIGGER_NODES_MAX_NUM`. -/
def triggerNodesMaxNum : Nat := 16

/-- How the nodes of a trigger condition are combined; `invalid` is any other number. -/
inductive TriggerOperator where
  | none
  | and
  | or
  | invalid
deriving DecidableEq

/-- A node of a trigger condition. A negative descriptor of the precondition fence means
that there is none. -/
inductive TriggerNode where
  | event (id : BitVec 64) (counter : Int) (preconditionFence : Option Nat)
  | fence (fd : Nat)
deriving DecidableEq

/-- What user space asks for. -/
structure TransactionInfo where
  triggerEventId : BitVec 64
  triggerEventCounter : Int
  triggerNodes : List TriggerNode
  operatorType : TriggerOperator
  isLevelTriggered : Bool
  isHighPriorityTransaction : Bool
  runInEventContext : Bool
deriving DecidableEq

/-- A transaction, with the error code of its response. -/
structure Transaction where
  id : Nat
  info : TransactionInfo
  errorCode : Int
  signaledCount : Nat
  queueImmediately : Bool
deriving DecidableEq

/-- What the list of an event holds: a transaction that waits for this event, or a weak
transaction with the id of the one that waits for a condition. -/
inductive Listed where
  | weak (id : Nat) (preconditionFence : Option Nat)
  | strong (transaction : Transaction)
deriving DecidableEq

/-- The errors of a submission. -/
inductive SubmitError where
  | noEntry
  | invalid
  | noMemory
  | badFd
deriving DecidableEq

/-- The transactions of a client. `executed` ran in the context of an event, `cancelled` were
ended by a failed fence, `fenceCallbacks` are registered with fences, as descriptor and
transaction id. -/
structure Client where
  isI2c : Bool
  transactionCounter : Nat
  eventLists : BitVec 64 → List Listed
  pendingTransactions : Nat → Option Transaction
  processQueue : List Transaction
  executed : List Transaction
  cancelled : List Transaction
  fenceCallbacks : List (Nat × Nat)

/-- A client that has just been opened. -/
def Client.initial (isI2c : Bool) : Client :=
  ⟨isI2c, 0, fun _ => [], fun _ => none, [], [], [], []⟩

/-- `add_transaction_to_queue_locked`. The transaction is linked before the bus manager is
told about a high priority client, so a failure there leaves it in the queue. -/
def Client.addTransactionToQueue (client : Client) (transaction : Transaction) : Client :=
  if transaction.info.isHighPriorityTransaction then
    { client with processQueue := transaction :: client.processQueue }
  else
    { client with processQueue := client.processQueue ++ [transaction] }

/-- `list_add_tail` to the list of an event. -/
def Client.addToEventList (client : Client) (eventId : BitVec 64) (listed : Listed) : Client :=
  { client with
    eventLists := update client.eventLists eventId (client.eventLists eventId ++ [listed]) }

/-- `add_pending_transaction`. -/
def Client.addPendingTransaction (client : Client) (transaction : Transaction) : Client :=
  { client with
    pendingTransactions := update client.pendingTransactions transaction.id (some transaction) }

/-- `hash_del` of a pending transaction. -/
def Client.delPendingTransaction (client : Client) (id : Nat) : Client :=
  { client with pendingTransactions := update client.pendingTransactions id none }

/-! ## Conditions -/

/-- `lwis_triggered_by_condition`. -/
def TransactionInfo.triggeredByCondition (info : TransactionInfo) : Bool :=
  0 < info.triggerNodes.length

/-- Whether an occurrence signals a node, seen from a weak transaction with the given
precondition fence. -/
def TriggerNode.isNodeSignaled (fenceStatus : Nat → Int) (preconditionFence : Option Nat)
    (eventId : BitVec 64) (eventCounter : Int) : TriggerNode → Bool
  | .fence _ => false
  | .event id counter _ =>
    id == eventId && (counter == eventCounter || counter == onNextOccurrence &&
          match preconditionFence with
          | none => true
          | some required => fenceStatus required == fenceSuccessfullySignaled)

/-- `lwis_event_triggered_condition_ready`. The loop stops at the first node that the occurrence
signals, whichever node the weak transaction was made for. `none` means that no node is signaled
and the weak transaction stays; otherwise it is freed, with the counted transaction and whether
the condition is ready. -/
def Transaction.eventTriggeredConditionReady (fenceStatus : Nat → Int)
    (preconditionFence : Option Nat) (eventId : BitVec 64) (eventCounter : Int)
    (transaction : Transaction) : Option (Transaction × Bool) :=
  if transaction.info.triggerNodes.any
      (TriggerNode.isNodeSignaled fenceStatus preconditionFence eventId eventCounter) then
    let counted := { transaction with signaledCount := transaction.signaledCount + 1 }
    let ready := match transaction.info.operatorType with
      | .and => counted.signaledCount == transaction.info.triggerNodes.length
      | .or | .none => true
      | .invalid => false
    some (counted, ready)
  else none

/-- `lwis_fence_triggered_condition_ready`. -/
def Transaction.fenceTriggeredConditionReady (transaction : Transaction) (fenceStatus : Int) :
    Transaction × Bool :=
  let counted := { transaction with signaledCount := transaction.signaledCount + 1 }
  let operatorType := transaction.info.operatorType
  let ready : Bool :=
    if (operatorType = .and ∨ operatorType = .or) ∧
        counted.signaledCount = transaction.info.triggerNodes.length then true
    else if operatorType = .and ∧ fenceStatus ≠ fenceSuccessfullySignaled then true
    else if operatorType = .or ∧ fenceStatus = fenceSuccessfullySignaled then true
    else operatorType = .none
  (counted, ready)

/-! ## Submission -/

/-- What the device and the kernel answer: the counters of the event states, whether the output
events and fences are acceptable, the status of the fence behind a descriptor, and which
allocations succeed. -/
structure SubmitReplies where
  eventCounter : BitVec 64 → Option Int
  outputsValid : Bool
  responseAllocated : Bool
  fenceStatus : Nat → Option Int
  weakAllocated : Nat → Bool
  weakListed : Nat → Bool
  callbackAllocated : Nat → Bool
  completionFences : Option SubmitError
  highPriorityAdded : Bool
  eventListFound : Bool

/-- `check_transaction_param_locked`, without the id it takes: whether the transaction is to
be queued immediately. -/
def checkTransactionParam (replies : SubmitReplies) (info : TransactionInfo) :
    Except SubmitError Bool :=
  let current := (replies.eventCounter (plainEventId info.triggerEventId)).getD 0
  let timed := info.triggerEventId ≠ eventIdNone ∧ explicitEventCounter info.triggerEventCounter
  let immediate := info.triggerEventId == eventIdNone && !info.triggeredByCondition
  if timed ∧ info.triggerEventCounter = current ∧ !info.isLevelTriggered then .error .noEntry
  else if timed ∧ info.triggerEventCounter < current then .error .noEntry
  else if !replies.outputsValid then .error .invalid
  else .ok (immediate || decide (timed ∧ info.triggerEventCounter = current))

/-- `lwis_trigger_event_add_weak_transaction`. -/
def Client.addWeakTransaction (replies : SubmitReplies) (index : Nat) (client : Client)
    (id : Nat) (eventId : BitVec 64) (preconditionFence : Option Nat) : Except SubmitError Client :=
  if !replies.weakAllocated index then .error .noMemory
  else match preconditionFence.map replies.fenceStatus with
    | some none => .error .badFd
    | _ =>
      if !replies.weakListed index then .error .invalid
      else .ok (client.addToEventList eventId (.weak id preconditionFence))

/-- `trigger_event_add_transaction`. -/
def Client.triggerEventAdd (replies : SubmitReplies) (index : Nat) (client : Client)
    (transaction : Transaction) (eventId : BitVec 64) (counter : Int)
    (preconditionFence : Option Nat) : Except SubmitError (Client × Transaction) :=
  let reached := transaction.info.isLevelTriggered && explicitEventCounter counter &&
    replies.eventCounter (plainEventId eventId) == some counter
  let signaled := transaction.signaledCount + 1
  let counted : Transaction := { transaction with
    signaledCount := signaled
    queueImmediately := transaction.info.operatorType ≠ .and ||
      signaled == transaction.info.triggerNodes.length }
  let weak := (client.addWeakTransaction replies index transaction.id eventId
    preconditionFence).map (·, transaction)
  if reached then
    match preconditionFence with
    | none => .ok (client, counted)
    | some fence =>
      match replies.fenceStatus fence with
      | none => .error .badFd
      | some status => if status = fenceSuccessfullySignaled then .ok (client, counted) else weak
  else weak

/-- `trigger_fence_add_transaction`. -/
def Client.triggerFenceAdd (replies : SubmitReplies) (index : Nat) (client : Client)
    (transaction : Transaction) (fd : Nat) : Except SubmitError (Client × Transaction) :=
  if !replies.callbackAllocated index then .error .noMemory
  else match replies.fenceStatus fd with
    | none => .error .badFd
    | some status =>
      if status = 0 then
        .ok ({ client with fenceCallbacks := client.fenceCallbacks ++ [(fd, transaction.id)] },
          transaction)
      else if !transaction.info.isLevelTriggered then .error .invalid
      else
        let (counted, ready) := transaction.fenceTriggeredConditionReady status
        .ok (client, if ready then
          { counted with
            queueImmediately := true
            errorCode := if status = fenceSuccessfullySignaled then counted.errorCode else -125 }
          else counted)

/-- The body of the loop of `lwis_parse_trigger_condition`. -/
def Client.addTriggerNode (replies : SubmitReplies) (index : Nat) (client : Client)
    (transaction : Transaction) : TriggerNode → Except SubmitError (Client × Transaction)
  | .event id counter preconditionFence =>
    client.triggerEventAdd replies index transaction id counter preconditionFence
  | .fence fd => client.triggerFenceAdd replies index transaction fd

/-- The loop of `lwis_parse_trigger_condition`. What the nodes before a failing one have
added to the client stays. -/
def Client.parseTriggerNodes (replies : SubmitReplies) :
    List TriggerNode → Nat → Client → Transaction → Client × Except SubmitError Transaction
  | [], _, client, transaction => (client, .ok transaction)
  | node :: nodes, index, client, transaction =>
    match client.addTriggerNode replies index transaction node with
    | .error error => (client, .error error)
    | .ok (next, counted) => next.parseTriggerNodes replies nodes (index + 1) counted

/-- `prepare_transaction_fences_locked` with `lwis_parse_trigger_condition`. -/
def Client.prepareTransactionFences (replies : SubmitReplies) (client : Client)
    (transaction : Transaction) : Client × Except SubmitError Transaction :=
  if transaction.info.triggeredByCondition ∧
      transaction.info.triggerNodes.length > triggerNodesMaxNum then
    (client, .error .invalid)
  else
    match client.parseTriggerNodes replies transaction.info.triggerNodes 0 transaction with
    | (next, .error error) => (next, .error error)
    | (next, .ok counted) =>
      match replies.completionFences with
      | some error => (next, .error error)
      | none => (next, .ok counted)

/-- `queue_transaction_locked`. -/
def Client.queueTransaction (replies : SubmitReplies) (client : Client)
    (transaction : Transaction) : Client × Except SubmitError Unit :=
  if transaction.queueImmediately then
    (client.addTransactionToQueue transaction,
      if transaction.info.isHighPriorityTransaction && !replies.highPriorityAdded then
        .error .noMemory
      else .ok ())
  else if transaction.info.triggeredByCondition then
    (client.addPendingTransaction transaction, .ok ())
  else if !replies.eventListFound then (client, .error .invalid)
  else (client.addToEventList transaction.info.triggerEventId (.strong transaction), .ok ())

/-- A client that has given out the next id. -/
def Client.numbered (client : Client) : Client :=
  { client with transactionCounter := client.transactionCounter + 1 }

/-- `lwis_transaction_submit_locked`: the client afterwards, and the id of the transaction
when it is accepted. -/
def Client.submit (client : Client) (info : TransactionInfo) (replies : SubmitReplies) :
    Client × Except SubmitError Nat :=
  let id := client.transactionCounter
  match checkTransactionParam replies info with
  | .error error => (client.numbered, .error error)
  | .ok queueImmediately =>
    if !replies.responseAllocated then (client.numbered, .error .noMemory)
    else
      match client.numbered.prepareTransactionFences replies ⟨id, info, 0, 0, queueImmediately⟩ with
      | (prepared, .error error) => (prepared, .error error)
      | (prepared, .ok transaction) =>
        match prepared.queueTransaction replies transaction with
        | (queued, .error error) => (queued, .error error)
        | (queued, .ok ()) => (queued, .ok id)

/-! ## Events and fences -/

/-- One occurrence of an event, with the context it is delivered in, the status of the fences at
that time and, by transaction id, which allocations succeed. -/
structure Occurrence where
  eventId : BitVec 64
  eventCounter : Int
  inHardirq : Bool
  fenceStatus : Nat → Int
  highPriorityAdded : Nat → Bool
  instanceAllocated : Nat → Bool

/-- `defer_transaction_locked`: the transaction is executed in the context of the event or
queued. The result of queueing is not looked at. -/
def Client.deferTransaction (client : Client) (occurrence : Occurrence)
    (transaction : Transaction) : Client :=
  if occurrence.inHardirq && client.isI2c then client.addTransactionToQueue transaction
  else if transaction.info.runInEventContext then
    { client with executed := client.executed ++ [transaction] }
  else client.addTransactionToQueue transaction

/-- How the loop over an event's list goes on after an entry: with the entry kept or taken
out, or not at all, which keeps the entry, as it is then, and all behind it. -/
inductive Passed where
  | kept
  | removed
  | stopped (listed : Listed)
deriving DecidableEq

/-- Whether `add_transaction_to_queue_locked` reports success: the bus manager may have no
memory for a high priority client. -/
def Occurrence.reportsAdded (occurrence : Occurrence) (transaction : Transaction) : Bool :=
  !transaction.info.isHighPriorityTransaction || occurrence.highPriorityAdded transaction.id

/-- The body of the loop of `lwis_transaction_event_trigger` for a weak transaction. Taking
the transaction itself out of an event list has no effect, since it is in none; where only
that is done, the weak transaction stays. -/
def Client.triggerWeak (client : Client) (occurrence : Occurrence) (id : Nat)
    (preconditionFence : Option Nat) : Client × Passed :=
  match client.pendingTransactions id with
  | none => (client, .removed)
  | some transaction =>
    if transaction.errorCode ≠ 0 then
      let queued := client.addTransactionToQueue transaction
      if occurrence.reportsAdded transaction then (queued.delPendingTransaction id, .kept)
      else (queued, .stopped (.weak id preconditionFence))
    else
      match transaction.eventTriggeredConditionReady occurrence.fenceStatus preconditionFence
          (plainEventId occurrence.eventId) occurrence.eventCounter with
      | none => (client, .kept)
      | some (counted, true) =>
        ((client.delPendingTransaction id).deferTransaction occurrence counted, .removed)
      | some (counted, false) => (client.addPendingTransaction counted, .removed)

/-- The body of the loop of `lwis_transaction_event_trigger` for a transaction that waits for
this event. A repeating transaction stays and a new instance of it is deferred. -/
def Client.triggerStrong (client : Client) (occurrence : Occurrence)
    (transaction : Transaction) : Client × Passed :=
  let counter := transaction.info.triggerEventCounter
  if transaction.errorCode ≠ 0 then
    (client.addTransactionToQueue transaction,
      if occurrence.reportsAdded transaction then .removed else .stopped (.strong transaction))
  else if counter = onNextOccurrence ∨ counter = occurrence.eventCounter then
    (client.deferTransaction occurrence transaction, .removed)
  else if counter = everyTime then
    if occurrence.instanceAllocated transaction.id then
      (client.deferTransaction occurrence transaction, .kept)
    else
      let failed := { transaction with errorCode := -12 }
      (client.addTransactionToQueue failed,
        if occurrence.reportsAdded failed then .removed else .stopped (.strong failed))
  else (client, .kept)

/-- The body of the loop over the list of an event. -/
def Client.triggerListed (client : Client) (occurrence : Occurrence) : Listed → Client × Passed
  | .weak id preconditionFence => client.triggerWeak occurrence id preconditionFence
  | .strong transaction => client.triggerStrong occurrence transaction

/-- The loop over the list of an event: the client afterwards and what is left of the list. -/
def Client.triggerList (occurrence : Occurrence) : List Listed → Client → Client × List Listed
  | [], client => (client, [])
  | listed :: rest, client =>
    match client.triggerListed occurrence listed with
    | (next, .stopped left) => (next, left :: rest)
    | (next, .kept) =>
      let (last, left) := next.triggerList occurrence rest
      (last, listed :: left)
    | (next, .removed) => next.triggerList occurrence rest

/-- `lwis_transaction_event_trigger`. -/
def Client.eventTrigger (client : Client) (occurrence : Occurrence) : Client :=
  let eventId := plainEventId occurrence.eventId
  let (last, left) := client.triggerList occurrence (client.eventLists eventId)
  { last with eventLists := update last.eventLists eventId left }

/-- `lwis_transaction_fence_trigger`. -/
def Client.fenceTrigger (client : Client) (fenceStatus : Int) (id : Nat) : Client :=
  match client.pendingTransactions id with
  | none => client
  | some transaction =>
    match transaction.fenceTriggeredConditionReady fenceStatus with
    | (counted, true) =>
      let removed := client.delPendingTransaction id
      if fenceStatus = fenceSuccessfullySignaled then removed.addTransactionToQueue counted
      else { removed with cancelled := removed.cancelled ++ [counted] }
    | (counted, false) => client.addPendingTransaction counted

/-- A fence is signaled: each callback registered with it runs once. -/
def Client.fenceSignal (client : Client) (fd : Nat) (fenceStatus : Int) : Client :=
  ((client.fenceCallbacks.filter (·.1 == fd)).map Prod.snd).foldl
    (fun client id => client.fenceTrigger fenceStatus id)
    { client with fenceCallbacks := client.fenceCallbacks.filter (·.1 != fd) }

/-- What can happen to a client: a submission, an event or a fence. -/
inductive ClientStep where
  | submit (info : TransactionInfo) (replies : SubmitReplies)
  | event (occurrence : Occurrence)
  | fence (fd : Nat) (status : Int)

/-- One step of a client. -/
def Client.step (client : Client) : ClientStep → Client
  | .submit info replies => (client.submit info replies).1
  | .event occurrence => client.eventTrigger occurrence
  | .fence fd status => client.fenceSignal fd status

/-- A client after a sequence of steps. -/
def Client.run (client : Client) (steps : List ClientStep) : Client :=
  steps.foldl Client.step client

end GsKernel.Lwis
