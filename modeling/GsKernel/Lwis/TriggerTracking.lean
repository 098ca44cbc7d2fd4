import GsKernel.Lwis.TriggerConditions

/-!
# A transaction that waits for several events

The invariant that follows a transaction from its submission on, through any events, fences
and further submissions of its client. The transaction waits for the *ids* among its nodes:
an id is done once an occurrence of its event has satisfied some node.
-/

namespace GsKernel.Lwis

open Function Client Listed List

/-- A node of a condition that waits for an event without a precondition fence. -/
structure EventNode where
  id : BitVec 64
  counter : Int
deriving DecidableEq

/-- The node as it stands in the condition. -/
def EventNode.toTriggerNode (node : EventNode) : TriggerNode :=
  .event node.id node.counter none

/-- An occurrence satisfies a node: it is of the node's event and has the node's counter,
unless the node takes any occurrence. -/
def EventNode.satisfiedBy (node : EventNode) (occurrence : Occurrence) : Bool :=
  node.id == plainEventId occurrence.eventId &&
    (node.counter == occurrence.eventCounter || node.counter == onNextOccurrence)

/-- Some occurrence of the event has satisfied some node. -/
def eventDone (nodes : List EventNode) (seen : List Occurrence) (eventId : BitVec 64) : Bool :=
  seen.any fun occurrence => plainEventId occurrence.eventId == eventId &&
    nodes.any (·.satisfiedBy occurrence)

/-- The occurrences among the steps of a client. -/
def occurrencesOf (steps : List ClientStep) : List Occurrence :=
  steps.filterMap fun
    | .event occurrence => some occurrence
    | _ => none

lemma any_isNodeSignaled (nodes : List EventNode) (occurrence : Occurrence) :
    (nodes.map EventNode.toTriggerNode).any (TriggerNode.isNodeSignaled occurrence.fenceStatus
      none (plainEventId occurrence.eventId) occurrence.eventCounter) =
      nodes.any (·.satisfiedBy occurrence) := by
  simp [any_map, Function.comp_def, EventNode.toTriggerNode, TriggerNode.isNodeSignaled,
    EventNode.satisfiedBy]

@[simp] lemma eventDone_append (nodes : List EventNode) (seen : List Occurrence)
    (occurrence : Occurrence) (eventId : BitVec 64) :
    eventDone nodes (seen ++ [occurrence]) eventId = (eventDone nodes seen eventId ||
        (plainEventId occurrence.eventId == eventId && nodes.any (·.satisfiedBy occurrence))) := by
  simp [eventDone]

/-- How many nodes of a condition have an id that is done. -/
def doneCount (nodes : List EventNode) (seen : List Occurrence) : Nat :=
  nodes.countP fun node => eventDone nodes seen node.id

/-- Marking one more id counts the nodes with it, unless it was marked before. -/
lemma countP_mark (nodes : List EventNode) (marked : BitVec 64 → Bool) (eventId : BitVec 64) :
    nodes.countP (fun node => marked node.id || eventId == node.id) =
      nodes.countP (fun node => marked node.id) +
        if marked eventId then 0 else nodes.countP (·.id == eventId) := by
  induction nodes with
  | nil => simp
  | cons node nodes ih =>
    simp only [countP_cons, ih]
    by_cases same : node.id = eventId
    · subst same
      by_cases done : marked node.id = true <;> simp [done]
      omega
    · have other : (eventId == node.id) = false := beq_eq_false_iff_ne.mpr (Ne.symm same)
      have other' : (node.id == eventId) = false := beq_eq_false_iff_ne.mpr same
      simp only [other, other', Bool.or_false, Bool.false_eq_true, if_false, Nat.add_zero]
      omega

variable {nodes : List EventNode} {occurrence : Occurrence} {seen : List Occurrence}

/-- An occurrence that satisfies a node completes all nodes with its id. -/
lemma doneCount_append_of_signaled (signaled : nodes.any (·.satisfiedBy occurrence) = true) :
    doneCount nodes (seen ++ [occurrence]) = doneCount nodes seen +
      if eventDone nodes seen (plainEventId occurrence.eventId) then 0
      else nodes.countP (·.id == plainEventId occurrence.eventId) := by
  simp only [doneCount, eventDone_append, signaled, Bool.and_true]
  exact countP_mark nodes (eventDone nodes seen) _

/-- An occurrence that satisfies no node changes nothing. -/
lemma eventDone_append_of_not_signaled (quiet : nodes.any (·.satisfiedBy occurrence) = false) :
    eventDone nodes (seen ++ [occurrence]) = eventDone nodes seen := by
  funext eventId
  simp [quiet]

/-! ## Following a transaction -/

/-- A client with a transaction that waits for all of `nodes`, after some occurrences: the list of
each event that is not done holds a weak transaction for each node with its id, and the
transaction is pending with the count of the nodes done until these are all. -/
structure Client.Tracks (id : Nat) (info : TransactionInfo) (nodes : List EventNode)
    (seen : List Occurrence) (client : Client) : Prop where
  known : client.Known
  given : id < client.transactionCounter
  weakOnly : ∀ eventId, WeakOnly id (client.eventLists eventId)
  callbacks : ∀ callback ∈ client.fenceCallbacks, callback.2 ≠ id
  weakCount : ∀ eventId, (client.eventLists eventId).countP (isWeak id) =
    if eventDone nodes seen eventId then 0 else nodes.countP (·.id == eventId)
  holds : client.HoldsOf id (if doneCount nodes seen < nodes.length then
      some ⟨id, info, 0, doneCount nodes seen, false⟩ else none)
    (nodes.length ≤ doneCount nodes seen)

section Tracking

variable {id : Nat} {info : TransactionInfo} {nodes : List EventNode} {seen : List Occurrence}
  {client : Client}

section

variable (tracks : client.Tracks id info nodes seen)
include tracks

/-- Once all nodes are done no weak transaction is left. -/
lemma Client.Tracks.weakCount_of_done (all : ¬ doneCount nodes seen < nodes.length)
    (eventId : BitVec 64) : (client.eventLists eventId).countP (isWeak id) = 0 := by
  have full : doneCount nodes seen = nodes.length :=
    le_antisymm countP_le_length (Nat.not_lt.mp all)
  rw [tracks.weakCount]
  split
  · rfl
  · rename_i notDone
    refine countP_eq_zero.mpr fun node mem same => notDone ?_
    have done : eventDone nodes seen node.id = true := countP_eq_length.mp full node mem
    rwa [eq_of_beq same] at done

lemma Client.Tracks.handed_iff :
    client.Handed id ↔ ∀ node ∈ nodes, eventDone nodes seen node.id = true := by
  have all : doneCount nodes seen = nodes.length ↔
      ∀ node ∈ nodes, eventDone nodes seen node.id = true := countP_eq_length
  have least : doneCount nodes seen ≤ nodes.length := countP_le_length
  rw [← all, tracks.holds.2]
  omega

/-- A submission by someone else. -/
lemma Client.Tracks.submit (other : TransactionInfo) (replies : SubmitReplies) :
    (client.submit other replies).1.Tracks id info nodes seen := by
  have extended := submit_extends tracks.known.keyed other replies
  have ne : id ≠ client.transactionCounter := tracks.given.ne
  have lists : ∀ eventId, ∃ added, (client.submit other replies).1.eventLists eventId =
      client.eventLists eventId ++ added ∧ ∀ listed ∈ added, listed.id ≠ id := by
    intro eventId
    obtain ⟨added, isAdded, own⟩ := extended.eventLists eventId
    exact ⟨added, isAdded, fun listed mem => (own listed mem).trans_ne ne.symm⟩
  have holdsOf : ∀ pending handed, client.HoldsOf id pending handed →
      (client.submit other replies).1.HoldsOf id pending handed := fun pending handed holds =>
    ⟨(extended.pending id ne).trans holds.1, (extended.handed id ne).trans holds.2⟩
  refine ⟨tracks.known.submit other replies, ?_, fun eventId => ?_, ?_, fun eventId => ?_, ?_⟩
  · rw [extended.transactionCounter]
    exact Nat.lt_succ_of_lt tracks.given
  · obtain ⟨added, isAdded, others⟩ := lists eventId
    rw [isAdded]
    intro listed mem own
    rcases mem_append.mp mem with mem | mem
    · exact tracks.weakOnly eventId listed mem own
    · exact absurd own (others listed mem)
  · obtain ⟨added, isAdded, own⟩ := extended.fenceCallbacks
    rw [isAdded]
    intro callback mem
    rcases mem_append.mp mem with mem | mem
    · exact tracks.callbacks callback mem
    · exact (own callback mem).trans_ne ne.symm
  · obtain ⟨added, isAdded, others⟩ := lists eventId
    have none : added.countP (Listed.isWeak id) = 0 := by
      refine countP_eq_zero.mpr fun listed mem isWeak => others listed mem ?_
      cases listed <;> simp_all [Listed.isWeak, Listed.id]
    rw [isAdded, countP_append, none, Nat.add_zero, tracks.weakCount]
  · exact holdsOf _ _ tracks.holds

/-- A fence is signaled. -/
lemma Client.Tracks.fenceSignal (fd : Nat)
    (fenceStatus : Int) : (client.fenceSignal fd fenceStatus).Tracks id info nodes seen := by
  have others : ∀ other ∈ (client.fenceCallbacks.filter (·.1 == fd)).map Prod.snd, other ≠ id := by
    intro other mem
    obtain ⟨callback, isDue, rfl⟩ := mem_map.mp mem
    exact tracks.callbacks callback (mem_filter.mp isDue).1
  have below : ∀ other ∈ (client.fenceCallbacks.filter (·.1 == fd)).map Prod.snd,
      other < client.transactionCounter := by
    intro other mem
    obtain ⟨callback, isDue, rfl⟩ := mem_map.mp mem
    exact tracks.known.callbacks callback (mem_filter.mp isDue).1
  obtain ⟨-, lists, callbacks, counter⟩ := @fenceTriggers_frame
    { client with fenceCallbacks := client.fenceCallbacks.filter (·.1 != fd) }
    client.transactionCounter fenceStatus _
    ⟨tracks.known.keyed, tracks.known.pending, tracks.known.handed⟩ below
  have holdsOf : ∀ pending handed, client.HoldsOf id pending handed →
      (client.fenceSignal fd fenceStatus).HoldsOf id pending handed := fun pending handed holds =>
    @fenceTriggers_holdsOf
      { client with fenceCallbacks := client.fenceCallbacks.filter (·.1 != fd) } id fenceStatus _
      tracks.known.keyed others pending handed holds
  refine ⟨tracks.known.fenceSignal fd fenceStatus, ?_, fun eventId => ?_, ?_, fun eventId => ?_, ?_⟩
  · unfold Client.fenceSignal
    rw [counter]
    exact tracks.given
  · unfold Client.fenceSignal
    rw [lists]
    exact tracks.weakOnly eventId
  · unfold Client.fenceSignal
    rw [callbacks]
    exact fun callback mem => tracks.callbacks callback (mem_filter.mp mem).1
  · unfold Client.fenceSignal
    rw [lists]
    exact tracks.weakCount eventId
  · exact holdsOf _ _ tracks.holds

variable {occurrence : Occurrence}

section

variable (isNodes : info.triggerNodes = nodes.map EventNode.toTriggerNode) (isAnd :
  info.operatorType = .and) (added : occurrence.Added)
include isNodes isAnd added

/-- The loop over the list of an occurrence's event. -/
lemma Client.Tracks.triggerList :
    (client.triggerList occurrence
        (client.eventLists (plainEventId occurrence.eventId))).1.HoldsOf id
          (if doneCount nodes (seen ++ [occurrence]) < nodes.length then
            some ⟨id, info, 0, doneCount nodes (seen ++ [occurrence]), false⟩ else none)
          (nodes.length ≤ doneCount nodes (seen ++ [occurrence])) ∧
      (client.triggerList occurrence
        (client.eventLists (plainEventId occurrence.eventId))).2.countP (isWeak id) =
          if eventDone nodes (seen ++ [occurrence]) (plainEventId occurrence.eventId) then 0
          else nodes.countP (·.id == plainEventId occurrence.eventId) := by
  have keyed := tracks.known.keyed
  have weakOnly := tracks.weakOnly (plainEventId occurrence.eventId)
  have weakCount := tracks.weakCount (plainEventId occurrence.eventId)
  have holds := tracks.holds
  have signals : info.triggerNodes.any (TriggerNode.isNodeSignaled occurrence.fenceStatus none
      (plainEventId occurrence.eventId) occurrence.eventCounter) =
      nodes.any (·.satisfiedBy occurrence) := by
    rw [isNodes, any_isNodeSignaled]
  have length : info.triggerNodes.length = nodes.length := by rw [isNodes, length_map]
  cases signaled : nodes.any (·.satisfiedBy occurrence) with
  | false =>
    have same : eventDone nodes (seen ++ [occurrence]) = eventDone nodes seen :=
      eventDone_append_of_not_signaled signaled
    have sameCount : doneCount nodes (seen ++ [occurrence]) = doneCount nodes seen := by
      simp only [doneCount, same]
    rw [sameCount, same, ← weakCount]
    by_cases short : doneCount nodes seen < nodes.length
    · rw [if_pos short] at holds ⊢
      refine triggerList_of_not_signaled added keyed _ weakOnly rfl ?_ holds
      simp [Transaction.eventTriggeredConditionReady, signals, signaled]
    · have empty := tracks.weakCount_of_done short (plainEventId occurrence.eventId)
      rw [if_neg short] at holds ⊢
      rw [empty]
      exact triggerList_of_not_pending added keyed _ weakOnly holds
  | true =>
    have done : eventDone nodes (seen ++ [occurrence]) (plainEventId occurrence.eventId) = true := by
      simp [signaled]
    rw [if_pos done, doneCount_append_of_signaled signaled, ← weakCount]
    by_cases short : doneCount nodes seen < nodes.length
    · rw [if_pos short] at holds
      have follows := triggerList_of_signaled added keyed _ weakOnly rfl rfl isAnd
        (signals.trans signaled) (by simpa only [length] using short)
        ⟨holds.1, holds.2.trans (iff_of_false (Nat.not_le.mpr short) not_false)⟩
      simpa only [length] using follows
    · have empty := tracks.weakCount_of_done short (plainEventId occurrence.eventId)
      rw [empty, Nat.add_zero]
      rw [if_neg short] at holds ⊢
      exact triggerList_of_not_pending added keyed _ weakOnly holds

/-- An occurrence is delivered. -/
lemma Client.Tracks.eventTrigger :
    (client.eventTrigger occurrence).Tracks id info nodes (seen ++ [occurrence]) := by
  obtain ⟨-, lists, callbacks, counter, -⟩ := triggerList_frame occurrence
    (client.eventLists (plainEventId occurrence.eventId)) tracks.known.toHoldsBelow
    (tracks.known.listed _)
  have left : ∀ listed ∈ (client.triggerList occurrence
      (client.eventLists (plainEventId occurrence.eventId))).2,
      listed ∈ client.eventLists (plainEventId occurrence.eventId) := triggerList_left added _
  have loop := tracks.triggerList isNodes isAnd added
  have otherDone : ∀ eventId, eventId ≠ plainEventId occurrence.eventId →
      eventDone nodes (seen ++ [occurrence]) eventId = eventDone nodes seen eventId := by
    intro eventId ne
    have other : (plainEventId occurrence.eventId == eventId) = false :=
      beq_eq_false_iff_ne.mpr ne.symm
    simp [other]
  refine ⟨tracks.known.eventTrigger occurrence, ?_, fun eventId => ?_, ?_, fun eventId => ?_, ?_⟩
  · simp only [Client.eventTrigger]
    rw [counter]
    exact tracks.given
  · simp only [Client.eventTrigger, lists]
    by_cases same : eventId = plainEventId occurrence.eventId
    · subst same
      rw [update_self]
      exact fun listed mem => tracks.weakOnly _ listed (left listed mem)
    · rw [update_of_ne same]
      exact tracks.weakOnly eventId
  · simp only [Client.eventTrigger, callbacks]
    exact tracks.callbacks
  · simp only [Client.eventTrigger, lists]
    by_cases same : eventId = plainEventId occurrence.eventId
    · subst same
      rw [update_self]
      exact loop.2
    · rw [update_of_ne same, otherDone eventId same]
      exact tracks.weakCount eventId
  · exact loop.1

end

end

end Tracking

/-! ## Submission -/

/-- A client with a weak transaction for each node. -/
def Client.withWeak (client : Client) (id : Nat) (nodes : List EventNode) : Client :=
  { client with
    eventLists := fun eventId => client.eventLists eventId ++
      replicate (nodes.countP (·.id == eventId)) (.weak id none) }

/-- A condition over events that is not level triggered leaves one weak transaction for each
node and does not touch the transaction. -/
lemma parseTriggerNodes_events (replies : SubmitReplies) (nodes : List EventNode)
    (index : Nat) (client next : Client) (transaction counted : Transaction)
    (edge : transaction.info.isLevelTriggered = false)
    (parsed : client.parseTriggerNodes replies (nodes.map EventNode.toTriggerNode) index
      transaction = (next, .ok counted)) :
    next = client.withWeak transaction.id nodes ∧ counted = transaction := by
  induction nodes generalizing index client with
  | nil =>
    obtain ⟨rfl, rfl⟩ := parsed
    simp [withWeak]
  | cons node nodes ih =>
    simp only [map_cons, parseTriggerNodes, EventNode.toTriggerNode,
      addTriggerNode, triggerEventAdd, edge, Bool.false_and, Bool.false_eq_true,
      if_false, addWeakTransaction] at parsed
    by_cases added : replies.weakAllocated index = true ∧ replies.weakListed index = true
    · simp only [added, Bool.not_true, Bool.false_eq_true, if_false, Option.map_none,
        Except.map] at parsed
      obtain ⟨rfl, rfl⟩ := ih _ _ parsed
      refine ⟨?_, rfl⟩
      simp only [withWeak, addToEventList, mk.injEq, true_and, and_true]
      funext eventId
      by_cases same : eventId = node.id
      · subst same
        simp [replicate_succ]
      · simp [same, Ne.symm same]
    · rw [not_and, Bool.not_eq_true] at added
      cases allocated : replies.weakAllocated index with
      | false => simp [allocated, Except.map] at parsed
      | true => simp [allocated, added allocated, Except.map] at parsed

variable {replies : SubmitReplies} {info : TransactionInfo}

/-- A submission that is not level triggered is queued immediately only when it has nothing
to wait for. -/
lemma checkTransactionParam_edge {queueImmediately : Bool} (edge : info.isLevelTriggered = false)
    (checked : checkTransactionParam replies info = .ok queueImmediately) :
    queueImmediately = (info.triggerEventId == eventIdNone && !info.triggeredByCondition) := by
  simp only [checkTransactionParam, edge, Bool.not_false, and_true] at checked
  split at checked
  · contradiction
  rename_i notReached
  split at checked
  · contradiction
  split at checked
  · contradiction
  rw [← Except.ok.inj checked, decide_eq_false notReached, Bool.or_false]

lemma prepareTransactionFences_events {client next : Client} {transaction counted : Transaction}
    (isNodes : transaction.info.triggerNodes = nodes.map EventNode.toTriggerNode)
    (edge : transaction.info.isLevelTriggered = false)
    (prepared : client.prepareTransactionFences replies transaction = (next, .ok counted)) :
    next = client.withWeak transaction.id nodes ∧ counted = transaction := by
  unfold prepareTransactionFences at prepared
  split at prepared
  · simp at prepared
  rw [isNodes] at prepared
  cases parsed : client.parseTriggerNodes replies (nodes.map EventNode.toTriggerNode) 0
      transaction with
  | mk last outcome =>
    cases outcome with
    | error error => simp [parsed] at prepared
    | ok final =>
      obtain ⟨rfl, rfl⟩ := parseTriggerNodes_events replies nodes 0 client last transaction final
        edge parsed
      simp only [parsed] at prepared
      split at prepared
      · simp at prepared
      · simp only [Prod.mk.injEq, Except.ok.injEq] at prepared
        exact ⟨prepared.1.symm, prepared.2.symm⟩

variable {client : Client}

/-- What an accepted submission of a condition over events leaves behind. -/
lemma submit_events {id : Nat} (isNodes : info.triggerNodes = nodes.map EventNode.toTriggerNode)
    (edge : info.isLevelTriggered = false)
    (immediate : nodes = [] → info.triggerEventId = eventIdNone)
    (accepted : (client.submit info replies).2 = .ok id) :
    id = client.transactionCounter ∧ (client.submit info replies).1 = if nodes = [] then
          (client.numbered.withWeak id nodes).addTransactionToQueue ⟨id, info, 0, 0, true⟩
        else (client.numbered.withWeak id nodes).addPendingTransaction ⟨id, info, 0, 0, false⟩ := by
  have byCondition : info.triggeredByCondition = !nodes.isEmpty := by
    cases nodes <;> simp [TransactionInfo.triggeredByCondition, isNodes]
  unfold submit at accepted ⊢
  cases checked : checkTransactionParam replies info with
  | error error => simp [checked] at accepted
  | ok queueImmediately =>
    have isImmediate := checkTransactionParam_edge edge checked
    simp only [checked] at accepted ⊢
    split at accepted
    · simp at accepted
    rename_i allocated
    rw [if_neg allocated]
    cases prepared : client.numbered.prepareTransactionFences replies
        ⟨client.transactionCounter, info, 0, 0, queueImmediately⟩ with
    | mk next outcome =>
      cases outcome with
      | error error => simp [prepared] at accepted
      | ok counted =>
        obtain ⟨rfl, rfl⟩ := prepareTransactionFences_events isNodes edge prepared
        simp only [prepared] at accepted ⊢
        by_cases empty : nodes = []
        · have now : queueImmediately = true := by
            simp [isImmediate, byCondition, empty, immediate empty]
          subst now
          simp only [queueTransaction, if_true, if_pos empty] at accepted ⊢
          split at accepted
          · simp at accepted
          · rename_i queued
            simp only [Prod.mk.injEq] at queued
            obtain rfl := Except.ok.inj accepted
            exact ⟨rfl, queued.1.symm⟩
        · have later : queueImmediately = false := by
            simp [isImmediate, byCondition, empty]
          have waits : info.triggeredByCondition = true := by simp [byCondition, empty]
          subst later
          simp only [queueTransaction, Bool.false_eq_true, if_false, waits, if_true,
            if_neg empty] at accepted ⊢
          obtain rfl := Except.ok.inj accepted
          exact ⟨rfl, rfl⟩

/-- An accepted condition over events is tracked from its submission on. -/
lemma Client.Tracks.submitted (known : client.Known) {id : Nat}
    (isNodes : info.triggerNodes = nodes.map EventNode.toTriggerNode)
    (edge : info.isLevelTriggered = false)
    (immediate : nodes = [] → info.triggerEventId = eventIdNone)
    (accepted : (client.submit info replies).2 = .ok id) :
    (client.submit info replies).1.Tracks id info nodes [] := by
  have nextKnown := known.submit info replies
  obtain ⟨rfl, isNext⟩ := submit_events isNodes edge immediate accepted
  have counter := (submit_extends known.keyed info replies).transactionCounter
  have fresh : ¬ client.Handed client.transactionCounter := fun handed =>
    absurd (known.handed _ handed) (lt_irrefl _)
  have absent : client.pendingTransactions client.transactionCounter = none := by
    by_contra found
    exact absurd (known.pending _ (Option.isSome_iff_ne_none.mpr found)) (lt_irrefl _)
  have nothing : doneCount nodes [] = 0 := by simp [doneCount, eventDone]
  have lists : ∀ eventId, (client.submit info replies).1.eventLists eventId =
      client.eventLists eventId ++ replicate (nodes.countP (·.id == eventId))
        (.weak client.transactionCounter none) := by
    intro eventId
    rw [isNext]
    split
    · rw [(addTransactionToQueue_touches _ (show (client.numbered.withWeak _ _).Keyed from
        known.keyed)).eventLists]
      rfl
    · rfl
  have others : ∀ eventId, ∀ listed ∈ client.eventLists eventId,
      listed.id ≠ client.transactionCounter :=
    fun eventId listed mem => (known.listed eventId listed mem).ne
  refine ⟨nextKnown, ?_, fun eventId => ?_, ?_, fun eventId => ?_, ?_⟩
  · rw [counter]
    exact Nat.lt_succ_self _
  · rw [lists]
    intro listed mem own
    rcases mem_append.mp mem with mem | mem
    · exact absurd own (others eventId listed mem)
    · exact eq_of_mem_replicate mem
  · have callbacks : (client.submit info replies).1.fenceCallbacks = client.fenceCallbacks := by
      rw [isNext]
      split
      · rw [(addTransactionToQueue_touches _ (show (client.numbered.withWeak _ _).Keyed from
          known.keyed)).fenceCallbacks]
        rfl
      · rfl
    rw [callbacks]
    exact fun callback mem => (known.callbacks callback mem).ne
  · have before : (client.eventLists eventId).countP
        (Listed.isWeak client.transactionCounter) = 0 := by
      refine countP_eq_zero.mpr fun listed mem isWeak => others eventId listed mem ?_
      cases listed <;> simp_all [Listed.isWeak, Listed.id]
    rw [lists, countP_append, before, countP_replicate]
    simp [isWeak, eventDone]
  · rw [isNext, nothing]
    by_cases empty : nodes = []
    · subst empty
      refine ⟨?_, ?_⟩
      · simpa [withWeak, numbered] using absent
      · simp
    · rw [if_neg empty, if_pos (length_pos_iff.mpr empty)]
      refine ⟨by simp [addPendingTransaction], ?_⟩
      exact iff_of_false fresh (by simpa using empty)

end GsKernel.Lwis
