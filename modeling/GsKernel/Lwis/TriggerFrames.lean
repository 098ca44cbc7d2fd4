import GsKernel.Lwis.Trigger

/-!
# What the steps of a client leave alone

A transaction is known by its id. This module says which ids the structures of a client can
hold, how a submission extends them, and that the entries of other transactions leave what a
client holds of one transaction unchanged.
-/

namespace GsKernel.Lwis

open Client Transaction

/-- The transaction has been handed on: it is in the queue, or was executed in the context
of an event. -/
def Client.Handed (client : Client) (id : Nat) : Prop :=
  ∃ transaction ∈ client.processQueue ++ client.executed, transaction.id = id

instance Client.decidableHanded (client : Client) (id : Nat) : Decidable (client.Handed id) :=
  inferInstanceAs (Decidable (∃ transaction ∈ client.processQueue ++ client.executed, _))

/-- The transaction an entry of an event's list belongs to. -/
def Listed.id : Listed → Nat
  | .weak id _ => id
  | .strong transaction => transaction.id

/-- The weak transactions of a transaction. -/
def Listed.isWeak (id : Nat) : Listed → Bool
  | .weak owner _ => owner == id
  | .strong _ => false

/-! ## What a step concerns -/

/-- Pending transactions are found under their own id. -/
def Client.Keyed (client : Client) : Prop :=
  ∀ id transaction, client.pendingTransactions id = some transaction → transaction.id = id

/-- Of the pending transactions and of those handed on, only the one with this id changed. -/
structure Client.Concerns (id : Nat) (client next : Client) : Prop where
  pending : ∀ other, other ≠ id → next.pendingTransactions other = client.pendingTransactions other
  pendingId : ∀ transaction, next.pendingTransactions id = some transaction → transaction.id = id
  handed : ∀ other, other ≠ id → (next.Handed other ↔ client.Handed other)

/-- As `Client.Concerns`, with the event lists, the callbacks and the counter as before. -/
structure Client.Touches (id : Nat) (client next : Client) : Prop
    extends Client.Concerns id client next where
  eventLists : next.eventLists = client.eventLists
  fenceCallbacks : next.fenceCallbacks = client.fenceCallbacks
  transactionCounter : next.transactionCounter = client.transactionCounter

section Relations

variable {id : Nat} {client next last : Client}

lemma Client.Concerns.refl (keyed : client.Keyed) : client.Concerns id client :=
  ⟨fun _ _ => rfl, keyed id, fun _ _ => Iff.rfl⟩

lemma Client.Concerns.trans (first : client.Concerns id next)
    (second : next.Concerns id last) : client.Concerns id last :=
  ⟨fun other ne => (second.pending other ne).trans (first.pending other ne),
    second.pendingId, fun other ne => (second.handed other ne).trans (first.handed other ne)⟩

lemma Client.Concerns.keyed (concerns : client.Concerns id next) (keyed : client.Keyed) :
    next.Keyed := by
  intro other transaction found
  by_cases same : other = id
  · subst same
    exact concerns.pendingId transaction found
  · exact keyed other transaction (concerns.pending other same ▸ found)

lemma Client.Touches.refl (keyed : client.Keyed) : client.Touches id client :=
  ⟨.refl keyed, rfl, rfl, rfl⟩

lemma Client.Touches.trans (first : client.Touches id next) (second : next.Touches id last) :
    client.Touches id last :=
  ⟨first.toConcerns.trans second.toConcerns, second.eventLists.trans first.eventLists,
    second.fenceCallbacks.trans first.fenceCallbacks,
    second.transactionCounter.trans first.transactionCounter⟩

end Relations

/-! ## Queueing and pending -/

section Primitives

variable {client : Client} (transaction : Transaction) (occurrence : Occurrence)

@[simp] lemma addTransactionToQueue_handed (id : Nat) :
    (client.addTransactionToQueue transaction).Handed id ↔
      client.Handed id ∨ transaction.id = id := by
  unfold addTransactionToQueue Handed
  split <;> grind

@[simp] lemma addTransactionToQueue_pendingTransactions :
    (client.addTransactionToQueue transaction).pendingTransactions =
      client.pendingTransactions := by
  unfold addTransactionToQueue
  split <;> rfl

@[simp] lemma deferTransaction_handed (id : Nat) :
    (client.deferTransaction occurrence transaction).Handed id ↔
      client.Handed id ∨ transaction.id = id := by
  unfold deferTransaction
  split
  · exact addTransactionToQueue_handed transaction id
  · split
    · simp [Handed, or_assoc, exists_or, or_and_right]
    · exact addTransactionToQueue_handed transaction id

@[simp] lemma deferTransaction_pendingTransactions :
    (client.deferTransaction occurrence transaction).pendingTransactions =
      client.pendingTransactions := by
  unfold deferTransaction
  split <;> [skip; split] <;> simp

lemma addTransactionToQueue_touches (keyed : client.Keyed) :
    client.Touches transaction.id (client.addTransactionToQueue transaction) := by
  refine ⟨⟨fun _ _ => by simp, fun found => by simpa using keyed _ found,
    fun other ne => by simp [ne.symm]⟩, ?_, ?_, ?_⟩ <;>
  · unfold addTransactionToQueue
    split <;> rfl

lemma deferTransaction_touches (keyed : client.Keyed) :
    client.Touches transaction.id (client.deferTransaction occurrence transaction) := by
  have queued := addTransactionToQueue_touches transaction keyed
  refine ⟨⟨fun _ _ => by simp, fun found => by simpa using keyed _ found,
    fun other ne => by simp [ne.symm]⟩, ?_, ?_, ?_⟩ <;>
  · unfold deferTransaction
    split <;> [skip; split]
    all_goals first
      | rfl
      | exact queued.eventLists
      | exact queued.fenceCallbacks
      | exact queued.transactionCounter

lemma addPendingTransaction_touches :
    client.Touches transaction.id (client.addPendingTransaction transaction) := by
  refine ⟨⟨fun other ne => ?_, fun found isFound => ?_, fun _ _ => Iff.rfl⟩, rfl, rfl, rfl⟩
  · simp [addPendingTransaction, ne]
  · simp only [addPendingTransaction, Function.update_self, Option.some.injEq] at isFound
    rw [isFound]

lemma delPendingTransaction_touches (id : Nat) :
    client.Touches id (client.delPendingTransaction id) := by
  refine ⟨⟨fun other ne => ?_, fun found => ?_, fun _ _ => Iff.rfl⟩, rfl, rfl, rfl⟩
  · simp [delPendingTransaction, ne]
  · simp [delPendingTransaction]

end Primitives

/-! ## The entries of an event's list -/

variable {client : Client}

/-- A weak transaction concerns the transaction it was made for. -/
lemma triggerWeak_touches (keyed : client.Keyed) (occurrence : Occurrence)
    (id : Nat) (preconditionFence : Option Nat) :
    client.Touches id (client.triggerWeak occurrence id preconditionFence).1 := by
  unfold triggerWeak
  cases found : client.pendingTransactions id with
  | none => exact .refl keyed
  | some transaction =>
    obtain rfl := keyed id transaction found
    have queued := addTransactionToQueue_touches transaction keyed
    have removed : client.Touches transaction.id (client.delPendingTransaction transaction.id) :=
      delPendingTransaction_touches transaction.id
    by_cases failed : transaction.errorCode ≠ 0
    · simp only [if_pos failed]
      split_ifs
      · exact queued.trans (delPendingTransaction_touches _)
      · exact queued
    simp only [if_neg failed]
    cases ready : transaction.eventTriggeredConditionReady occurrence.fenceStatus
        preconditionFence (plainEventId occurrence.eventId) occurrence.eventCounter with
    | none => exact .refl keyed
    | some answer =>
      obtain ⟨counted, isReady⟩ := answer
      have sameId : counted.id = transaction.id := by
        simp only [eventTriggeredConditionReady] at ready
        grind
      rw [← sameId] at removed ⊢
      cases isReady with
      | true =>
        exact removed.trans (deferTransaction_touches counted occurrence (removed.keyed keyed))
      | false => exact addPendingTransaction_touches counted

/-- An entry of an event's list concerns the transaction it belongs to. -/
lemma triggerListed_touches (keyed : client.Keyed) (occurrence : Occurrence) (listed : Listed) :
    client.Touches listed.id (client.triggerListed occurrence listed).1 := by
  cases listed with
  | weak id preconditionFence => exact triggerWeak_touches keyed occurrence id preconditionFence
  | strong transaction =>
    simp only [triggerListed, triggerStrong, Listed.id]
    split_ifs
    · exact addTransactionToQueue_touches transaction keyed
    · exact addTransactionToQueue_touches transaction keyed
    · exact deferTransaction_touches transaction occurrence keyed
    · exact deferTransaction_touches transaction occurrence keyed
    · exact addTransactionToQueue_touches { transaction with errorCode := -12 } keyed
    · exact addTransactionToQueue_touches { transaction with errorCode := -12 } keyed
    · exact .refl keyed

/-- An entry that ends the loop still belongs to the same transaction. -/
lemma triggerListed_stopped {client next : Client} {occurrence : Occurrence} {listed left : Listed}
    (stopped : client.triggerListed occurrence listed = (next, .stopped left)) :
    left.id = listed.id ∧ ∀ id, left.isWeak id = listed.isWeak id := by
  cases listed with
  | weak id preconditionFence =>
    simp only [triggerListed, triggerWeak] at stopped
    grind
  | strong transaction =>
    simp only [triggerListed, triggerStrong] at stopped
    grind [Listed.id, Listed.isWeak]

/-- A fence concerns the transaction its callback names. -/
lemma fenceTrigger_touches (keyed : client.Keyed) (fenceStatus : Int)
    (id : Nat) : client.Touches id (client.fenceTrigger fenceStatus id) := by
  unfold fenceTrigger
  cases found : client.pendingTransactions id with
  | none => exact .refl keyed
  | some transaction =>
    obtain rfl := keyed id transaction found
    have removed : client.Touches transaction.id (client.delPendingTransaction transaction.id) :=
      delPendingTransaction_touches transaction.id
    simp only [fenceTriggeredConditionReady]
    split
    · rename_i counted ready
      obtain ⟨rfl, -⟩ := Prod.mk.inj ready
      split_ifs
      · exact removed.trans (addTransactionToQueue_touches
          { transaction with signaledCount := transaction.signaledCount + 1 }
          (removed.keyed keyed))
      · exact ⟨⟨removed.pending, removed.pendingId, removed.handed⟩, rfl, rfl, rfl⟩
    · rename_i counted ready
      obtain ⟨rfl, -⟩ := Prod.mk.inj ready
      exact addPendingTransaction_touches
        { transaction with signaledCount := transaction.signaledCount + 1 }

/-! ## Submission -/

/-- What a submission under this id does to a client: it adds entries of its own to the event
lists and to the callbacks. -/
structure Client.Extends (id : Nat) (client next : Client) : Prop
    extends Client.Concerns id client next where
  eventLists : ∀ eventId, ∃ added, next.eventLists eventId = client.eventLists eventId ++ added ∧
    ∀ listed ∈ added, listed.id = id
  fenceCallbacks : ∃ added, next.fenceCallbacks = client.fenceCallbacks ++ added ∧
    ∀ callback ∈ added, callback.2 = id
  transactionCounter : next.transactionCounter = client.transactionCounter

section Submission

variable {id : Nat} {client next last : Client}

lemma Client.Touches.extends (touches : client.Touches id next) : client.Extends id next :=
  ⟨touches.toConcerns, fun _ => ⟨[], by simp [touches.eventLists]⟩,
    ⟨[], by simp [touches.fenceCallbacks]⟩, touches.transactionCounter⟩

lemma Client.Extends.trans (first : client.Extends id next) (second : next.Extends id last) :
    client.Extends id last := by
  refine ⟨first.toConcerns.trans second.toConcerns, fun eventId => ?_, ?_,
    second.transactionCounter.trans first.transactionCounter⟩
  · obtain ⟨before, isBefore, ownBefore⟩ := first.eventLists eventId
    obtain ⟨after, isAfter, ownAfter⟩ := second.eventLists eventId
    refine ⟨before ++ after, by rw [isAfter, isBefore, List.append_assoc], fun listed mem => ?_⟩
    exact (List.mem_append.mp mem).elim (ownBefore listed) (ownAfter listed)
  · obtain ⟨before, isBefore, ownBefore⟩ := first.fenceCallbacks
    obtain ⟨after, isAfter, ownAfter⟩ := second.fenceCallbacks
    refine ⟨before ++ after, by rw [isAfter, isBefore, List.append_assoc], fun callback mem => ?_⟩
    exact (List.mem_append.mp mem).elim (ownBefore callback) (ownAfter callback)

section

variable (keyed : client.Keyed)
include keyed

lemma addToEventList_extends (eventId : BitVec 64) (listed : Listed) :
    client.Extends listed.id (client.addToEventList eventId listed) := by
  refine ⟨⟨fun _ _ => rfl, keyed _, fun _ _ => Iff.rfl⟩, fun other => ?_, ⟨[], by
    simp [addToEventList]⟩, rfl⟩
  by_cases same : other = eventId
  · subst same
    exact ⟨[listed], by simp [addToEventList]⟩
  · exact ⟨[], by simp [addToEventList, same]⟩

variable {replies : SubmitReplies} {index : Nat} {preconditionFence : Option Nat}

variable {eventId : BitVec 64}

lemma addWeakTransaction_extends
    (added : client.addWeakTransaction replies index id eventId preconditionFence = .ok next) :
    client.Extends id next := by
  unfold addWeakTransaction at added
  split at added
  · contradiction
  split at added
  · contradiction
  split at added
  · contradiction
  · exact Except.ok.inj added ▸ addToEventList_extends keyed eventId (.weak id preconditionFence)

variable {transaction counted : Transaction}

/-- Adding a node keeps what the user asked for. -/
lemma triggerEventAdd_extends {counter : Int}
    (added : client.triggerEventAdd replies index transaction eventId counter
      preconditionFence = .ok (next, counted)) :
    client.Extends transaction.id next ∧ counted.id = transaction.id ∧
      counted.info = transaction.info := by
  have same : client.Extends transaction.id client := (Touches.refl keyed).extends
  have weak : (client.addWeakTransaction replies index transaction.id eventId
      preconditionFence).map (·, transaction) = .ok (next, counted) →
      client.Extends transaction.id next ∧ counted.id = transaction.id ∧
        counted.info = transaction.info := by
    intro isAdded
    cases isWeak : client.addWeakTransaction replies index transaction.id eventId
        preconditionFence with
    | error error => simp [isWeak, Except.map] at isAdded
    | ok added =>
      simp only [isWeak, Except.map, Except.ok.injEq, Prod.mk.injEq] at isAdded
      obtain ⟨rfl, rfl⟩ := isAdded
      exact ⟨addWeakTransaction_extends keyed isWeak, rfl, rfl⟩
  unfold triggerEventAdd at added
  grind

lemma triggerFenceAdd_extends {fd : Nat}
    (added : client.triggerFenceAdd replies index transaction fd = .ok (next, counted)) :
    client.Extends transaction.id next ∧ counted.id = transaction.id ∧
      counted.info = transaction.info := by
  have same : client.Extends transaction.id client := (Touches.refl keyed).extends
  have registered : client.Extends transaction.id
      { client with fenceCallbacks := client.fenceCallbacks ++ [(fd, transaction.id)] } :=
    ⟨⟨same.pending, same.pendingId, same.handed⟩, same.eventLists,
      ⟨[(fd, transaction.id)], by simp⟩, rfl⟩
  unfold triggerFenceAdd at added
  split at added
  · contradiction
  split at added
  · contradiction
  split at added
  · simp only [Except.ok.injEq, Prod.mk.injEq] at added
    obtain ⟨rfl, rfl⟩ := added
    exact ⟨registered, rfl, rfl⟩
  split at added
  · contradiction
  · simp only [fenceTriggeredConditionReady, Except.ok.injEq, Prod.mk.injEq] at added
    obtain ⟨rfl, rfl⟩ := added
    exact ⟨same, by split_ifs <;> rfl, by split_ifs <;> rfl⟩

lemma addTriggerNode_extends {node : TriggerNode}
    (added : client.addTriggerNode replies index transaction node = .ok (next, counted)) :
    client.Extends transaction.id next ∧ counted.id = transaction.id ∧
      counted.info = transaction.info := by
  cases node with
  | event eventId counter preconditionFence => exact triggerEventAdd_extends keyed added
  | fence fd => exact triggerFenceAdd_extends keyed added

end

lemma parseTriggerNodes_extends (replies : SubmitReplies) (nodes : List TriggerNode)
    (index : Nat) (keyed : client.Keyed) (transaction : Transaction) :
    client.Extends transaction.id (client.parseTriggerNodes replies nodes index transaction).1 ∧
      ∀ counted, (client.parseTriggerNodes replies nodes index transaction).2 = .ok counted →
        counted.id = transaction.id ∧ counted.info = transaction.info := by
  have same : client.Extends transaction.id client := (Touches.refl keyed).extends
  induction nodes generalizing index client transaction with
  | nil => exact ⟨same, fun counted parsed => by rw [← Except.ok.inj parsed]; exact ⟨rfl, rfl⟩⟩
  | cons node nodes ih =>
    unfold parseTriggerNodes
    cases added : client.addTriggerNode replies index transaction node with
    | error error => exact ⟨same, fun counted parsed => by contradiction⟩
    | ok result =>
      obtain ⟨next, counted⟩ := result
      obtain ⟨extended, sameId, sameInfo⟩ := addTriggerNode_extends keyed added
      have nextKeyed := extended.keyed keyed
      obtain ⟨rest, kept⟩ := ih (index + 1) nextKeyed counted (Touches.refl nextKeyed).extends
      rw [sameId] at rest
      refine ⟨extended.trans rest, fun final parsed => ?_⟩
      obtain ⟨finalId, finalInfo⟩ := kept final parsed
      exact ⟨finalId.trans sameId, finalInfo.trans sameInfo⟩

lemma prepareTransactionFences_extends (replies : SubmitReplies) (keyed : client.Keyed)
    (transaction : Transaction) :
    client.Extends transaction.id (client.prepareTransactionFences replies transaction).1 ∧
      ∀ counted, (client.prepareTransactionFences replies transaction).2 = .ok counted →
        counted.id = transaction.id ∧ counted.info = transaction.info := by
  have parsed := parseTriggerNodes_extends replies transaction.info.triggerNodes 0 keyed transaction
  unfold prepareTransactionFences
  split
  · exact ⟨(Touches.refl keyed).extends, fun counted isOk => by contradiction⟩
  · grind

lemma queueTransaction_extends (replies : SubmitReplies) (keyed : client.Keyed)
    (transaction : Transaction) :
    client.Extends transaction.id (client.queueTransaction replies transaction).1 := by
  unfold queueTransaction
  split_ifs
  · exact (addTransactionToQueue_touches transaction keyed).extends
  · exact (addTransactionToQueue_touches transaction keyed).extends
  · exact (addPendingTransaction_touches transaction).extends
  · exact (Touches.refl keyed).extends
  · exact addToEventList_extends keyed _ (.strong transaction)

/-- A submission takes the next id and concerns that id only, accepted or not. -/
lemma submit_extends (keyed : client.Keyed) (info : TransactionInfo) (replies : SubmitReplies) :
    client.numbered.Extends client.transactionCounter (client.submit info replies).1 := by
  have numberedKeyed : client.numbered.Keyed := keyed
  have same : client.numbered.Extends client.transactionCounter client.numbered :=
    (Touches.refl numberedKeyed).extends
  unfold submit
  split
  · exact same
  rename_i queueImmediately _
  obtain ⟨prepared, kept⟩ := prepareTransactionFences_extends replies numberedKeyed
    ⟨client.transactionCounter, info, 0, 0, queueImmediately⟩
  split
  · exact same
  cases result : client.numbered.prepareTransactionFences replies
      ⟨client.transactionCounter, info, 0, 0, queueImmediately⟩ with
  | mk next outcome =>
    rw [result] at prepared kept
    cases outcome with
    | error error => simpa [result] using prepared
    | ok transaction =>
      have sameId : transaction.id = client.transactionCounter := (kept transaction rfl).1
      have queued := queueTransaction_extends replies (prepared.keyed numberedKeyed) transaction
      rw [sameId] at queued
      have both := prepared.trans queued
      cases isQueued : next.queueTransaction replies transaction with
      | mk last outcome =>
        rw [isQueued] at both
        cases outcome with
        | error error | ok accepted => simpa [result, isQueued] using both

end Submission

end GsKernel.Lwis
