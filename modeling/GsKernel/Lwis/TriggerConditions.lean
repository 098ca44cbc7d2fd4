import GsKernel.Lwis.TriggerFrames

/-!
# Conditions over events

An occurrence that signals one node of a condition takes every weak transaction out of the event's
list and counts it, so what a transaction waits for are the *ids* of its events, one occurrence
for each.
-/

namespace GsKernel.Lwis

open Client Listed List Nat

/-! ## The ids a client knows -/

/-- The pending transactions and those handed on have ids below a bound. -/
structure Client.HoldsBelow (bound : Nat) (client : Client) : Prop where
  keyed : client.Keyed
  pending : ∀ id, (client.pendingTransactions id).isSome → id < bound
  handed : ∀ id, client.Handed id → id < bound

/-- Every id a client knows has been given out. -/
structure Client.Known (client : Client) : Prop
    extends Client.HoldsBelow client.transactionCounter client where
  listed : ∀ eventId, ∀ listed ∈ client.eventLists eventId, listed.id < client.transactionCounter
  callbacks : ∀ callback ∈ client.fenceCallbacks, callback.2 < client.transactionCounter

lemma Client.HoldsBelow.concerns {bound id : Nat} {client next : Client}
    (holds : client.HoldsBelow bound) (below : id < bound)
    (concerns : client.Concerns id next) : next.HoldsBelow bound := by
  refine ⟨concerns.keyed holds.keyed, fun other isSome => ?_, fun other handed => ?_⟩
  · by_cases same : other = id
    · exact same ▸ below
    · exact holds.pending other (concerns.pending other same ▸ isSome)
  · by_cases same : other = id
    · exact same ▸ below
    · exact holds.handed other ((concerns.handed other same).mp handed)

variable {client : Client}

/-- What the loop over an event's list keeps of a client. -/
lemma triggerList_frame {bound : Nat} (occurrence : Occurrence)
    (list : List Listed) (holds : client.HoldsBelow bound)
    (below : ∀ listed ∈ list, listed.id < bound) :
    let (last, left) := client.triggerList occurrence list
    last.HoldsBelow bound ∧ last.eventLists = client.eventLists ∧
      last.fenceCallbacks = client.fenceCallbacks ∧
      last.transactionCounter = client.transactionCounter ∧
      ∀ listed ∈ left, listed.id < bound := by
  induction list generalizing client with
  | nil => exact ⟨holds, rfl, rfl, rfl, below⟩
  | cons listed rest ih =>
    have touches := triggerListed_touches holds.keyed occurrence listed
    have first := below listed mem_cons_self
    have later : ∀ other ∈ rest, other.id < bound :=
      fun other mem => below other (mem_cons_of_mem _ mem)
    have nextHolds := holds.concerns first touches.toConcerns
    have restFrame := ih nextHolds later
    unfold triggerList
    cases passed : client.triggerListed occurrence listed with
    | mk next passed' =>
      rw [passed] at touches restFrame nextHolds
      obtain ⟨lastHolds, lists, callbacks, counter, ids⟩ := restFrame
      cases passed' with
      | kept =>
        refine ⟨lastHolds, lists.trans touches.eventLists,
          callbacks.trans touches.fenceCallbacks, counter.trans touches.transactionCounter, ?_⟩
        intro other mem
        rcases mem_cons.mp mem with rfl | mem
        · exact first
        · exact ids other mem
      | removed =>
        exact ⟨lastHolds, lists.trans touches.eventLists,
          callbacks.trans touches.fenceCallbacks, counter.trans touches.transactionCounter, ids⟩
      | stopped left =>
        refine ⟨nextHolds, touches.eventLists, touches.fenceCallbacks,
          touches.transactionCounter, ?_⟩
        intro other mem
        rcases mem_cons.mp mem with rfl | mem
        · exact (triggerListed_stopped passed).1 ▸ first
        · exact later other mem

/-- What the callbacks of a signaled fence keep of a client. -/
lemma fenceTriggers_frame {bound : Nat} (fenceStatus : Int)
    (ids : List Nat) (holds : client.HoldsBelow bound) (below : ∀ id ∈ ids, id < bound) :
    let last := ids.foldl (fun client id => client.fenceTrigger fenceStatus id) client
    last.HoldsBelow bound ∧ last.eventLists = client.eventLists ∧
      last.fenceCallbacks = client.fenceCallbacks ∧
      last.transactionCounter = client.transactionCounter := by
  induction ids generalizing client with
  | nil => exact ⟨holds, rfl, rfl, rfl⟩
  | cons id ids ih =>
    have touches := fenceTrigger_touches holds.keyed fenceStatus id
    obtain ⟨lastHolds, lists, callbacks, counter⟩ := ih
      (holds.concerns (below id mem_cons_self) touches.toConcerns)
      (fun other mem => below other (mem_cons_of_mem _ mem))
    exact ⟨lastHolds, lists.trans touches.eventLists,
      callbacks.trans touches.fenceCallbacks, counter.trans touches.transactionCounter⟩

lemma Client.Known.initial (isI2c : Bool) : (Client.initial isI2c).Known := by
  refine ⟨⟨?_, ?_, ?_⟩, ?_, ?_⟩ <;> simp [Client.initial, Client.Keyed, Client.Handed]

section

variable (known : client.Known)
include known

lemma Client.Known.submit (info : TransactionInfo)
    (replies : SubmitReplies) : (client.submit info replies).1.Known := by
  have extended := submit_extends known.keyed info replies
  have counter : (client.submit info replies).1.transactionCounter =
      client.transactionCounter + 1 := extended.transactionCounter
  have numbered : client.numbered.HoldsBelow (client.transactionCounter + 1) :=
    ⟨known.keyed, fun id isSome => lt_succ_of_lt (known.pending id isSome),
      fun id handed => lt_succ_of_lt (known.handed id handed)⟩
  refine ⟨?_, fun eventId listed mem => ?_, fun callback mem => ?_⟩
  · rw [counter]
    exact numbered.concerns (lt_succ_self _) extended.toConcerns
  · rw [counter]
    obtain ⟨added, isAdded, own⟩ := extended.eventLists eventId
    rw [isAdded] at mem
    rcases mem_append.mp mem with mem | mem
    · exact lt_succ_of_lt (known.listed eventId listed mem)
    · exact lt_succ_of_le (own listed mem).le
  · rw [counter]
    obtain ⟨added, isAdded, own⟩ := extended.fenceCallbacks
    rw [isAdded] at mem
    rcases mem_append.mp mem with mem | mem
    · exact lt_succ_of_lt (known.callbacks callback mem)
    · exact lt_succ_of_le (own callback mem).le

lemma Client.Known.eventTrigger
    (occurrence : Occurrence) : (client.eventTrigger occurrence).Known := by
  obtain ⟨holds, lists, callbacks, counter, ids⟩ := triggerList_frame occurrence
    (client.eventLists (plainEventId occurrence.eventId)) known.toHoldsBelow (known.listed _)
  unfold Client.eventTrigger
  refine ⟨?_, fun eventId listed mem => ?_, fun callback mem => ?_⟩
  · dsimp only
    rw [counter]
    exact ⟨holds.keyed, holds.pending, holds.handed⟩
  · dsimp only at mem ⊢
    rw [counter]
    by_cases same : eventId = plainEventId occurrence.eventId
    · subst same
      exact ids listed (by simpa using mem)
    · exact known.listed eventId listed (by simpa [same, lists] using mem)
  · dsimp only at mem ⊢
    rw [counter]
    exact known.callbacks callback (callbacks ▸ mem)

lemma Client.Known.fenceSignal (fd : Nat)
    (fenceStatus : Int) : (client.fenceSignal fd fenceStatus).Known := by
  have dueBelow : ∀ id ∈ (client.fenceCallbacks.filter (·.1 == fd)).map Prod.snd,
      id < client.transactionCounter := by
    intro id mem
    obtain ⟨callback, isDue, rfl⟩ := mem_map.mp mem
    exact known.callbacks callback (mem_filter.mp isDue).1
  obtain ⟨holds, lists, callbacks, counter⟩ := @fenceTriggers_frame
    { client with fenceCallbacks := client.fenceCallbacks.filter (·.1 != fd) }
    client.transactionCounter fenceStatus _ ⟨known.keyed, known.pending, known.handed⟩ dueBelow
  unfold Client.fenceSignal
  refine ⟨?_, fun eventId listed mem => ?_, fun callback mem => ?_⟩
  · rw [counter]
    exact holds
  · rw [counter]
    rw [lists] at mem
    exact known.listed eventId listed mem
  · rw [counter]
    rw [callbacks] at mem
    exact known.callbacks callback (mem_filter.mp mem).1

lemma Client.Known.step (step : ClientStep) : (client.step step).Known := by
  cases step with
  | submit info replies => exact known.submit info replies
  | event occurrence => exact known.eventTrigger occurrence
  | fence fd status => exact known.fenceSignal fd status

/-- Every id a client has come across was given out by it. -/
lemma Client.Known.run (steps : List ClientStep) : (client.run steps).Known :=
  foldlRecOn steps Client.step known fun _ known step _ => known.step step

end

/-! ## One transaction in the loop over an event's list -/

/-- The bus manager has memory for every high priority client. -/
def Occurrence.Added (occurrence : Occurrence) : Prop :=
  ∀ id, occurrence.highPriorityAdded id = true

section Loop

variable {client : Client} {occurrence : Occurrence} {id : Nat}

section

variable (added : occurrence.Added)
include added

lemma triggerListed_not_stopped (listed left : Listed) :
    (client.triggerListed occurrence listed).2 ≠ .stopped left := by
  have reports : ∀ transaction, occurrence.reportsAdded transaction = true := fun transaction => by
    simp [Occurrence.reportsAdded, added transaction.id]
  cases listed with
  | weak id preconditionFence =>
    simp only [triggerListed, triggerWeak, reports]
    grind
  | strong transaction =>
    simp only [triggerListed, triggerStrong, reports]
    grind

/-- When nothing ends the loop early it passes over every entry. -/
lemma triggerList_cons (listed : Listed) (rest : List Listed) :
    client.triggerList occurrence (listed :: rest) =
      (((client.triggerListed occurrence listed).1.triggerList occurrence rest).1,
        if (client.triggerListed occurrence listed).2 = .kept then
          listed :: ((client.triggerListed occurrence listed).1.triggerList occurrence rest).2
        else ((client.triggerListed occurrence listed).1.triggerList occurrence rest).2) := by
  have notStopped : ∀ left, (client.triggerListed occurrence listed).2 ≠ .stopped left :=
    triggerListed_not_stopped added listed
  conv_lhs => unfold triggerList
  cases passed : client.triggerListed occurrence listed with
  | mk next outcome =>
    rw [passed] at notStopped
    cases outcome with
    | kept => simp
    | removed => simp
    | stopped left => exact absurd rfl (notStopped left)

/-- The entries a list holds of one transaction are weak and have no precondition fence. -/
def WeakOnly (id : Nat) (list : List Listed) : Prop :=
  ∀ listed ∈ list, listed.id = id → listed = .weak id none

/-- What a client holds of one transaction: the pending one, and whether it was handed on. -/
def Client.HoldsOf (client : Client) (id : Nat) (pending : Option Transaction)
    (handed : Prop) : Prop :=
  client.pendingTransactions id = pending ∧ (client.Handed id ↔ handed)

/-- The entries of other transactions do not matter to a transaction: to follow it through
the loop it suffices to say what each of its own entries does. -/
lemma triggerList_follows (pending : Nat → Option Transaction) (handed : Nat → Prop) (kept : Bool)
    (own : ∀ (passed : Nat) (client : Client), client.Keyed →
      client.HoldsOf id (pending passed) (handed passed) →
      (client.triggerListed occurrence (.weak id none)).1.HoldsOf id (pending (passed + 1))
          (handed (passed + 1)) ∧
        ((client.triggerListed occurrence (.weak id none)).2 = .kept ↔ kept = true))
    (list : List Listed) (weakOnly : WeakOnly id list) (passed : Nat) (keyed : client.Keyed)
    (holds : client.HoldsOf id (pending passed) (handed passed)) :
    (client.triggerList occurrence list).1.HoldsOf id
        (pending (passed + list.countP (Listed.isWeak id)))
        (handed (passed + list.countP (Listed.isWeak id))) ∧
      (client.triggerList occurrence list).2.countP (Listed.isWeak id) =
        if kept then list.countP (Listed.isWeak id) else 0 := by
  induction list generalizing client passed with
  | nil => exact ⟨holds, by simp [triggerList]⟩
  | cons listed rest ih =>
    have touches := triggerListed_touches keyed occurrence listed
    have restOnly : WeakOnly id rest := fun other mem => weakOnly other (mem_cons_of_mem _ mem)
    rw [triggerList_cons added]
    by_cases isOwn : listed.id = id
    · obtain rfl := weakOnly listed mem_cons_self isOwn
      obtain ⟨nextHolds, isKept⟩ := own passed client keyed holds
      obtain ⟨lastHolds, count⟩ := ih restOnly (passed + 1) (touches.keyed keyed) nextHolds
      have isWeak : (Listed.weak id none).isWeak id = true := by simp [Listed.isWeak]
      rw [countP_cons_of_pos isWeak, add_comm _ 1, ← add_assoc]
      refine ⟨lastHolds, ?_⟩
      cases kept <;> simp_all [add_comm]
    · have notWeak : ¬ listed.isWeak id = true := by
        cases listed <;> simp_all [Listed.isWeak, Listed.id]
      have nextHolds : (client.triggerListed occurrence listed).1.HoldsOf id (pending passed)
          (handed passed) :=
        ⟨(touches.pending id (Ne.symm isOwn)).trans holds.1,
          (touches.handed id (Ne.symm isOwn)).trans holds.2⟩
      obtain ⟨lastHolds, count⟩ := ih restOnly passed (touches.keyed keyed) nextHolds
      rw [countP_cons_of_neg notWeak]
      refine ⟨lastHolds, ?_⟩
      dsimp only
      split
      · rw [countP_cons_of_neg notWeak, count]
      · exact count

/-- The weak transactions of a transaction that is no longer pending are freed. -/
lemma triggerList_of_not_pending (keyed : client.Keyed)
    (list : List Listed) (weakOnly : WeakOnly id list) {handed : Prop}
    (holds : client.HoldsOf id none handed) :
    (client.triggerList occurrence list).1.HoldsOf id none handed ∧
      (client.triggerList occurrence list).2.countP (isWeak id) = 0 := by
  refine triggerList_follows added (fun _ => none) (fun _ => handed) false ?_ list weakOnly 0
    keyed holds
  intro passed client keyed holds
  simp [triggerListed, triggerWeak, holds.1, holds]

variable {transaction : Transaction}

/-- An occurrence that signals no node of a condition leaves the transaction alone. -/
lemma triggerList_of_not_signaled (keyed : client.Keyed)
    (list : List Listed) (weakOnly : WeakOnly id list) (fine : transaction.errorCode = 0)
    (quiet : transaction.eventTriggeredConditionReady occurrence.fenceStatus none
      (plainEventId occurrence.eventId) occurrence.eventCounter = none)
    {handed : Prop} (holds : client.HoldsOf id (some transaction) handed) :
    (client.triggerList occurrence list).1.HoldsOf id (some transaction) handed ∧
      (client.triggerList occurrence list).2.countP (isWeak id) = list.countP (isWeak id) := by
  refine triggerList_follows added (fun _ => some transaction) (fun _ => handed) true ?_ list
    weakOnly 0 keyed holds
  intro passed client keyed holds
  simp [triggerListed, triggerWeak, holds.1, fine, quiet, holds]

/-- An occurrence that signals a node of a condition counts every weak transaction of its
event, and hands the transaction on when that completes the count. -/
lemma triggerList_of_signaled (keyed : client.Keyed)
    (list : List Listed) (weakOnly : WeakOnly id list)
    (isId : transaction.id = id) (fine : transaction.errorCode = 0)
    (isAnd : transaction.info.operatorType = .and)
    (signaled : transaction.info.triggerNodes.any (TriggerNode.isNodeSignaled
      occurrence.fenceStatus none (plainEventId occurrence.eventId)
      occurrence.eventCounter) = true)
    (short : transaction.signaledCount < transaction.info.triggerNodes.length)
    (holds : client.HoldsOf id (some transaction) False) :
    let count := transaction.signaledCount + list.countP (isWeak id)
    (client.triggerList occurrence list).1.HoldsOf id
        (if count < transaction.info.triggerNodes.length then
          some { transaction with signaledCount := count } else none)
        (transaction.info.triggerNodes.length ≤ count) ∧
      (client.triggerList occurrence list).2.countP (isWeak id) = 0 := by
  have atStart : client.HoldsOf id
      (if transaction.signaledCount + 0 < transaction.info.triggerNodes.length then
        some { transaction with signaledCount := transaction.signaledCount + 0 } else none)
      (transaction.info.triggerNodes.length ≤ transaction.signaledCount + 0) := by
    rw [add_zero, if_pos short]
    exact ⟨holds.1, holds.2.trans (iff_of_false not_false (not_le.mpr short))⟩
  have follows := triggerList_follows added (fun passed =>
      if transaction.signaledCount + passed < transaction.info.triggerNodes.length then
        some { transaction with signaledCount := transaction.signaledCount + passed } else none)
    (fun passed => transaction.info.triggerNodes.length ≤ transaction.signaledCount + passed)
    false ?_ list weakOnly 0 keyed atStart
  · simpa using follows
  · rintro passed client keyed ⟨isPending, isHanded⟩
    by_cases more : transaction.signaledCount + passed < transaction.info.triggerNodes.length
    · rw [if_pos more] at isPending
      have notHanded : ¬ client.Handed id := fun handed =>
        absurd (isHanded.mp handed) (not_le.mpr more)
      by_cases last : transaction.signaledCount + passed + 1 = transaction.info.triggerNodes.length
      · have full : ¬ transaction.signaledCount + (passed + 1) <
            transaction.info.triggerNodes.length := by omega
        rw [if_neg full]
        simp [triggerListed, triggerWeak, isPending, fine, signaled, isAnd, last,
          Transaction.eventTriggeredConditionReady, HoldsOf, isId,
          delPendingTransaction]
        omega
      · have short : transaction.signaledCount + (passed + 1) <
            transaction.info.triggerNodes.length := by omega
        rw [if_pos short]
        have notLast : (transaction.signaledCount + passed + 1 ==
            transaction.info.triggerNodes.length) = false := beq_eq_false_iff_ne.mpr last
        have result : client.triggerListed occurrence (.weak id none) =
            (client.addPendingTransaction { transaction with
              signaledCount := transaction.signaledCount + passed + 1 }, .removed) := by
          simp [triggerListed, triggerWeak, isPending, fine, signaled, isAnd,
            notLast, Transaction.eventTriggeredConditionReady]
        rw [result]
        refine ⟨⟨by simp [addPendingTransaction, isId, add_assoc], ?_⟩, by simp⟩
        exact iff_of_false notHanded (not_le.mpr short)
    · have full : ¬ transaction.signaledCount + (passed + 1) <
          transaction.info.triggerNodes.length := by omega
      rw [if_neg more] at isPending
      rw [if_neg full]
      have handed : client.Handed id := isHanded.mpr (not_lt.mp more)
      simp [triggerListed, triggerWeak, isPending, HoldsOf, handed]
      omega

/-- The loop only takes entries out of the list. -/
lemma triggerList_left (list : List Listed) :
    ∀ listed ∈ (client.triggerList occurrence list).2, listed ∈ list := by
  induction list generalizing client with
  | nil => simp [triggerList]
  | cons first rest ih =>
    rw [triggerList_cons added]
    intro listed mem
    dsimp only at mem
    split at mem
    · rcases mem_cons.mp mem with rfl | mem
      · exact mem_cons_self
      · exact mem_cons_of_mem _ (ih listed mem)
    · exact mem_cons_of_mem _ (ih listed mem)

end

end Loop

/-- The callbacks of other transactions do not matter to a transaction. -/
lemma fenceTriggers_holdsOf {id : Nat} (fenceStatus : Int)
    (ids : List Nat) (keyed : client.Keyed) (others : ∀ other ∈ ids, other ≠ id)
    {pending : Option Transaction} {handed : Prop} (holds : client.HoldsOf id pending handed) :
    (ids.foldl (fun client id => client.fenceTrigger fenceStatus id) client).HoldsOf id pending
      handed := by
  induction ids generalizing client with
  | nil => exact holds
  | cons first ids ih =>
    have touches := fenceTrigger_touches keyed fenceStatus first
    have ne := (others first mem_cons_self).symm
    exact ih (touches.keyed keyed) (fun other mem => others other (mem_cons_of_mem _ mem))
      ⟨(touches.pending id ne).trans holds.1, (touches.handed id ne).trans holds.2⟩

end GsKernel.Lwis
