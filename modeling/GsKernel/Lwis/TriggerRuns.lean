import GsKernel.Lwis.TriggerTracking

/-!
# When a condition over events is complete

A transaction that waits for all of several events is handed on once each *id* among its
nodes has had an occurrence that satisfies some node with that id. This is when every node
has been satisfied exactly when nodes with one id agree on the counter.
-/

namespace GsKernel.Lwis

open EventNode List Bool

/-! ## Whole runs -/

/-- No step of a client fails for want of a high priority client. -/
def ClientStep.Added : ClientStep → Prop
  | .event occurrence => occurrence.Added
  | _ => True

variable {nodes : List EventNode}

lemma Client.Tracks.run {id : Nat} {info : TransactionInfo}
    {seen : List Occurrence} {client : Client} (tracks : client.Tracks id info nodes seen)
    (isNodes : info.triggerNodes = nodes.map toTriggerNode)
    (isAnd : info.operatorType = .and) (steps : List ClientStep)
    (added : ∀ step ∈ steps, step.Added) :
    (client.run steps).Tracks id info nodes (seen ++ occurrencesOf steps) := by
  induction steps generalizing client seen with
  | nil => simpa [occurrencesOf, Client.run] using tracks
  | cons step steps ih =>
    have later : ∀ other ∈ steps, other.Added :=
      fun other mem => added other (mem_cons_of_mem _ mem)
    cases step with
    | submit other replies => exact ih (tracks.submit other replies) later
    | fence fd status => exact ih (tracks.fenceSignal fd status) later
    | event occurrence =>
      have next := ih (tracks.eventTrigger isNodes isAnd (added _ mem_cons_self)) later
      rw [append_assoc] at next
      exact next

/-- The overflow flag is never in the id of an occurrence's event. -/
lemma plainEventId_unflagged (eventId : BitVec 64) :
    plainEventId eventId &&& overflowIrqEventFlag = 0 := by
  unfold plainEventId overflowIrqEventFlag
  split
  · rename_i flagged
    rw [BitVec.and_twoPow] at flagged ⊢
    simp_all
  · rename_i unflagged
    simpa using unflagged

lemma plainEventId_of_unflagged {eventId : BitVec 64}
    (unflagged : eventId &&& overflowIrqEventFlag = 0) : plainEventId eventId = eventId := by
  simp [plainEventId, unflagged]

/-- Nodes with one event id wait for the same counter. -/
def CountersAgree (nodes : List EventNode) : Prop :=
  ∀ first ∈ nodes, ∀ second ∈ nodes, first.id = second.id → first.counter = second.counter

/-- A node with the overflow flag in its event id, which no occurrence ever has. -/
def HasFlagged (nodes : List EventNode) : Prop :=
  ∃ node ∈ nodes, node.id &&& overflowIrqEventFlag ≠ 0

/-- With a flagged node, or with agreeing counters, the ids are done when every node is
satisfied. -/
lemma all_eventDone_iff (fits : HasFlagged nodes ∨ CountersAgree nodes) (seen : List Occurrence) :
    (∀ node ∈ nodes, eventDone nodes seen node.id = true) ↔
      ∀ node ∈ nodes, ∃ occurrence ∈ seen, node.satisfiedBy occurrence = true := by
  constructor
  · intro done node mem
    rcases fits with ⟨flagged, isNode, isFlagged⟩ | agree
    · obtain ⟨occurrence, -, hit⟩ := any_eq_true.mp (done flagged isNode)
      have same := eq_of_beq (and_eq_true_iff.mp hit).1
      exact absurd (same ▸ plainEventId_unflagged occurrence.eventId) isFlagged
    obtain ⟨occurrence, isSeen, hit⟩ := any_eq_true.mp (done node mem)
    obtain ⟨same, some⟩ := and_eq_true_iff.mp hit
    obtain ⟨other, isNode, satisfied⟩ := any_eq_true.mp some
    refine ⟨occurrence, isSeen, ?_⟩
    have sameId := eq_of_beq same
    have otherId := eq_of_beq (and_eq_true_iff.mp satisfied).1
    have sameCounter := agree other isNode node mem (otherId.trans sameId)
    simpa [satisfiedBy, ← sameId, otherId, sameCounter] using satisfied
  · intro satisfied node mem
    obtain ⟨occurrence, isSeen, hit⟩ := satisfied node mem
    refine any_eq_true.mpr ⟨occurrence, isSeen, and_eq_true_iff.mpr ⟨?_, ?_⟩⟩
    · have sameId := eq_of_beq (and_eq_true_iff.mp hit).1
      simp [sameId]
    · exact any_eq_true.mpr ⟨node, mem, hit⟩

/-- An occurrence with nothing special about its delivery. -/
def plainOccurrence (eventId : BitVec 64) (eventCounter : Int) : Occurrence :=
  ⟨eventId, eventCounter, false, fun _ => 0, fun _ => true, fun _ => true⟩

/-- Occurrences that satisfy every node with another event id, and then one of this event. -/
def lastOf (nodes : List EventNode) (eventId : BitVec 64) (counter : Int) : List Occurrence :=
  (nodes.filter (·.id ≠ eventId)).map (fun node => plainOccurrence node.id node.counter) ++
    [plainOccurrence eventId counter]

variable {first second : EventNode}

/-- Two nodes with one id that disagree: an occurrence that satisfies the first and not the
second completes the id. -/
lemma lastOf_early (unflagged : ¬ HasFlagged nodes) (isFirst : first ∈ nodes)
    (sameId : first.id = second.id) {counter : Int}
    (hits : first.counter = counter ∨ first.counter = onNextOccurrence)
    (misses : second.counter ≠ counter ∧ second.counter ≠ onNextOccurrence) :
    (∀ node ∈ nodes, eventDone nodes (lastOf nodes first.id counter) node.id = true) ∧
      ¬ ∃ occurrence ∈ lastOf nodes first.id counter, second.satisfiedBy occurrence = true := by
  have plain : ∀ node ∈ nodes, plainEventId node.id = node.id := fun node mem =>
    plainEventId_of_unflagged (by
      by_contra flagged
      exact unflagged ⟨node, mem, flagged⟩)
  constructor
  · intro node mem
    by_cases same : node.id = first.id
    · refine any_eq_true.mpr ⟨plainOccurrence first.id counter, by simp [lastOf], ?_⟩
      refine and_eq_true_iff.mpr ⟨by simp [plainOccurrence, plain first isFirst, same], ?_⟩
      refine any_eq_true.mpr ⟨first, isFirst, ?_⟩
      simpa [satisfiedBy, plainOccurrence, plain first isFirst] using hits
    · refine any_eq_true.mpr ⟨plainOccurrence node.id node.counter, ?_, ?_⟩
      · exact mem_append_left _ (mem_map.mpr ⟨node, by simp [mem, same], rfl⟩)
      · refine and_eq_true_iff.mpr ⟨by simp [plainOccurrence, plain node mem], ?_⟩
        refine any_eq_true.mpr ⟨node, mem, ?_⟩
        simp [satisfiedBy, plainOccurrence, plain node mem]
  · rintro ⟨occurrence, mem, satisfied⟩
    simp only [satisfiedBy, and_eq_true, or_eq_true, beq_iff_eq] at satisfied
    rcases mem_append.mp mem with mem | mem
    · obtain ⟨node, isNode, rfl⟩ := mem_map.mp mem
      obtain ⟨isNode, other⟩ := mem_filter.mp isNode
      have : node.id ≠ first.id := by simpa using other
      exact this ((plain node isNode).symm.trans (satisfied.1.symm.trans sameId.symm))
    · obtain rfl := mem_singleton.mp mem
      exact satisfied.2.elim misses.1 misses.2

/-- An occurrence can satisfy the first of two nodes without having the second's counter. -/
lemma exists_telling (differ : first.counter ≠ second.counter) :
    ∃ counter, (first.counter = counter ∨ first.counter = onNextOccurrence) ∧
      second.counter ≠ counter := by
  by_cases next : first.counter = onNextOccurrence
  · by_cases zero : second.counter = 0
    · exact ⟨1, .inr next, by omega⟩
    · exact ⟨0, .inr next, zero⟩
  · exact ⟨first.counter, .inl rfl, differ.symm⟩

/-- An accepted transaction that waits for all of its events, edge triggered and without
precondition fences, whatever happened to its client before. It is handed on exactly when
every node has been satisfied by some occurrence since, for all events, fences and
submissions that can follow, if and only if nodes with one event id agree on the counter, or
one of the ids can never occur. -/
theorem and_condition_complete_iff (isI2c : Bool) (before : List ClientStep)
    (info : TransactionInfo) (replies : SubmitReplies) (nodes : List EventNode) (id : Nat)
    (isAnd : info.operatorType = .and) (edge : info.isLevelTriggered = false)
    (isNodes : info.triggerNodes = nodes.map toTriggerNode)
    (immediate : nodes = [] → info.triggerEventId = eventIdNone)
    (accepted : (((Client.initial isI2c).run before).submit info replies).2 = .ok id) :
    (∀ after : List ClientStep, (∀ step ∈ after, step.Added) →
      (((((Client.initial isI2c).run before).submit info replies).1.run after).Handed id ↔
        ∀ node ∈ nodes, ∃ occurrence ∈ occurrencesOf after, node.satisfiedBy occurrence = true)) ↔
      HasFlagged nodes ∨ CountersAgree nodes := by
  have submitted := Client.Tracks.submitted ((Client.Known.initial isI2c).run before) isNodes edge
    immediate accepted
  have handed : ∀ after : List ClientStep, (∀ step ∈ after, step.Added) →
      (((((Client.initial isI2c).run before).submit info replies).1.run after).Handed id ↔
        ∀ node ∈ nodes, eventDone nodes (occurrencesOf after) node.id = true) := by
    intro after added
    have tracks := submitted.run isNodes isAnd after added
    rw [nil_append] at tracks
    exact tracks.handed_iff
  constructor
  · intro complete
    by_contra neither
    obtain ⟨unflagged, disagree⟩ := not_or.mp neither
    -- Of two nodes that disagree one has an explicit counter, and an occurrence can satisfy
    -- the other without it.
    have pair : ∃ first ∈ nodes, ∃ second ∈ nodes, first.id = second.id ∧
        first.counter ≠ second.counter ∧ second.counter ≠ onNextOccurrence := by
      simp only [CountersAgree, not_forall] at disagree
      obtain ⟨first, isFirst, second, isSecond, sameId, differ⟩ := disagree
      by_cases next : second.counter = onNextOccurrence
      · exact ⟨second, isSecond, first, isFirst, sameId.symm, Ne.symm differ,
          fun both => differ (both.trans next.symm)⟩
      · exact ⟨first, isFirst, second, isSecond, sameId, differ, next⟩
    obtain ⟨first, isFirst, second, isSecond, sameId, differ, explicit⟩ := pair
    obtain ⟨counter, hits, misses⟩ := exists_telling differ
    obtain ⟨early, unsatisfied⟩ := lastOf_early unflagged isFirst sameId hits ⟨misses, explicit⟩
    have occurrences : occurrencesOf ((lastOf nodes first.id counter).map .event) =
        lastOf nodes first.id counter := by
      simp [occurrencesOf, filterMap_map]
    have added : ∀ step ∈ (lastOf nodes first.id counter).map ClientStep.event, step.Added := by
      intro step mem
      obtain ⟨occurrence, isLast, rfl⟩ := mem_map.mp mem
      rcases mem_append.mp isLast with isLast | isLast
      · obtain ⟨node, -, rfl⟩ := mem_map.mp isLast
        exact fun _ => rfl
      · obtain rfl := mem_singleton.mp isLast
        exact fun _ => rfl
    have both := complete _ added
    rw [handed _ added, occurrences] at both
    exact unsatisfied (both.mp early second isSecond)
  · intro fits after added
    rw [handed after added]
    exact all_eventDone_iff fits _

/-- Replies in which everything succeeds and no event has been seen. -/
def allGranted : SubmitReplies :=
  ⟨fun _ => none, true, true, fun _ => some 0, fun _ => true, fun _ => true, fun _ => true, none,
    true, true⟩

/-- A transaction that waits for all of the given nodes. -/
def waitingFor (nodes : List EventNode) : TransactionInfo :=
  ⟨eventIdNone, onNextOccurrence, nodes.map toTriggerNode, .and, false, false, false⟩

/-- Waiting for counter 5 of event 1 and any occurrence of event 2, the transaction is handed
on at the second of the occurrences that satisfy them. -/
theorem and_condition_complete_two :
    ((((Client.initial false).run []).submit (waitingFor [⟨1, 5⟩, ⟨2, -1⟩]) allGranted).1.run
      [.event (plainOccurrence 1 4), .event (plainOccurrence 2 9),
        .event (plainOccurrence 1 5)]).Handed 0 :=
  ((and_condition_complete_iff false [] (waitingFor [⟨1, 5⟩, ⟨2, -1⟩]) allGranted
    [⟨1, 5⟩, ⟨2, -1⟩] 0 rfl rfl rfl (by simp) (by decide +kernel)).mpr
      (.inr (by unfold CountersAgree; decide)) _
        (by intro step mem; fin_cases mem <;> exact fun _ => rfl)).mpr
      (by decide +kernel)

/-- Waiting for counters 5 and 7 of event 1, the transaction is handed on by the occurrence
with counter 5 alone. -/
theorem and_condition_early :
    (((Client.initial false).submit (waitingFor [⟨1, 5⟩, ⟨1, 7⟩]) allGranted).1.run
      [.event (plainOccurrence 1 5)]).Handed 0 ∧
    ¬ ∃ occurrence ∈ occurrencesOf [.event (plainOccurrence 1 5)],
      satisfiedBy ⟨1, 7⟩ occurrence = true := by
  decide +kernel

end GsKernel.Lwis
