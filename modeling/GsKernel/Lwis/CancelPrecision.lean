import GsKernel.Lwis.Cancel

/-!
# What a cancellation reaches

A cancellation is to end, to stay within the nested ids a transaction has room for, and to cancel
exactly what can be reached through nesting. The recursion keeps no record of where it has been
and follows the nested ids of pending transactions only.
-/

namespace GsKernel.Lwis

open Lib.UnmarkedWalk WaitingTransaction WaitingTransactions List Option

/-- A waiting transaction is nested in another. -/
def WaitingTransactions.Nests (waiting : WaitingTransactions) (outer inner : Int) : Prop :=
  (∃ transaction ∈ waiting.all, transaction.id = outer ∧ inner ∈ transaction.nestedIds) ∧
    waiting.Waits inner

/-- An id can be reached from another through nesting. -/
def WaitingTransactions.Reaches (waiting : WaitingTransactions) : Int → Int → Prop :=
  Relation.ReflTransGen waiting.Nests

/-- The recursion for one id comes to another. -/
def WaitingTransactions.Visits (waiting : WaitingTransactions) : Int → Int → Prop :=
  Relation.ReflTransGen (Calls waiting.visitNested)

/-- What the waiting transactions must be like for a cancellation to be right. -/
structure WaitingTransactions.Cancellable (waiting : WaitingTransactions) (id : Int) : Prop where
  /-- What stands in the place of the id of a weak transaction is not taken for an id. -/
  written : ∀ other, waiting.Visits id other → ∀ unwrittenId,
    waiting.findListed other ≠ some (.weak unwrittenId)
  /-- The number of nested transactions is within the room for them. -/
  room : ∀ other, waiting.Visits id other → waiting.findListed other = none →
    ∀ transaction, waiting.findPending other = some transaction →
      transaction.numNestedTransactions ≤ nestedTransactionMax
  /-- Nothing is nested in itself, at whatever depth. -/
  acyclic : ∀ other, waiting.Visits id other →
    ¬Relation.TransGen (Calls waiting.visitNested) other other
  /-- What is nested in a transaction that waits for an event is also reached without it, or
  is already cancelled. -/
  followed : ∀ transaction ∈ waiting.all, waiting.Reaches id transaction.id →
    waiting.Visits id transaction.id ∨ transaction.errorCode = -125

variable {waiting : WaitingTransactions} {id other : Int} {ids visited : List Int}

@[simp] lemma cancelIds_nil (waiting : WaitingTransactions) : waiting.cancelIds [] = waiting := by
  have entry (item : EventEntry) : item.cancelIf [] = item := by cases item <;> rfl
  have transaction (item : WaitingTransaction) : item.cancelIf [] = item := rfl
  ext1
  · exact (map_congr_left fun item _ => entry item).trans (map_id _)
  · exact (map_congr_left fun item _ => transaction item).trans (map_id _)

/-- A cancellation that returns has walked along the nested ids. -/
lemma cancelWaiting_ok {fuel : Nat} {after : WaitingTransactions} {found : Bool} :
    cancelWaiting fuel waiting id = .ok (after, found) ↔
      ∃ visited, walk waiting.visitNested fuel id = some visited ∧
        after = waiting.cancelIds visited ∧ found = waiting.finds id := by
  have equal := @cancelWaiting_eq waiting fuel [] id
  rw [cancelIds_nil] at equal
  constructor
  · intro returned
    rw [returned] at equal
    obtain ⟨visited, walked, pair⟩ := map_eq_some_iff.mp equal.symm
    exact ⟨visited, walked, (congrArg Prod.fst pair).symm, (congrArg Prod.snd pair).symm⟩
  · rintro ⟨visited, walked, rfl, rfl⟩
    rw [walked] at equal
    cases returned : cancelWaiting fuel waiting id with
    | error fault => simp [returned, Except.toOption] at equal
    | ok result =>
      rw [returned] at equal
      exact congrArg Except.ok (some.inj equal)

/-- What the recursion goes on from is a pending transaction. -/
lemma calls_pending (call : Calls waiting.visitNested id other) :
    ∃ transaction ∈ waiting.pendingTransactions, transaction.id = id ∧
      other ∈ transaction.nestedIds := by
  obtain ⟨list, visits, mem⟩ := call
  cases listed : waiting.findListed id with
  | some entry =>
    cases entry <;> simp [visitNested, listed] at visits
    subst visits
    simp at mem
  | none =>
    cases pending : waiting.findPending id with
    | none =>
      simp only [visitNested, listed, pending, some.injEq] at visits
      subst visits
      simp at mem
    | some transaction =>
      simp only [visitNested, listed, pending] at visits
      split at visits
      · cases visits
        have tested := find?_some pending
        exact ⟨transaction, mem_of_find?_eq_some pending, by simpa using tested, mem⟩
      · cases visits

/-- The ids of the pending transactions, which are the only ones the recursion goes on from. -/
def WaitingTransactions.pendingIds (waiting : WaitingTransactions) : Finset Int :=
  (waiting.pendingTransactions.map WaitingTransaction.id).toFinset

lemma calls_pendingIds {outer inner : Int} (call : Calls waiting.visitNested outer inner) :
    outer ∈ waiting.pendingIds := by
  obtain ⟨transaction, mem, same, -⟩ := calls_pending call
  exact mem_toFinset.mpr (mem_map.mpr ⟨transaction, mem, same⟩)

/-- A waiting transaction that is visited is reached through nesting. -/
lemma WaitingTransactions.Visits.reaches (visits : waiting.Visits id other)
    (waits : waiting.Waits other) : waiting.Reaches id other := by
  induction visits with
  | refl => exact .refl
  | tail _ call hypothesis =>
    obtain ⟨transaction, mem, same, nested⟩ := calls_pending call
    have among : transaction ∈ waiting.all := mem_append_right _ mem
    exact (hypothesis ⟨transaction, among, same⟩).tail ⟨⟨transaction, among, same, nested⟩, waits⟩

/-- The visit of an id does not fault when no weak transaction is taken for it and its nested
ids are within their room. -/
lemma visitNested_some_iff : (∃ list, waiting.visitNested id = some list) ↔
    (∀ unwrittenId, waiting.findListed id ≠ some (.weak unwrittenId)) ∧
      (waiting.findListed id = none → ∀ transaction, waiting.findPending id = some transaction →
        transaction.numNestedTransactions ≤ nestedTransactionMax) := by
  cases listed : waiting.findListed id with
  | some entry => cases entry <;> simp [visitNested, listed]
  | none =>
    cases pending : waiting.findPending id with
    | none | some transaction => simp [visitNested, listed, pending]

/-- An id for which no weak transaction is taken is found when a transaction with it waits. -/
lemma finds_iff (written : ∀ unwrittenId, waiting.findListed id ≠ some (.weak unwrittenId)) :
    waiting.finds id = true ↔ waiting.Waits id := by
  constructor
  · intro found
    cases listed : waiting.findListed id with
    | some entry =>
      cases entry with
      | weak unwrittenId => exact absurd listed (written unwrittenId)
      | strong transaction =>
        obtain ⟨same, mem, -⟩ := findListed_strong listed
        exact ⟨transaction, mem_append_left _ (mem_filterMap.mpr ⟨_, mem, rfl⟩), same⟩
    | none =>
      simp only [finds, listed, isSome_none, Bool.false_or] at found
      obtain ⟨transaction, pending⟩ := isSome_iff_exists.mp found
      have tested := find?_some pending
      exact ⟨transaction, mem_append_right _ (mem_of_find?_eq_some pending),
        by simpa using tested⟩
  · rintro ⟨transaction, mem, same⟩
    by_contra missing
    simp only [finds, Bool.or_eq_true, not_or, Bool.not_eq_true,
      isSome_eq_false_iff, isNone_iff_eq_none] at missing
    rcases mem_append.mp mem with listed | pending
    · obtain ⟨entry, among, strong⟩ := mem_filterMap.mp listed
      cases entry with
      | weak unwrittenId => cases strong
      | strong found =>
        obtain rfl := some.inj strong
        exact findListed_none missing.1 found among same
    · exact findPending_none missing.2 transaction pending same

/-- Which ids are cancelled makes no difference for a transaction that is already. -/
lemma cancelIf_eq_iff {transaction : WaitingTransaction} {more : List Int} :
    transaction.cancelIf ids = transaction.cancelIf more ↔
      (transaction.id ∈ ids ↔ transaction.id ∈ more) ∨ transaction.errorCode = -125 := by
  obtain ⟨id, number, nested, code⟩ := transaction
  by_cases first : id ∈ ids <;> by_cases second : id ∈ more <;>
    simp [cancelIf, first, second, eq_comm]

lemma cancelIds_eq_iff {more : List Int} : waiting.cancelIds ids = waiting.cancelIds more ↔
    ∀ transaction ∈ waiting.all, transaction.cancelIf ids = transaction.cancelIf more := by
  rw [WaitingTransactions.ext_iff]
  simp only [WaitingTransactions.cancelIds, map_inj_left, WaitingTransactions.all,
    mem_append, or_imp, forall_and]
  refine and_congr_left fun _ => ⟨fun entries transaction mem => ?_, fun all entry mem => ?_⟩
  · obtain ⟨entry, listed, strong⟩ := mem_filterMap.mp mem
    cases entry with
    | weak unwrittenId => cases strong
    | strong found =>
      cases strong
      exact EventEntry.strong.inj (entries _ listed)
  · cases entry with
    | weak unwrittenId => rfl
    | strong transaction =>
      exact congrArg EventEntry.strong (all transaction (mem_filterMap.mpr ⟨_, mem, rfl⟩))

/-- The recursion returns exactly when it meets no weak transaction, no nested id behind the
array and no cycle. -/
lemma walk_returns_iff : (∃ fuel visited, walk waiting.visitNested fuel id = some visited) ↔
    ∀ other, waiting.Visits id other →
      ((∀ unwrittenId, waiting.findListed other ≠ some (.weak unwrittenId)) ∧
        (waiting.findListed other = none → ∀ transaction,
          waiting.findPending other = some transaction →
            transaction.numNestedTransactions ≤ nestedTransactionMax)) ∧
      ¬Relation.TransGen (Calls waiting.visitNested) other other := by
  rw [returns_iff calls_pendingIds]
  exact forall₂_congr fun other _ => and_congr_left fun _ => visitNested_some_iff

/-- Cancelling an id returns, cancels exactly the waiting transactions that are reached from
it through nesting, and reports that it is not found exactly when none of them has it, if and
only if the transactions that wait are as `Cancellable` says. -/
theorem lwis_transaction_cancel_precise (waiting : WaitingTransactions) (id : Int) :
    (∃ fuel after found, cancelWaiting fuel waiting id = .ok (after, found) ∧
        (found = false ↔ ¬waiting.Waits id) ∧
        ∃ ids, after = waiting.cancelIds ids ∧
          ∀ other, waiting.Waits other → (other ∈ ids ↔ waiting.Reaches id other)) ↔
      waiting.Cancellable id := by
  constructor
  · rintro ⟨fuel, after, found, returned, -, ids, cancelled, exactly⟩
    obtain ⟨visited, walked, rfl, -⟩ := cancelWaiting_ok.mp returned
    have clean := walk_returns_iff.mp ⟨fuel, visited, walked⟩
    refine ⟨fun other visits => (clean other visits).1.1, fun other visits => (clean other visits).1.2,
      fun other visits => (clean other visits).2, fun transaction mem reaches => ?_⟩
    have marked := (exactly transaction.id ⟨transaction, mem, rfl⟩).mpr reaches
    rcases cancelIf_eq_iff.mp (cancelIds_eq_iff.mp cancelled transaction mem) with same | already
    · exact Or.inl ((mem_walk walked).mp (same.mpr marked))
    · exact Or.inr already
  · intro cancellable
    obtain ⟨fuel, visited, walked⟩ := walk_returns_iff.mpr fun other visits =>
      ⟨⟨cancellable.written other visits, cancellable.room other visits⟩,
        cancellable.acyclic other visits⟩
    classical
    refine ⟨fuel, _, _, cancelWaiting_ok.mpr ⟨visited, walked, rfl, rfl⟩, ?_,
      (waiting.all.map WaitingTransaction.id).filter fun other => waiting.Reaches id other, ?_, ?_⟩
    · rw [← finds_iff (cancellable.written id .refl), Bool.not_eq_true]
    · refine cancelIds_eq_iff.mpr fun transaction mem => cancelIf_eq_iff.mpr ?_
      have among : transaction.id ∈ waiting.all.map WaitingTransaction.id :=
        mem_map_of_mem mem
      rw [mem_walk walked, mem_filter, decide_eq_true_eq]
      by_cases reaches : waiting.Reaches id transaction.id
      · rcases cancellable.followed transaction mem reaches with visits | already
        · exact Or.inl ⟨fun _ => ⟨among, reaches⟩, fun _ => visits⟩
        · exact Or.inr already
      · exact Or.inl ⟨fun visits => absurd
          (Visits.reaches visits ⟨transaction, mem, rfl⟩) reaches,
          fun both => absurd both.2 reaches⟩
    · rintro other ⟨transaction, mem, rfl⟩
      simp [mem_map_of_mem mem]

/-- One pending transaction. -/
def onePending (transaction : WaitingTransaction) : WaitingTransactions :=
  ⟨[], [transaction], by simp⟩

/-- One transaction or weak transaction in the list of an event, and one pending
transaction. -/
def oneListed (entry : EventEntry) (transaction : WaitingTransaction)
    (other : ∀ listed ∈ entry.transaction?, listed.id ≠ transaction.id) : WaitingTransactions :=
  ⟨[entry], [transaction], by
    cases entry with
    | weak unwrittenId => exact nodup_singleton transaction.id
    | strong listed => simpa [EventEntry.transaction?] using other⟩

/-- A pending transaction nested in itself is never done. One that claims nine nested
transactions is read behind its array. A weak transaction is taken for the id that was left
in its memory. What is nested in a transaction that waits for an event is not cancelled. -/
theorem lwis_transaction_cancel_self_nested : (¬∃ fuel after found, cancelWaiting fuel
      (onePending ⟨7, 1, fun _ => 7, 0⟩) 7 = .ok (after, found)) ∧
    cancelWaiting 2 (onePending ⟨7, 9, fun _ => 3, 0⟩) 7 = .error .outOfBounds ∧
    cancelWaiting 1 (oneListed (.weak 7) ⟨7, 0, fun _ => 0, 0⟩ (by simp
      [EventEntry.transaction?])) 7 = .error .wildWrite ∧
    ((cancelWaiting 2 (oneListed (.strong ⟨7, 1, fun _ => 8, 0⟩)
      ⟨8, 0, fun _ => 0, 0⟩ (by simp [EventEntry.transaction?])) 7).toOption.map fun result =>
        result.1.pendingTransactions.map WaitingTransaction.errorCode) = some [0] := by
  refine ⟨?_, rfl, rfl, rfl⟩
  rintro ⟨fuel, after, found, returned⟩
  obtain ⟨visited, walked, -, -⟩ := cancelWaiting_ok.mp returned
  have call : Calls (onePending ⟨7, 1, fun _ => 7, 0⟩).visitNested 7 7 := ⟨[7], rfl, by simp⟩
  exact not_transGen_of_acc (acc_of_walk walked) (.single call)

end GsKernel.Lwis
