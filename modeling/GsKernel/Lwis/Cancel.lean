import GsKernel.Lib.UnmarkedWalk

/-!
# Cancelling waiting transactions

A transaction that waits for an event or a condition is cancelled by an error code in its
response, and what is nested in one that waits for a condition is cancelled with it. The nested
ids are what user space has put there. The search also meets the weak transactions in the lists,
whose `info` and `resp` nobody has written.
-/

namespace GsKernel.Lwis

open Lib.UnmarkedWalk List Option

/-- `LWIS_NESTED_TRANSACTION_MAX`. -/
def nestedTransactionMax : Nat := 8

/-- A waiting transaction: its id, the number of nested transactions user space has given,
the ids the transaction has room for, and the error code of its response. -/
structure WaitingTransaction where
  id : Int
  numNestedTransactions : Nat
  nestedTransactionIds : Fin nestedTransactionMax → Int
  errorCode : Int

/-- What the list of an event holds. Of a weak transaction only the value that happens to
stand in the place of its id is of interest; its response points anywhere. -/
inductive EventEntry where
  | weak (unwrittenId : Int)
  | strong (transaction : WaitingTransaction)

/-- `info.id` of an entry. -/
def EventEntry.infoId : EventEntry → Int
  | .weak unwrittenId => unwrittenId
  | .strong transaction => transaction.id

/-- The transactions in the list of an event, without the weak ones. -/
def EventEntry.transaction? : EventEntry → Option WaitingTransaction
  | .weak _ => none
  | .strong transaction => some transaction

/-- The transactions of a client that wait: the lists of its events, one after the other as
the search walks them, and the map of the pending ones. Ids are given out once, by
`transaction_counter`. -/
@[ext]
structure WaitingTransactions where
  eventLists : List EventEntry
  pendingTransactions : List WaitingTransaction
  distinct : ((eventLists.filterMap EventEntry.transaction? ++ pendingTransactions).map
    WaitingTransaction.id).Nodup

/-- All waiting transactions. -/
def WaitingTransactions.all (waiting : WaitingTransactions) : List WaitingTransaction :=
  waiting.eventLists.filterMap EventEntry.transaction? ++ waiting.pendingTransactions

/-- `resp->error_code = -ECANCELED` for the transactions with these ids. -/
def WaitingTransaction.cancelIf (ids : List Int) (transaction : WaitingTransaction) :
    WaitingTransaction :=
  if transaction.id ∈ ids then { transaction with errorCode := -125 } else transaction

/-- `resp->error_code = -ECANCELED` for an entry with one of these ids. -/
def EventEntry.cancelIf (ids : List Int) : EventEntry → EventEntry
  | .weak unwrittenId => .weak unwrittenId
  | .strong transaction => .strong (transaction.cancelIf ids)

open WaitingTransactions

open EventEntry

@[simp] lemma WaitingTransaction.cancelIf_id (ids : List Int)
    (transaction : WaitingTransaction) : (transaction.cancelIf ids).id = transaction.id := by
  unfold WaitingTransaction.cancelIf
  split <;> rfl

@[simp] lemma cancelIf_pendingIds (ids : List Int) (transactions : List WaitingTransaction) :
    (transactions.map (WaitingTransaction.cancelIf ids)).map WaitingTransaction.id =
      transactions.map WaitingTransaction.id := by
  simp [Function.comp_def]

@[simp] lemma cancelIf_listedIds (ids : List Int) (eventLists : List EventEntry) :
    ((eventLists.map (cancelIf ids)).filterMap transaction?).map
        WaitingTransaction.id =
      (eventLists.filterMap transaction?).map WaitingTransaction.id := by
  induction eventLists with
  | nil => rfl
  | cons entry rest hypothesis =>
    cases entry with
    | weak unwrittenId => exact hypothesis
    | strong transaction => simpa [cancelIf, transaction?] using hypothesis

/-- The waiting transactions with the one in the event lists that has an id cancelled. -/
def WaitingTransactions.cancelListed (waiting : WaitingTransactions) (id : Int) :
    WaitingTransactions where
  eventLists := waiting.eventLists.map (cancelIf [id])
  pendingTransactions := waiting.pendingTransactions
  distinct := by
    rw [map_append, cancelIf_listedIds, ← map_append]
    exact waiting.distinct

/-- The waiting transactions with the pending one that has an id cancelled. -/
def WaitingTransactions.cancelPending (waiting : WaitingTransactions) (id : Int) :
    WaitingTransactions where
  eventLists := waiting.eventLists
  pendingTransactions := waiting.pendingTransactions.map (WaitingTransaction.cancelIf [id])
  distinct := by
    rw [map_append, cancelIf_pendingIds, ← map_append]
    exact waiting.distinct

/-- How a cancellation can fail to return: the recursion is not over yet, an id is read
behind the array, or the error code is written through a pointer that nobody has set. -/
inductive CancelFault where
  | unfinished
  | outOfBounds
  | wildWrite
deriving DecidableEq

/-- The first entry of the event lists with an id. -/
def WaitingTransactions.findListed (waiting : WaitingTransactions) (id : Int) : Option EventEntry :=
  waiting.eventLists.find? (·.infoId == id)

/-- The pending transaction with an id. -/
def WaitingTransactions.findPending (waiting : WaitingTransactions) (id : Int) :
    Option WaitingTransaction :=
  waiting.pendingTransactions.find? (·.id == id)

/-- `nested_transaction_ids[i]`. -/
def WaitingTransaction.nestedId (transaction : WaitingTransaction) (index : Nat) :
    Except CancelFault Int :=
  if bound : index < nestedTransactionMax then .ok (transaction.nestedTransactionIds ⟨index, bound⟩)
  else .error .outOfBounds

/-- The body of the loop of `cancel_waiting_transaction_locked` over the nested ids. The result
of the nested call only leads to a message. -/
def WaitingTransaction.cancelNested (transaction : WaitingTransaction)
    (cancel : WaitingTransactions → Int → Except CancelFault (WaitingTransactions × Bool))
    (waiting : WaitingTransactions) (index : Nat) : Except CancelFault WaitingTransactions := do
  let nested ← transaction.nestedId index
  let (next, _) ← cancel waiting nested
  return next

/-- `cancel_waiting_transaction_locked`, with the depth of its recursion bounded by fuel: the
waiting transactions afterwards, and whether the id was found; otherwise it returns `-ENOENT`. -/
def WaitingTransactions.cancelWaiting : Nat → WaitingTransactions → Int →
    Except CancelFault (WaitingTransactions × Bool)
  | 0, _, _ => .error .unfinished
  | fuel + 1, waiting, id =>
    match waiting.findListed id with
    | some (.weak _) => .error .wildWrite
    | some (.strong _) => .ok (waiting.cancelListed id, true)
    | none =>
      match waiting.findPending id with
      | none => .ok (waiting, false)
      | some transaction => do
        let after ← (range transaction.numNestedTransactions).foldlM
          (transaction.cancelNested (cancelWaiting fuel)) waiting
        return (after.cancelPending id, true)

/-! ## The nodes a cancellation visits -/

/-- The waiting transactions with those of the given ids cancelled. -/
def WaitingTransactions.cancelIds (waiting : WaitingTransactions) (ids : List Int) :
    WaitingTransactions where
  eventLists := waiting.eventLists.map (cancelIf ids)
  pendingTransactions := waiting.pendingTransactions.map (WaitingTransaction.cancelIf ids)
  distinct := by
    rw [map_append, cancelIf_listedIds, cancelIf_pendingIds, ← map_append]
    exact waiting.distinct

/-- The ids a transaction has nested, as far as it has room for them. -/
def WaitingTransaction.nestedIds (transaction : WaitingTransaction) : List Int :=
  (ofFn transaction.nestedTransactionIds).take transaction.numNestedTransactions

/-- The ids that the visit of an id goes on to; `none` when the visit faults. -/
def WaitingTransactions.visitNested (waiting : WaitingTransactions) (id : Int) :
    Option (List Int) :=
  match waiting.findListed id with
  | some (.weak _) => none
  | some (.strong _) => some []
  | none =>
    match waiting.findPending id with
    | none => some []
    | some transaction =>
      if transaction.numNestedTransactions ≤ nestedTransactionMax then some transaction.nestedIds
      else none

variable {waiting : WaitingTransactions} {id : Int} {ids more : List Int} {fuel : Nat}

@[simp] lemma EventEntry.cancelIf_infoId (ids : List Int) (entry : EventEntry) :
    (entry.cancelIf ids).infoId = entry.infoId := by
  cases entry with
  | weak unwrittenId => rfl
  | strong transaction => exact transaction.cancelIf_id ids

@[simp] lemma cancelIds_findListed (waiting : WaitingTransactions) (ids : List Int) (id : Int) :
    (waiting.cancelIds ids).findListed id = (waiting.findListed id).map (cancelIf ids) := by
  simp [findListed, cancelIds, find?_map]

@[simp] lemma cancelIds_findPending (waiting : WaitingTransactions) (ids : List Int) (id : Int) :
    (waiting.cancelIds ids).findPending id =
      (waiting.findPending id).map (WaitingTransaction.cancelIf ids) := by
  simp [findPending, cancelIds, find?_map]

lemma WaitingTransaction.cancelIf_append (transaction : WaitingTransaction) (ids more : List Int) :
    (transaction.cancelIf ids).cancelIf more = transaction.cancelIf (ids ++ more) := by
  by_cases first : transaction.id ∈ ids <;> by_cases second : transaction.id ∈ more <;>
    simp [WaitingTransaction.cancelIf, first, second]

lemma EventEntry.cancelIf_append (entry : EventEntry) (ids more : List Int) :
    (entry.cancelIf ids).cancelIf more = entry.cancelIf (ids ++ more) := by
  cases entry with
  | weak unwrittenId => rfl
  | strong transaction => exact congrArg strong (transaction.cancelIf_append ids more)

/-- A waiting transaction has an id. -/
def WaitingTransactions.Waits (waiting : WaitingTransactions) (id : Int) : Prop :=
  ∃ transaction ∈ waiting.all, transaction.id = id

variable {transaction : WaitingTransaction}

/-- An id that no waiting transaction has cancels nothing. -/
lemma WaitingTransaction.cancelIf_of_ne
    (other : transaction.id ≠ id) : transaction.cancelIf (ids ++ [id]) = transaction.cancelIf ids := by
  simp [WaitingTransaction.cancelIf, other]

lemma cancelIf_entries (none : ∀ transaction, strong transaction ∈ waiting.eventLists →
      transaction.id ≠ id) :
    waiting.eventLists.map (cancelIf (ids ++ [id])) =
      waiting.eventLists.map (cancelIf ids) := by
  refine map_congr_left fun entry mem => ?_
  cases entry with
  | weak unwrittenId => rfl
  | strong transaction =>
    exact congrArg strong (WaitingTransaction.cancelIf_of_ne (none transaction mem))

lemma cancelIf_transactions (none : ∀ transaction ∈ waiting.pendingTransactions,
      transaction.id ≠ id) :
    waiting.pendingTransactions.map (WaitingTransaction.cancelIf (ids ++ [id])) =
      waiting.pendingTransactions.map (WaitingTransaction.cancelIf ids) :=
  map_congr_left fun transaction mem =>
    WaitingTransaction.cancelIf_of_ne (none transaction mem)

lemma findListed_none (missing : waiting.findListed id = none) (transaction : WaitingTransaction)
    (mem : strong transaction ∈ waiting.eventLists) : transaction.id ≠ id := by
  have absent := find?_eq_none.mp missing _ mem
  simpa [infoId] using absent

lemma findPending_none (missing : waiting.findPending id = none)
    (transaction : WaitingTransaction) (mem : transaction ∈ waiting.pendingTransactions) :
    transaction.id ≠ id := by
  have absent := find?_eq_none.mp missing _ mem
  simpa using absent

variable {listed : WaitingTransaction}

/-- A transaction in the lists of the events is not pending: no other has its id. -/
lemma findListed_strong (found : waiting.findListed id = some (.strong listed)) :
    listed.id = id ∧ strong listed ∈ waiting.eventLists ∧
      ∀ transaction ∈ waiting.pendingTransactions, transaction.id ≠ id := by
  have self : listed.id = id := by
    have tested := find?_some found
    simpa [infoId] using tested
  have mem := mem_of_find?_eq_some found
  refine ⟨self, mem, fun transaction pending same => ?_⟩
  have distinct := waiting.distinct
  rw [map_append, nodup_append] at distinct
  refine distinct.2.2 id ?_ id ?_ rfl
  · exact mem_map.mpr ⟨listed, mem_filterMap.mpr ⟨_, mem, rfl⟩, self⟩
  · exact mem_map.mpr ⟨transaction, pending, same⟩

/-- Cancelling the transaction found in the lists of the events. -/
lemma cancelListed_cancelIds (found : waiting.findListed id = some (.strong listed)) :
    (waiting.cancelIds ids).cancelListed id = waiting.cancelIds (ids ++ [id]) := by
  obtain ⟨-, -, others⟩ := findListed_strong found
  ext1
  · simp only [cancelListed, cancelIds, List.map_map,
      Function.comp_def, cancelIf_append]
  · exact (cancelIf_transactions others).symm

/-- Cancelling the pending transaction when no list of an event has its id. -/
lemma cancelPending_cancelIds (missing : waiting.findListed id = none) :
    (waiting.cancelIds ids).cancelPending id = waiting.cancelIds (ids ++ [id]) := by
  ext1
  · exact (cancelIf_entries (findListed_none missing)).symm
  · simp only [cancelPending, cancelIds, List.map_map,
      Function.comp_def, WaitingTransaction.cancelIf_append]

lemma cancelIds_missing (unlisted : waiting.findListed id = none)
    (missing : waiting.findPending id = none) :
    waiting.cancelIds (ids ++ [id]) = waiting.cancelIds ids := by
  ext1
  · exact cancelIf_entries (findListed_none unlisted)
  · exact cancelIf_transactions (findPending_none missing)

/-- The nested id at an index, whatever stands behind the array. -/
def WaitingTransaction.nestedAt (transaction : WaitingTransaction) (index : Nat) : Int :=
  if bound : index < nestedTransactionMax then transaction.nestedTransactionIds ⟨index, bound⟩ else 0

lemma nestedIds_eq (room : transaction.numNestedTransactions ≤ nestedTransactionMax) :
    transaction.nestedIds = (range transaction.numNestedTransactions).map
      transaction.nestedAt := by
  refine ext_getElem (by simp [WaitingTransaction.nestedIds, room]) fun index left right => ?_
  have bound : index < nestedTransactionMax := by
    have inside : index < transaction.numNestedTransactions := by simpa using right
    omega
  simp [WaitingTransaction.nestedIds, WaitingTransaction.nestedAt, bound]

lemma toOption_bind {ε α β : Type} (first : Except ε α) (next : α → Except ε β) :
    (first >>= next).toOption = first.toOption.bind fun value => (next value).toOption := by
  cases first <;> rfl

section Loop

variable {cancel : WaitingTransactions → Int → Except CancelFault (WaitingTransactions × Bool)}
  {visit : Int → Option (List Int)} {transaction : WaitingTransaction}

/-- A nested id within the array is cancelled like any id. -/
lemma cancelNested_inside {current : WaitingTransactions} {index : Nat}
    (bound : index < nestedTransactionMax) :
    (transaction.cancelNested cancel current index).toOption =
      (cancel current (transaction.nestedAt index)).toOption.map Prod.fst := by
  have reads : transaction.nestedId index = .ok (transaction.nestedAt index) := by
    simp [WaitingTransaction.nestedId, WaitingTransaction.nestedAt, bound]
  unfold WaitingTransaction.cancelNested
  rw [reads, toOption_bind]
  simp only [Except.toOption, bind_some]
  cases cancel current (transaction.nestedAt index) <;> rfl

variable {indexes : List Nat}

/-- The loop over nested ids that are all within the array visits each of them. -/
lemma cancelNested_loop
    (each : ∀ ids nested, (cancel (waiting.cancelIds ids) nested).toOption.map Prod.fst =
      (visit nested).map fun visited => waiting.cancelIds (ids ++ visited))
    (bounds : ∀ index ∈ indexes, index < nestedTransactionMax) (ids : List Int) :
    (indexes.foldlM (transaction.cancelNested cancel) (waiting.cancelIds ids)).toOption =
      ((indexes.map transaction.nestedAt).mapM visit).map fun below =>
        waiting.cancelIds (ids ++ below.flatten) := by
  induction indexes generalizing ids with
  | nil => simp [Except.toOption, pure, Except.pure]
  | cons index indexes hypothesis =>
    obtain ⟨bound, bounds⟩ := forall_mem_cons.mp bounds
    rw [foldlM_cons, toOption_bind, cancelNested_inside bound, each, map_cons,
      mapM_cons]
    cases visited : visit (transaction.nestedAt index) with
    | none => rfl
    | some part =>
      simp only [map_some, bind_some, hypothesis bounds]
      cases (indexes.map transaction.nestedAt).mapM visit <;> simp

/-- The loop over more nested ids than there is room for does not return. -/
lemma cancelNested_outside {index : Nat} (mem : index ∈ indexes)
    (outside : nestedTransactionMax ≤ index) (current : WaitingTransactions) :
    (indexes.foldlM (transaction.cancelNested cancel) current).toOption = none := by
  induction indexes generalizing current with
  | nil => simp at mem
  | cons first indexes hypothesis =>
    rw [foldlM_cons, toOption_bind]
    rcases mem_cons.mp mem with rfl | mem
    · have faults : transaction.nestedId index = .error .outOfBounds :=
        dif_neg (Nat.not_lt.mpr outside)
      unfold WaitingTransaction.cancelNested
      rw [faults]
      rfl
    · exact bind_eq_none_iff.mpr fun next _ => hypothesis mem next

end Loop

/-- An id is found. -/
def WaitingTransactions.finds (waiting : WaitingTransactions) (id : Int) : Bool :=
  (waiting.findListed id).isSome || (waiting.findPending id).isSome

/-- A cancellation returns exactly when the walk along the nested ids does, and it has then
cancelled the ids on that walk. -/
lemma cancelWaiting_eq (fuel : Nat) (ids : List Int) (id : Int) :
    (cancelWaiting fuel (waiting.cancelIds ids) id).toOption =
      (walk waiting.visitNested fuel id).map fun visited =>
        (waiting.cancelIds (ids ++ visited), waiting.finds id) := by
  induction fuel generalizing ids id with
  | zero => rfl
  | succ fuel hypothesis =>
    unfold cancelWaiting walk finds
    rw [cancelIds_findListed, cancelIds_findPending]
    cases listed : waiting.findListed id with
    | some entry =>
      cases entry with
      | weak unwrittenId =>
        have faults : waiting.visitNested id = none := by
          simp [visitNested, listed]
        rw [faults]
        rfl
      | strong transaction =>
        have leaf : waiting.visitNested id = some [] := by
          simp [visitNested, listed]
        rw [leaf]
        simp [cancelIf, cancelListed_cancelIds listed, Except.toOption]
    | none =>
      cases pending : waiting.findPending id with
      | none =>
        have leaf : waiting.visitNested id = some [] := by
          simp [visitNested, listed, pending]
        rw [leaf]
        simp [Except.toOption, cancelIds_missing listed pending]
      | some transaction =>
        have visits : waiting.visitNested id =
            if transaction.numNestedTransactions ≤ nestedTransactionMax then
              some transaction.nestedIds else none := by
          simp [visitNested, listed, pending]
        have each (more : List Int) (nested : Int) :
            (cancelWaiting fuel (waiting.cancelIds more) nested).toOption.map
              Prod.fst = (walk waiting.visitNested fuel nested).map
                fun visited => waiting.cancelIds (more ++ visited) := by
          rw [hypothesis more nested, Option.map_map]
          rfl
        have same : (transaction.cancelIf ids).numNestedTransactions =
            transaction.numNestedTransactions := by
          unfold WaitingTransaction.cancelIf
          split <;> rfl
        have nested : (transaction.cancelIf ids).nestedAt = transaction.nestedAt := by
          unfold WaitingTransaction.cancelIf
          split <;> rfl
        simp only [map_none, map_some, toOption_bind, same, visits]
        by_cases room : transaction.numNestedTransactions ≤ nestedTransactionMax
        · rw [cancelNested_loop each (fun index mem => (mem_range.mp mem).trans_le room),
            nested, ← nestedIds_eq room, if_pos room]
          simp only [bind_some]
          cases transaction.nestedIds.mapM (walk waiting.visitNested fuel) with
          | none => rfl
          | some below =>
            simp [Except.toOption, pure, Except.pure, cancelPending_cancelIds listed]
        · rw [cancelNested_outside (mem_range.mpr (Nat.lt_of_not_le room)) le_rfl, if_neg room]
          rfl

end GsKernel.Lwis
