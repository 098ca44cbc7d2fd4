import GsKernel.Eh.Accounts

/-!
# Producers and the scan keep the accounts

A producer adds its request to the ring or to the software FIFO, and the thread calls back for
the first request of the window and retires it.
-/

namespace GsKernel.Eh

open Lib.ColorIndex EhDevice ThreadState List

variable {ρ : Type} {eh next : EhDevice ρ} {submitted : List ρ} {retired completed called : Nat}

/-! ## Producers -/

/-- The ring takes in the request of a producer. -/
lemma EhDevice.Accounts.publish (accounts : eh.Accounts submitted retired completed called)
    {insertion : Insertion ρ} (taken : eh.fifo.insertion = some insertion)
    (isFilled : insertion.filled = true) (states : Nat → ProducerState ρ) :
    { eh with
      fifo := eh.fifo.publish
      producers := states
      accepted := eh.accepted ++ [insertion.priv] }.Accounts
      (submitted ++ [insertion.priv]) retired completed called := by
  refine ⟨accounts.holds.publish taken isFilled, perm_submit accounts.holds.called_le accounts.perm,
    accounts.nr_publish taken isFilled, ?_,
    fun _ isNone => absurd isNone (by simp [HwFifo.publish])⟩
  exact accounts.threadAt.frame _ rfl rfl rfl (by simp) le_rfl fun isHalted => ⟨isHalted, rfl⟩

/-- The software FIFO takes in the request of a producer, while the thread is not refilling. -/
lemma EhDevice.Accounts.queue (accounts : eh.Accounts submitted retired completed called)
    (unlocked : ∀ scan, eh.thread ≠ .refilling scan) (priv : ρ) (states : Nat → ProducerState ρ) :
    { eh with
      swFifo := priv :: eh.swFifo
      swCount := eh.swCount + 1
      producers := states
      accepted := eh.accepted ++ [priv] }.Accounts submitted retired completed called := by
  refine ⟨accounts.holds, ?_, accounts.nr,
    accounts.threadAt.frame _ rfl rfl rfl le_rfl le_rfl fun isHalted => ⟨isHalted, rfl⟩, ?_⟩
  · have perm := accounts.perm.append_right [some priv]
    rw [map_append]
    refine perm.trans ?_
    simp only [map_append, map_cons, append_assoc]
    refine Perm.append_left _ (Perm.append_left _ (Perm.append_left _ ?_))
    exact perm_append_comm
  · intro insertion isInsertion isThread
    have moves := accounts.moves insertion isInsertion isThread
    unfold moving at moves ⊢
    cases state : eh.thread with
    | refilling scan => exact absurd state (unlocked scan)
    | flushInserting rest processed => rwa [state] at moves
    | _ => simp [state] at moves

lemma EhDevice.Sound.producerStep (sound : eh.Sound) {producer : Nat}
    (ran : eh.producerStep producer = some next) : next.Sound := by
  obtain ⟨submitted, retired, completed, called, accounts⟩ := sound
  unfold EhDevice.producerStep at ran
  cases state : eh.producers producer <;> simp only [state, reduceCtorEq] at ran
  case toHw priv =>
    split at ran
    · cases ran
    rename_i free
    split at ran
    · cases ran
      exact ⟨submitted, retired, completed, called, { accounts with }⟩
    · rename_i notFull
      cases ran
      exact ⟨_, _, _, _,
        accounts.takeSlot (by simpa using notFull) (by simpa using free) producer priv _⟩
  case inserting =>
    split at ran
    · rename_i holder priv taken
      split at ran
      · cases ran
      · cases ran
        exact ⟨_, _, _, _, accounts.fillSlot taken rfl⟩
    · rename_i holder priv taken
      split at ran
      · cases ran
      · cases ran
        exact ⟨_, retired, completed, called, accounts.publish taken rfl _⟩
    · cases ran
  case toSw priv =>
    split at ran
    · cases ran
    · cases ran
      exact ⟨submitted, retired, completed, called, { accounts with }⟩
  case allocated priv =>
    split at ran
    · cases ran
    · rename_i unlocked
      cases ran
      exact ⟨_, _, _, _, accounts.queue unlocked priv _⟩

/-! ## The thread -/

section

variable (accounts : eh.Accounts submitted retired completed called)
include accounts

namespace EhDevice.Accounts

/-- The accounts with the place of the thread filled in. -/
lemma atThread {thread : ThreadState ρ} (isThread : eh.thread = thread) :
    { eh with thread }.Accounts submitted retired completed called := by
  subst isThread
  exact accounts

/-- The thread has not taken the lock of the ring, so nothing is asked of what it moves. -/
lemma free (still : eh.moving = none) {moved : Option ρ} (insertion : Insertion ρ)
    (isInsertion : eh.fifo.insertion = some insertion) (isThread : insertion.holder = .thread) :
    moved = some insertion.priv := by
  have moves := accounts.moves insertion isInsertion isThread
  rw [still] at moves
  cases moves

/-- The thread goes on without touching anything. -/
lemma setThread (still : eh.moving = none) (thread : ThreadState ρ)
    (taken : thread.taken = eh.thread.taken) (retiring : thread.retiring = eh.thread.retiring)
    (threadAt : { eh with thread }.ThreadAt submitted retired completed called) :
    { eh with thread }.Accounts submitted retired completed called := by
  refine ⟨accounts.holds, ?_, ?_, threadAt, accounts.free still⟩
  · change (eh.accepted.map some).Perm (eh.answered ++
      (submitted.drop (retired + called) ++ (thread.taken ++ eh.swFifo)).map some)
    rw [taken]
    exact accounts.perm
  · change eh.nrRequest = submitted.length - retired + eh.fifo.filling - thread.retiring
    rw [retiring]
    exact accounts.nr

variable {scan : Scan}

/-- The callback for a descriptor, or the end of the scan. -/
lemma scanStep (isThread : eh.thread = .scanning scan) : (eh.scanStep scan).Sound := by
  have accounts := accounts.atThread isThread
  obtain ⟨⟨rfl, noAbort⟩, scanAt⟩ := accounts.threadAt
  unfold EhDevice.scanStep
  split
  · refine ⟨submitted, retired, completed, 0, accounts.setThread rfl _ rfl rfl ?_⟩
    exact ⟨⟨rfl, noAbort⟩, fun failed => absurd failed (by simp)⟩
  rename_i notStop
  obtain ⟨stop, isStop, low, high⟩ := scanAt.stop
  have completed_le := accounts.holds.completed_le
  have before : retired < completed := by
    rcases low.eq_or_lt with same | less
    · exact absurd (by rw [scanAt.index, isStop, same]) notStop
    · omega
  have slot : scan.index &&& eh.fifo.indexMask = retired % eh.fifo.size := by
    rw [eh.fifo.and_indexMask, scanAt.index, slot_of_index]
  have priv : eh.fifo.completions (retired % eh.fifo.size) = some submitted[retired] :=
    accounts.holds.kept retired (by omega) (by omega)
  refine ⟨submitted, retired, completed, 1, accounts.holds.call (by omega), ?_, accounts.nr, ?_,
    accounts.free rfl⟩
  · have perm := accounts.perm
    simp only [slot, priv]
    simp only [taken, Nat.add_zero] at perm ⊢
    rw [drop_eq_getElem_cons (by omega)] at perm
    simpa only [cons_append, map_cons, append_assoc, nil_append] using perm
  · refine ⟨⟨rfl, noAbort⟩, scanAt, notStop, fun failed => ?_⟩
    by_cases isHalted : eh.fifo.status (scan.index &&& eh.fifo.indexMask) = .errorHalted
    · rw [slot] at isHalted
      exact accounts.holds.halts retired le_rfl before isHalted
    · rw [if_neg isHalted] at failed
      exact absurd failed (by decide)

/-- The count of requests goes down for a request that was called back for. -/
lemma idleStep {ret : Int} (isThread : eh.thread = .called scan ret) :
    { eh with
      fifo := eh.fifo.idle scan.index
      nrRequest := eh.nrRequest - 1
      thread := .retired scan ret }.Accounts submitted retired completed called := by
  have accounts := accounts.atThread isThread
  have nr : eh.nrRequest = submitted.length - retired + eh.fifo.filling - 0 := accounts.nr
  refine ⟨accounts.holds.idle _, accounts.perm, ?_, accounts.threadAt, accounts.free rfl⟩
  change eh.nrRequest - 1 = submitted.length - retired + eh.fifo.filling - 1
  omega

/-- The complete index passes a request; the scan goes on or has failed. -/
lemma retireStep {ret : Int} (isThread : eh.thread = .retired scan ret) :
    { eh with
      fifo := eh.fifo.retire
      thread := if ret < 0 then .scanned ret else .refill scan }.Sound := by
  have accounts := accounts.atThread isThread
  have perm := accounts.perm
  have nr : eh.nrRequest = submitted.length - retired + eh.fifo.filling - 1 := accounts.nr
  obtain ⟨⟨rfl, noAbort⟩, scanAt, notStop, failure⟩ := accounts.threadAt
  obtain ⟨stop, isStop, low, high⟩ := scanAt.stop
  have before : retired < stop := by
    rcases low.eq_or_lt with same | less
    · exact absurd (by rw [scanAt.index, isStop, same]) notStop
    · exact less
  have count : eh.nrRequest =
      submitted.length - ((retired + 1 : Nat) : Int) + eh.fifo.retire.filling - 0 := by
    have same : eh.fifo.retire.filling = eh.fifo.filling := rfl
    rw [same]
    push_cast
    omega
  refine ⟨submitted, retired + 1, completed, 0, accounts.holds.retire (by omega), ?_, ?_, ?_,
    accounts.free rfl⟩
  · by_cases failed : ret < 0
    · simpa only [if_pos failed, taken] using perm
    · simpa only [if_neg failed, taken] using perm
  · by_cases failed : ret < 0
    · simpa only [if_pos failed, retiring] using count
    · simpa only [if_neg failed, retiring] using count
  · by_cases failed : ret < 0
    · simp only [ThreadAt, if_pos failed]
      exact ⟨⟨trivial, noAbort⟩, failure⟩
    · simp only [ThreadAt, if_neg failed]
      refine ⟨⟨trivial, noAbort⟩, ?_, stop, isStop, before, high⟩
      change (scan.index + 1) &&& eh.fifo.colorMask = (retired + 1) % (2 * eh.fifo.size)
      rw [eh.fifo.and_colorMask, scanAt.index, Nat.mod_add_mod]

end EhDevice.Accounts

end

end GsKernel.Eh
