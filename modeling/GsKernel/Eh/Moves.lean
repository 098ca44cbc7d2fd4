import GsKernel.Eh.Steps

/-!
# Moving, aborting, and every step

The thread moves requests from the software FIFO into the ring, one at a time behind a request
it retires, or all of them behind a scan. After a halt it calls back for the rest of the ring.
With these every step keeps the accounts.
-/

namespace GsKernel.Eh

open Lib.ColorIndex EhDevice ThreadState List

variable {ρ : Type} {eh next : EhDevice ρ} {submitted : List ρ} {retired completed called : Nat}

/-! ## From the software FIFO into the ring -/

section

variable (accounts : eh.Accounts submitted retired completed called)
include accounts

namespace EhDevice.Accounts

variable {priv : ρ}

/-- The thread takes a slot for the first request of a list. -/
lemma takeForThread (notFull : eh.fifo.full = false) (free : eh.fifo.insertion = none)
    {thread : ThreadState ρ} (taken : thread.taken = eh.thread.taken)
    (retiring : thread.retiring = eh.thread.retiring)
    (moving : { eh with thread }.moving = some priv)
    (threadAt : { eh with fifo := eh.fifo.takeSlot .thread priv, thread }.ThreadAt
      submitted retired completed called) :
    { eh with fifo := eh.fifo.takeSlot .thread priv, thread }.Accounts
      submitted retired completed called := by
  refine ⟨accounts.holds.takeSlot notFull _ _, ?_, ?_, threadAt, ?_⟩
  · have perm := accounts.perm
    rw [← taken] at perm
    exact perm
  · have empty : eh.fifo.filling = 0 := by simp [HwFifo.filling, free]
    have nr := accounts.nr
    rw [empty, ← retiring] at nr
    exact nr
  · intro insertion isInsertion _
    cases isInsertion
    exact moving

lemma refillStep {scan : Scan} (isThread : eh.thread = .refill scan)
    (ran : eh.refillStep scan = some next) : next.Sound := by
  have accounts := accounts.atThread isThread
  have goOn : { eh with thread := .scanning (scan.next eh.fifo.colorMask) }.Sound :=
    ⟨_, _, _, _, accounts.setThread rfl _ rfl rfl accounts.threadAt⟩
  unfold EhDevice.refillStep at ran
  split at ran
  · cases ran
    exact goOn
  rename_i priv rest isList
  split at ran
  · cases ran
  rename_i free
  split at ran
  · cases ran
    exact goOn
  rename_i notFull
  cases ran
  exact ⟨_, _, _, _,
    accounts.takeForThread (by simpa using notFull) (by simpa using free) rfl rfl
      (by simp [moving, isList]) accounts.threadAt⟩

/-- A request that the thread moves is the first of the list it moves from. -/
lemma refilled {scan : Scan} (isThread : eh.thread = .refilling scan)
    (taken : eh.fifo.insertion = some ⟨.thread, priv, true⟩) :
    { eh with
      fifo := eh.fifo.publish
      swFifo := eh.swFifo.tail
      swCount := eh.swCount - 1
      pool := eh.pool + 1
      thread := .scanning (scan.next eh.fifo.colorMask) }.Sound := by
  have accounts := accounts.atThread isThread
  have perm := accounts.perm
  obtain ⟨rest, isList⟩ : ∃ rest, eh.swFifo = priv :: rest :=
    head?_eq_some_iff.mp (accounts.moves _ taken rfl)
  simp only [ThreadState.taken, nil_append, isList] at perm
  refine ⟨submitted ++ [priv], retired, completed, called, accounts.holds.publish taken rfl, ?_,
    accounts.nr_publish taken rfl, accounts.threadAt,
    fun _ isNone => absurd isNone (by simp [HwFifo.publish])⟩
  rw [isList]
  exact perm_move accounts.holds.called_le perm

variable {processed : Nat} {rest : List ρ}

lemma flushed (isThread : eh.thread = .flushInserting rest processed)
    (taken : eh.fifo.insertion = some ⟨.thread, priv, true⟩) :
    { eh with
      fifo := eh.fifo.publish
      pool := eh.pool + 1
      thread := .flushing rest.tail (processed + 1) }.Sound := by
  have accounts := accounts.atThread isThread
  have perm := accounts.perm
  obtain ⟨others, isList⟩ := head?_eq_some_iff.mp (accounts.moves _ taken rfl)
  simp only [ThreadState.taken, isList] at perm
  refine ⟨submitted ++ [priv], retired, completed, called, accounts.holds.publish taken rfl, ?_,
    accounts.nr_publish taken rfl, accounts.threadAt,
    fun _ isNone => absurd isNone (by simp [HwFifo.publish])⟩
  rw [isList]
  exact perm_move accounts.holds.called_le perm

/-- A flush ends with what it could not move back in the software FIFO. -/
lemma finishFlush (isThread : eh.thread = .flushing rest processed) :
    (eh.finishFlush rest processed).Sound := by
  have accounts := accounts.atThread isThread
  refine ⟨submitted, retired, completed, called, accounts.holds, ?_, accounts.nr,
    accounts.threadAt, accounts.free rfl⟩
  refine accounts.perm.trans (Perm.append_left _ (Perm.map _ (Perm.append_left _ ?_)))
  exact perm_append_comm

lemma flushStep (isThread : eh.thread = .flushing rest processed)
    (ran : eh.flushStep rest processed = some next) : next.Sound := by
  unfold EhDevice.flushStep at ran
  split at ran
  · cases ran
    exact accounts.finishFlush isThread
  rename_i priv others
  split at ran
  · cases ran
  rename_i free
  split at ran
  · cases ran
    exact accounts.finishFlush isThread
  rename_i notFull
  cases ran
  have accounts := accounts.atThread isThread
  exact ⟨_, _, _, _,
    accounts.takeForThread (by simpa using notFull) (by simpa using free) rfl rfl rfl
      accounts.threadAt⟩

/-- The whole software FIFO is taken. -/
lemma startFlush (isThread : eh.thread = .flush) :
    { eh with swFifo := [], thread := .flushing eh.swFifo 0 }.Sound := by
  have accounts := accounts.atThread isThread
  refine ⟨submitted, retired, completed, called, accounts.holds, ?_, accounts.nr,
    accounts.threadAt, accounts.free rfl⟩
  simpa only [taken, nil_append, append_nil] using accounts.perm

/-! ## Aborting -/

lemma abortStep {index stop : Nat} (isThread : eh.thread = .aborting index stop) :
    (eh.abortStep index stop).Sound := by
  have accounts := accounts.atThread isThread
  have perm := accounts.perm
  obtain ⟨⟨all, isHalted, count⟩, isIndex, last, isStop, low, high⟩ := accounts.threadAt
  unfold EhDevice.abortStep
  split
  · exact ⟨submitted, retired, completed, called, accounts.holds, perm, accounts.nr,
      ⟨all, isHalted, count⟩, accounts.free rfl⟩
  rename_i notStop
  have more : retired + called < last := by
    rcases low.eq_or_lt with same | less
    · exact absurd (by rw [isIndex, isStop, same]) notStop
    · exact less
  have priv : eh.fifo.completions index = some submitted[retired + called] := by
    rw [isIndex]
    exact accounts.holds.kept _ (by omega) le_rfl
  refine ⟨submitted, retired, completed, called + 1, ?_, ?_, accounts.nr, ?_, accounts.free rfl⟩
  · rw [isIndex]
    exact accounts.holds.forget (by omega)
  · rw [drop_eq_getElem_cons (by omega)] at perm
    simp only [priv, taken, ← Nat.add_assoc]
    simpa only [taken, cons_append, map_cons, append_assoc, nil_append] using perm
  · refine ⟨⟨all, isHalted, congrArg (· + 1) count⟩, ?_, last, isStop, by omega, high⟩
    change (index + 1) &&& eh.fifo.indexMask = (retired + (called + 1)) % eh.fifo.size
    rw [eh.fifo.and_indexMask, isIndex, Nat.mod_add_mod, Nat.add_assoc]

/-- Behind a scan: after a halt the rest of the ring is aborted, otherwise the software FIFO is
flushed. -/
lemma scanned {ret : Int} (isThread : eh.thread = .scanned ret)
    (ran : { eh with thread := .scanned ret }.threadStep = some next) : next.Sound := by
  have accounts := accounts.atThread isThread
  obtain ⟨⟨rfl, noAbort⟩, failure⟩ := accounts.threadAt
  have goOn : ∀ thread : ThreadState ρ, thread.taken = [] → thread.retiring = 0 →
      { eh with thread }.ThreadAt submitted retired completed 0 → { eh with thread }.Sound :=
    fun thread taken retiring place => ⟨submitted, retired, completed, 0,
      accounts.setThread rfl thread taken retiring place⟩
  simp only [threadStep] at ran
  split at ran
  · rename_i failed
    obtain ⟨all, isHalted⟩ := failure failed.1
    have completed_le := accounts.holds.completed_le
    cases ran
    refine goOn _ rfl rfl ⟨⟨all, isHalted, noAbort⟩, ?_, submitted.length, ?_, by omega, le_rfl⟩
    · change eh.fifo.hwComplete &&& eh.fifo.indexMask = (retired + 0) % eh.fifo.size
      rw [eh.fifo.and_indexMask, accounts.holds.hw, slot_of_index, all, Nat.add_zero]
    · change eh.fifo.writeIndex &&& eh.fifo.indexMask = submitted.length % eh.fifo.size
      rw [eh.fifo.and_indexMask, accounts.holds.write, slot_of_index]
  split at ran
  · cases ran
    exact goOn .waiting rfl rfl ⟨rfl, noAbort⟩
  · cases ran
    exact goOn .flush rfl rfl ⟨rfl, noAbort⟩

/-- A scan begins at the complete index and ends where the hardware is. -/
lemma startScan (isThread : eh.thread = .waiting) :
    { eh with thread := .scanning ⟨eh.fifo.completeIndex, eh.fifo.hwComplete, 0⟩ }.Sound := by
  have accounts := accounts.atThread isThread
  exact ⟨_, _, _, _,
    accounts.setThread rfl _ rfl rfl
      ⟨accounts.threadAt, accounts.holds.complete, completed, accounts.holds.hw,
        accounts.holds.retired_le, le_rfl⟩⟩

end EhDevice.Accounts

end

/-! ## Every step -/

lemma EhDevice.Sound.threadStep (sound : eh.Sound) (ran : eh.threadStep = some next) :
    next.Sound := by
  obtain ⟨submitted, retired, completed, called, accounts⟩ := sound
  cases isThread : eh.thread <;>
    simp only [EhDevice.threadStep, isThread, reduceCtorEq] at ran
  case scanned ret => exact accounts.scanned isThread ran
  case waiting =>
    split at ran
    · cases ran
      exact accounts.startScan isThread
    · cases ran
  case scanning scan =>
    cases ran
    exact accounts.scanStep isThread
  case called scan ret =>
    cases ran
    exact ⟨_, _, _, _, accounts.idleStep isThread⟩
  case retired scan ret =>
    cases ran
    exact accounts.retireStep isThread
  case refill scan =>
    exact accounts.refillStep isThread ran
  case refilling scan =>
    split at ran
    · rename_i priv taken
      cases ran
      rw [← isThread]
      exact ⟨_, _, _, _, accounts.fillSlot taken rfl⟩
    · rename_i priv taken
      cases ran
      exact accounts.refilled isThread taken
    · cases ran
  case flush =>
    cases ran
    exact accounts.startFlush isThread
  case flushing rest processed =>
    exact accounts.flushStep isThread ran
  case flushInserting rest processed =>
    split at ran
    · rename_i priv taken
      cases ran
      rw [← isThread]
      exact ⟨_, _, _, _, accounts.fillSlot taken rfl⟩
    · rename_i priv taken
      cases ran
      exact accounts.flushed isThread taken
    · cases ran
  case aborting index stop =>
    cases ran
    exact accounts.abortStep isThread

lemma EhDevice.Sound.step (sound : eh.Sound) {step : EhStep ρ}
    (ran : eh.step step = some next) : next.Sound := by
  cases step with
  | request producer priv => exact sound.request ran
  | producer producer => exact sound.producerStep ran
  | complete status => exact sound.complete ran
  | thread => exact sound.threadStep ran

end GsKernel.Eh
