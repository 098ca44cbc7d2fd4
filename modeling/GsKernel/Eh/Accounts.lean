import GsKernel.Eh.Ring

/-!
# The accounts of the compression requests

Every request that was accepted has been called back for, or waits in the ring, in the list
that the thread has taken, or in the software FIFO. No step of a producer, of the hardware or
of the thread loses or repeats one.
-/

namespace GsKernel.Eh

open Lib.ColorIndex EhDevice List

variable {ρ : Type}

/-- The requests that the thread has taken from the software FIFO. -/
def ThreadState.taken : ThreadState ρ → List ρ
  | .flushing rest _ => rest
  | .flushInserting rest _ => rest
  | _ => []

/-- A request is counted from the moment its descriptor is set up. -/
def HwFifo.filling (fifo : HwFifo ρ) : Int :=
  match fifo.insertion with
  | some insertion => if insertion.filled then 1 else 0
  | none => 0

/-- A request is no longer counted shortly before it is retired. -/
def ThreadState.retiring : ThreadState ρ → Int
  | .retired _ _ => 1
  | _ => 0

/-- The request that the thread is moving into the ring. -/
def EhDevice.moving (eh : EhDevice ρ) : Option ρ :=
  match eh.thread with
  | .refilling _ => eh.swFifo.head?
  | .flushInserting rest _ => rest.head?
  | _ => none

/-- An index of a scan that is where it should be, with its end not behind the hardware. -/
structure Scan.At (scan : Scan) (modulus first completed : Nat) : Prop where
  index : scan.index = first % modulus
  stop : ∃ stop, scan.stop = stop % modulus ∧ first ≤ stop ∧ stop ≤ completed

/-- Where the thread is, by the numbers of requests retired, completed and called back for. -/
def EhDevice.ThreadAt (eh : EhDevice ρ) (submitted : List ρ) (retired completed called : Nat) :
    Prop :=
  match eh.thread with
  | .waiting | .flush | .flushing _ _ | .flushInserting _ _ => called = 0 ∧ eh.aborted = 0
  | .scanning scan =>
    (called = 0 ∧ eh.aborted = 0) ∧ scan.At (2 * eh.fifo.size) retired completed
  | .called scan ret | .retired scan ret =>
    (called = 1 ∧ eh.aborted = 0) ∧ scan.At (2 * eh.fifo.size) retired completed ∧
      scan.index ≠ scan.stop ∧ (ret < 0 → retired + 1 = completed ∧ eh.fifo.halted = true)
  | .refill scan | .refilling scan =>
    (called = 0 ∧ eh.aborted = 0) ∧
      (scan.next eh.fifo.colorMask).At (2 * eh.fifo.size) retired completed
  | .scanned ret =>
    (called = 0 ∧ eh.aborted = 0) ∧ (ret < 0 → retired = completed ∧ eh.fifo.halted = true)
  | .aborting index stop =>
    (retired = completed ∧ eh.fifo.halted = true ∧ eh.aborted = called) ∧
      index = (retired + called) % eh.fifo.size ∧
      ∃ last, stop = last % eh.fifo.size ∧ retired + called ≤ last ∧ last ≤ submitted.length
  | .exited => retired = completed ∧ eh.fifo.halted = true ∧ eh.aborted = called

/-- The accounts of a device. -/
structure EhDevice.Accounts (eh : EhDevice ρ) (submitted : List ρ)
    (retired completed called : Nat) : Prop where
  holds : eh.fifo.Holds submitted retired completed called
  perm : (eh.accepted.map some).Perm (eh.answered ++
    (submitted.drop (retired + called) ++ (eh.thread.taken ++ eh.swFifo)).map some)
  nr : eh.nrRequest = submitted.length - retired + eh.fifo.filling - eh.thread.retiring
  threadAt : eh.ThreadAt submitted retired completed called
  moves : ∀ insertion, eh.fifo.insertion = some insertion → insertion.holder = .thread →
    eh.moving = some insertion.priv

/-- The accounts of a device are in order. -/
def EhDevice.Sound (eh : EhDevice ρ) : Prop :=
  ∃ submitted retired completed called, eh.Accounts submitted retired completed called

lemma EhDevice.initial_sound (log pool : Nat) : (initial ρ log pool).Sound :=
  ⟨[], 0, 0, 0,
    { holds := ⟨rfl, rfl, rfl, le_rfl, le_rfl, le_rfl, Nat.zero_le _,
        fun isSome => absurd isSome (by simp [initial]),
        fun _ isSome => absurd isSome (by simp [initial]),
        fun _ inside => absurd inside (Nat.not_lt_zero _),
        fun _ _ high => absurd high (Nat.not_lt_zero _)⟩
      perm := by simp [initial, ThreadState.taken]
      nr := rfl
      threadAt := ⟨rfl, rfl⟩
      moves := fun _ isSome => absurd isSome (by simp [initial]) }⟩

section Submitting

variable {submitted rest : List ρ} {accepted : List ρ} {answered : List (Option ρ)} {priv : ρ}
  {start : Nat}

/-- A request that is accepted into the ring joins the end of the window. -/
lemma perm_submit (order : start ≤ submitted.length)
    (perm : (accepted.map some).Perm (answered ++ (submitted.drop start ++ rest).map some)) :
    ((accepted ++ [priv]).map some).Perm
      (answered ++ ((submitted ++ [priv]).drop start ++ rest).map some) := by
  rw [drop_append_of_le_length order, map_append]
  refine (perm.append_right _).trans ?_
  simp only [map_append, append_assoc]
  refine Perm.append_left _ (Perm.append_left _ ?_)
  exact perm_append_comm

/-- A request that moves from another place into the ring. -/
lemma perm_move (order : start ≤ submitted.length) (perm : (accepted.map some).Perm
      (answered ++ (submitted.drop start ++ (priv :: rest)).map some)) :
    (accepted.map some).Perm (answered ++ ((submitted ++ [priv]).drop start ++ rest).map some) := by
  rw [drop_append_of_le_length order]
  simpa using perm

end Submitting

section Steps

variable {eh next : EhDevice ρ} {submitted : List ρ} {retired completed called : Nat}

/-- The place of the thread is kept by steps of the others. -/
lemma EhDevice.ThreadAt.frame (threadAt : eh.ThreadAt submitted retired completed called)
    (next : EhDevice ρ) (thread : next.thread = eh.thread) (aborted : next.aborted = eh.aborted)
    (log : next.fifo.log = eh.fifo.log) {longer : List ρ} {more : Nat}
    (grows : submitted.length ≤ longer.length) (later : completed ≤ more)
    (halted : eh.fifo.halted = true → next.fifo.halted = true ∧ more = completed) :
    next.ThreadAt longer retired more called := by
  have size : next.fifo.size = eh.fifo.size := by rw [HwFifo.size, HwFifo.size, log]
  have color : next.fifo.colorMask = eh.fifo.colorMask := by
    rw [HwFifo.colorMask, HwFifo.colorMask, size]
  have scan : ∀ {scan : Scan} {first : Nat}, scan.At (2 * eh.fifo.size) first completed →
      scan.At (2 * next.fifo.size) first more := by
    rintro scan first ⟨index, stop, isStop, low, high⟩
    rw [size]
    exact ⟨index, stop, isStop, low, high.trans later⟩
  unfold ThreadAt at threadAt ⊢
  rw [thread]
  cases isThread : eh.thread with
  | waiting | flush | flushing rest processed | flushInserting rest processed =>
    rw [isThread] at threadAt
    rwa [aborted]
  | scanning current =>
    rw [isThread] at threadAt
    exact ⟨by rw [aborted]; exact threadAt.1, scan threadAt.2⟩
  | called current ret | retired current ret =>
    rw [isThread] at threadAt
    refine ⟨by rw [aborted]; exact threadAt.1, scan threadAt.2.1, threadAt.2.2.1, fun failed => ?_⟩
    obtain ⟨last, isHalted⟩ := threadAt.2.2.2 failed
    obtain ⟨stays, same⟩ := halted isHalted
    exact ⟨by omega, stays⟩
  | refill current | refilling current =>
    rw [isThread] at threadAt
    exact ⟨by rw [aborted]; exact threadAt.1, by rw [color]; exact scan threadAt.2⟩
  | scanned ret =>
    rw [isThread] at threadAt
    refine ⟨by rw [aborted]; exact threadAt.1, fun failed => ?_⟩
    obtain ⟨last, isHalted⟩ := threadAt.2 failed
    obtain ⟨stays, same⟩ := halted isHalted
    exact ⟨by omega, stays⟩
  | aborting index stop =>
    rw [isThread] at threadAt
    obtain ⟨⟨all, isHalted, count⟩, isIndex, last, isStop, low, high⟩ := threadAt
    obtain ⟨stays, same⟩ := halted isHalted
    exact ⟨⟨by omega, stays, by rw [aborted]; exact count⟩, by rw [size]; exact isIndex, last,
      by rw [size]; exact isStop, low, high.trans grows⟩
  | exited =>
    rw [isThread] at threadAt
    obtain ⟨all, isHalted, count⟩ := threadAt
    obtain ⟨stays, same⟩ := halted isHalted
    exact ⟨by omega, stays, by rw [aborted]; exact count⟩

lemma EhDevice.Sound.request (sound : eh.Sound) {producer : Nat} {priv : ρ}
    (ran : eh.request producer priv = some next) : next.Sound := by
  obtain ⟨submitted, retired, completed, called, accounts⟩ := sound
  unfold EhDevice.request at ran
  split at ran
  · cases ran
    exact ⟨submitted, retired, completed, called, { accounts with }⟩
  · cases ran

lemma EhDevice.Sound.complete (sound : eh.Sound) {status : CdescStatus}
    (ran : eh.complete status = some next) : next.Sound := by
  obtain ⟨submitted, retired, completed, called, accounts⟩ := sound
  unfold EhDevice.complete at ran
  split at ran
  · cases ran
  rename_i possible
  cases ran
  simp only [not_or] at possible
  obtain ⟨running, more, -⟩ := possible
  have notHalted : eh.fifo.halted = false := by simpa using running
  refine ⟨submitted, retired, completed + 1, called, ?_, accounts.perm, accounts.nr, ?_,
    accounts.moves⟩
  · exact accounts.holds.hwStep notHalted more status
  · have later : completed ≤ completed + 1 := Nat.le_add_right _ _
    exact accounts.threadAt.frame { eh with fifo := eh.fifo.hwStep status } rfl rfl rfl le_rfl
      later fun isHalted => absurd (isHalted.symm.trans notHalted) (by decide)

section

variable (accounts : eh.Accounts submitted retired completed called)
include accounts

/-- A slot is taken by a producer. -/
lemma EhDevice.Accounts.takeSlot (notFull : eh.fifo.full = false)
    (free : eh.fifo.insertion.isSome = false) (producer : Nat)
    (priv : ρ) (states : Nat → ProducerState ρ) :
    { eh with fifo := eh.fifo.takeSlot (.producer producer) priv, producers := states }.Accounts
      submitted retired completed called := by
  refine ⟨accounts.holds.takeSlot notFull _ _, accounts.perm, ?_,
    accounts.threadAt.frame _ rfl rfl rfl le_rfl le_rfl fun isHalted => ⟨isHalted, rfl⟩, ?_⟩
  · have none : eh.fifo.insertion = none := by simpa using free
    have empty : eh.fifo.filling = 0 := by simp [HwFifo.filling, none]
    have nr := accounts.nr
    rw [empty] at nr
    exact nr
  · intro insertion isInsertion isThread
    cases isInsertion
    cases isThread

variable {insertion : Insertion ρ}

/-- A descriptor is set up. -/
lemma EhDevice.Accounts.fillSlot (taken : eh.fifo.insertion = some insertion)
    (empty : insertion.filled = false) :
    { eh with fifo := eh.fifo.fillSlot insertion, nrRequest := eh.nrRequest + 1 }.Accounts
      submitted retired completed called := by
  refine ⟨accounts.holds.fillSlot taken, accounts.perm, ?_,
    accounts.threadAt.frame _ rfl rfl rfl le_rfl le_rfl fun isHalted => ⟨isHalted, rfl⟩, ?_⟩
  · have before : eh.fifo.filling = 0 := by simp [HwFifo.filling, taken, empty]
    have after : (eh.fifo.fillSlot insertion).filling = 1 := rfl
    have nr := accounts.nr
    rw [before] at nr
    change eh.nrRequest + 1 = submitted.length - retired + (eh.fifo.fillSlot insertion).filling -
      eh.thread.retiring
    rw [after]
    omega
  · intro other isOther isThread
    cases isOther
    exact accounts.moves insertion taken isThread

/-- How a published request changes the count of requests. -/
lemma EhDevice.Accounts.nr_publish (taken : eh.fifo.insertion = some insertion)
    (isFilled : insertion.filled = true) :
    eh.nrRequest = (submitted ++ [insertion.priv]).length - retired + eh.fifo.publish.filling -
      eh.thread.retiring := by
  have before : eh.fifo.filling = 1 := by simp [HwFifo.filling, taken, isFilled]
  have after : eh.fifo.publish.filling = 0 := rfl
  have nr := accounts.nr
  rw [before] at nr
  rw [after, length_append, length_singleton]
  push_cast
  omega

end

end Steps

end GsKernel.Eh
