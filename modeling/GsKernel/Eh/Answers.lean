import GsKernel.Eh.Moves

/-!
# Which requests are answered

While the thread runs the accounts give what it has answered and what it counts. After a halt it
leaves requests behind that are in the software FIFO, accepted while it aborts, or fill the whole
ring: the abort compares indices without their color, and sees a full ring as empty.
-/

namespace GsKernel.Eh

open Lib.ColorIndex EhDevice Lib.Runs ThreadState List

variable {ρ : Type}

/-! ## While the thread runs -/

/-- The producer's next step is to accept its request. -/
def EhDevice.accepts (eh : EhDevice ρ) (producer : Nat) : Bool :=
  match eh.producers producer with
  | .inserting => eh.fifo.insertion.any Insertion.filled
  | .allocated _ => true
  | _ => false

/-- A step that loses no request: an abort begins with an empty software FIFO and a ring that
is not full, and no request is accepted during an abort. -/
def EhDevice.Meets (eh : EhDevice ρ) : EhStep ρ → Prop
  | .thread =>
    match eh.thread with
    | .scanned ret => ret < 0 → eh.fifo.halted = true → eh.swFifo.isEmpty ∧ eh.fifo.full = false
    | _ => True
  | .producer producer =>
    match eh.thread with
    | .aborting _ _ => eh.accepts producer = false
    | _ => True
  | _ => True

instance decidableMeets (eh : EhDevice ρ) : (step : EhStep ρ) → Decidable (eh.Meets step)
  | .thread =>
    match isThread : eh.thread with
    | .scanned ret =>
      decidable_of_iff (ret < 0 → eh.fifo.halted = true →
        eh.swFifo.isEmpty ∧ eh.fifo.full = false) (by simp only [Meets, isThread])
    | .waiting | .scanning _ | .called _ _ | .retired _ _ | .refill _ | .refilling _ | .flush
    | .flushing _ _ | .flushInserting _ _ | .aborting _ _ | .exited =>
      .isTrue (by simp only [Meets, isThread])
  | .producer producer =>
    match isThread : eh.thread with
    | .aborting _ _ =>
      decidable_of_iff (eh.accepts producer = false) (by simp only [Meets, isThread])
    | .waiting | .scanning _ | .called _ _ | .retired _ _ | .refill _ | .refilling _ | .flush
    | .flushing _ _ | .flushInserting _ _ | .scanned _ | .exited =>
      .isTrue (by simp only [Meets, isThread])
  | .request _ _ => .isTrue trivial
  | .complete _ => .isTrue trivial

/-- Nobody is in the middle of something: the ring is not locked, and the thread waits or has
exited. -/
def EhDevice.Quiescent (eh : EhDevice ρ) : Prop :=
  eh.fifo.insertion = none ∧ (eh.thread = .waiting ∨ eh.thread = .exited)

/-- The requests of the descriptors that the hardware works on are not answered. -/
def EhDevice.WorkUnanswered (eh : EhDevice ρ) : Prop :=
  ∃ working others : List ρ, working.length =
      (eh.fifo.writeIndex + 2 * eh.fifo.size - eh.fifo.hwComplete) % (2 * eh.fifo.size) ∧
    (∀ offset (inside : offset < working.length),
      eh.fifo.completions ((eh.fifo.hwComplete + offset) &&& eh.fifo.indexMask) =
        some working[offset]) ∧
    (eh.accepted.map some).Perm (eh.answered ++ (working ++ others).map some)

section Running

variable {eh : EhDevice ρ} {submitted : List ρ} {retired completed called : Nat}

section

variable (accounts : eh.Accounts submitted retired completed called)
include accounts

/-- The thread calls back only for what the hardware has completed, until it aborts. -/
lemma EhDevice.Accounts.called_completed (running : eh.fifo.halted = false) :
    retired + called ≤ completed := by
  have retired_le := accounts.holds.retired_le
  have threadAt := accounts.threadAt
  unfold ThreadAt at threadAt
  have inScan : ∀ {scan : Scan}, scan.At (2 * eh.fifo.size) retired completed →
      scan.index ≠ scan.stop → retired + 1 ≤ completed := by
    rintro scan ⟨isIndex, stop, isStop, low, high⟩ notStop
    have apart : retired ≠ stop := fun same => notStop (by rw [isIndex, isStop, same])
    omega
  split at threadAt
  · omega
  · omega
  · omega
  · omega
  · omega
  · rw [threadAt.1.1]
    exact inScan threadAt.2.1 threadAt.2.2.1
  · rw [threadAt.1.1]
    exact inScan threadAt.2.1 threadAt.2.2.1
  · omega
  · omega
  · omega
  · exact absurd (running.symm.trans threadAt.1.2.1) (by decide)
  · exact absurd (running.symm.trans threadAt.2.1) (by decide)

lemma EhDevice.Accounts.workUnanswered (running : eh.fifo.halted = false) : eh.WorkUnanswered := by
  have calledFirst := accounts.called_completed running
  have completed_le := accounts.holds.completed_le
  have bounded := accounts.holds.bounded
  have window : (submitted.drop (retired + called)).Perm
      (submitted.drop completed ++ (submitted.drop (retired + called)).take
        (completed - (retired + called))) := by
    have split := take_append_drop (completed - (retired + called))
      (submitted.drop (retired + called))
    rw [drop_drop, Nat.add_sub_cancel' calledFirst] at split
    exact (Perm.of_eq split.symm).trans perm_append_comm
  refine ⟨submitted.drop completed, (submitted.drop (retired + called)).take
    (completed - (retired + called)) ++ (eh.thread.taken ++ eh.swFifo), ?_, ?_,
    accounts.perm.trans (Perm.append_left _ (Perm.map _ ?_))⟩
  · rw [accounts.holds.write, accounts.holds.hw, length_drop]
    exact (Lib.ColorIndex.distance eh.fifo.size_pos completed_le (by omega)).symm
  · intro offset inside
    rw [length_drop] at inside
    rw [eh.fifo.and_indexMask, accounts.holds.hw, Nat.add_mod, slot_of_index, ← Nat.add_mod,
      getElem_drop]
    exact accounts.holds.kept (completed + offset) (by omega) (by omega)
  · rw [← append_assoc (submitted.drop completed)]
    exact window.append_right _

/-- With both FIFOs drained everything is answered. -/
lemma EhDevice.Accounts.drained (swEmpty : eh.swFifo = []) (noneTaken : eh.thread.taken = [])
    (hwEmpty : eh.fifo.writeIndex = eh.fifo.completeIndex) :
    eh.answered.Perm (eh.accepted.map some) := by
  have order := accounts.holds.retired_le.trans accounts.holds.completed_le
  have perm := accounts.perm
  rw [accounts.holds.write, accounts.holds.complete,
    index_eq_iff eh.fifo.size_pos order accounts.holds.bounded] at hwEmpty
  rw [swEmpty, noneTaken, drop_eq_nil_of_le (by omega)] at perm
  simpa using perm.symm

/-- What is counted at a quiescent point. -/
lemma EhDevice.Accounts.counted (quiescent : eh.Quiescent) :
    eh.nrRequest = ((submitted.length - retired : Nat) : Int) ∧
      eh.nrRequest + eh.answered.length + eh.swFifo.length = eh.accepted.length + eh.aborted := by
  obtain ⟨unlocked, place⟩ := quiescent
  have called_le := accounts.holds.called_le
  have nr := accounts.nr
  have length := accounts.perm.length_eq
  have threadAt := accounts.threadAt
  have empty : eh.fifo.filling = 0 := by simp [HwFifo.filling, unlocked]
  simp only [length_map, length_append, length_drop] at length
  rw [empty] at nr
  rcases place with isThread | isThread
  · simp only [isThread, taken, retiring, ThreadAt, length_nil] at nr length threadAt
    omega
  · simp only [isThread, taken, retiring, ThreadAt, length_nil] at nr length threadAt
    omega

end

end Running

/-! ## After a halt -/

/-- An abort that will answer everything, and one that has. -/
def EhDevice.Clean (eh : EhDevice ρ) : Prop :=
  match eh.thread with
  | .aborting _ stop =>
    eh.swFifo = [] ∧ stop = eh.fifo.writeIndex &&& eh.fifo.indexMask ∧ eh.fifo.full = false
  | .exited => eh.answered.Perm (eh.atExit.map some)
  | _ => True

section Aborting

variable {eh next : EhDevice ρ} {submitted : List ρ} {retired completed called : Nat}

/-- An abort that has come to its end has answered everything in the ring. -/
lemma EhDevice.Accounts.abort_end (accounts : eh.Accounts submitted retired completed called)
    {index stop : Nat} (isThread : eh.thread = .aborting index stop) (clean : eh.Clean)
    (isEnd : index = stop) : eh.answered.Perm (eh.accepted.map some) := by
  have bounded := accounts.holds.bounded
  have perm := (accounts.atThread isThread).perm
  obtain ⟨-, isIndex, last, -, low, high⟩ := (accounts.atThread isThread).threadAt
  simp only [Clean, isThread] at clean
  obtain ⟨swEmpty, isStop, notFull⟩ := clean
  have room : submitted.length ≠ retired + eh.fifo.size := fun full => by
    rw [accounts.holds.full_iff.mpr full] at notFull
    exact absurd notFull (by decide)
  have all : retired + called = submitted.length := by
    by_contra apart
    refine @slot_ne eh.fifo.size retired (retired + called) submitted.length (by omega) (by omega)
      (by omega) (by omega) apart ?_
    rw [← isIndex, isEnd, isStop, eh.fifo.and_indexMask, accounts.holds.write, slot_of_index]
  rw [swEmpty, drop_eq_nil_of_le (by omega)] at perm
  simpa [taken] using perm.symm

/-- What a step of a producer that accepts nothing leaves alone. -/
lemma EhDevice.Clean.producerStep (clean : eh.Clean) {producer : Nat}
    (meets : eh.Meets (.producer producer)) (ran : eh.producerStep producer = some next) :
    next.Clean := by
  unfold EhDevice.producerStep at ran
  cases state : eh.producers producer <;> simp only [state, reduceCtorEq] at ran
  case toHw priv =>
    split at ran
    · cases ran
    split at ran
    · cases ran
      exact clean
    · cases ran
      exact clean
  case toSw priv =>
    split at ran
    · cases ran
    · cases ran
      exact clean
  case inserting =>
    split at ran
    · split at ran
      · cases ran
      · cases ran
        exact clean
    · rename_i holder priv taken
      split at ran
      · cases ran
      cases ran
      cases isThread : eh.thread with
      | aborting index stop =>
        simp [Meets, isThread, accepts, state, taken] at meets
      | exited => simpa only [Clean, isThread] using clean
      | _ => simp only [Clean]
    · cases ran
  case allocated priv =>
    split at ran
    · cases ran
    cases ran
    cases isThread : eh.thread with
    | aborting index stop =>
      simp [Meets, isThread, accepts, state] at meets
    | exited => simpa only [Clean, isThread] using clean
    | _ => simp only [Clean]

lemma EhDevice.Clean.threadStep (clean : eh.Clean) (sound : eh.Sound)
    (meets : eh.Meets .thread) (ran : eh.threadStep = some next) : next.Clean := by
  unfold EhDevice.threadStep at ran
  cases isThread : eh.thread with
  | scanned ret =>
    simp only [isThread] at ran
    simp only [Meets, isThread, List.isEmpty_iff] at meets
    split at ran
    · rename_i failed
      cases ran
      obtain ⟨swEmpty, notFull⟩ := meets failed.1 failed.2
      exact ⟨swEmpty, rfl, notFull⟩
    split at ran
    · cases ran
      trivial
    · cases ran
      trivial
  | aborting index stop =>
    simp only [isThread, Option.some.injEq, abortStep] at ran
    split at ran
    · rename_i isEnd
      subst ran
      obtain ⟨submitted, retired, completed, called, accounts⟩ := sound
      exact accounts.abort_end isThread clean isEnd
    · subst ran
      simp only [Clean, isThread] at clean
      exact clean
  | retired scan ret =>
    simp only [isThread] at ran
    cases ran
    by_cases failed : ret < 0
    · simp only [Clean, if_pos failed]
    · simp only [Clean, if_neg failed]
  | waiting | scanning scan | called scan ret | refill scan | refilling scan | flush
  | flushing rest processed | flushInserting rest processed =>
    -- none of these leads into an abort, so `Clean` asks nothing of the next state
    simp only [isThread, scanStep, refillStep, flushStep] at ran
    repeat' split at ran
    all_goals
      cases ran
      try trivial
  | exited => simp [isThread] at ran

lemma EhDevice.Clean.step (clean : eh.Clean) (sound : eh.Sound) {step : EhStep ρ}
    (meets : eh.Meets step) (ran : eh.step step = some next) : next.Clean := by
  cases step with
  | request producer priv =>
    simp only [EhDevice.step, EhDevice.request] at ran
    split at ran
    · cases ran
      exact clean
    · cases ran
  | producer producer => exact clean.producerStep meets ran
  | complete status =>
    simp only [EhDevice.step, EhDevice.complete] at ran
    split at ran
    · cases ran
    · cases ran
      exact clean
  | thread => exact clean.threadStep sound meets ran

end Aborting

/-! ## Whole runs -/

/-- For every size of the ring and of the pool, and every interleaving. When both FIFOs are
drained, every request accepted was called back for once, with its own data. When the thread
has exited after a halt, the same holds of the requests accepted until then, if the abort began
with an empty software FIFO and a ring that was not full and nothing was accepted during it.
No request that the hardware works on was called back for. At quiescent points `nr_request` is
the distance of the indices and at most the size of the ring, and it is the number of requests
submitted and not called back for exactly when none was aborted. -/
theorem eh_requests_answered_once (log pool : Nat) (steps : List (EhStep ρ)) (eh : EhDevice ρ)
    (ran : steps.foldlM step (initial ρ log pool) = some eh) :
    (eh.swFifo = [] → eh.thread.taken = [] → eh.fifo.writeIndex = eh.fifo.completeIndex →
      eh.answered.Perm (eh.accepted.map some)) ∧
    (Lib.Runs.AlongM step Meets (initial ρ log pool) steps →
      eh.thread = .exited → eh.answered.Perm (eh.atExit.map some)) ∧
    (eh.fifo.halted = false → eh.WorkUnanswered) ∧
    (eh.Quiescent →
      eh.nrRequest = ((eh.fifo.writeIndex + 2 * eh.fifo.size - eh.fifo.completeIndex) %
        (2 * eh.fifo.size) : Nat) ∧
      eh.nrRequest ≤ eh.fifo.size ∧
      (eh.nrRequest = eh.accepted.length - eh.swFifo.length - eh.answered.length ↔
        eh.aborted = 0)) := by
  have sound : eh.Sound := foldlM_preserves Sound step
    (fun _ _ _ sound stepped => sound.step stepped) steps (initial_sound log pool) ran
  obtain ⟨submitted, retired, completed, called, accounts⟩ := sound
  refine ⟨accounts.drained, fun along isThread => ?_, accounts.workUnanswered, fun quiescent => ?_⟩
  · have clean := foldlM_invariant_along (fun eh : EhDevice ρ => eh.Sound ∧ eh.Clean) step Meets
      (fun _ _ _ both meets stepped => ⟨both.1.step stepped, both.2.step both.1 meets stepped⟩)
      steps ⟨initial_sound log pool, trivial⟩ along ran
    simpa only [Clean, isThread] using clean.2
  · have bounded := accounts.holds.bounded
    obtain ⟨nr, balance⟩ := accounts.counted quiescent
    refine ⟨?_, ?_, ?_⟩
    · rw [accounts.holds.distance, nr]
    · rw [nr]
      omega
    · omega

/-- Two requests of which the first halts the hardware and the second is aborted. -/
def haltedRun : List (EhStep Nat) :=
  [.request 0 10, .producer 0, .producer 0, .producer 0,
    .request 1 11, .producer 1, .producer 1, .producer 1, .complete .errorHalted,
    .thread, .thread, .thread, .thread, .thread, .thread, .thread]

/-- A request that is compressed, until the thread waits again. -/
def compressedRun : List (EhStep Nat) :=
  [.request 0 10, .producer 0, .producer 0, .producer 0, .complete .compressed,
    .thread, .thread, .thread, .thread, .thread, .thread, .thread, .thread, .thread]

/-- Both requests of the first run are answered, and `nr_request` still counts the one that was
aborted. The second run is drained and counts nothing. -/
theorem eh_requests_answered_once_runs : (∃ eh, haltedRun.foldlM step (initial Nat 1 4) = some eh ∧
      eh.thread = .exited ∧ eh.answered.Perm (eh.atExit.map some) ∧
      eh.nrRequest ≠ eh.accepted.length - eh.swFifo.length - eh.answered.length) ∧
    (∃ eh, compressedRun.foldlM step (initial Nat 1 4) = some eh ∧
      eh.answered.Perm (eh.accepted.map some) ∧ eh.WorkUnanswered ∧
      eh.nrRequest = eh.accepted.length - eh.swFifo.length - eh.answered.length) := by
  have along : AlongM step Meets (initial Nat 1 4) haltedRun := alongM_of_check (by decide +kernel)
  have first : ∃ eh, haltedRun.foldlM step (initial Nat 1 4) = some eh ∧
      (eh.thread = .exited ∧ eh.fifo.insertion = none ∧ eh.aborted = 1) :=
    exists_reached _ (by decide +kernel)
  have second : ∃ eh, compressedRun.foldlM step (initial Nat 1 4) = some eh ∧
      ((eh.swFifo = [] ∧ eh.thread = .waiting ∧ eh.fifo.writeIndex = eh.fifo.completeIndex) ∧
        eh.fifo.insertion = none ∧ eh.fifo.halted = false ∧ eh.aborted = 0) :=
    exists_reached _ (by decide +kernel)
  obtain ⟨halted, haltedRan, exited, unlocked, aborted⟩ := first
  obtain ⟨eh, ran, ⟨swEmpty, waiting, hwEmpty⟩, free, running, noAbort⟩ := second
  have haltedHolds := eh_requests_answered_once 1 4 haltedRun halted haltedRan
  have holds := eh_requests_answered_once 1 4 compressedRun eh ran
  refine ⟨⟨halted, haltedRan, exited, haltedHolds.2.1 along exited, fun same => ?_⟩,
    eh, ran, holds.1 swEmpty (by rw [waiting]; rfl) hwEmpty, holds.2.2.1 running,
    (holds.2.2.2 ⟨free, .inl waiting⟩).2.2.mpr noAbort⟩
  have none := (haltedHolds.2.2.2 ⟨unlocked, .inr exited⟩).2.2.mp same
  omega

/-- With a ring of one descriptor, a request accepted after the hardware has halted fills the
ring, and the thread exits without answering it. -/
theorem eh_full_ring_unanswered :
    ∃ eh, ([.request 0 10, .producer 0, .producer 0, .producer 0, .complete .errorHalted,
        .thread, .thread, .thread, .thread, .request 1 11, .producer 1, .producer 1, .producer 1,
        .thread, .thread] : List (EhStep Nat)).foldlM step (initial Nat 0 4) =
        some eh ∧
      (eh.thread = .exited ∧ eh.atExit = [10, 11] ∧ eh.answered = [some 10]) :=
  exists_reached _ (by decide +kernel)

end GsKernel.Eh
