import GsKernel.Lwis.PeriodicRuns

/-!
# The events of a periodic I/O

What the executions of a periodic I/O send over a whole run. The events are right for every
positive `batch_size`; nothing rejects the others, and with none the first execution divides by
zero.
-/

namespace GsKernel.Lwis

open Lib.ByteSpans PeriodicState PeriodicInfo List

variable {width : Nat} {info : PeriodicInfo} {sizes : PeriodicSizes} {state : PeriodicState}
  {periods : Nat} {current : List (List UInt8)}

/-- A periodic I/O that has failed is passed over by the worker. -/
lemma processProxy_ended (ended : state.errorCode ≠ 0) (reply : Nat → EntryReply) :
    state.processProxy width info reply = some { state with
      events := state.events ++ [⟨.passedOver, state.errorCode, 0, 0, []⟩] } := by
  simp [processProxy, ended]

/-! ## What the executions are to send -/

/-- The events of executions with the given results, with the results of the current batch: a
batch is sent when it is complete, and a failure sends what there is and ends everything. -/
def batchEvents (batchSize : Int) :
    List (List UInt8) → List (Except Int (List UInt8)) → List PeriodicEvent
  | _, [] => []
  | current, .ok results :: rest =>
    let batch := current ++ [results]
    if (batch.length : Int) = batchSize then
      ⟨.batch, 0, batchSize, batch.flatten.length, batch.flatten⟩ :: batchEvents batchSize [] rest
    else batchEvents batchSize batch rest
  | current, .error code :: rest =>
    ⟨.failed, code, current.length, current.flatten.length, current.flatten⟩ ::
      rest.map fun _ => ⟨.passedOver, code, 0, 0, []⟩

/-- How many executions are started: none after the first that fails. -/
def executionsStarted : List (Except Int (List UInt8)) → Nat
  | [] => 0
  | .ok _ :: rest => executionsStarted rest + 1
  | .error _ :: _ => 1

/-- The results of executions with the given replies. -/
def PeriodicInfo.results (info : PeriodicInfo) (width : Nat) (replies : List (Nat → EntryReply)) :
    List (Except Int (List UInt8)) :=
  replies.map fun reply => executionResult width reply info.entries 0

/-- A run sends what it is to send, starts no execution after a failure, and has written
inside the response. -/
structure PeriodicState.Sent (info : PeriodicInfo) (sizes : PeriodicSizes)
    (state final : PeriodicState) (current : List (List UInt8))
    (results : List (Except Int (List UInt8))) : Prop where
  inside : ∀ span ∈ final.writes, span.offset + span.length ≤ sizes.respSize
  events : final.events = state.events ++ batchEvents info.batchSize current results
  executions : final.executions = state.executions + executionsStarted results

/-- After a failure every further proxy is passed over. -/
lemma ended_run (ended : state.errorCode ≠ 0) (replies : List (Nat → EntryReply)) :
    ∃ final, replies.foldlM (processProxy width info) state = some final ∧
      final.writes = state.writes ∧ final.executions = state.executions ∧
      final.events = state.events ++
        replies.map fun _ => ⟨.passedOver, state.errorCode, 0, 0, []⟩ := by
  induction replies generalizing state with
  | nil => exact ⟨state, rfl, rfl, rfl, by simp⟩
  | cons reply replies ih =>
    have still : errorCode { state with
      events := state.events ++ [⟨.passedOver, state.errorCode, 0, 0, []⟩] } ≠ 0 := ended
    obtain ⟨final, ran, writes, executions, events⟩ := ih still
    refine ⟨final, ?_, writes, executions, ?_⟩
    · rw [foldlM_cons, processProxy_ended ended]
      exact ran
    · simpa using events

/-- Results of the same length, one behind the other. -/
lemma flatten_length {current : List (List UInt8)} {period : Nat}
    (each : ∀ results ∈ current, results.length = period) :
    current.flatten.length = current.length * period := by
  rw [length_flatten, map_congr_left each]
  simp

/-- A run is right, from any point of a batch on. -/
lemma PeriodicState.Collecting.run (accepted : Accepted width info sizes periods)
    (collecting : state.Collecting width info sizes periods current)
    (replies : List (Nat → EntryReply)) :
    ∃ final, replies.foldlM (processProxy width info) state = some final ∧
      state.Sent info sizes final current (info.results width replies) := by
  induction replies generalizing state current with
  | nil => exact ⟨state, rfl, collecting.written, by simp [results, batchEvents], rfl⟩
  | cons reply replies ih =>
    have sized := flatten_length collecting.each
    cases result : executionResult width reply info.entries 0 with
    | error code =>
      obtain ⟨next, stepped, executions, error, inside, events⟩ := collecting.fails accepted result
      obtain ⟨final, ran, writes, started, sent⟩ :=
        ended_run (error ▸ executionResult_error result) replies
      refine ⟨final, by rw [foldlM_cons, stepped]; exact ran, writes ▸ inside, ?_, ?_⟩
      · rw [sent, events, error]
        simp [results, batchEvents, result, sized, Function.comp_def]
      · rw [started, executions]
        simp [results, executionsStarted, result]
    | ok bytes =>
      obtain ⟨next, stepped, executions, after⟩ := collecting.succeeds accepted result
      rw [foldlM_cons, stepped]
      by_cases full : current.length + 1 = periods
      · rw [if_pos full] at after
        obtain ⟨final, ran, inside, sent, started⟩ := ih after.1
        have isFull : (current.length : Int) + 1 = info.batchSize := by
          rw [accepted.batchSize, ← full, Nat.cast_succ]
        have whole : sizes.resultsSizeBytes = (current ++ [bytes]).flatten.length := by
          rw [accepted.resultsSize, ← full, flatten_append, length_append, sized,
            flatten_singleton, executionResult_length result, Nat.succ_mul]
        refine ⟨final, ran, inside, ?_, ?_⟩
        · rw [sent, after.2, whole, ← accepted.batchSize]
          simp [results, batchEvents, result, isFull]
        · rw [started, executions]
          simp only [results, map_cons, executionsStarted, result]
          omega
      · rw [if_neg full] at after
        obtain ⟨final, ran, inside, sent, started⟩ := ih after.1
        have isShort : (current.length : Int) + 1 ≠ info.batchSize := by
          rw [accepted.batchSize]
          exact_mod_cast full
        refine ⟨final, ran, inside, ?_, ?_⟩
        · rw [sent, after.2]
          simp [results, batchEvents, result, isShort]
        · rw [started, executions]
          simp only [results, map_cons, executionsStarted, result]
          omega

/-- Every run of a periodic I/O, whatever its memory holds at first and whatever the device
answers, sends what it is to send and writes inside its response. -/
def PeriodicInfo.BatchesRight (info : PeriodicInfo) (width : Nat) (sizes : PeriodicSizes) : Prop :=
  ∀ memory replies, ∃ final, replies.foldlM (processProxy width info)
      (submitted sizes memory) = some final ∧
    (submitted sizes memory).Sent info sizes final [] (info.results width replies)

/-- The batches of an accepted periodic I/O are right when its `batch_size` is positive. -/
theorem periodic_io_batches (bitwidth : UInt32) (info : PeriodicInfo) (sizes : PeriodicSizes)
    (prepared : preparePeriodicResponse (regValueBytewidth bitwidth).toNat info =
      some sizes) (positive : 0 < info.batchSize) :
    info.BatchesRight (regValueBytewidth bitwidth).toNat sizes := by
  intro memory replies
  obtain ⟨periods, batchSize⟩ := Int.eq_ofNat_of_zero_le positive.le
  have accepted := Accepted.of_prepared (regValueBytewidth bitwidth).toNat_lt batchSize
    (by omega) prepared
  exact (accepted.submitted memory).run accepted replies

/-- Two reads of a 32-bit device, in batches of the given size. -/
def readTwice (batchSize : Int) (int32 : -2 ^ 31 ≤ batchSize ∧ batchSize < 2 ^ 31) : PeriodicInfo :=
  ⟨batchSize, [⟨⟨.read, 0⟩, 0, 4⟩, ⟨⟨.read, 0⟩, 0, 8⟩], int32⟩

/-- Batches of three periods with two reads each are right. -/
theorem periodic_io_batches_three :
    preparePeriodicResponse 4 (readTwice 3 (by decide)) = some ⟨224, 192⟩ ∧
      (readTwice 3 (by decide)).BatchesRight 4 ⟨224, 192⟩ := by
  have prepared : preparePeriodicResponse 4 (readTwice 3 (by decide)) = some ⟨224, 192⟩ := by
    decide +kernel
  exact ⟨prepared, periodic_io_batches 32 (readTwice 3 (by decide)) ⟨224, 192⟩ prepared (by decide)⟩

/-- A device that never fails. -/
def succeedingReply : Nat → EntryReply := fun _ => ⟨0, 0, fun _ => 0, 0⟩

/-- Two reads in batches of none are accepted with a response that has no room for a result,
and their first execution divides by zero. -/
theorem periodic_io_batches_none :
    constructIoEntry 32 ⟨true, true, fun _ => true, fun _ => true, fun _ => 0⟩
        ((readTwice 0 (by decide)).entries.map (·.io)) = .ok () ∧
      preparePeriodicResponse 4 (readTwice 0 (by decide)) = some ⟨32, 0⟩ ∧
      (submitted ⟨32, 0⟩ fun _ => 0).processProxy 4 (readTwice 0 (by decide))
        succeedingReply = none ∧
      ¬(readTwice 0 (by decide)).BatchesRight 4 ⟨32, 0⟩ := by
  have divides : (submitted ⟨32, 0⟩ fun _ => 0).processProxy 4
      (readTwice 0 (by decide)) succeedingReply = none := rfl
  refine ⟨by rfl, by decide +kernel, divides, fun right => ?_⟩
  obtain ⟨final, ran, -⟩ := right (fun _ => 0) [succeedingReply]
  rw [foldlM_cons, divides] at ran
  cases ran

end GsKernel.Lwis
