import GsKernel.Lwis.PeriodicBatches

/-!
# Runs of a periodic I/O

The executions of a periodic I/O with a positive `batch_size` against what they are to send. The
position of a period is the batch counter times the quotient of the whole size by `batch_size`,
which is the size of a period again.
-/

namespace GsKernel.Lwis

open Lib.ByteSpans PeriodicState Option Nat

variable {width : Nat} {info : PeriodicInfo} {sizes : PeriodicSizes} {state : PeriodicState}
  {periods : Nat} {current : List (List UInt8)} {reply : Nat → EntryReply}

/-! ## Sizes -/

/-- The loop of `prepare_response` adds up the sizes without a wrap. -/
lemma periodicReadLoop_sizes (fits : width < 2 ^ 64) {entries : List PeriodicEntry}
    {readEntries readBufSize count size : Nat} (small : readBufSize < 2 ^ 64)
    (counted : periodicReadLoop width entries readEntries readBufSize = some (count, size)) :
    count * periodicResultBytes + size =
      readEntries * periodicResultBytes + readBufSize + periodBytes width entries := by
  induction entries generalizing readEntries readBufSize with
  | nil =>
    obtain ⟨rfl, rfl⟩ : readEntries = count ∧ readBufSize = size := by
      simpa [periodicReadLoop] using counted
    simp
  | cons entry entries ih =>
    obtain ⟨⟨type, bytes⟩, bid, offset⟩ := entry
    have bound := bytes.toNat_lt
    cases type with
    | read | readV2 | readBatch | readBatchV2 =>
      simp only [periodicReadLoop] at counted
      split at counted
      · cases counted
      · have added := ih (mod_lt _ (by decide)) counted
        rw [added, periodBytes_cons]
        simp only [PeriodicEntry.resultLength, IoEntry.valueBytes]
        rw [mod_eq_of_lt (by omega)]
        ring
    | write | writeV2 | writeBatch | writeBatchV2 | modify | poll | pollShort | wait | readAssert
    | ignore | writeToBuffer | unrecognized =>
      rw [ih small counted, periodBytes_cons]
      simp [PeriodicEntry.resultLength, IoEntry.valueBytes]

lemma checkOverflow_natCast {value result : Nat}
    (checked : checkOverflow (value : Int) = some result) : result = value ∧ value < 2 ^ 64 := by
  unfold checkOverflow at checked
  split at checked
  · cases checked
    omega
  · cases checked

lemma toSizeT_natCast {value : Nat} (small : value < 2 ^ 64) : toSizeT value = value := by
  unfold toSizeT
  omega

/-- An accepted response of a batch of `periods` periods: its sizes are those of the periods. -/
structure Accepted (width : Nat) (info : PeriodicInfo) (sizes : PeriodicSizes) (periods : Nat) :
    Prop where
  batchSize : info.batchSize = periods
  positive : 0 < periods
  respSize : sizes.respSize = periodicHeaderBytes + periods * periodBytes width info.entries
  resultsSize : sizes.resultsSizeBytes = periods * periodBytes width info.entries
  bounded : sizes.respSize < 2 ^ 64

lemma Accepted.of_prepared (fits : width < 2 ^ 64) (batchSize : info.batchSize = periods)
    (positive : 0 < periods) (prepared : preparePeriodicResponse width info = some sizes) :
    Accepted width info sizes periods := by
  have range := info.int32
  have size : toSizeT info.batchSize = periods := by
    rw [batchSize]
    exact toSizeT_natCast (by omega)
  simp only [preparePeriodicResponse, bind_eq_bind, bind_eq_some_iff, size]
    at prepared
  obtain ⟨⟨count, values⟩, counted, headers, headersFit, resultSize, resultFits, readBufTotal,
    totalFits, temp, tempFits, total, sumFits, made⟩ := prepared
  cases made
  have period := periodicReadLoop_sizes fits (by decide) counted
  simp only [zero_mul, zero_add] at period
  simp only [batchSize] at headersFit resultFits totalFits tempFits sumFits
  obtain ⟨rfl, -⟩ := @checkOverflow_natCast (count * periodicResultBytes) _ headersFit
  obtain ⟨rfl, -⟩ := @checkOverflow_natCast (_ * periods) _ resultFits
  obtain ⟨rfl, -⟩ := @checkOverflow_natCast (values * periods) _ totalFits
  obtain ⟨rfl, -⟩ := @checkOverflow_natCast (periodicHeaderBytes + _) _ tempFits
  obtain ⟨-, sumLt⟩ := @checkOverflow_natCast (_ + _) _ sumFits
  have product : count * periodicResultBytes * periods + values * periods =
      periods * periodBytes width info.entries := by
    rw [← period]
    ring
  refine ⟨batchSize, positive, ?_, ?_, sumLt⟩
  · show periodicHeaderBytes + _ + _ = _
    rw [add_assoc, product]
  · show (_ + _) % 2 ^ 64 = _
    rw [product, mod_eq_of_lt (by omega)]

/-- The offset of a period of the batch. -/
lemma Accepted.position (accepted : Accepted width info sizes periods) {count : Nat}
    (le : count ≤ periods) :
    (periodicHeaderBytes + toSizeT count * (sizes.resultsSizeBytes / toSizeT info.batchSize)) %
      2 ^ 64 = periodicHeaderBytes + count * periodBytes width info.entries ∧
    periodicHeaderBytes + count * periodBytes width info.entries ≤ sizes.respSize := by
  have range := info.int32
  have bounded := accepted.bounded
  have batchSize := accepted.batchSize
  have inside := mul_le_mul_right (periodBytes width info.entries) le
  rw [batchSize, toSizeT_natCast (by omega), toSizeT_natCast (by omega), accepted.resultsSize,
    Nat.mul_div_cancel_left _ accepted.positive]
  rw [accepted.respSize] at bounded ⊢
  exact ⟨mod_eq_of_lt (by omega), by omega⟩

/-! ## A batch that is being collected -/

/-- Between executions: the results of the current batch stand in the response. -/
structure PeriodicState.Collecting (width : Nat) (info : PeriodicInfo) (sizes : PeriodicSizes)
    (periods : Nat) (state : PeriodicState) (current : List (List UInt8)) : Prop where
  clean : state.errorCode = 0
  active : state.active = true
  count : state.batchCount = current.length
  respCount : state.respBatchSize = current.length
  size : state.resultsSizeBytes = sizes.resultsSizeBytes
  short : current.length < periods
  each : ∀ results ∈ current, results.length = periodBytes width info.entries
  stored : readBytes state.memory
    ⟨periodicHeaderBytes, current.length * periodBytes width info.entries⟩ = current.flatten
  written : ∀ span ∈ state.writes, span.offset + span.length ≤ sizes.respSize

lemma Accepted.submitted (accepted : Accepted width info sizes periods) (memory : Memory) :
    (submitted sizes memory).Collecting width info sizes periods [] where
  clean := rfl
  active := rfl
  count := rfl
  respCount := rfl
  size := rfl
  short := accepted.positive
  each := by simp
  stored := by simp [readBytes]
  written := by simp [PeriodicState.submitted]

/-- Bytes written behind a stretch leave it alone. -/
lemma readBytes_behind {memory : Memory} {start length : Nat} (bytes : List UInt8) :
    readBytes (writeBytes memory (start + length) bytes) ⟨start, length⟩ =
      readBytes memory ⟨start, length⟩ := by
  refine List.map_congr_left fun index inside => writeBytes_of_lt bytes ?_
  have below := List.mem_range.mp inside
  simp only at below ⊢
  omega

section

variable (accepted : Accepted width info sizes periods)
include accepted

section

variable (collecting : state.Collecting width info sizes periods current)
include collecting

/-- What an execution of a collecting periodic I/O comes to, before it pushes events: the loop
over its entries writes inside the response, and its results stand behind the others. -/
lemma PeriodicState.Collecting.loop (reply : Nat → EntryReply) : ∃ loop : PeriodicLoop,
      (∀ span ∈ state.writes ++ loop.writes, span.offset + span.length ≤ sizes.respSize) ∧
      (match executionResult width reply info.entries 0 with
      | .ok bytes => loop.error = none ∧ loop.memory = writeBytes state.memory
          (periodicHeaderBytes + current.length * periodBytes width info.entries) bytes
      | .error code => loop.error = some code ∧ ∃ bytes, loop.memory = writeBytes state.memory
          (periodicHeaderBytes + current.length * periodBytes width info.entries) bytes) ∧
      state.processProxy width info reply = some (pushEvents { state with
        memory := loop.memory
        writes := state.writes ++ loop.writes
        executions := state.executions + 1
        batchCount := current.length + loop.error.isNone.toNat
        respBatchSize := current.length + loop.error.isNone.toNat
        errorCode := loop.error.getD 0 } info.batchSize (periodicHeaderBytes +
            (current.length + loop.error.isNone.toNat) * periodBytes width info.entries)) := by
  have short := collecting.short
  have range := info.int32
  have batchSize := accepted.batchSize
  have nonzero : info.batchSize ≠ 0 := by omega
  have counter : ((current.length : Int) + 1).bmod (2 ^ 32) = (current.length + 1 : Nat) := by
    rw [Int.bmod_eq_of_le (by omega) (by omega), cast_succ]
  obtain ⟨here, -⟩ := accepted.position (le_of_lt short)
  obtain ⟨behind, room⟩ := accepted.position short
  obtain ⟨loop, ran⟩ : ∃ loop, processPeriodicEntries width true info.containsMultipleWrites reply
      info.entries 0 (periodicHeaderBytes + current.length * periodBytes width info.entries)
      state.memory = loop := ⟨_, rfl⟩
  obtain ⟨inside, spec⟩ := processPeriodicEntries_spec info.entries 0 _ state.memory ran
  refine ⟨loop, List.forall_mem_append.mpr ⟨collecting.written, fun span mem => ?_⟩, spec, ?_⟩
  · obtain ⟨-, below⟩ := inside span mem
    rw [succ_mul] at room
    omega
  · unfold processProxy processIoEntries
    rw [if_neg (by simp [collecting.clean, collecting.active]), if_neg nonzero]
    simp only [collecting.clean, collecting.active, collecting.count, collecting.respCount,
      collecting.size, here, ran]
    cases error : loop.error with
    | none =>
      simp only [counter, behind, isNone_none, if_true, Bool.toNat_true, getD_none]
      push_cast
      rfl
    | some code =>
      simp only [here, isNone_some, Bool.false_eq_true, if_false, Bool.toNat_false,
        getD_some, cast_zero, add_zero]

/-- An execution that succeeds adds its results to the batch, and sends the batch when it is
complete. -/
lemma PeriodicState.Collecting.succeeds {bytes : List UInt8}
    (done : executionResult width reply info.entries 0 = .ok bytes) :
    ∃ next, state.processProxy width info reply = some next ∧
      next.executions = state.executions + 1 ∧
      if current.length + 1 = periods then
        next.Collecting width info sizes periods [] ∧ next.events = state.events ++
          [⟨.batch, 0, periods, sizes.resultsSizeBytes, (current ++ [bytes]).flatten⟩]
      else next.Collecting width info sizes periods (current ++ [bytes]) ∧
        next.events = state.events := by
  obtain ⟨loop, written, spec, ran⟩ := collecting.loop accepted reply
  rw [done] at spec
  obtain ⟨noError, memory⟩ := spec
  have length := executionResult_length done
  have stored : readBytes loop.memory
      ⟨periodicHeaderBytes, (current.length + 1) * periodBytes width info.entries⟩ =
      (current ++ [bytes]).flatten := by
    have own := @readBytes_writeBytes_same bytes state.memory ⟨periodicHeaderBytes +
      current.length * periodBytes width info.entries, periodBytes width info.entries⟩ length
    rw [memory, Nat.succ_mul, readBytes_add, readBytes_behind, collecting.stored]
    simp only at own
    simp [own]
  simp only [noError, getD_none, isNone_none, Bool.toNat_true, stored,
    pushEvents, ne_eq, not_true_eq_false, if_false, accepted.batchSize,
    Nat.add_sub_cancel_left] at ran
  have short := collecting.short
  by_cases full : current.length + 1 = periods
  · rw [if_pos (by exact_mod_cast full)] at ran
    refine ⟨_, ran, rfl, ?_⟩
    rw [if_pos full]
    refine ⟨⟨rfl, collecting.active, rfl, rfl, collecting.size, accepted.positive, by simp, ?_,
      written⟩, ?_⟩
    · simp [readBytes]
    · simp only [collecting.size, ← full]
      norm_cast
  · rw [if_neg (by exact_mod_cast full)] at ran
    refine ⟨_, ran, rfl, ?_⟩
    rw [if_neg full]
    refine ⟨⟨rfl, collecting.active, by simp, by simp, collecting.size, ?_, ?_, ?_, written⟩, rfl⟩
    · simp only [List.length_append, List.length_singleton]
      omega
    · exact List.forall_mem_append.mpr ⟨collecting.each, by simpa using length⟩
    · simpa using stored

/-- An execution that fails sends the batch as far as it has come, and ends the periodic
I/O. -/
lemma PeriodicState.Collecting.fails {code : Int}
    (failed : executionResult width reply info.entries 0 = .error code) :
    ∃ next, state.processProxy width info reply = some next ∧
      next.executions = state.executions + 1 ∧ next.errorCode = code ∧
      (∀ span ∈ next.writes, span.offset + span.length ≤ sizes.respSize) ∧
      next.events = state.events ++ [⟨.failed, code, current.length,
        current.length * periodBytes width info.entries, current.flatten⟩] := by
  obtain ⟨loop, written, spec, ran⟩ := collecting.loop accepted reply
  rw [failed] at spec
  obtain ⟨error, bytes, memory⟩ := spec
  have sized : (periodicHeaderBytes + current.length * periodBytes width info.entries +
      (2 ^ 64 - periodicHeaderBytes)) % 2 ^ 64 =
      current.length * periodBytes width info.entries := by
    have inRoom := (accepted.position (Nat.le_of_lt collecting.short)).2
    have bounded := accepted.bounded
    simp only [periodicHeaderBytes] at inRoom ⊢
    omega
  simp only [error, getD_some, isNone_some, Bool.toNat_false, Nat.add_zero, memory,
    pushEvents, ne_eq, executionResult_error failed, not_false_eq_true, if_true,
    Nat.add_sub_cancel_left, readBytes_behind, collecting.stored, sized] at ran
  exact ⟨_, ran, rfl, rfl, written, by simp⟩

end

end

end GsKernel.Lwis
