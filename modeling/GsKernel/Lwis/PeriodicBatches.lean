import GsKernel.Lwis.PeriodicResponse

/-!
# Batches of a periodic I/O

What the executions of a periodic I/O are to send: the results of `batch_size` executions at a
time, in their order, and at the first failure what the batch has so far. The response has
room for this when `batch_size` is positive; nothing rejects the others.
-/

namespace GsKernel.Lwis

open Lib.ByteSpans PeriodicEntry IoEntry

/-! ## What one execution comes to -/

/-- The error that an entry ends its execution with. -/
def PeriodicEntry.failure (entry : PeriodicEntry) (reply : EntryReply) : Option Int :=
  match entry.io.type with
  | .ignore => none
  | .writeToBuffer | .unrecognized => some (-22)
  | _ => if reply.ret ≠ 0 then some reply.ret else none

/-- The result of an entry, which is empty for one that does not read. -/
def PeriodicEntry.result (width : Nat) (entry : PeriodicEntry) (reply : EntryReply) : List UInt8 :=
  match entry.io.valueBytes width with
  | none => []
  | some length => resultHeader entry reply length ++ resultValues reply length

/-- The results of an execution, or the error of its first entry that fails. -/
def executionResult (width : Nat) (reply : Nat → EntryReply) :
    List PeriodicEntry → Nat → Except Int (List UInt8)
  | [], _ => .ok []
  | entry :: entries, index =>
    match entry.failure (reply index) with
    | some code => .error code
    | none => (executionResult width reply entries (index + 1)).map
        (entry.result width (reply index) ++ ·)

/-- The number of bytes that the result of an entry takes. -/
def PeriodicEntry.resultLength (width : Nat) (entry : PeriodicEntry) : Nat :=
  match entry.io.valueBytes width with
  | none => 0
  | some length => periodicResultBytes + length

/-- The number of bytes that the results of an execution take. -/
def periodBytes (width : Nat) (entries : List PeriodicEntry) : Nat :=
  (entries.map (·.resultLength width)).sum

@[simp] lemma periodBytes_nil (width : Nat) : periodBytes width [] = 0 := rfl

@[simp] lemma periodBytes_cons (width : Nat) (entry : PeriodicEntry)
    (entries : List PeriodicEntry) :
    periodBytes width (entry :: entries) =
      entry.resultLength width + periodBytes width entries := by
  simp [periodBytes]

@[simp] lemma littleEndian_length (length value : Nat) :
    (littleEndian length value).length = length := by simp [littleEndian]

@[simp] lemma resultHeader_length (entry : PeriodicEntry) (reply : EntryReply) (number : Nat) :
    (resultHeader entry reply number).length = periodicResultBytes := by
  simp [resultHeader, periodicResultBytes, ioResultBytes]

@[simp] lemma resultValues_length (reply : EntryReply) (length : Nat) :
    (resultValues reply length).length = length := by simp [resultValues]

lemma PeriodicEntry.result_length (width : Nat) (entry : PeriodicEntry) (reply : EntryReply) :
    (entry.result width reply).length = entry.resultLength width := by
  unfold result resultLength
  split <;> simp

variable {width : Nat} {reply : Nat → EntryReply} {multiple : Bool} {entries : List PeriodicEntry}

/-- The results of an execution take as much room as its entries need. -/
lemma executionResult_length {index : Nat} {bytes : List UInt8}
    (done : executionResult width reply entries index = .ok bytes) :
    bytes.length = periodBytes width entries := by
  induction entries generalizing index bytes with
  | nil =>
    obtain rfl : [] = bytes := Except.ok.inj done
    rfl
  | cons entry entries ih =>
    rw [executionResult] at done
    cases failed : entry.failure (reply index) with
    | some code => simp [failed] at done
    | none =>
      cases rest : executionResult width reply entries (index + 1) with
      | error code => simp [failed, rest, Except.map] at done
      | ok later =>
        obtain rfl : entry.result width (reply index) ++ later = bytes := by
          simpa [failed, rest, Except.map] using done
        rw [List.length_append, entry.result_length, ih rest, periodBytes_cons]

/-- The error of an execution is an error. -/
lemma executionResult_error {index : Nat} {code : Int}
    (failed : executionResult width reply entries index = .error code) : code ≠ 0 := by
  induction entries generalizing index with
  | nil => cases failed
  | cons entry entries ih =>
    rw [executionResult] at failed
    cases own : entry.failure (reply index) with
    | some error =>
      obtain rfl : error = code := by simpa [own] using failed
      unfold PeriodicEntry.failure at own
      split at own
      · cases own
      · simp at own; omega
      · simp at own; omega
      · split at own
        · next nonzero => exact Option.some.inj own ▸ nonzero
        · cases own
    | none =>
      cases rest : executionResult width reply entries (index + 1) with
      | ok bytes => simp [own, rest, Except.map] at failed
      | error error =>
        obtain rfl : error = code := by simpa [own, rest, Except.map] using failed
        exact ih rest

/-! ## The loop over the entries -/

/-- A span lies in a stretch of memory. -/
def Within (start length : Nat) (span : Span) : Prop :=
  start ≤ span.offset ∧ span.offset + span.length ≤ start + length

lemma PeriodicLoop.after_nil (loop : PeriodicLoop) : loop.after [] = loop := rfl

/-- An entry that succeeds writes its result, and the loop goes on behind it. -/
lemma processPeriodicEntries_succeeds (entry : PeriodicEntry) (entries : List PeriodicEntry)
    (index readBuf : Nat) (memory : Memory) (succeeds : entry.failure (reply index) = none) :
    ∃ spans, processPeriodicEntries width true multiple reply (entry :: entries) index readBuf
        memory =
      (processPeriodicEntries width true multiple reply entries (index + 1)
        (readBuf + entry.resultLength width)
        (writeBytes memory readBuf (entry.result width (reply index)))).after spans ∧
      ∀ span ∈ spans, Within readBuf (entry.resultLength width) span := by
  obtain ⟨⟨type, size⟩, bid, offset⟩ := entry
  cases type with
  | ignore => exact ⟨[], rfl, by simp⟩
  | writeToBuffer | unrecognized => cases succeeds
  | write | writeV2 | writeBatch | writeBatchV2 | modify | poll | pollShort | wait | readAssert =>
    have zero : (reply index).ret = 0 := by simpa [PeriodicEntry.failure] using succeeds
    refine ⟨[], ?_, by simp⟩
    simp [processPeriodicEntries, zero, PeriodicLoop.after_nil, resultLength,
      result, valueBytes, writeBytes]
  | read | readV2 =>
    have zero : (reply index).ret = 0 := by simpa [PeriodicEntry.failure] using succeeds
    refine ⟨[⟨readBuf, periodicResultBytes⟩, ⟨readBuf + periodicResultBytes, width⟩], ?_, ?_⟩
    · simp [processPeriodicEntries, zero, resultLength, result,
        valueBytes, writeBytes_append, Nat.add_assoc]
    · simp [Within, resultLength, valueBytes, Nat.add_assoc]
  | readBatch | readBatchV2 =>
    have zero : (reply index).ret = 0 := by simpa [PeriodicEntry.failure] using succeeds
    refine ⟨[⟨readBuf, periodicResultBytes⟩, ⟨readBuf + periodicResultBytes, size.toNat⟩], ?_, ?_⟩
    · simp [processPeriodicEntries, zero, resultLength, result,
        valueBytes, writeBytes_append, Nat.add_assoc]
    · simp [Within, resultLength, valueBytes, Nat.add_assoc]

/-- An entry that fails has written at most its own result, and the loop ends. -/
lemma processPeriodicEntries_fails (entry : PeriodicEntry) (entries : List PeriodicEntry)
    (index readBuf : Nat) (memory : Memory) {code : Int}
    (fails : entry.failure (reply index) = some code) :
    ∃ bytes spans, processPeriodicEntries width true multiple reply (entry :: entries) index readBuf
        memory = ⟨writeBytes memory readBuf bytes, spans, some code⟩ ∧
      ∀ span ∈ spans, Within readBuf (entry.resultLength width) span := by
  obtain ⟨⟨type, size⟩, bid, offset⟩ := entry
  cases type with
  | ignore => cases fails
  | writeToBuffer | unrecognized =>
    obtain rfl := Option.some.inj fails
    exact ⟨[], [], rfl, by simp⟩
  | write | writeV2 | writeBatch | writeBatchV2 | modify | poll | pollShort | wait | readAssert =>
    obtain ⟨nonzero, rfl⟩ : (reply index).ret ≠ 0 ∧ (reply index).ret = code := by
      simpa [PeriodicEntry.failure] using fails
    exact ⟨[], [], by simp [processPeriodicEntries, nonzero, writeBytes], by simp⟩
  | read | readV2 =>
    obtain ⟨nonzero, rfl⟩ : (reply index).ret ≠ 0 ∧ (reply index).ret = code := by
      simpa [PeriodicEntry.failure] using fails
    refine ⟨resultHeader ⟨⟨.read, size⟩, bid, offset⟩ (reply index) width,
      [⟨readBuf, periodicResultBytes⟩], ?_, ?_⟩
    · simp [processPeriodicEntries, nonzero, resultHeader]
    · simp [Within, resultLength, valueBytes]
  | readBatch | readBatchV2 =>
    obtain ⟨nonzero, rfl⟩ : (reply index).ret ≠ 0 ∧ (reply index).ret = code := by
      simpa [PeriodicEntry.failure] using fails
    refine ⟨resultHeader ⟨⟨.readBatch, size⟩, bid, offset⟩ (reply index) size.toNat ++
        resultValues (reply index) (min (reply index).stored size.toNat),
      [⟨readBuf, periodicResultBytes⟩,
        ⟨readBuf + periodicResultBytes, min (reply index).stored size.toNat⟩], ?_, ?_⟩
    · simp [processPeriodicEntries, nonzero, writeBytes_append, resultHeader, periodicResultBytes,
        ioResultBytes]
    · simp [Within, resultLength, valueBytes]
      omega

/-- What the loop over entries does, as an execution is to do it: its results stand one behind
the other, and nothing in front of them is written. -/
lemma processPeriodicEntries_spec (entries : List PeriodicEntry) (index readBuf : Nat)
    (memory : Memory) {loop : PeriodicLoop}
    (ran : processPeriodicEntries width true multiple reply entries index readBuf memory = loop) :
    (∀ span ∈ loop.writes, Within readBuf (periodBytes width entries) span) ∧
      match executionResult width reply entries index with
      | .ok bytes => loop.error = none ∧ loop.memory = writeBytes memory readBuf bytes
      | .error code => loop.error = some code ∧
          ∃ bytes, loop.memory = writeBytes memory readBuf bytes := by
  induction entries generalizing index readBuf memory loop with
  | nil =>
    subst ran
    exact ⟨by simp [processPeriodicEntries], rfl, rfl⟩
  | cons entry entries ih =>
    cases failure : entry.failure (reply index) with
    | some code =>
      obtain ⟨bytes, spans, ended, inside⟩ :=
        processPeriodicEntries_fails entry entries index readBuf memory failure
      obtain rfl := ended.symm.trans ran
      simp only [executionResult, failure]
      refine ⟨fun span mem => ?_, trivial, bytes, rfl⟩
      obtain ⟨above, below⟩ := inside span mem
      exact ⟨above, below.trans (by rw [periodBytes_cons]; omega)⟩
    | none =>
      obtain ⟨spans, goesOn, inside⟩ :=
        processPeriodicEntries_succeeds entry entries index readBuf memory failure
      obtain ⟨behind, rest⟩ := ih (index + 1) (readBuf + entry.resultLength width)
        (writeBytes memory readBuf (entry.result width (reply index))) rfl
      obtain rfl := goesOn.symm.trans ran
      simp only [executionResult, failure, PeriodicLoop.after, List.mem_append]
      refine ⟨?_, ?_⟩
      · rintro span (first | later)
        · obtain ⟨above, below⟩ := inside span first
          exact ⟨above, below.trans (by rw [periodBytes_cons]; omega)⟩
        · obtain ⟨above, below⟩ := behind span later
          exact ⟨by omega, below.trans (by rw [periodBytes_cons]; omega)⟩
      · have joined (later : List UInt8) : writeBytes (writeBytes memory readBuf
            (entry.result width (reply index))) (readBuf + entry.resultLength width) later =
            writeBytes memory readBuf (entry.result width (reply index) ++ later) := by
          rw [writeBytes_append, entry.result_length]
        cases result : executionResult width reply entries (index + 1) with
        | ok bytes =>
          rw [result] at rest
          exact ⟨rest.1, rest.2.trans (joined bytes)⟩
        | error code =>
          rw [result] at rest
          obtain ⟨failed, bytes, written⟩ := rest
          exact ⟨failed, _, written.trans (joined bytes)⟩

end GsKernel.Lwis
