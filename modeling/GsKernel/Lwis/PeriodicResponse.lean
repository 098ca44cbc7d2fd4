import GsKernel.Lwis.IoEntries
import GsKernel.Lib.ByteSpans

/-!
# The response of a periodic I/O

The response has room for the results of `batch_size` executions, each behind those before it; the
batch is then sent as one event. An execution that fails sends what the batch has so far and ends
the periodic I/O. All events are taken to be pushed, and cancellations are left out.
-/

namespace GsKernel.Lwis

open Lib.ByteSpans

/-- `sizeof(struct lwis_periodic_io_result)`: a time stamp and the header of a result. -/
def periodicResultBytes : Nat := 8 + ioResultBytes

/-- `sizeof(struct lwis_periodic_io_response_header)`. -/
def periodicHeaderBytes : Nat := 32

/-- An I/O entry with the register it names. -/
structure PeriodicEntry where
  io : IoEntry
  bid : Nat
  offset : Nat

/-- What user space asks for; `batch_size` is an `int32_t`. -/
structure PeriodicInfo where
  batchSize : Int
  entries : List PeriodicEntry
  int32 : -2 ^ 31 ≤ batchSize ∧ batchSize < 2 ^ 31

/-- The conversion of a signed number to `size_t`. -/
def toSizeT (value : Int) : Nat := (value % 2 ^ 64).toNat

/-! ## `prepare_response` -/

/-- The loop of `prepare_response`, which counts the reads and adds up their values; `none` is
`-EOVERFLOW`. -/
def periodicReadLoop (width : Nat) : List PeriodicEntry → Nat → Nat → Option (Nat × Nat)
  | [], readEntries, readBufSize => some (readEntries, readBufSize)
  | entry :: entries, readEntries, readBufSize =>
    match entry.io.type with
    | .read | .readV2 =>
      if (readBufSize + width) % 2 ^ 64 < readBufSize then none
      else periodicReadLoop width entries (readEntries + 1) ((readBufSize + width) % 2 ^ 64)
    | .readBatch | .readBatchV2 =>
      let size := entry.io.sizeInBytes.toNat
      if (readBufSize + size) % 2 ^ 64 < readBufSize then none
      else periodicReadLoop width entries (readEntries + 1) ((readBufSize + size) % 2 ^ 64)
    | _ => periodicReadLoop width entries readEntries readBufSize

/-- `check_mul_overflow` and `check_add_overflow` into a `size_t`. -/
def checkOverflow (value : Int) : Option Nat :=
  if 0 ≤ value ∧ value < 2 ^ 64 then some value.toNat else none

/-- What `prepare_response` comes to: the size it allocates, and `results_size_bytes`. -/
structure PeriodicSizes where
  respSize : Nat
  resultsSizeBytes : Nat
deriving DecidableEq

/-- The sizes `prepare_response` computes; `none` is `-EOVERFLOW`. -/
def preparePeriodicResponse (width : Nat) (info : PeriodicInfo) : Option PeriodicSizes := do
  let (readEntries, readBufSize) ← periodicReadLoop width info.entries 0 0
  let perPeriod ← checkOverflow (readEntries * periodicResultBytes)
  let resultSize ← checkOverflow (perPeriod * info.batchSize)
  let readBufTotal ← checkOverflow (readBufSize * info.batchSize)
  let temp ← checkOverflow (periodicHeaderBytes + resultSize)
  let _ ← checkOverflow (temp + readBufTotal)
  some {
    respSize := periodicHeaderBytes + resultSize + readBufTotal
    resultsSizeBytes :=
      (readEntries * periodicResultBytes * toSizeT info.batchSize +
        readBufSize * toSizeT info.batchSize) % 2 ^ 64 }

/-! ## `process_io_entries` -/

/-- The bytes of a number as they stand in memory. -/
def littleEndian (length value : Nat) : List UInt8 :=
  (List.range length).map fun index => UInt8.ofNat (value / 256 ^ index)

/-- What the clock and the device answer for one entry: the time, the code of the register
access, the bytes it reads, and how many of them a batch that fails has already stored. -/
structure EntryReply where
  timestampNs : Nat
  ret : Int
  values : Nat → UInt8
  stored : Nat

/-- The number of value bytes of an entry that reads. -/
def IoEntry.valueBytes (width : Nat) (entry : IoEntry) : Option Nat :=
  match entry.type with
  | .read | .readV2 => some width
  | .readBatch | .readBatchV2 => some entry.sizeInBytes.toNat
  | _ => none

/-- The header of a result. -/
def resultHeader (entry : PeriodicEntry) (reply : EntryReply) (numValueBytes : Nat) : List UInt8 :=
  littleEndian 8 reply.timestampNs ++ littleEndian 4 entry.bid ++ littleEndian 8 entry.offset ++
    littleEndian 8 numValueBytes

/-- The value bytes of a result. -/
def resultValues (reply : EntryReply) (length : Nat) : List UInt8 :=
  (List.range length).map reply.values

/-- A loop over entries: the response afterwards, the spans written, and the error code of the
entry that has ended it. -/
structure PeriodicLoop where
  memory : Memory
  writes : List Span
  error : Option Int

/-- The loop goes on after some spans have been written. -/
def PeriodicLoop.after (spans : List Span) (loop : PeriodicLoop) : PeriodicLoop :=
  { loop with writes := spans ++ loop.writes }

/-- The loop of `process_io_entries` from entry `index` on. A deactivated periodic I/O is left
before its first entry, or before any when at most one of them writes. -/
def processPeriodicEntries (width : Nat) (active multipleWrites : Bool) (reply : Nat → EntryReply) :
    List PeriodicEntry → (index readBuf : Nat) → Memory → PeriodicLoop
  | [], _, _, memory => ⟨memory, [], none⟩
  | entry :: entries, index, readBuf, memory =>
    let answer := reply index
    if !active && (index == 0 || !multipleWrites) then ⟨memory, [], some (-125)⟩
    else match entry.io.type with
      | .write | .writeV2 | .writeBatch | .writeBatchV2 | .modify | .poll | .pollShort | .wait
      | .readAssert =>
        if answer.ret ≠ 0 then ⟨memory, [], some answer.ret⟩
        else processPeriodicEntries width active multipleWrites reply entries (index + 1) readBuf
          memory
      | .read | .readV2 =>
        let header := resultHeader entry answer width
        let headed := writeBytes memory readBuf header
        if answer.ret ≠ 0 then ⟨headed, [⟨readBuf, periodicResultBytes⟩], some answer.ret⟩
        else
          let values := resultValues answer width
          (processPeriodicEntries width active multipleWrites reply entries (index + 1)
            (readBuf + periodicResultBytes + width)
            (writeBytes headed (readBuf + periodicResultBytes) values)).after
              [⟨readBuf, periodicResultBytes⟩, ⟨readBuf + periodicResultBytes, width⟩]
      | .readBatch | .readBatchV2 =>
        let size := entry.io.sizeInBytes.toNat
        let header := resultHeader entry answer size
        let headed := writeBytes memory readBuf header
        if answer.ret ≠ 0 then
          let stored := min answer.stored size
          ⟨writeBytes headed (readBuf + periodicResultBytes) (resultValues answer stored),
            [⟨readBuf, periodicResultBytes⟩, ⟨readBuf + periodicResultBytes, stored⟩],
            some answer.ret⟩
        else
          let values := resultValues answer size
          (processPeriodicEntries width active multipleWrites reply entries (index + 1)
            (readBuf + periodicResultBytes + size)
            (writeBytes headed (readBuf + periodicResultBytes) values)).after
              [⟨readBuf, periodicResultBytes⟩, ⟨readBuf + periodicResultBytes, size⟩]
      | .ignore =>
        processPeriodicEntries width active multipleWrites reply entries (index + 1) readBuf memory
      | .writeToBuffer | .unrecognized => ⟨memory, [], some (-22)⟩

/-- Which event is pushed: a batch, the error of an execution, or that a proxy was passed over
because its periodic I/O has ended. -/
inductive PeriodicEventKind where
  | batch
  | failed
  | passedOver
deriving DecidableEq

/-- An event of a periodic I/O: the fields of its header and the results behind it. -/
structure PeriodicEvent where
  kind : PeriodicEventKind
  errorCode : Int
  batchSize : Int
  resultsSizeBytes : Nat
  results : List UInt8
deriving DecidableEq

/-- A periodic I/O between executions: its response, the counter of the batch, whether it is
active; and what has been done so far: the spans written, the events and the executions. -/
structure PeriodicState where
  memory : Memory
  batchCount : Int
  respBatchSize : Int
  errorCode : Int
  resultsSizeBytes : Nat
  active : Bool
  writes : List Span
  events : List PeriodicEvent
  executions : Nat

/-- A periodic I/O that has been submitted, with whatever is in the memory of its response. -/
def PeriodicState.submitted (sizes : PeriodicSizes) (memory : Memory) : PeriodicState :=
  ⟨memory, 0, 0, 0, sizes.resultsSizeBytes, true, [], [], 0⟩

/-- `contains_multiple_writes`: the loop of `lwis_periodic_io_submit`. -/
def PeriodicInfo.containsMultipleWrites (info : PeriodicInfo) : Bool :=
  2 ≤ info.entries.countP fun entry =>
    match entry.io.type with
    | .write | .writeBatch | .writeV2 | .writeBatchV2 | .modify => true
    | _ => false

/-- The end of `process_io_entries`, with the offset behind the results of the batch. -/
def PeriodicState.pushEvents (state : PeriodicState) (batchSize : Int) (resultsEnd : Nat) :
    PeriodicState :=
  let results := readBytes state.memory ⟨periodicHeaderBytes, resultsEnd - periodicHeaderBytes⟩
  if state.errorCode ≠ 0 then
    let resultsSizeBytes := (resultsEnd + (2 ^ 64 - periodicHeaderBytes)) % 2 ^ 64
    { state with
      resultsSizeBytes := resultsSizeBytes
      events := state.events ++
        [⟨.failed, state.errorCode, state.respBatchSize, resultsSizeBytes, results⟩]
      active := false }
  else if state.batchCount = batchSize then
    { state with
      events := state.events ++ [⟨.batch, 0, state.respBatchSize, state.resultsSizeBytes, results⟩]
      batchCount := 0
      respBatchSize := 0 }
  else state

/-- `process_io_entries`; `none` is a division by zero. The batch counter is an `int`. -/
def PeriodicState.processIoEntries (width : Nat) (info : PeriodicInfo) (state : PeriodicState)
    (reply : Nat → EntryReply) : Option PeriodicState :=
  if info.batchSize = 0 then none
  else
    let quotient := state.resultsSizeBytes / toSizeT info.batchSize
    let readBuf := (periodicHeaderBytes + toSizeT state.batchCount * quotient) % 2 ^ 64
    let loop := processPeriodicEntries width state.active info.containsMultipleWrites reply
      info.entries 0 readBuf state.memory
    let batchCount :=
      match loop.error with
      | none => (state.batchCount + 1).bmod (2 ^ 32)
      | some _ => state.batchCount
    let resultsEnd := (periodicHeaderBytes + toSizeT batchCount * quotient) % 2 ^ 64
    some (PeriodicState.pushEvents { state with
      memory := loop.memory
      writes := state.writes ++ loop.writes
      executions := state.executions + 1
      batchCount := batchCount
      respBatchSize := if loop.error.isNone then batchCount else state.respBatchSize
      errorCode := loop.error.getD state.errorCode } info.batchSize resultsEnd)

/-- The body of the loop of `lwis_process_periodic_io_in_queue` for a proxy of this periodic
I/O, with `push_periodic_io_error_event_locked`. -/
def PeriodicState.processProxy (width : Nat) (info : PeriodicInfo) (state : PeriodicState)
    (reply : Nat → EntryReply) : Option PeriodicState :=
  if state.errorCode ≠ 0 ∨ state.active = false then
    some { state with
      events := state.events ++
        [⟨.passedOver, if state.errorCode ≠ 0 then state.errorCode else -125, 0, 0, []⟩] }
  else state.processIoEntries width info reply

end GsKernel.Lwis
