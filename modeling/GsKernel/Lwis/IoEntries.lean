import Mathlib

/-!
# I/O entries and the response buffer

`constructIoEntry` copies a list of I/O entries and admits or rejects them, `prepareResponse`
sizes the response buffer, and `processTransaction` writes one result for every entry that reads.
The structures are packed to four bytes, and every size is a 64-bit `size_t`.
-/

namespace GsKernel.Lwis

open List

/-- The kinds of I/O entry; `unrecognized` is any other number user space may put there. -/
inductive IoEntryType where
  | read
  | readBatch
  | write
  | writeBatch
  | modify
  | poll
  | readAssert
  | pollShort
  | wait
  | writeToBuffer
  | readV2
  | readBatchV2
  | writeV2
  | writeBatchV2
  | ignore
  | unrecognized
deriving DecidableEq

/-- An I/O entry: its kind, and the `size_in_bytes` that the batch kinds carry. -/
structure IoEntry where
  type : IoEntryType
  sizeInBytes : UInt64
deriving DecidableEq

/-- `sizeof(struct lwis_io_entry)`. -/
def ioEntryBytes : Nat := 40

/-- `sizeof(struct lwis_io_result)`, the header in front of every result's values. -/
def ioResultBytes : Nat := 20

/-- `sizeof(struct lwis_transaction_response_header)`. -/
def responseHeaderBytes : Nat := 32

/-- `LWIS_IO_ENTRY_READ_RESTRICTION`: `SHRT_MAX` less the response header. -/
def ioEntryReadRestriction : Nat := 32767 - responseHeaderBytes

/-- `LWIS_IO_ENTRY_READ_OVERFLOW_BOUND`: how many reads are refused. -/
def ioEntryReadOverflowBound : Nat := ioEntryReadRestriction / ioEntryBytes

/-- The errors of the admission. -/
inductive AdmissionError where
  | overflow
  | noMemory
  | fault
  | map (code : Int)
deriving DecidableEq

/-- What the kernel services answer: whether the array of entries could be allocated and copied,
and for each entry whether its write buffer could be and the code of mapping its target buffer. -/
structure AdmissionReplies where
  entriesAllocated : Bool
  entriesCopied : Bool
  bufferAllocated : Nat → Bool
  bufferCopied : Nat → Bool
  bufferMap : Nat → Int

/-- The byte width of a register value, from the device's native width in bits. -/
def regValueBytewidth (bitwidth : UInt32) : UInt64 :=
  (bitwidth / 8).toUInt64

/-- The loop of `construct_io_entry` from entry `index` on. The remaining capacity is computed
before the entry is looked at, in `size_t`, from the reads admitted so far. -/
def constructLoop (width : UInt64) (replies : AdmissionReplies) :
    List IoEntry → (index readEntries : Nat) → (readBufSize : UInt64) → Except AdmissionError Unit
  | [], _, _, _ => .ok ()
  | entry :: entries, index, readEntries, readBufSize =>
    let remainingCapacity : UInt64 := UInt64.ofNat ioEntryReadRestriction - readBufSize -
      UInt64.ofNat readEntries * UInt64.ofNat ioResultBytes
    match entry.type with
    | .writeBatch | .writeBatchV2 =>
      if !replies.bufferAllocated index then .error .noMemory
      else if !replies.bufferCopied index then .error .fault
      else constructLoop width replies entries (index + 1) readEntries readBufSize
    | .writeToBuffer =>
      if replies.bufferMap index ≠ 0 then .error (.map (replies.bufferMap index))
      else constructLoop width replies entries (index + 1) readEntries readBufSize
    | .read | .readV2 =>
      if width > remainingCapacity ∨ readEntries + 1 ≥ ioEntryReadOverflowBound then
        .error .overflow
      else constructLoop width replies entries (index + 1) (readEntries + 1) (readBufSize + width)
    | .readBatch | .readBatchV2 =>
      if entry.sizeInBytes > remainingCapacity ∨ readEntries + 1 ≥ ioEntryReadOverflowBound then
        .error .overflow
      else constructLoop width replies entries (index + 1) (readEntries + 1)
        (readBufSize + entry.sizeInBytes)
    | _ => constructLoop width replies entries (index + 1) readEntries readBufSize

/-- `construct_io_entry`: the admission of the entries of a user's request. -/
def constructIoEntry (bitwidth : UInt32) (replies : AdmissionReplies)
    (entries : List IoEntry) : Except AdmissionError Unit :=
  let entrySize := entries.length * ioEntryBytes % 2 ^ 64
  if entrySize / ioEntryBytes ≠ entries.length then .error .overflow
  else if !replies.entriesAllocated then .error .noMemory
  else if !replies.entriesCopied then .error .fault
  else constructLoop (regValueBytewidth bitwidth) replies entries 0 0 0

/-- The loop of `prepare_response_locked`, which counts the reads and adds up their values. -/
def prepareLoop (width : UInt64) : List IoEntry → Nat → UInt64 → Nat × UInt64
  | [], readEntries, readBufSize => (readEntries, readBufSize)
  | entry :: entries, readEntries, readBufSize =>
    match entry.type with
    | .read | .readV2 => prepareLoop width entries (readEntries + 1) (readBufSize + width)
    | .readBatch | .readBatchV2 =>
      prepareLoop width entries (readEntries + 1) (readBufSize + entry.sizeInBytes)
    | _ => prepareLoop width entries readEntries readBufSize

/-- `prepare_response_locked`: the number of bytes it allocates for the response. -/
def prepareResponse (bitwidth : UInt32) (entries : List IoEntry) : UInt64 :=
  let (readEntries, readBufSize) :=
    prepareLoop (regValueBytewidth bitwidth) entries 0 0
  UInt64.ofNat responseHeaderBytes +
    UInt64.ofNat readEntries * UInt64.ofNat ioResultBytes + readBufSize

/-- A range of bytes written into the response, by its offset from the response's start. -/
structure ResponseWrite where
  offset : Nat
  length : Nat
deriving DecidableEq

/-- What one run over entries did: the ranges it wrote, the offset of `read_buf` it ended
with, and whether it got through its entries without leaving the loop. -/
structure ProcessRun where
  writes : List ResponseWrite
  readBuf : Nat
  completed : Bool
deriving DecidableEq

/-- The loop of `process_transaction` over the entries of one run, each with whether its access
succeeds. A read writes its result header first and its values behind it; only one that succeeds
moves `read_buf`. An entry that fails ends the loop unless errors are skipped. -/
def processEntries (width : UInt64) (skipErr : Bool) : List (IoEntry × Bool) → Nat → ProcessRun
  | [], readBuf => ⟨[], readBuf, true⟩
  | (entry, succeeds) :: entries, readBuf =>
    match entry.type with
    | .read | .readV2 =>
      let header : ResponseWrite := ⟨readBuf, ioResultBytes⟩
      if succeeds then
        let values : ResponseWrite := ⟨readBuf + ioResultBytes, width.toNat⟩
        let run := processEntries width skipErr entries (readBuf + ioResultBytes + width.toNat)
        { run with writes := header :: values :: run.writes }
      else if skipErr then
        let run := processEntries width skipErr entries readBuf
        { run with writes := header :: run.writes }
      else ⟨[header], readBuf, false⟩
    | .readBatch | .readBatchV2 =>
      -- The device writes the values in place, so a batch that fails may have written them.
      let header : ResponseWrite := ⟨readBuf, ioResultBytes⟩
      let values : ResponseWrite := ⟨readBuf + ioResultBytes, entry.sizeInBytes.toNat⟩
      if succeeds then
        let run := processEntries width skipErr entries
          (readBuf + ioResultBytes + entry.sizeInBytes.toNat)
        { run with writes := header :: values :: run.writes }
      else if skipErr then
        let run := processEntries width skipErr entries readBuf
        { run with writes := header :: values :: run.writes }
      else ⟨[header, values], readBuf, false⟩
    | .ignore => processEntries width skipErr entries readBuf
    | .unrecognized =>
      if skipErr then processEntries width skipErr entries readBuf else ⟨[], readBuf, false⟩
    | _ =>
      if succeeds ∨ skipErr then processEntries width skipErr entries readBuf
      else ⟨[], readBuf, false⟩

/-- The runs of `process_transaction`, as the processing limit splits the entries.
`starting_read_buf` carries the offset from each run to the next, and a run that leaves its loop
is the last. -/
def processTransaction (width : UInt64) (skipErr : Bool) :
    List (List (IoEntry × Bool)) → Nat → List ResponseWrite
  | [], _ => []
  | entries :: runs, readBuf =>
    let run := processEntries width skipErr entries readBuf
    run.writes ++ if run.completed then processTransaction width skipErr runs run.readBuf else []

/-! ## The exact size of the results -/

/-- The number of bytes the result of an entry takes, its header included. -/
def IoEntry.resultBytes (width : UInt64) (entry : IoEntry) : Nat :=
  match entry.type with
  | .read | .readV2 => ioResultBytes + width.toNat
  | .readBatch | .readBatchV2 => ioResultBytes + entry.sizeInBytes.toNat
  | _ => 0

/-- The size of all results, added up without wrapping. -/
def exactResultSize (width : UInt64) (entries : List IoEntry) : Nat :=
  (entries.map (·.resultBytes width)).sum

/-- The size of the response that holds every result, added up without wrapping. -/
def exactResponseSize (bitwidth : UInt32) (entries : List IoEntry) : Nat :=
  responseHeaderBytes + exactResultSize (regValueBytewidth bitwidth) entries

open IoEntry

@[simp] lemma exactResultSize_nil (width : UInt64) : exactResultSize width [] = 0 := rfl

@[simp] lemma exactResultSize_cons (width : UInt64) (entry : IoEntry) (entries : List IoEntry) :
    exactResultSize width (entry :: entries) =
      entry.resultBytes width + exactResultSize width entries := by
  simp [exactResultSize]

@[simp] lemma exactResultSize_append (width : UInt64) (before after : List IoEntry) :
    exactResultSize width (before ++ after) =
      exactResultSize width before + exactResultSize width after := by
  simp [exactResultSize]

/-- The counters of `prepare_response_locked` hold the exact size of the results, up to
multiples of `2 ^ 64`. -/
lemma prepareLoop_size (width : UInt64) (entries : List IoEntry) (readEntries : Nat)
    (readBufSize : UInt64) :
    ((prepareLoop width entries readEntries readBufSize).1 * ioResultBytes +
        (prepareLoop width entries readEntries readBufSize).2.toNat) % 2 ^ 64 =
      (readEntries * ioResultBytes + readBufSize.toNat + exactResultSize width entries) %
        2 ^ 64 := by
  induction entries generalizing readEntries readBufSize with
  | nil => rfl
  | cons entry entries ih =>
    rcases entry with ⟨type, size⟩
    cases type <;> simp only [prepareLoop, ih, exactResultSize_cons, resultBytes,
        UInt64.toNat_add] <;> grind

/-- The response is allocated with the exact size of its contents, modulo `2 ^ 64`. -/
lemma prepareResponse_toNat (bitwidth : UInt32) (entries : List IoEntry) :
    (prepareResponse bitwidth entries).toNat =
      exactResponseSize bitwidth entries % 2 ^ 64 := by
  have counted := prepareLoop_size (regValueBytewidth bitwidth) entries 0 0
  simp only [prepareResponse, exactResponseSize, UInt64.toNat_add, UInt64.toNat_mul,
    UInt64.toNat_ofNat', UInt64.toNat_zero, responseHeaderBytes, ioResultBytes] at counted ⊢
  omega

/-! ## Where the results are written -/

/-- A range that ends at or before `bound`. -/
def ResponseWrite.EndsBy (write : ResponseWrite) (bound : Nat) : Prop :=
  write.offset + write.length ≤ bound

/-- A run writes within the exact size of its entries' results, and leaves `read_buf` there. -/
lemma processEntries_within (width : UInt64) (skipErr : Bool)
    (entries : List (IoEntry × Bool)) (readBuf : Nat) :
    (∀ write ∈ (processEntries width skipErr entries readBuf).writes,
        write.EndsBy (readBuf + exactResultSize width (entries.map Prod.fst))) ∧
      (processEntries width skipErr entries readBuf).readBuf ≤
        readBuf + exactResultSize width (entries.map Prod.fst) := by
  induction entries generalizing readBuf with
  | nil => simp [processEntries]
  | cons head entries ih =>
    rcases head with ⟨⟨type, size⟩, succeeds⟩
    cases type with
    | _ =>
      simp only [processEntries, map_cons, exactResultSize_cons, resultBytes]
      grind [ResponseWrite.EndsBy]

/-- All runs over a transaction write within the exact size of its results, however the
processing limit splits its entries. -/
lemma processTransaction_within (width : UInt64) (skipErr : Bool)
    (runs : List (List (IoEntry × Bool))) (readBuf : Nat) :
    ∀ write ∈ processTransaction width skipErr runs readBuf,
      write.EndsBy (readBuf + exactResultSize width (runs.flatten.map Prod.fst)) := by
  induction runs generalizing readBuf with
  | nil => simp [processTransaction]
  | cons entries runs ih =>
    obtain ⟨written, ended⟩ := processEntries_within width skipErr entries readBuf
    simp only [processTransaction, flatten_cons, map_append, exactResultSize_append]
    grind [ResponseWrite.EndsBy]

/-! ## What the admission ensures -/

/-- The entries that read into the response. -/
def IoEntry.reads (entry : IoEntry) : Bool :=
  match entry.type with
  | .read | .readV2 | .readBatch | .readBatchV2 => true
  | _ => false

/-- The entries that read as many bytes as user space asks for. -/
def IoEntry.readsBatch (entry : IoEntry) : Bool :=
  match entry.type with
  | .readBatch | .readBatchV2 => true
  | _ => false

/-- The admission counts the reads and stays below its bound. -/
lemma constructLoop_reads (width : UInt64) (replies : AdmissionReplies)
    (entries : List IoEntry) (index readEntries : Nat) (readBufSize : UInt64)
    (accepted : constructLoop width replies entries index readEntries readBufSize = .ok ())
    (below : readEntries < ioEntryReadOverflowBound) :
    readEntries + entries.countP reads < ioEntryReadOverflowBound := by
  induction entries generalizing index readEntries readBufSize with
  | nil => simpa using below
  | cons entry entries ih =>
    rcases entry with ⟨type, size⟩
    cases type <;> simp only [constructLoop] at accepted <;> grind [reads]

/-- Where the loop meets a read, the results admitted before are within the restriction, so that
the remaining capacity has not wrapped. -/
def CapacityKept (width : UInt64) : List IoEntry → (admitted : Nat) → Prop
  | [], _ => True
  | entry :: entries, admitted =>
    (entry.reads = true → admitted ≤ ioEntryReadRestriction) ∧
      CapacityKept width entries (admitted + entry.resultBytes width)

/-- A read that is admitted within the capacity ends within the restriction, its header apart. -/
lemma admitted_le {size readBufSize : UInt64} {readEntries : Nat}
    (kept : readBufSize.toNat + readEntries * ioResultBytes ≤ ioEntryReadRestriction)
    (fits : ¬ size > UInt64.ofNat ioEntryReadRestriction - readBufSize -
      UInt64.ofNat readEntries * UInt64.ofNat ioResultBytes) :
    (readBufSize + size).toNat = readBufSize.toNat + size.toNat ∧
      readBufSize.toNat + size.toNat + readEntries * ioResultBytes ≤ ioEntryReadRestriction := by
  simp only [gt_iff_lt, UInt64.lt_iff_toNat_lt, UInt64.toNat_sub, UInt64.toNat_mul,
    UInt64.toNat_ofNat', UInt64.toNat_add, ioEntryReadRestriction, responseHeaderBytes,
    ioResultBytes] at kept fits ⊢
  omega

/-- The loop keeps what it has admitted within the restriction and one header. -/
lemma constructLoop_fits (width : UInt64) (replies : AdmissionReplies)
    (entries : List IoEntry) (index readEntries : Nat) (readBufSize : UInt64)
    (accepted : constructLoop width replies entries index readEntries readBufSize = .ok ())
    (kept : CapacityKept width entries (readBufSize.toNat + readEntries * ioResultBytes))
    (start : readBufSize.toNat + readEntries * ioResultBytes ≤
      ioEntryReadRestriction + ioResultBytes) :
    readBufSize.toNat + readEntries * ioResultBytes + exactResultSize width entries ≤
      ioEntryReadRestriction + ioResultBytes := by
  induction entries generalizing index readEntries readBufSize with
  | nil => exact start
  | cons entry entries ih =>
    rcases entry with ⟨type, size⟩
    obtain ⟨here, later⟩ := kept
    rw [exactResultSize_cons]
    cases type <;>
      simp only [constructLoop, reads, resultBytes, true_imp_iff] at accepted here later ⊢
    case read | readV2 | readBatch | readBatchV2 =>
      split at accepted
      · cases accepted
      rename_i fits
      obtain ⟨added, bound⟩ := admitted_le here (not_or.mp fits).1
      have rest := ih _ (readEntries + 1) _ accepted (by grind) (by grind)
      grind
    case writeBatch | writeBatchV2 =>
      split at accepted
      · cases accepted
      split at accepted
      · cases accepted
      · simpa using ih _ _ _ accepted later start
    case writeToBuffer =>
      split at accepted
      · cases accepted
      · simpa using ih _ _ _ accepted later start
    all_goals simpa using ih _ _ _ accepted later start

variable {bitwidth : UInt32} {replies : AdmissionReplies} {entries : List IoEntry}

lemma constructIoEntry_loop
    (accepted : constructIoEntry bitwidth replies entries = .ok ()) :
    constructLoop (regValueBytewidth bitwidth) replies entries 0 0 0 = .ok () := by
  simp only [constructIoEntry] at accepted
  split_ifs at accepted
  exact accepted

/-- Accepted entries hold fewer reads than the overflow bound. -/
lemma constructIoEntry_reads
    (accepted : constructIoEntry bitwidth replies entries = .ok ()) :
    entries.countP reads < ioEntryReadOverflowBound := by
  have counted := constructLoop_reads _ _ _ _ _ _ (constructIoEntry_loop accepted) (by decide)
  omega

/-- When no result is larger than `limit`, the results are at most `limit` per read. -/
lemma exactResultSize_le (width : UInt64) (limit : Nat) (entries : List IoEntry)
    (bounded : ∀ entry ∈ entries, entry.resultBytes width ≤ limit) :
    exactResultSize width entries ≤ entries.countP reads * limit := by
  induction entries with
  | nil => simp
  | cons entry entries ih =>
    have rest := ih fun other mem => bounded other (mem_cons_of_mem _ mem)
    have first := bounded entry mem_cons_self
    rcases entry with ⟨type, size⟩
    cases type <;>
      simp [countP_cons, reads, resultBytes, Nat.add_mul] at first ⊢ <;>
      omega

/-- A register value is narrower than `2 ^ 32` bytes. -/
lemma regValueBytewidth_lt (bitwidth : UInt32) : (regValueBytewidth bitwidth).toNat < 2 ^ 32 := by
  have := UInt32.toNat_lt (bitwidth / 8)
  simpa [regValueBytewidth] using this

/-- Accepted entries whose batches are no larger than the read restriction have results
that do not wrap a `size_t`. -/
lemma exactResponseSize_lt_of_batches
    (accepted : constructIoEntry bitwidth replies entries = .ok ())
    (batches : ∀ entry ∈ entries, entry.readsBatch = true →
      entry.sizeInBytes.toNat ≤ ioEntryReadRestriction) :
    exactResponseSize bitwidth entries < 2 ^ 64 := by
  have few := constructIoEntry_reads accepted
  have narrow := regValueBytewidth_lt bitwidth
  have total := exactResultSize_le (regValueBytewidth bitwidth) (2 ^ 33) entries (by
      rintro ⟨type, size⟩ mem
      have batch := batches _ mem
      cases type <;>
        simp [resultBytes, readsBatch, ioResultBytes, ioEntryReadRestriction]
          at batch ⊢ <;> omega)
  have few' : entries.countP reads < 818 := few
  simp only [exactResponseSize, responseHeaderBytes]
  omega

/-- So have accepted entries at whose reads the remaining capacity has not wrapped. -/
lemma exactResponseSize_lt_of_kept
    (accepted : constructIoEntry bitwidth replies entries = .ok ())
    (kept : CapacityKept (regValueBytewidth bitwidth) entries 0) :
    exactResponseSize bitwidth entries < 2 ^ 64 := by
  have total := constructLoop_fits _ _ _ _ 0 0 (constructIoEntry_loop accepted)
    (by simpa using kept) (by decide)
  simp only [UInt64.toNat_zero, zero_mul, zero_add, ioEntryReadRestriction, ioResultBytes,
    responseHeaderBytes, exactResponseSize] at total ⊢
  omega

/-- Results fit the response: the exact size is at most what is allocated, and every byte
that processing the entries writes lies inside the allocation, whatever entries fail,
whether errors are skipped, and however the processing limit splits the entries. -/
def ResultsFit (bitwidth : UInt32) (entries : List IoEntry) : Prop :=
  exactResponseSize bitwidth entries ≤
      (prepareResponse bitwidth entries).toNat ∧
    ∀ (skipErr : Bool) (runs : List (List (IoEntry × Bool))), runs.flatten.map Prod.fst = entries →
      ∀ write ∈ processTransaction (regValueBytewidth bitwidth) skipErr runs
          responseHeaderBytes,
        write.EndsBy (prepareResponse bitwidth entries).toNat

/-- The results of accepted entries fit the response exactly when the exact size does not
wrap a `size_t`. Batches within the read restriction ensure that, and so does an admission whose
remaining capacity wraps at no read. -/
theorem accepted_results_fit_iff (bitwidth : UInt32) (replies : AdmissionReplies)
    (entries : List IoEntry) (accepted : constructIoEntry bitwidth replies entries = .ok ()) :
    (ResultsFit bitwidth entries ↔
        exactResponseSize bitwidth entries < 2 ^ 64) ∧
      ((∀ entry ∈ entries, entry.readsBatch = true →
          entry.sizeInBytes.toNat ≤ ioEntryReadRestriction) ∨
          CapacityKept (regValueBytewidth bitwidth) entries 0 →
        exactResponseSize bitwidth entries < 2 ^ 64) := by
  refine ⟨⟨fun fits => ?_, fun exact => ?_⟩, fun bounded => bounded.elim
    (exactResponseSize_lt_of_batches accepted) (exactResponseSize_lt_of_kept accepted)⟩
  · exact lt_of_le_of_lt fits.1 (UInt64.toNat_lt _)
  · have allocated : (prepareResponse bitwidth entries).toNat =
        exactResponseSize bitwidth entries := by
      rw [prepareResponse_toNat, Nat.mod_eq_of_lt exact]
    refine ⟨allocated.ge, fun skipErr runs covers write mem => ?_⟩
    have within := processTransaction_within _ skipErr runs responseHeaderBytes write mem
    rw [allocated]
    simpa only [covers, exactResponseSize] using within

/-- Services that never fail. -/
def allServed : AdmissionReplies :=
  ⟨true, true, fun _ => true, fun _ => true, fun _ => 0⟩

/-- Two batches up to the read restriction and a plain read, on a 32-bit device. -/
def modestEntries : List IoEntry :=
  [⟨.readBatch, 4096⟩, ⟨.write, 0⟩, ⟨.readV2, 0⟩, ⟨.readBatchV2, 20000⟩]

/-- The entries above are accepted and their results fit the response. -/
theorem accepted_results_fit_modest :
    constructIoEntry 32 allServed modestEntries = .ok () ∧ ResultsFit 32 modestEntries :=
  have accepted : constructIoEntry 32 allServed modestEntries = .ok () := by decide +kernel
  have fits := accepted_results_fit_iff 32 allServed modestEntries accepted
  ⟨accepted, fits.1.2 (fits.2 (.inl (by decide +kernel)))⟩

/-- A batch that fills the restriction, and a second one that the wrapped remaining capacity
lets through. -/
def wrappingEntries : List IoEntry :=
  [⟨.readBatch, 32735⟩, ⟨.readBatch, 18446744073709518881⟩]

/-- The two batches are accepted, the response is allocated with 72 bytes, and the values of
the first batch alone end far behind it. -/
theorem accepted_results_overrun : constructIoEntry 32 allServed wrappingEntries = .ok () ∧
      prepareResponse 32 wrappingEntries = 72 ∧
      exactResponseSize 32 wrappingEntries = 2 ^ 64 + 72 ∧
      ⟨52, 32735⟩ ∈ processTransaction (regValueBytewidth 32) false
        [wrappingEntries.map (·, true)] responseHeaderBytes ∧
      ¬ ResultsFit 32 wrappingEntries := by
  refine ⟨by decide +kernel, by decide +kernel, by decide +kernel, by decide +kernel,
    fun fits => ?_⟩
  exact absurd fits.1 (by decide +kernel)

end GsKernel.Lwis
