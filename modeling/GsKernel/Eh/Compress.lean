import GsKernel.Lib.Runs
import GsKernel.Lib.Errno

/-!
# Compression requests to Emerald Hill

Requests go into a ring of descriptors that the hardware completes in order, or, when it is full,
to a list from which they are moved later. One thread calls back for complete descriptors. The
indices count modulo twice the size, so that a full ring can be told from an empty one.

Producers, the hardware and the thread interleave. The check, the descriptor with the count of
requests, and the write index of `request_to_hw_fifo` are separate steps. The pages and the
results are left out.
-/

namespace GsKernel.Eh

open Function

/-- `enum eh_cdesc_status`. -/
inductive CdescStatus where
  | idle | compressed | copied | abort | zero | errorContinue | errorHalted | pending
deriving DecidableEq

/-- A status in which the hardware may leave a descriptor. -/
def CdescStatus.isFinal : CdescStatus → Bool
  | .idle | .pending => false
  | _ => true

/-- Who has taken `fifo_prod_lock`. -/
inductive Holder where
  | producer (index : Nat)
  | thread
deriving DecidableEq

/-- A request on its way into the ring: who puts it there, its private data, and whether its
descriptor is set up. -/
structure Insertion (ρ : Type) where
  holder : Holder
  priv : ρ
  filled : Bool
deriving DecidableEq

/-- The ring of descriptors with its indices, private data and lock, and the hardware's
complete index and error condition. -/
structure HwFifo (ρ : Type) where
  log : Nat
  writeIndex : Nat
  completeIndex : Nat
  completions : Nat → Option ρ
  status : Nat → CdescStatus
  hwComplete : Nat
  halted : Bool
  insertion : Option (Insertion ρ)

section Ring

variable {ρ : Type} (fifo : HwFifo ρ)

namespace HwFifo

/-- `fifo_size`. -/
def size : Nat := 2 ^ fifo.log

/-- `fifo_index_mask`. -/
def indexMask : Nat := fifo.size - 1

/-- `fifo_color_mask`. -/
def colorMask : Nat := 2 * fifo.size - 1

/-- `fifo_full`. -/
def full : Bool :=
  fifo.writeIndex &&& fifo.indexMask = fifo.completeIndex &&& fifo.indexMask &&
    fifo.writeIndex ≠ fifo.completeIndex

/-- The request takes the lock and a free slot. -/
def takeSlot (holder : Holder) (priv : ρ) : HwFifo ρ :=
  { fifo with insertion := some ⟨holder, priv, false⟩ }

/-- `eh_setup_descriptor` and the private data of the slot. -/
def fillSlot (insertion : Insertion ρ) : HwFifo ρ :=
  let slot := fifo.writeIndex &&& fifo.indexMask
  { fifo with
    completions := update fifo.completions slot (some insertion.priv)
    status := update fifo.status slot .pending
    insertion := some { insertion with filled := true } }

/-- `update_fifo_write_index`, and the lock is given back. -/
def publish : HwFifo ρ :=
  { fifo with
    writeIndex := (fifo.writeIndex + 1) &&& fifo.colorMask
    insertion := none }

/-- The hardware completes its next descriptor. -/
def hwStep (status : CdescStatus) : HwFifo ρ :=
  { fifo with
    status := update fifo.status (fifo.hwComplete &&& fifo.indexMask) status
    hwComplete := (fifo.hwComplete + 1) &&& fifo.colorMask
    halted := status = .errorHalted }

/-- The descriptor of an index is set back to idle. -/
def idle (index : Nat) : HwFifo ρ :=
  { fifo with status := update fifo.status (index &&& fifo.indexMask) .idle }

/-- `update_fifo_complete_index`. -/
def retire : HwFifo ρ :=
  { fifo with completeIndex := (fifo.completeIndex + 1) &&& fifo.colorMask }

/-- The private data of a slot is cleared. -/
def forget (slot : Nat) : HwFifo ρ :=
  { fifo with completions := update fifo.completions slot none }

end HwFifo

end Ring

/-- Where a call of `eh_compress_page` is. -/
inductive ProducerState (ρ : Type) where
  | idle
  | toHw (priv : ρ)
  | inserting
  | toSw (priv : ρ)
  | allocated (priv : ρ)
deriving DecidableEq

/-- The loop of `eh_process_compress`: its index, where it stops and how many were handled. -/
structure Scan where
  index : Nat
  stop : Nat
  handled : Nat
deriving DecidableEq

/-- Where `eh_comp_thread` is. -/
inductive ThreadState (ρ : Type) where
  | waiting
  | scanning (scan : Scan)
  | called (scan : Scan) (ret : Int)
  | retired (scan : Scan) (ret : Int)
  | refill (scan : Scan)
  | refilling (scan : Scan)
  | scanned (ret : Int)
  | flush
  | flushing (rest : List ρ) (processed : Nat)
  | flushInserting (rest : List ρ) (processed : Nat)
  | aborting (index stop : Nat)
  | exited
deriving DecidableEq

/-- `struct eh_device` with its producers and its thread. The software FIFO and the lists taken
from it have the newest request first, which `first_to_eh_request` takes. The last four fields
record the requests accepted, the calls of `comp_callback`, how many were made for descriptors
aborted, and the requests accepted until the thread exited. -/
structure EhDevice (ρ : Type) where
  fifo : HwFifo ρ
  nrRequest : Int
  pool : Nat
  swFifo : List ρ
  swCount : Int
  producers : Nat → ProducerState ρ
  thread : ThreadState ρ
  accepted : List ρ
  answered : List (Option ρ)
  aborted : Nat
  atExit : List ρ

/-- A step: a call of `eh_compress_page` begins, a producer goes on, the hardware completes a
descriptor, or the thread goes on. -/
inductive EhStep (ρ : Type) where
  | request (producer : Nat) (priv : ρ)
  | producer (producer : Nat)
  | complete (status : CdescStatus)
  | thread

section Steps

variable {ρ : Type} (eh : EhDevice ρ)

/-- `eh_compress_page` is called: with requests in the software FIFO the hardware FIFO is not
tried. -/
def EhDevice.request (producer : Nat) (priv : ρ) : Option (EhDevice ρ) :=
  match eh.producers producer with
  | .idle =>
    some { eh with
      producers := update eh.producers producer
        (if eh.swCount ≠ 0 then .toSw priv else .toHw priv) }
  | _ => none

/-- The next step of a producer. -/
def EhDevice.producerStep (producer : Nat) : Option (EhDevice ρ) :=
  match eh.producers producer with
  | .idle => none
  | .toHw priv =>
    if eh.fifo.insertion.isSome then none
    else if eh.fifo.full then
      some { eh with producers := update eh.producers producer (.toSw priv) }
    else
      some { eh with
        fifo := eh.fifo.takeSlot (.producer producer) priv
        producers := update eh.producers producer .inserting }
  | .inserting =>
    match eh.fifo.insertion with
    | some ⟨.producer holder, priv, false⟩ =>
      if holder ≠ producer then none
      else
        some { eh with
          fifo := eh.fifo.fillSlot ⟨.producer holder, priv, false⟩
          nrRequest := eh.nrRequest + 1 }
    | some ⟨.producer holder, priv, true⟩ =>
      if holder ≠ producer then none
      else
        some { eh with
          fifo := eh.fifo.publish
          producers := update eh.producers producer .idle
          accepted := eh.accepted ++ [priv] }
    | _ => none
  | .toSw priv =>
    -- an empty pool is waited for
    if eh.pool = 0 then none
    else
      some { eh with
        pool := eh.pool - 1
        producers := update eh.producers producer (.allocated priv) }
  | .allocated priv =>
    -- the lock of the software FIFO is held while the thread refills the ring
    match eh.thread with
    | .refilling _ => none
    | _ =>
      some { eh with
        swFifo := priv :: eh.swFifo
        swCount := eh.swCount + 1
        producers := update eh.producers producer .idle
        accepted := eh.accepted ++ [priv] }

/-- The hardware completes a descriptor, unless it has halted or has none. -/
def EhDevice.complete (status : CdescStatus) : Option (EhDevice ρ) :=
  if eh.fifo.halted ∨ eh.fifo.hwComplete = eh.fifo.writeIndex ∨ !status.isFinal then none
  else some { eh with fifo := eh.fifo.hwStep status }

/-- The next index of the scan. -/
def Scan.next (scan : Scan) (mask : Nat) : Scan :=
  ⟨(scan.index + 1) &&& mask, scan.stop, scan.handled + 1⟩

/-- The callback of `eh_process_completed_descriptor`, or the end of the loop. -/
def EhDevice.scanStep (scan : Scan) : EhDevice ρ :=
  if scan.index = scan.stop then { eh with thread := .scanned scan.handled }
  else
    let slot := scan.index &&& eh.fifo.indexMask
    { eh with
      answered := eh.answered ++ [eh.fifo.completions slot]
      thread := .called scan (if eh.fifo.status slot = .errorHalted then -EINVAL else 0) }

/-- `refill_hw_fifo` up to the check for a full ring. The locks of both FIFOs are taken. -/
def EhDevice.refillStep (scan : Scan) : Option (EhDevice ρ) :=
  match eh.swFifo with
  | [] => some { eh with thread := .scanning (scan.next eh.fifo.colorMask) }
  | priv :: _ =>
    if eh.fifo.insertion.isSome then none
    else if eh.fifo.full then
      some { eh with thread := .scanning (scan.next eh.fifo.colorMask) }
    else
      some { eh with fifo := eh.fifo.takeSlot .thread priv, thread := .refilling scan }

/-- The rest of a flush is put back before the requests that came meanwhile. -/
def EhDevice.finishFlush (rest : List ρ) (processed : Nat) : EhDevice ρ :=
  { eh with
    swFifo := eh.swFifo ++ rest
    swCount := eh.swCount - processed
    thread := .waiting }

/-- One request of `flush_sw_fifo`, up to the check for a full ring. -/
def EhDevice.flushStep (rest : List ρ) (processed : Nat) : Option (EhDevice ρ) :=
  match rest with
  | [] => some (eh.finishFlush [] processed)
  | priv :: _ =>
    if eh.fifo.insertion.isSome then none
    else if eh.fifo.full then some (eh.finishFlush rest processed)
    else
      some { eh with
        fifo := eh.fifo.takeSlot .thread priv
        thread := .flushInserting rest processed }

/-- The loop of `eh_abort_incomplete_descriptors`; behind it the thread exits. -/
def EhDevice.abortStep (index stop : Nat) : EhDevice ρ :=
  if index = stop then { eh with thread := .exited, atExit := eh.accepted }
  else
    { eh with
      fifo := eh.fifo.forget index
      answered := eh.answered ++ [eh.fifo.completions index]
      aborted := eh.aborted + 1
      thread := .aborting ((index + 1) &&& eh.fifo.indexMask) stop }

/-- The next step of the thread. A request that the thread moves leaves its list when the
write index is updated: nobody else sees the list meanwhile. -/
def EhDevice.threadStep : Option (EhDevice ρ) :=
  match eh.thread with
  | .waiting =>
    if eh.nrRequest ≠ 0 ∨ eh.swCount ≠ 0 then
      some { eh with thread := .scanning ⟨eh.fifo.completeIndex, eh.fifo.hwComplete, 0⟩ }
    else none
  | .scanning scan => some (eh.scanStep scan)
  | .called scan ret =>
    some { eh with
      fifo := eh.fifo.idle scan.index
      nrRequest := eh.nrRequest - 1
      thread := .retired scan ret }
  | .retired scan ret =>
    some { eh with
      fifo := eh.fifo.retire
      thread := if ret < 0 then .scanned ret else .refill scan }
  | .refill scan => eh.refillStep scan
  | .refilling scan =>
    match eh.fifo.insertion with
    | some ⟨.thread, priv, false⟩ =>
      some { eh with
        fifo := eh.fifo.fillSlot ⟨.thread, priv, false⟩
        nrRequest := eh.nrRequest + 1 }
    | some ⟨.thread, _, true⟩ =>
      some { eh with
        fifo := eh.fifo.publish
        swFifo := eh.swFifo.tail
        swCount := eh.swCount - 1
        pool := eh.pool + 1
        thread := .scanning (scan.next eh.fifo.colorMask) }
    | _ => none
  | .scanned ret =>
    if ret < 0 ∧ eh.fifo.halted then
      some { eh with
        thread := .aborting (eh.fifo.hwComplete &&& eh.fifo.indexMask)
          (eh.fifo.writeIndex &&& eh.fifo.indexMask) }
    else if eh.fifo.full then some { eh with thread := .waiting }
    else some { eh with thread := .flush }
  | .flush => some { eh with swFifo := [], thread := .flushing eh.swFifo 0 }
  | .flushing rest processed => eh.flushStep rest processed
  | .flushInserting rest processed =>
    match eh.fifo.insertion with
    | some ⟨.thread, priv, false⟩ =>
      some { eh with
        fifo := eh.fifo.fillSlot ⟨.thread, priv, false⟩
        nrRequest := eh.nrRequest + 1 }
    | some ⟨.thread, _, true⟩ =>
      some { eh with
        fifo := eh.fifo.publish
        pool := eh.pool + 1
        thread := .flushing rest.tail (processed + 1) }
    | _ => none
  | .aborting index stop => some (eh.abortStep index stop)
  | .exited => none

/-- One step, if it is possible. -/
def EhDevice.step : EhStep ρ → Option (EhDevice ρ)
  | .request producer priv => eh.request producer priv
  | .producer producer => eh.producerStep producer
  | .complete status => eh.complete status
  | .thread => eh.threadStep

end Steps

/-- The device after its initialization, for the size of its ring and of its pool. -/
def EhDevice.initial (ρ : Type) (log pool : Nat) : EhDevice ρ where
  fifo := ⟨log, 0, 0, fun _ => none, fun _ => .idle, 0, false, none⟩
  nrRequest := 0
  pool := pool
  swFifo := []
  swCount := 0
  producers := fun _ => .idle
  thread := .waiting
  accepted := []
  answered := []
  aborted := 0
  atExit := []

end GsKernel.Eh
