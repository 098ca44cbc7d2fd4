import GsKernel.Lwis.PeriodicResponse

/-!
# The submission of a periodic I/O

The command copies a periodic I/O from user space, queues it under the lock of the client and,
when something fails, frees what it has allocated: a trace of allocations, frees, lock operations
and changes of the timer lists, for every way in which the kernel may answer.
-/

namespace GsKernel.Lwis

open List

/-- What a submission allocates. -/
inductive SubmitObject where
  | periodicIo
  | ioEntries
  | writeBuffer (index : Nat)
  | response
deriving DecidableEq

/-- What a submission does. `createList` makes the timer list of a period, `queue` adds a
periodic I/O to it. -/
inductive SubmitAction where
  | alloc (object : SubmitObject)
  | free (object : SubmitObject)
  | lock
  | unlock
  | createList (periodNs : Int)
  | queue (periodNs : Int) (id : Nat)
deriving DecidableEq

/-- The timer lists of a client: the periodic I/Os of every period that has one. -/
abbrev TimerLists := Int → Option (List Nat)

/-- A submission: the period asked for, the counter of the client that becomes the id, and
the I/O itself. -/
structure Submission where
  periodNs : Int
  counter : Nat
  info : PeriodicInfo

/-- The I/O entries of a submission. -/
def Submission.ioEntries (submission : Submission) : List IoEntry :=
  submission.info.entries.map (·.io)

/-- What the kernel answers: whether the object could be allocated and its info copied, the
answers to `construct_io_entry`, whether the events exist, and whether the response and a new
timer list could be allocated. -/
structure PeriodicReplies where
  objectAllocated : Bool
  infoCopied : Bool
  admission : AdmissionReplies
  eventsReady : Bool
  responseAllocated : Bool
  listAllocated : Bool

/-- A kind of entry that carries a buffer of values to write. -/
def IoEntry.isWriteBatch (entry : IoEntry) : Bool :=
  match entry.type with
  | .writeBatch | .writeBatchV2 => true
  | _ => false

/-- The write buffers of entries, from entry `index` on. -/
def writeBuffers : List IoEntry → (index : Nat) → List SubmitObject
  | [], _ => []
  | entry :: entries, index =>
    (if entry.isWriteBatch then [.writeBuffer index] else []) ++ writeBuffers entries (index + 1)

/-- A trace that goes on after an action. -/
def prependAction (action : SubmitAction) (rest : List SubmitAction × Option Nat) :
    List SubmitAction × Option Nat :=
  (action :: rest.1, rest.2)

/-- The loop of `construct_io_entry` from entry `index` on, with the write buffers it allocates.
`buffers` is `last_buf_alloc_idx + 1`; the loop returns it when it fails. -/
def constructLoopTrace (width : UInt64) (replies : AdmissionReplies) :
    List IoEntry → (index readEntries : Nat) → (readBufSize : UInt64) → (buffers : Nat) →
      List SubmitAction × Option Nat
  | [], _, _, _, _ => ([], none)
  | entry :: entries, index, readEntries, readBufSize, buffers =>
    let remainingCapacity : UInt64 := UInt64.ofNat ioEntryReadRestriction - readBufSize -
      UInt64.ofNat readEntries * UInt64.ofNat ioResultBytes
    match entry.type with
    | .writeBatch | .writeBatchV2 =>
      if !replies.bufferAllocated index then ([], some buffers)
      else if !replies.bufferCopied index then
        ([.alloc (.writeBuffer index)], some (index + 1))
      else prependAction (.alloc (.writeBuffer index))
        (constructLoopTrace width replies entries (index + 1) readEntries readBufSize (index + 1))
    | .writeToBuffer =>
      if replies.bufferMap index ≠ 0 then ([], some buffers)
      else constructLoopTrace width replies entries (index + 1) readEntries readBufSize (index + 1)
    | .read | .readV2 =>
      if width > remainingCapacity ∨ readEntries + 1 ≥ ioEntryReadOverflowBound then
        ([], some buffers)
      else constructLoopTrace width replies entries (index + 1) (readEntries + 1)
        (readBufSize + width) buffers
    | .readBatch | .readBatchV2 =>
      if entry.sizeInBytes > remainingCapacity ∨ readEntries + 1 ≥ ioEntryReadOverflowBound then
        ([], some buffers)
      else constructLoopTrace width replies entries (index + 1) (readEntries + 1)
        (readBufSize + entry.sizeInBytes) buffers
    | _ => constructLoopTrace width replies entries (index + 1) readEntries readBufSize buffers

/-- `construct_io_entry`: what it does and whether it succeeds. -/
def constructIoEntryTrace (bitwidth : UInt32) (replies : AdmissionReplies)
    (entries : List IoEntry) : List SubmitAction × Bool :=
  let entrySize := entries.length * ioEntryBytes % 2 ^ 64
  if entrySize / ioEntryBytes ≠ entries.length then ([], false)
  else if !replies.entriesAllocated then ([], false)
  else if !replies.entriesCopied then ([.alloc .ioEntries, .free .ioEntries], false)
  else
    match constructLoopTrace (regValueBytewidth bitwidth) replies entries 0 0 0 0 with
    | (trace, none) => (.alloc .ioEntries :: trace, true)
    | (trace, some buffers) =>
      (.alloc .ioEntries :: trace ++ (writeBuffers (entries.take buffers) 0).map .free ++
        [.free .ioEntries], false)

/-- `construct_periodic_io_from_cmd`. -/
def constructPeriodicIoFromCmd (bitwidth : UInt32) (replies : PeriodicReplies)
    (submission : Submission) : List SubmitAction × Bool :=
  if !replies.objectAllocated then ([], false)
  else if !replies.infoCopied then ([.alloc .periodicIo, .free .periodicIo], false)
  else
    match constructIoEntryTrace bitwidth replies.admission submission.ioEntries with
    | (trace, true) => (.alloc .periodicIo :: trace, true)
    | (trace, false) => (.alloc .periodicIo :: trace ++ [.free .periodicIo], false)

/-- `queue_periodic_io_locked`: what it does and whether it succeeds. Without a timer list it
frees the response but leaves the pointer to it. -/
def queuePeriodicIoLocked (replies : PeriodicReplies) (submission : Submission)
    (lists : TimerLists) : List SubmitAction × Bool :=
  match lists submission.periodNs with
  | some _ => ([.queue submission.periodNs submission.counter], true)
  | none =>
    if replies.listAllocated then
      ([.createList submission.periodNs, .queue submission.periodNs submission.counter], true)
    else ([.free .response], false)

/-- What `lwis_periodic_io_submit` comes to. -/
structure SubmitOutcome where
  trace : List SubmitAction
  submitted : Bool
  /-- The periodic I/O points to a response, freed or not. -/
  hasResponse : Bool

/-- `lwis_periodic_io_submit`. -/
def periodicIoSubmit (bitwidth : UInt32) (replies : PeriodicReplies)
    (submission : Submission) (lists : TimerLists) : SubmitOutcome :=
  if !replies.eventsReady then ⟨[], false, false⟩
  else if (preparePeriodicResponse (regValueBytewidth bitwidth).toNat
      submission.info).isNone then ⟨[], false, false⟩
  else if !replies.responseAllocated then ⟨[], false, false⟩
  else
    let queued := queuePeriodicIoLocked replies submission lists
    ⟨.alloc .response :: queued.1, queued.2, true⟩

/-- `lwis_periodic_io_free`. -/
def periodicIoFree (submission : Submission) (hasResponse : Bool) : List SubmitAction :=
  (writeBuffers submission.ioEntries 0).map .free ++ [.free .ioEntries] ++
    (if hasResponse then [.free .response] else []) ++ [.free .periodicIo]

/-- `cmd_periodic_io_submit`: what it does, and whether the periodic I/O is submitted. The label
at its end unlocks the client wherever the failure was. -/
def cmdPeriodicIoSubmit (bitwidth : UInt32) (replies : PeriodicReplies)
    (submission : Submission) (lists : TimerLists) : List SubmitAction × Bool :=
  let constructed := constructPeriodicIoFromCmd bitwidth replies submission
  if !constructed.2 then (constructed.1 ++ [.unlock], false)
  else
    let outcome := periodicIoSubmit bitwidth replies submission lists
    if !outcome.submitted then
      (constructed.1 ++ [.lock] ++ outcome.trace ++
        periodicIoFree submission outcome.hasResponse ++ [.unlock], false)
    else (constructed.1 ++ [.lock] ++ outcome.trace ++ [.unlock], true)

/-! ## What a trace comes to -/

/-- The client and the memory during a submission. `misused` is whether the lock was released
without being held or taken while it was held. -/
structure SubmitState where
  lock : Bool
  misused : Bool
  allocated : List SubmitObject
  freed : List SubmitObject
  lists : TimerLists

def SubmitState.act (state : SubmitState) : SubmitAction → SubmitState
  | .alloc object => { state with allocated := state.allocated ++ [object] }
  | .free object => { state with freed := state.freed ++ [object] }
  | .lock => { state with lock := true, misused := state.misused || state.lock }
  | .unlock => { state with lock := false, misused := state.misused || !state.lock }
  | .createList periodNs =>
    { state with lists := Function.update state.lists periodNs (some []) }
  | .queue periodNs id =>
    { state with
      lists := Function.update state.lists periodNs ((state.lists periodNs).map (· ++ [id])) }

/-- The client after a trace that starts with the lock free. -/
def stateAfter (lists : TimerLists) (trace : List SubmitAction) : SubmitState :=
  trace.foldl SubmitState.act ⟨false, false, [], [], lists⟩

/-- A submission ends with the lock free and never misuses it. When it fails it has left the
timer lists alone and freed exactly once what it has allocated. -/
structure SubmitsCleanly (lists : TimerLists) (result : List SubmitAction × Bool) : Prop where
  unlocked : (stateAfter lists result.1).lock = false
  proper : (stateAfter lists result.1).misused = false
  unchanged : result.2 = false → (stateAfter lists result.1).lists = lists
  once : result.2 = false → (stateAfter lists result.1).allocated.Nodup ∧
    (stateAfter lists result.1).freed.Perm (stateAfter lists result.1).allocated

open SubmitState

@[simp]
lemma foldl_allocs (objects : List SubmitObject) (state : SubmitState) :
    (objects.map SubmitAction.alloc).foldl act state =
      { state with allocated := state.allocated ++ objects } := by
  induction objects generalizing state with
  | nil => simp
  | cons object objects ih => simp [ih, act]

@[simp]
lemma foldl_frees (objects : List SubmitObject) (state : SubmitState) :
    (objects.map SubmitAction.free).foldl act state =
      { state with freed := state.freed ++ objects } := by
  induction objects generalizing state with
  | nil => simp
  | cons object objects ih => simp [ih, act]

/-! ## The construction of a periodic I/O -/

variable {entries : List IoEntry}

lemma mem_writeBuffers {index : Nat} {object : SubmitObject}
    (mem : object ∈ writeBuffers entries index) :
    ∃ position, index ≤ position ∧ object = .writeBuffer position := by
  induction entries generalizing index with
  | nil => contradiction
  | cons entry entries ih =>
    rcases mem_append.mp mem with here | later
    · split at here
      · exact ⟨index, le_rfl, mem_singleton.mp here⟩
      · contradiction
    · obtain ⟨position, above, rfl⟩ := ih later
      exact ⟨position, by omega, rfl⟩

lemma writeBuffers_nodup (entries : List IoEntry) (index : Nat) :
    (writeBuffers entries index).Nodup := by
  induction entries generalizing index with
  | nil => exact nodup_nil
  | cons entry entries ih =>
    simp only [writeBuffers]
    split
    · refine nodup_cons.mpr ⟨fun mem => ?_, ih (index + 1)⟩
      obtain ⟨position, above, same⟩ := mem_writeBuffers mem
      cases same
      omega
    · exact ih (index + 1)

/-- What the loop of `construct_io_entry` has done: it only allocates, and it has allocated every
buffer when it accepts the entries. -/
structure LoopAllocates (entries : List IoEntry) (index : Nat) (accepted : Prop)
    (result : List SubmitAction × Option Nat) : Prop where
  accepts : result.2 = none ↔ accepted
  all : result.2 = none → result.1 = (writeBuffers entries index).map .alloc
  allocates : ∃ objects : List SubmitObject, result.1 = objects.map .alloc

lemma LoopAllocates.stop {index buffers : Nat} {accepted : Prop}
    (objects : List SubmitObject) (fails : ¬accepted) :
    LoopAllocates entries index accepted (objects.map .alloc, some buffers) :=
  ⟨by simp [fails], by simp, objects, rfl⟩

lemma constructLoopTrace_allocates (width : UInt64) (replies : AdmissionReplies)
    (entries : List IoEntry) (index readEntries : Nat) (readBufSize : UInt64) (buffers : Nat) :
    LoopAllocates entries index
      (constructLoop width replies entries index readEntries readBufSize = .ok ())
      (constructLoopTrace width replies entries index readEntries readBufSize buffers) := by
  induction entries generalizing index readEntries readBufSize buffers with
  | nil => exact ⟨by simp [constructLoopTrace, constructLoop], fun _ => rfl, [], rfl⟩
  | cons entry entries ih =>
    have skip : ∀ {accepted result}, entry.isWriteBatch = false →
        LoopAllocates entries (index + 1) accepted result →
          LoopAllocates (entry :: entries) index accepted result := by
      rintro accepted result plain ⟨accepts, all, allocates⟩
      exact ⟨accepts, by simpa [writeBuffers, plain] using all, allocates⟩
    rcases entry with ⟨type, size⟩
    cases type
    case writeBatch | writeBatchV2 =>
      simp only [constructLoopTrace, constructLoop]
      split
      · exact .stop [] (by simp)
      split
      · exact .stop [.writeBuffer index] (by simp)
      · obtain ⟨accepts, all, objects, isMap⟩ := ih (index + 1) readEntries readBufSize (index + 1)
        refine ⟨accepts, fun done => ?_, .writeBuffer index :: objects,
          by simp [prependAction, isMap]⟩
        simp [prependAction, all done, writeBuffers, IoEntry.isWriteBatch]
    case writeToBuffer | read | readV2 | readBatch | readBatchV2 =>
      simp only [constructLoopTrace, constructLoop]
      split
      · exact .stop [] (by simp)
      · exact skip rfl (ih _ _ _ _)
    all_goals exact skip rfl (ih _ _ _ _)

/-- `construct_periodic_io_from_cmd` succeeds. -/
def Constructs (bitwidth : UInt32) (replies : PeriodicReplies) (submission : Submission) : Prop :=
  replies.objectAllocated = true ∧ replies.infoCopied = true ∧
    constructIoEntry bitwidth replies.admission submission.ioEntries = .ok ()

/-- What a constructed periodic I/O consists of. -/
def Submission.objects (submission : Submission) : List SubmitObject :=
  .periodicIo :: .ioEntries :: writeBuffers submission.ioEntries 0

lemma Submission.objects_nodup (submission : Submission) : submission.objects.Nodup := by
  have buffer : ∀ object ∈ writeBuffers submission.ioEntries 0, ∃ index,
      object = .writeBuffer index := fun object mem =>
    (mem_writeBuffers mem).imp fun _ => And.right
  simp only [objects, nodup_cons, mem_cons, reduceCtorEq, false_or]
  refine ⟨fun mem => ?_, fun mem => ?_, writeBuffers_nodup _ _⟩
  · exact absurd (buffer _ mem) (by simp)
  · exact absurd (buffer _ mem) (by simp)

/-- A trace that leaves the lock alone. -/
def LeavesLock (trace : List SubmitAction) : Prop :=
  ∀ state, (trace.foldl act state).lock = state.lock

lemma constructIoEntryTrace_spec (bitwidth : UInt32) (replies : AdmissionReplies)
    (entries : List IoEntry) :
    let result := constructIoEntryTrace bitwidth replies entries
    (result.2 = true ↔ constructIoEntry bitwidth replies entries = .ok ()) ∧
      (result.2 = true → result.1 = .alloc .ioEntries :: (writeBuffers entries 0).map .alloc) ∧
        LeavesLock result.1 := by
  simp only [constructIoEntryTrace, constructIoEntry]
  split
  · exact ⟨by simp, by simp, fun _ => rfl⟩
  split
  · exact ⟨by simp, by simp, fun _ => rfl⟩
  split
  · exact ⟨by simp, by simp, fun _ => rfl⟩
  obtain ⟨accepts, all, objects, isMap⟩ := constructLoopTrace_allocates
    (regValueBytewidth bitwidth) replies entries 0 0 0 0
  split
  next trace done =>
    rw [done] at accepts all isMap
    cases isMap
    exact ⟨by simpa using accepts, fun _ => congrArg (_ :: ·) (all rfl),
      fun state => by simp [act]⟩
  next trace buffers done =>
    rw [done] at accepts isMap
    cases isMap
    exact ⟨by simpa using accepts, by simp,
      fun state => by simp [foldl_append, act]⟩

lemma constructPeriodicIoFromCmd_spec (bitwidth : UInt32)
    (replies : PeriodicReplies) (submission : Submission) :
    let result := constructPeriodicIoFromCmd bitwidth replies submission
    (result.2 = true ↔ Constructs bitwidth replies submission) ∧
      (result.2 = true → result.1 = submission.objects.map .alloc) ∧ LeavesLock result.1 := by
  simp only [constructPeriodicIoFromCmd, Constructs]
  split
  next missing => exact ⟨by simp_all, by simp, fun _ => rfl⟩
  split
  next missing => exact ⟨by simp_all, by simp, fun _ => rfl⟩
  next allocated copied =>
    have spec := constructIoEntryTrace_spec bitwidth replies.admission
      submission.ioEntries
    have both : replies.objectAllocated = true ∧ replies.infoCopied = true := by simp_all
    split
    next trace done =>
      rw [done] at spec
      obtain ⟨admits, rfl, leaves⟩ := spec.imp_right (And.imp_left (· rfl))
      exact ⟨by simpa [both] using admits, fun _ => rfl, fun state => leaves _⟩
    next trace done =>
      rw [done] at spec
      obtain ⟨admits, -, leaves⟩ := spec
      refine ⟨by simpa [both] using admits, by simp, fun state => ?_⟩
      simpa [foldl_append, act] using leaves _

end GsKernel.Lwis
