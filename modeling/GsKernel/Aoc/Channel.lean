import GsKernel.Lib.CircularStore

/-!
# Channels to the always-on compute core

A service of the AoC has a region of shared memory in each direction: a ring of bytes with
counters that wrap at `2 ^ 32` and offsets that wrap at its size, or an array of slots for one
message each, selected by the counters. The functions of `aoc_ipc_core.c`, given valid pointers
and a valid direction.
-/

namespace GsKernel.Aoc

open Lib.CircularStore

/-- Arithmetic on `u32`. -/
def u32 (value : Nat) : Nat := value % 2 ^ 32

/-- Subtraction on `u32`. -/
def u32Sub (left right : Nat) : Nat := u32 (left + (2 ^ 32 - right))

def SIZE_MAX : Nat := 2 ^ 64 - 1

/-- `enum AOC_SERVICE_TYPE`. -/
inductive ServiceType where
  | queue
  | ring
  | buffer
deriving DecidableEq

/-- `struct aoc_ipc_memory_region`, of `u32` fields. -/
structure Region where
  offset : Nat
  size : Nat
  slots : Nat
  tx : Nat
  rx : Nat
  wp : Nat
  rp : Nat
deriving DecidableEq

/-- The size of `struct aoc_ipc_message_header`. -/
def HEADER_SIZE : Nat := 8

namespace Region

variable (r : Region)

/-- `_region_advance_tx`. -/
def advanceTx (amount : Nat) : Region :=
  { r with tx := u32 (r.tx + amount), wp := u32 (r.wp + amount) % r.size }

/-- `_region_advance_rx`. -/
def advanceRx (amount : Nat) : Region :=
  { r with rx := u32 (r.rx + amount), rp := u32 (r.rp + amount) % r.size }

/-- `_read_write_delta`. -/
def readWriteDelta : Nat :=
  if r.tx ≥ r.rx then r.tx - r.rx else u32 (SIZE_MAX - r.rx + r.tx + 1)

/-- `_aoc_ring_reader_sync_offset`. -/
def ringReaderSyncOffset (bytesToLeave : Nat) : Region :=
  let delta := r.readWriteDelta
  let bytesToLeave := if bytesToLeave > r.size then r.size else bytesToLeave
  let bytesToLeave := if delta < bytesToLeave then delta else bytesToLeave
  r.advanceRx (delta - bytesToLeave)

/-- The bytes that `_aoc_ring_read_buffer` finds between the offsets. -/
def ringBytesAvailable : Nat :=
  if r.wp > r.rp then r.wp - r.rp
  else if r.wp < r.rp then u32Sub (u32 (r.wp + r.size)) r.rp
  else if r.tx = r.rx then 0
  else r.size

/-- `_aoc_ring_read_buffer`: the bytes read, and the region. -/
def ringReadBuffer (memory : Nat → UInt8) (destSize : Nat) : List UInt8 × Region :=
  let r := if r.readWriteDelta > r.size then r.ringReaderSyncOffset r.size else r
  let available := r.ringBytesAvailable
  let toRead := if available > destSize then destSize else available
  let bytes :=
    if u32 (r.rp + toRead) ≤ r.size then load memory (r.offset + r.rp) toRead
    else
      let chunk := u32Sub r.size r.rp
      load memory (r.offset + r.rp) chunk ++ load memory r.offset (u32Sub toRead chunk)
  (bytes, r)

/-- `_aoc_ring_write_buffer`: the number of bytes written, and the memory. -/
def ringWriteBuffer (memory : Nat → UInt8) (src : List UInt8) : Nat × (Nat → UInt8) :=
  let toWrite := u32 src.length
  -- only the beginning is committed
  let toWrite := if toWrite > r.size then r.size else toWrite
  let memory :=
    if u32 (r.wp + toWrite) ≤ r.size then store memory (r.offset + r.wp) (src.take toWrite)
    else
      let chunk := u32Sub r.size r.wp
      store (store memory (r.offset + r.wp) (src.take chunk)) r.offset
        ((src.drop chunk).take (toWrite - chunk))
  (toWrite, memory)

/-- `aoc_service_message_size`. -/
def messageSize : ServiceType → Nat
  | .ring | .buffer => r.size
  | .queue => if r.size ≤ HEADER_SIZE then 0 else r.size - HEADER_SIZE

/-- `aoc_ring_bytes_available_to_read`. -/
def ringBytesAvailableToRead : Nat :=
  if r.readWriteDelta > r.size then r.size else r.readWriteDelta

/-- `aoc_service_slots_available_to_read`. -/
def slotsAvailableToRead : ServiceType → Nat
  | .buffer => 0
  | .ring => if r.slots = 0 then 0 else if r.tx ≠ r.rx then 1 else 0
  | .queue =>
    if r.slots = 0 then 0
    else if r.readWriteDelta > r.slots then r.slots
    else r.readWriteDelta

/-- `aoc_service_slots_available_to_write`, a `size_t`. -/
def slotsAvailableToWrite : ServiceType → Nat
  | .buffer => 0
  | .ring => if r.slots = 0 then 0 else 1
  | .queue => if r.slots = 0 then 0 else (r.slots + (2 ^ 64 - r.readWriteDelta)) % 2 ^ 64

/-- `aoc_service_advance_write_index`. -/
def advanceWriteIndex (serviceType : ServiceType) (amount : Nat) : Bool × Region :=
  let available :=
    if serviceType = .ring then r.messageSize serviceType
    else r.slotsAvailableToWrite serviceType
  if available < amount then (false, r) else (true, r.advanceTx amount)

/-- `aoc_service_advance_read_index`. -/
def advanceReadIndex (serviceType : ServiceType) (amount : Nat) : Bool × Region :=
  if serviceType = .ring then
    let available := r.ringBytesAvailableToRead
    let advance := if available < amount then available else amount
    (decide (advance = amount), r.advanceRx advance)
  else if r.slotsAvailableToRead serviceType < amount then (false, r)
  else (true, r.advanceRx amount)

/-- `aoc_service_current_read_pointer`, from `base`. -/
def currentReadPointer (serviceType : ServiceType) : Nat :=
  r.offset + if serviceType = .ring then r.rp else u32 (r.size * (r.rx % r.slots))

/-- `aoc_service_current_write_pointer`, from `base`. -/
def currentWritePointer (serviceType : ServiceType) : Nat :=
  r.offset + if serviceType = .ring then r.wp else u32 (r.size * (r.tx % r.slots))

/-- Calls keep the place of a region and its size. -/
structure SamePlace (next : Region) : Prop where
  offset : next.offset = r.offset
  size : next.size = r.size
  slots : next.slots = r.slots

lemma samePlace_advanceWriteIndex (serviceType : ServiceType) (amount : Nat) :
    r.SamePlace (r.advanceWriteIndex serviceType amount).2 := by
  simp only [advanceWriteIndex]
  split_ifs <;> exact ⟨rfl, rfl, rfl⟩

lemma samePlace_advanceReadIndex (serviceType : ServiceType) (amount : Nat) :
    r.SamePlace (r.advanceReadIndex serviceType amount).2 := by
  simp only [advanceReadIndex]
  split_ifs <;> exact ⟨rfl, rfl, rfl⟩

variable {r}

/-- The difference of counters that stand for counts less than `2 ^ 32` apart. -/
lemma readWriteDelta_of_counts {sent received : Nat} (tx : r.tx = u32 sent)
    (rx : r.rx = u32 received) (order : received ≤ sent) (near : sent - received < 2 ^ 32) :
    r.readWriteDelta = sent - received := by
  simp only [readWriteDelta, tx, rx, u32, SIZE_MAX]
  split <;> omega

end Region

lemma u32Sub_of_counts {sent received : Nat} (order : received ≤ sent)
    (near : sent - received < 2 ^ 32) : u32Sub (u32 sent) (u32 received) = sent - received := by
  simp only [u32Sub, u32]
  omega

/-- A `struct aoc_ipc_message_header` with the given length, a little-endian `u16`. -/
def messageHeader (length : Nat) : List UInt8 :=
  [.ofNat length, .ofNat (length / 2 ^ 8), 0, 0, 0, 0, 0, 0]

/-- The field `length` of the header at a pointer. -/
def headerLength (memory : Nat → UInt8) (hdr : Nat) : Nat :=
  (memory hdr).toNat + 2 ^ 8 * (memory (hdr + 1)).toNat

/-- One direction of a service: its type, the region, and the memory from `base` on. -/
structure Channel where
  serviceType : ServiceType
  region : Region
  memory : Nat → UInt8

namespace Channel

variable (channel : Channel)

/-- `aoc_service_can_read_message`. -/
def canReadMessage : Bool :=
  decide (channel.region.slotsAvailableToRead channel.serviceType > 0)

/-- `aoc_service_can_write_message`. -/
def canWriteMessage : Bool :=
  decide (channel.region.slotsAvailableToWrite channel.serviceType > 0)

/-- `aoc_service_read_message`: the bytes, if the call returns true, and the channel. -/
def readMessage (size : Nat) : Option (List UInt8) × Channel :=
  if channel.canReadMessage = false then (none, channel)
  else if channel.serviceType = .ring then
    let (bytes, region) := channel.region.ringReadBuffer channel.memory size
    (some bytes, { channel with region := region.advanceRx bytes.length })
  else
    let ptr := channel.region.currentReadPointer channel.serviceType
    let length := headerLength channel.memory ptr
    if size < length then (none, channel)
    else
      (some (load channel.memory (ptr + HEADER_SIZE) length),
        { channel with region := (channel.region.advanceReadIndex channel.serviceType 1).2 })

/-- `aoc_service_write_message`. -/
def writeMessage (bytes : List UInt8) : Bool × Channel :=
  if channel.canWriteMessage = false then (false, channel)
  else if bytes.length > channel.region.messageSize channel.serviceType then (false, channel)
  else if channel.serviceType = .ring then
    let (written, memory) := channel.region.ringWriteBuffer channel.memory bytes
    (true, { channel with memory := memory, region := channel.region.advanceTx written })
  else
    let ptr := channel.region.currentWritePointer channel.serviceType
    -- `_aoc_queue_write_buffer`
    let memory := store channel.memory ptr (messageHeader bytes.length)
    (true, { channel with
      memory := store memory (ptr + HEADER_SIZE) bytes
      region := (channel.region.advanceWriteIndex channel.serviceType 1).2 })

/-- `aoc_ring_flush_read_data`. -/
def ringFlushReadData (bytesToLeave : Nat) : Bool × Channel :=
  if channel.serviceType ≠ .ring then (false, channel)
  else (true, { channel with region := channel.region.ringReaderSyncOffset bytesToLeave })

/-- `aoc_service_advance_read_index` of the channel. -/
def advanceReadIndex (amount : Nat) : Bool × Channel :=
  let (done, region) := channel.region.advanceReadIndex channel.serviceType amount
  (done, { channel with region := region })

end Channel

end GsKernel.Aoc
