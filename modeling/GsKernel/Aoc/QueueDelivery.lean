import GsKernel.Aoc.Queue

/-!
# Delivery of messages by a queue

The invariant of a queue whose writes go to free slots: the counters count the messages
modulo `2 ^ 32`, the messages between them lie in their slots, and each user is where
its call has left it.
-/

namespace GsKernel.Aoc

open Lib.CircularStore Channel QueueSystem Region List Nat

/-- A message lies at a pointer. -/
structure Stored (memory : Nat → UInt8) (ptr : Nat) (message : List UInt8) : Prop where
  header : load memory ptr HEADER_SIZE = messageHeader message.length
  payload : load memory (ptr + HEADER_SIZE) message.length = message

variable {memory : Nat → UInt8} {ptr length : Nat}

lemma headerLength_eq_mod (header : load memory ptr HEADER_SIZE = messageHeader length) :
    headerLength memory ptr = length % 2 ^ 16 := by
  have cells : load memory ptr HEADER_SIZE = [memory ptr, memory (ptr + 1), memory (ptr + 2),
      memory (ptr + 3), memory (ptr + 4), memory (ptr + 5), memory (ptr + 6), memory (ptr + 7)] := rfl
  rw [cells, messageHeader] at header
  simp only [cons.injEq] at header
  obtain ⟨low, high, -⟩ := header
  simp only [headerLength, low, high, UInt8.toNat_ofNat']
  omega

lemma headerLength_of_load (small : length < 2 ^ 16)
    (header : load memory ptr HEADER_SIZE = messageHeader length) :
    headerLength memory ptr = length :=
  (headerLength_eq_mod header).trans (mod_eq_of_lt small)

namespace Region

variable {r : Region}

/-- Where message `count` goes. -/
def slotPointer (r : Region) (count : Nat) : Nat := r.offset + r.size * (count % 2 ^ 32 % r.slots)

/-- A message that a slot can hold and a header can describe. -/
structure Fits (r : Region) (message : List UInt8) : Prop where
  size : message.length ≤ r.messageSize .queue
  length : message.length < 2 ^ 16

variable {message : List UInt8}

section

variable (fits : r.Fits message)
include fits

lemma Fits.advanceTx (amount : Nat) :
    (r.advanceTx amount).Fits message := ⟨fits.size, fits.length⟩

lemma Fits.advanceRx (amount : Nat) :
    (r.advanceRx amount).Fits message := ⟨fits.size, fits.length⟩

/-- A copy of the producer in slot `slot`. Where a slot is no larger than a header, only
empty messages fit, and their headers run over into other slots but are all zeros. -/
def Within (r : Region) (slot start : Nat) (values : List UInt8) : Prop :=
  r.size ≤ HEADER_SIZE ∧ (∀ value ∈ values, value = 0) ∨
    HEADER_SIZE < r.size ∧ r.offset + r.size * slot ≤ start ∧
      start + values.length ≤ r.offset + r.size * slot + r.size

lemma Fits.within_header (slot : Nat) :
    r.Within slot (r.offset + r.size * slot) (messageHeader message.length) := by
  have size := fits.size
  simp only [messageSize] at size
  by_cases tiny : r.size ≤ HEADER_SIZE
  · rw [if_pos tiny, le_zero] at size
    rw [size]
    exact .inl ⟨tiny, by simp [messageHeader]⟩
  · have header : (messageHeader message.length).length = HEADER_SIZE := rfl
    rw [Within, header]
    exact .inr ⟨by omega, le_rfl, by omega⟩

lemma Fits.within_payload (slot : Nat) :
    r.Within slot (r.offset + r.size * slot + HEADER_SIZE) message := by
  have size := fits.size
  simp only [messageSize] at size
  by_cases tiny : r.size ≤ HEADER_SIZE
  · rw [if_pos tiny, le_zero, length_eq_zero_iff] at size
    rw [size]
    exact .inl ⟨tiny, forall_mem_nil _⟩
  · rw [if_neg tiny] at size
    exact .inr ⟨by omega, by omega, by omega⟩

end

end Region

/-- A copy in one slot keeps the message in another. -/
lemma Stored.store {r : Region} {slot other start : Nat}
    {message values : List UInt8} (fits : r.Fits message) (apart : slot ≠ other)
    (within : r.Within other start values)
    (stored : Stored memory (r.offset + r.size * slot) message) :
    Stored (store memory start values) (r.offset + r.size * slot) message := by
  obtain ⟨header, payload⟩ := stored
  have size := fits.size
  simp only [messageSize] at size
  rcases within with ⟨tiny, zeros⟩ | ⟨large, first, last⟩
  · rw [if_pos tiny, le_zero] at size
    have empty : messageHeader message.length = replicate HEADER_SIZE 0 := by
      rw [size]
      rfl
    refine ⟨?_, ?_⟩
    · rw [empty] at header ⊢
      exact load_store_replicate memory start values header zeros
    · rw [length_eq_zero_iff] at size
      rw [size]
      rfl
  · -- the two slots lie side by side or further apart
    have slots : r.size * slot + r.size ≤ r.size * other ∨ r.size * other + r.size ≤ r.size * slot := by
      rcases lt_or_gt_of_ne apart with before | after
      · exact .inl (mul_succ r.size slot ▸ mul_le_mul_left r.size before)
      · exact .inr (mul_succ r.size other ▸ mul_le_mul_left r.size after)
    rw [if_neg (by omega)] at size
    exact ⟨by rwa [load_store_disjoint _ _ _ (by omega)],
      by rwa [load_store_disjoint _ _ _ (by omega)]⟩

lemma getElem?_append_some {α : Type*} {values others : List α} {index : Nat} {value : α}
    (found : values[index]? = some value) : (values ++ others)[index]? = some value := by
  obtain ⟨inside, -⟩ := List.getElem?_eq_some_iff.mp found
  rwa [getElem?_append_left inside]

namespace QueueSystem

/-- What the producer has done so far. -/
def ProducerReady (system : QueueSystem) : Prop :=
  match system.producer with
  | .idle => True
  | .header bytes =>
    system.channel.region.Fits bytes ∧
      system.sent.length < system.received.length + system.channel.region.slots
  | .payload ptr bytes =>
    system.channel.region.Fits bytes ∧
      system.sent.length < system.received.length + system.channel.region.slots ∧
      ptr = system.channel.region.slotPointer system.sent.length ∧
      load system.channel.memory ptr HEADER_SIZE = messageHeader bytes.length
  | .advance bytes =>
    system.channel.region.Fits bytes ∧
      system.sent.length < system.received.length + system.channel.region.slots ∧
      Stored system.channel.memory (system.channel.region.slotPointer system.sent.length) bytes

/-- What the consumer has found so far. -/
def ConsumerReady (system : QueueSystem) : Prop :=
  match system.consumer with
  | .idle => True
  | .header _ => system.received.length < system.sent.length
  | .payload ptr length =>
    ptr = system.channel.region.slotPointer system.received.length ∧
      ∃ message, system.sent[system.received.length]? = some message ∧ length = message.length
  | .advance bytes => system.sent[system.received.length]? = some bytes

/-- The invariant of a queue. -/
structure Delivers (system : QueueSystem) : Prop where
  queue : system.channel.serviceType = .queue
  slots : 0 < system.channel.region.slots
  narrow : system.channel.region.slots < 2 ^ 32
  place : system.channel.region.size * (system.channel.region.slots - 1) < 2 ^ 32
  tx : system.channel.region.tx = u32 system.sent.length
  rx : system.channel.region.rx = u32 system.received.length
  room : system.sent.length ≤ system.received.length + system.channel.region.slots
  inOrder : system.received <+: system.sent
  fits : ∀ message ∈ system.sent, system.channel.region.Fits message
  stored : ∀ count message, system.received.length ≤ count → system.sent[count]? = some message →
    Stored system.channel.memory (system.channel.region.slotPointer count) message
  producerReady : system.ProducerReady
  consumerReady : system.ConsumerReady

/-- The slot of the next message is not that of an unread one: the counters have not just
wrapped, or fewer messages are unread than `2 ^ 32` leaves over. -/
def Clear (system : QueueSystem) : Prop :=
  system.channel.region.tx < 2 ^ 32 % system.channel.region.slots →
    u32Sub system.channel.region.tx system.channel.region.rx < 2 ^ 32 % system.channel.region.slots

/-- The producer copies into a slot only when that is clear, and its messages have a length
that a header can describe. -/
def Admissible (system : QueueSystem) : QueueEvent → Prop
  | .startWrite bytes => bytes.length < 2 ^ 16
  | .produce =>
    match system.producer with
    | .header _ | .payload _ _ => system.Clear
    | _ => True
  | _ => True

namespace Delivers

variable {system next : QueueSystem}

section

variable (delivers : system.Delivers)
include delivers

lemma order : system.received.length ≤ system.sent.length :=
  delivers.inOrder.length_le

lemma near : system.sent.length - system.received.length < 2 ^ 32 := by
  have room := delivers.room
  have narrow := delivers.narrow
  omega

lemma readWriteDelta_eq :
    system.channel.region.readWriteDelta = system.sent.length - system.received.length :=
  readWriteDelta_of_counts delivers.tx delivers.rx delivers.order delivers.near

lemma slotsAvailableToRead_eq : system.channel.region.slotsAvailableToRead .queue =
      system.sent.length - system.received.length := by
  have room := delivers.room
  simp only [slotsAvailableToRead, delivers.readWriteDelta_eq]
  split_ifs <;> omega

lemma slotsAvailableToWrite_eq : system.channel.region.slotsAvailableToWrite .queue =
      system.channel.region.slots - (system.sent.length - system.received.length) := by
  have room := delivers.room
  have narrow := delivers.narrow
  simp only [slotsAvailableToWrite, delivers.readWriteDelta_eq]
  split_ifs <;> omega

/-- The offset of a slot does not pass `2 ^ 32`. -/
lemma slotOffset (count : Nat) :
    u32 (system.channel.region.size * (u32 count % system.channel.region.slots)) =
      system.channel.region.size * (count % 2 ^ 32 % system.channel.region.slots) := by
  have index := mod_lt (u32 count) delivers.slots
  exact mod_eq_of_lt ((mul_le_mul_left _ (le_sub_one_of_lt index)).trans_lt delivers.place)

lemma writePointer_eq : system.channel.region.currentWritePointer .queue =
      system.channel.region.slotPointer system.sent.length := by
  rw [currentWritePointer, if_neg (by decide), delivers.tx, delivers.slotOffset]
  rfl

lemma readPointer_eq : system.channel.region.currentReadPointer .queue =
      system.channel.region.slotPointer system.received.length := by
  rw [currentReadPointer, if_neg (by decide), delivers.rx, delivers.slotOffset]
  rfl

section

variable (clear : system.Clear) (room : system.sent.length < system.received.length +
  system.channel.region.slots)
include clear room

/-- In a clear state the next slot is none of an unread message. -/
lemma slot_ne {count : Nat} (unread : system.received.length ≤ count) (sent : count < system.sent.length) :
    count % 2 ^ 32 % system.channel.region.slots ≠
      system.sent.length % 2 ^ 32 % system.channel.region.slots := by
  refine index_ne delivers.narrow.le ⟨unread, sent⟩ room fun wrapped => ?_
  have apart := clear (by rw [delivers.tx]; exact wrapped)
  rwa [delivers.tx, delivers.rx, u32Sub_of_counts delivers.order delivers.near] at apart

/-- A copy into the next slot keeps what is unread. -/
lemma stored_store {start : Nat} {values : List UInt8} (within : system.channel.region.Within
      (system.sent.length % 2 ^ 32 % system.channel.region.slots) start values)
    {count : Nat} {message : List UInt8} (unread : system.received.length ≤ count)
    (sent : system.sent[count]? = some message) :
    Stored (store system.channel.memory start values)
      (system.channel.region.slotPointer count) message := by
  obtain ⟨inside, rfl⟩ := List.getElem?_eq_some_iff.mp sent
  exact (delivers.stored count _ unread sent).store (delivers.fits _ (getElem_mem _))
    (delivers.slot_ne clear room unread inside) within

end

variable {bytes : List UInt8}

lemma copyHeader (copying : system.producer = .header bytes) (clear : system.Clear)
    (ran : system.produce = some next) : next.Delivers := by
  have ready := delivers.producerReady
  simp only [ProducerReady, copying] at ready
  obtain ⟨fits, room⟩ := ready
  simp only [produce, copying, delivers.queue, delivers.writePointer_eq] at ran
  cases ran
  refine { delivers with queue := rfl, stored := ?_, producerReady := ⟨fits, room, rfl, ?_⟩ }
  · intro count message unread sent
    exact delivers.stored_store clear room (fits.within_header _) unread sent
  · exact load_store system.channel.memory _ (messageHeader bytes.length)

lemma copyPayload {ptr : Nat}
    (copying : system.producer = .payload ptr bytes) (clear : system.Clear)
    (ran : system.produce = some next) : next.Delivers := by
  have ready := delivers.producerReady
  simp only [ProducerReady, copying] at ready
  obtain ⟨fits, room, rfl, header⟩ := ready
  simp only [produce, copying] at ran
  cases ran
  refine { delivers with stored := ?_, producerReady := ⟨fits, room, ?_, ?_⟩ }
  · intro count message unread sent
    exact delivers.stored_store clear room (fits.within_payload _) unread sent
  · rw [load_store_disjoint _ _ _ (.inl le_rfl)]
    exact header
  · exact load_store system.channel.memory _ bytes

/-- The update of `tx` keeps the deliveries. -/
lemma finishWrite
    (copied : system.producer = .advance bytes) (ran : system.produce = some next) :
    next.Delivers := by
  have ready := delivers.producerReady
  simp only [ProducerReady, copied] at ready
  obtain ⟨fits, room, stored⟩ := ready
  have order := delivers.order
  have advanced : (system.channel.region.advanceWriteIndex .queue 1).2 =
      system.channel.region.advanceTx 1 := by
    have available : ¬ system.channel.region.slotsAvailableToWrite .queue < 1 := by
      rw [delivers.slotsAvailableToWrite_eq]
      omega
    simp [advanceWriteIndex, available]
  simp only [produce, copied, delivers.queue, advanced] at ran
  cases ran
  refine ⟨rfl, delivers.slots, delivers.narrow, delivers.place, ?_, delivers.rx, ?_,
    delivers.inOrder.trans (prefix_append _ _), ?_, ?_, trivial, ?_⟩
  · simp only [advanceTx, delivers.tx, u32, length_append, length_singleton]
    omega
  · rw [length_append]
    exact room
  · intro message sent
    rcases mem_append.mp sent with old | new
    · exact (delivers.fits message old).advanceTx 1
    · obtain rfl := mem_singleton.mp new
      exact fits.advanceTx 1
  · intro count message unread sent
    by_cases old : count < system.sent.length
    · rw [getElem?_append_left old] at sent
      exact delivers.stored count message unread sent
    obtain ⟨inside, found⟩ := List.getElem?_eq_some_iff.mp sent
    have last : count = system.sent.length := by
      simp only [length_append, length_singleton] at inside
      omega
    subst last
    rw [getElem_concat_length rfl] at found
    rw [← found]
    exact stored
  · have found := delivers.consumerReady
    unfold ConsumerReady at found ⊢
    dsimp only
    cases consumer : system.consumer with
    | idle => trivial
    | header size =>
      simp only [consumer, length_append] at found ⊢
      omega
    | payload ptr length =>
      simp only [consumer] at found ⊢
      obtain ⟨pointer, message, sent, same⟩ := found
      exact ⟨pointer, message, getElem?_append_some sent, same⟩
    | advance read =>
      simp only [consumer] at found ⊢
      exact getElem?_append_some found

/-- The message that the consumer finds at its pointer. -/
lemma oldest (unread : system.received.length < system.sent.length) :
    ∃ message, system.sent[system.received.length]? = some message ∧
      headerLength system.channel.memory
        (system.channel.region.slotPointer system.received.length) = message.length ∧
      load system.channel.memory (system.channel.region.slotPointer system.received.length +
        HEADER_SIZE) message.length = message := by
  have found := getElem?_eq_getElem unread
  have stored := delivers.stored system.received.length _ le_rfl found
  have fits := delivers.fits _ (getElem_mem unread)
  exact ⟨_, found, headerLength_of_load fits.length stored.header, stored.payload⟩

lemma readHeader {size : Nat}
    (reading : system.consumer = .header size) (ran : system.consume = some next) :
    next.Delivers := by
  have ready := delivers.consumerReady
  simp only [ConsumerReady, reading] at ready
  obtain ⟨message, found, length, -⟩ := delivers.oldest ready
  simp only [consume, reading, delivers.queue, delivers.readPointer_eq, length] at ran
  cases ran
  refine { delivers with consumerReady := ?_ }
  unfold ConsumerReady
  dsimp only
  by_cases short : size < message.length
  · rw [if_pos short]
    trivial
  · rw [if_neg short]
    exact ⟨rfl, message, found, rfl⟩

lemma copyMessage {ptr length : Nat}
    (reading : system.consumer = .payload ptr length) (ran : system.consume = some next) :
    next.Delivers := by
  have ready := delivers.consumerReady
  simp only [ConsumerReady, reading] at ready
  obtain ⟨rfl, message, found, rfl⟩ := ready
  obtain ⟨inside, -⟩ := List.getElem?_eq_some_iff.mp found
  obtain ⟨oldest, same, -, payload⟩ := delivers.oldest inside
  obtain rfl : oldest = message := Option.some.inj (same.symm.trans found)
  simp only [consume, reading, payload] at ran
  cases ran
  exact { delivers with consumerReady := found }

/-- So does the update of `rx`. -/
lemma finishRead
    (read : system.consumer = .advance bytes) (ran : system.consume = some next) :
    next.Delivers := by
  have ready := delivers.consumerReady
  simp only [ConsumerReady, read] at ready
  obtain ⟨inside, found⟩ := List.getElem?_eq_some_iff.mp ready
  have room := delivers.room
  have advanced : (system.channel.region.advanceReadIndex .queue 1).2 =
      system.channel.region.advanceRx 1 := by
    have available : ¬ system.channel.region.slotsAvailableToRead .queue < 1 := by
      rw [delivers.slotsAvailableToRead_eq]
      omega
    simp [Region.advanceReadIndex, available]
  simp only [consume, read, delivers.queue, advanced] at ran
  cases ran
  refine ⟨rfl, delivers.slots, delivers.narrow, delivers.place, delivers.tx, ?_, ?_, ?_,
    fun message sent => (delivers.fits message sent).advanceRx 1, ?_, ?_, trivial⟩
  · simp only [Region.advanceRx, delivers.rx, u32, length_append, length_singleton]
    omega
  · simp only [length_append, length_singleton, Region.advanceRx]
    omega
  · rw [← found]
    exact concat_get_prefix delivers.inOrder inside
  · intro count message unread sent
    rw [length_append] at unread
    exact delivers.stored count message (by omega) sent
  · have ready := delivers.producerReady
    unfold ProducerReady at ready ⊢
    dsimp only
    cases producer : system.producer with
    | idle => trivial
    | header bytes =>
      simp only [producer, length_append] at ready ⊢
      exact ⟨ready.1.advanceRx 1, lt_of_lt_of_le ready.2 (by simp only [Region.advanceRx]; omega)⟩
    | payload ptr bytes | advance bytes =>
      simp only [producer, length_append] at ready ⊢
      exact ⟨ready.1.advanceRx 1,
        lt_of_lt_of_le ready.2.1 (by simp only [Region.advanceRx]; omega), ready.2.2⟩

/-- Every admissible step keeps the invariant. -/
lemma step {event : QueueEvent} (admissible : system.Admissible event)
    (ran : system.step event = some next) : next.Delivers := by
  cases event with
  | startWrite bytes =>
    simp only [QueueSystem.step, Channel.canWriteMessage, delivers.queue,
      delivers.slotsAvailableToWrite_eq] at ran
    split_ifs at ran with busy refused
    · cases ran
      exact delivers
    cases ran
    obtain ⟨available, fits⟩ := not_or.mp refused
    have room : 0 < system.channel.region.slots -
        (system.sent.length - system.received.length) := by simpa using available
    exact { delivers with
      producerReady := ⟨⟨not_lt.mp fits, admissible⟩, by dsimp only; omega⟩ }
  | produce =>
    simp only [Admissible] at admissible
    cases producer : system.producer with
    | idle => simp [QueueSystem.step, produce, producer] at ran
    | header bytes =>
      rw [producer] at admissible
      exact delivers.copyHeader producer admissible ran
    | payload ptr bytes =>
      rw [producer] at admissible
      exact delivers.copyPayload producer admissible ran
    | advance bytes => exact delivers.finishWrite producer ran
  | startRead size =>
    simp only [QueueSystem.step, Channel.canReadMessage, delivers.queue,
      delivers.slotsAvailableToRead_eq] at ran
    split_ifs at ran with busy empty
    · cases ran
      exact delivers
    · cases ran
      have unread : 0 < system.sent.length - system.received.length := by simpa using empty
      exact { delivers with consumerReady := Nat.lt_of_sub_pos unread }
  | consume =>
    cases consumer : system.consumer with
    | idle => simp [QueueSystem.step, consume, consumer] at ran
    | header size => exact delivers.readHeader consumer ran
    | payload ptr length => exact delivers.copyMessage consumer ran
    | advance bytes => exact delivers.finishRead consumer ran

/-- A read by itself returns the oldest unread message, if it fits the buffer. -/
lemma readMessage_eq (size : Nat) : (system.channel.readMessage size).1 =
      system.sent[system.received.length]?.filter fun message => message.length ≤ size := by
  simp only [readMessage, canReadMessage, delivers.queue,
    delivers.slotsAvailableToRead_eq, delivers.readPointer_eq, reduceCtorEq, if_false]
  by_cases unread : system.received.length < system.sent.length
  · obtain ⟨message, found, length, payload⟩ := delivers.oldest unread
    rw [if_neg (by simpa using unread), found, length]
    by_cases short : size < message.length
    · simp [short, Option.filter_some]
    · simp [short, payload, Option.filter_some, not_lt.mp short]
  · simp [unread]

/-- A write starts when a slot is free and the message fits it. -/
lemma startWrite_eq (idle : system.producer = .idle) (bytes : List UInt8) :
    system.step (.startWrite bytes) = some
      (if system.sent.length - system.received.length < system.channel.region.slots ∧
          bytes.length ≤ system.channel.region.messageSize .queue then
        { system with producer := .header bytes }
      else system) := by
  simp only [QueueSystem.step, idle, Channel.canWriteMessage, delivers.queue,
    delivers.slotsAvailableToWrite_eq, ne_eq, not_true_eq_false, if_false]
  by_cases free : system.sent.length - system.received.length < system.channel.region.slots
  · by_cases large : bytes.length > system.channel.region.messageSize .queue
    · simp [large, not_le.mpr large]
    · simp [free, large, not_lt.mp large]
  · simp [free, Nat.sub_eq_zero_of_le (not_lt.mp free)]

end

end Delivers

lemma samePlace_step {system next : QueueSystem} {event : QueueEvent}
    (ran : system.step event = some next) :
    system.channel.region.SamePlace next.channel.region := by
  have unchanged : system.channel.region.SamePlace system.channel.region := ⟨rfl, rfl, rfl⟩
  cases event with
  | startWrite bytes | startRead size =>
    simp only [step] at ran
    split_ifs at ran <;> obtain rfl := Option.some.inj ran <;> exact unchanged
  | produce =>
    simp only [step, produce] at ran
    split at ran
    · cases ran
    all_goals cases ran
    · exact unchanged
    · exact unchanged
    · exact samePlace_advanceWriteIndex _ _ _
  | consume =>
    simp only [step, consume] at ran
    split at ran
    · cases ran
    all_goals cases ran
    · exact unchanged
    · exact unchanged
    · exact samePlace_advanceReadIndex _ _ _

end QueueSystem

end GsKernel.Aoc
