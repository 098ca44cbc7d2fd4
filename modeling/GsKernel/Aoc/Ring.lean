import GsKernel.Aoc.Channel
import GsKernel.Lib.Runs

/-!
# A ring channel is a lossy stream of bytes

`ByteStream` is all that was written, with the position of the reader, which skips what the writer
has overtaken. The counters and the offsets represent the same two positions, modulo `2 ^ 32` and
modulo the size; every call keeps them in step and returns what the stream would, as long as the
counters are not ambiguous.
-/

namespace GsKernel.Aoc

open Lib.CircularStore Region List

/-- The calls on a ring. -/
inductive RingCall where
  | write (bytes : List UInt8)
  | read (size : Nat)
  | advanceRead (amount : Nat)
  | flush (bytesToLeave : Nat)
deriving DecidableEq

/-- What a call returns: a flag, or the bytes read, if any. -/
inductive RingResult where
  | done (ok : Bool)
  | bytes (result : Option (List UInt8))
deriving DecidableEq

/-- A call on a channel. -/
def Channel.ringCall (channel : Channel) : RingCall → RingResult × Channel
  | .write bytes => ((.done (channel.writeMessage bytes).1), (channel.writeMessage bytes).2)
  | .read size => ((.bytes (channel.readMessage size).1), (channel.readMessage size).2)
  | .advanceRead amount =>
    ((.done (channel.advanceReadIndex amount).1), (channel.advanceReadIndex amount).2)
  | .flush bytesToLeave =>
    ((.done (channel.ringFlushReadData bytesToLeave).1), (channel.ringFlushReadData bytesToLeave).2)

/-- All that was written, and the position of the reader. -/
structure ByteStream where
  written : List UInt8
  position : Nat
deriving DecidableEq

namespace ByteStream

variable (size : Nat) (slots : Nat) (stream : ByteStream)

/-- The bytes that the reader has not reached. -/
def unread : Nat := stream.written.length - stream.position

/-- What a call does on a stream of which the last `size` bytes are kept. -/
def call : RingCall → RingResult × ByteStream
  | .write bytes =>
    if slots ≠ 0 ∧ bytes.length ≤ size then
      (.done true, { stream with written := stream.written ++ bytes })
    else (.done false, stream)
  | .read count =>
    if stream.unread = 0 then (.bytes none, stream)
    else
      let start := max stream.position (stream.written.length - size)
      let bytes := (stream.written.drop start).take count
      (.bytes (some bytes), { stream with position := start + bytes.length })
  | .advanceRead amount =>
    let advance := min amount (min size stream.unread)
    (.done (decide (advance = amount)), { stream with position := stream.position + advance })
  | .flush bytesToLeave =>
    let kept := min bytesToLeave (min size stream.unread)
    (.done true, { stream with position := stream.written.length - kept })

end ByteStream

/-- The positions of a stream in the region of a ring. -/
structure Region.Marks (r : Region) (stream : ByteStream) : Prop where
  positive : 0 < r.size
  small : r.size ≤ 2 ^ 31
  tx : r.tx = u32 stream.written.length
  rx : r.rx = u32 stream.position
  wp : r.wp = stream.written.length % r.size
  rp : r.rp = stream.position % r.size
  order : stream.position ≤ stream.written.length
  ahead : stream.unread + r.size < 2 ^ 32

namespace Region.Marks

variable {r : Region} {stream : ByteStream}

section

variable (marks : r.Marks stream)
include marks

open ByteStream

lemma near : stream.unread < 2 ^ 32 := by
  have ahead := marks.ahead
  omega

lemma readWriteDelta_eq : r.readWriteDelta = stream.unread :=
  readWriteDelta_of_counts marks.tx marks.rx marks.order marks.near

/-- The reader moves on. -/
lemma advanceRx {amount : Nat} (bounded : amount ≤ stream.unread) :
    (r.advanceRx amount).Marks { stream with position := stream.position + amount } := by
  have order := marks.order
  have ahead := marks.ahead
  have inside : stream.position % r.size < r.size := Nat.mod_lt _ marks.positive
  unfold unread at bounded ahead
  have room : r.rp + amount < 2 ^ 32 := by
    rw [marks.rp]
    omega
  refine ⟨marks.positive, marks.small, marks.tx, ?_, marks.wp, ?_, ?_, ?_⟩
  · simp only [Region.advanceRx, marks.rx, u32]
    omega
  · simp only [Region.advanceRx, u32, Nat.mod_eq_of_lt room]
    rw [marks.rp, Nat.mod_add_mod]
  · dsimp only
    omega
  · simp only [unread, Region.advanceRx]
    omega

variable {bytes : List UInt8}

/-- The writer moves on. -/
lemma advanceTx (ahead : stream.unread + bytes.length + r.size < 2 ^ 32) :
    (r.advanceTx bytes.length).Marks { stream with written := stream.written ++ bytes } := by
  have order := marks.order
  have inside : stream.written.length % r.size < r.size := Nat.mod_lt _ marks.positive
  unfold unread at ahead
  have room : r.wp + bytes.length < 2 ^ 32 := by
    rw [marks.wp]
    omega
  refine ⟨marks.positive, marks.small, ?_, marks.rx, ?_, marks.rp, ?_, ?_⟩
  · simp only [Region.advanceTx, marks.tx, u32, length_append]
    omega
  · simp only [Region.advanceTx, u32, Nat.mod_eq_of_lt room, length_append]
    rw [marks.wp, Nat.mod_add_mod]
  · simp only [length_append]
    omega
  · simp only [unread, Region.advanceTx, length_append]
    omega

lemma ringBytesAvailableToRead_eq : r.ringBytesAvailableToRead = min r.size stream.unread := by
  simp only [ringBytesAvailableToRead, marks.readWriteDelta_eq]
  split <;> omega

/-- Moving the reader up to the last `bytesToLeave` bytes. -/
lemma ringReaderSyncOffset_eq (bytesToLeave : Nat) : r.ringReaderSyncOffset bytesToLeave =
      r.advanceRx (stream.unread - min bytesToLeave (min r.size stream.unread)) := by
  simp only [ringReaderSyncOffset, marks.readWriteDelta_eq]
  congr 1
  split_ifs <;> omega

lemma counters_eq_iff : r.tx = r.rx ↔ stream.unread = 0 := by
  have order := marks.order
  have ahead := marks.ahead
  unfold unread at ahead ⊢
  rw [marks.tx, marks.rx]
  simp only [u32]
  omega

/-- Where the reader has not been overtaken the offsets tell what is unread. -/
lemma ringBytesAvailable_eq (kept : stream.unread ≤ r.size) :
    r.ringBytesAvailable = stream.unread := by
  have order := marks.order
  have small := marks.small
  have inside : stream.position % r.size < r.size := Nat.mod_lt _ marks.positive
  have unread : stream.unread = stream.written.length - stream.position := rfl
  have moved : stream.written.length % r.size =
      if stream.position % r.size + stream.unread < r.size then
        stream.position % r.size + stream.unread
      else stream.position % r.size + stream.unread - r.size := by
    have whole : stream.written.length = stream.position + stream.unread := by omega
    rw [whole, ← Nat.mod_add_mod]
    exact around_eq inside kept
  simp only [ringBytesAvailable, marks.counters_eq_iff, marks.wp, marks.rp, moved, u32Sub, u32]
  split_ifs <;> omega

/-- The read position moved up to the last `size` bytes. -/
def caughtUp (stream : ByteStream) (size : Nat) : ByteStream :=
  { stream with position := max stream.position (stream.written.length - size) }

lemma ringSynced : (if r.readWriteDelta > r.size then r.ringReaderSyncOffset r.size else r).Marks
      (caughtUp stream r.size) := by
  have unread : stream.unread = stream.written.length - stream.position := rfl
  rw [marks.readWriteDelta_eq]
  split
  · rw [marks.ringReaderSyncOffset_eq]
    have moved := marks.advanceRx (Nat.sub_le stream.unread (min r.size (min r.size stream.unread)))
    have same : caughtUp stream r.size = { stream with
        position := stream.position + (stream.unread - min r.size (min r.size stream.unread)) } := by
      rw [caughtUp]
      congr 1
      omega
    rwa [same]
  · have same : caughtUp stream r.size = stream := by
      rw [caughtUp, max_eq_left (by omega)]
    rwa [same]

variable {memory : Nat → UInt8}

/-- Reading copies from the stream. -/
lemma ringReadBuffer_eq
    (holds : HoldsEnd memory r.offset r.size stream.written) (destSize : Nat) :
    (r.ringReadBuffer memory destSize).1 =
      (stream.written.drop (caughtUp stream r.size).position).take destSize ∧
    (r.ringReadBuffer memory destSize).2.Marks (caughtUp stream r.size) ∧
    (r.ringReadBuffer memory destSize).2.offset = r.offset ∧
    (r.ringReadBuffer memory destSize).2.size = r.size ∧
    (r.ringReadBuffer memory destSize).2.slots = r.slots := by
  have synced := marks.ringSynced
  unfold ringReadBuffer
  generalize state : (if r.readWriteDelta > r.size then r.ringReaderSyncOffset r.size else r) = moved
    at synced ⊢
  have offset : moved.offset = r.offset ∧ moved.size = r.size ∧ moved.slots = r.slots := by
    rw [← state]
    split <;> exact ⟨rfl, rfl, rfl⟩
  obtain ⟨offset, size, slots⟩ := offset
  refine ⟨?_, synced, offset, size, slots⟩
  have order : (caughtUp stream r.size).position ≤ stream.written.length := synced.order
  have small := synced.small
  have unread : (caughtUp stream r.size).unread =
      stream.written.length - (caughtUp stream r.size).position := rfl
  have kept : (caughtUp stream r.size).unread ≤ r.size := by
    simp only [ByteStream.unread, caughtUp]
    omega
  have inside : moved.rp < moved.size := by
    rw [synced.rp]
    exact Nat.mod_lt _ synced.positive
  dsimp only
  rw [synced.ringBytesAvailable_eq (by omega)]
  generalize count : (if (caughtUp stream r.size).unread > destSize then destSize
    else (caughtUp stream r.size).unread) = toRead
  have bounded : toRead ≤ (caughtUp stream r.size).unread ∧ toRead = min destSize
      (caughtUp stream r.size).unread := by
    rw [← count]
    split <;> omega
  -- no sum or difference of the copy passes `2 ^ 32`
  have copied : (if u32 (moved.rp + toRead) ≤ moved.size then load memory (moved.offset + moved.rp) toRead
      else load memory (moved.offset + moved.rp) (u32Sub moved.size moved.rp) ++
        load memory moved.offset (u32Sub toRead (u32Sub moved.size moved.rp))) =
      loadAround memory moved.offset moved.size moved.rp toRead := by
    have whole : u32 (moved.rp + toRead) = moved.rp + toRead := Nat.mod_eq_of_lt (by omega)
    have chunk : u32Sub moved.size moved.rp = moved.size - moved.rp := by
      simp only [u32Sub, u32]
      omega
    rw [whole, chunk]
    unfold loadAround
    split
    · rfl
    · have rest : u32Sub toRead (moved.size - moved.rp) = toRead - (moved.size - moved.rp) := by
        simp only [u32Sub, u32]
        omega
      rw [rest]
  rw [copied, offset, size, synced.rp, size, holds.loadAround_eq marks.positive (by omega) (by omega)]
  rw [bounded.2]
  refine (take_eq_take_iff).mpr ?_
  rw [length_drop, unread]
  omega

/-- Writing appends to the stream. -/
lemma ringWriteBuffer_eq (holds : HoldsEnd memory r.offset r.size stream.written)
    (bounded : bytes.length ≤ r.size) :
    (r.ringWriteBuffer memory bytes).1 = bytes.length ∧
    HoldsEnd (r.ringWriteBuffer memory bytes).2 r.offset r.size (stream.written ++ bytes) := by
  have small := marks.small
  have inside : r.wp < r.size := by
    rw [marks.wp]
    exact Nat.mod_lt _ marks.positive
  have toWrite : u32 bytes.length = bytes.length := Nat.mod_eq_of_lt (by omega)
  have whole : u32 (r.wp + bytes.length) = r.wp + bytes.length := Nat.mod_eq_of_lt (by omega)
  have chunk : u32Sub r.size r.wp = r.size - r.wp := by
    simp only [u32Sub, u32]
    omega
  have copied : r.ringWriteBuffer memory bytes =
      (bytes.length, storeAround memory r.offset r.size (stream.written.length % r.size) bytes) := by
    rw [← marks.wp]
    have tail : (bytes.drop (r.size - r.wp)).take (bytes.length - (r.size - r.wp)) =
        bytes.drop (r.size - r.wp) := by
      rw [← length_drop, take_length]
    simp only [ringWriteBuffer, toWrite, if_neg (not_lt.mpr bounded), whole, chunk,
      take_length, storeAround, tail]
  rw [copied]
  exact ⟨rfl, holds.append marks.positive bounded⟩

end

end Region.Marks

/-- A ring channel stands for a stream. -/
structure Channel.Streams (channel : Channel) (stream : ByteStream) : Prop where
  ring : channel.serviceType = .ring
  marks : channel.region.Marks stream
  holds : HoldsEnd channel.memory channel.region.offset channel.region.size stream.written
  closed : channel.region.slots = 0 → stream.written = []

/-- A call on the channel answers as on the stream, and leads on to the stream. -/
def Channel.Answers (channel : Channel) (stream : ByteStream) (call : RingCall) : Prop :=
  (channel.ringCall call).1 = (stream.call channel.region.size channel.region.slots call).1 ∧
  (channel.ringCall call).2.Streams (stream.call channel.region.size channel.region.slots call).2 ∧
  channel.region.SamePlace (channel.ringCall call).2.region

variable {channel : Channel}

lemma Channel.writeMessage_ring (ring : channel.serviceType = .ring) (bytes : List UInt8) :
    channel.writeMessage bytes =
      if channel.region.slots ≠ 0 ∧ bytes.length ≤ channel.region.size then
        (true, { channel with
          memory := (channel.region.ringWriteBuffer channel.memory bytes).2
          region := channel.region.advanceTx
            (channel.region.ringWriteBuffer channel.memory bytes).1 })
      else (false, channel) := by
  simp only [writeMessage, canWriteMessage, ring, slotsAvailableToWrite, messageSize]
  by_cases closed : channel.region.slots = 0
  · simp [closed]
  · by_cases large : bytes.length > channel.region.size
    · simp [closed, large, not_le.mpr large]
    · simp [closed, large, not_lt.mp large]

lemma Channel.readMessage_ring (ring : channel.serviceType = .ring) (size : Nat) :
    channel.readMessage size =
      if channel.region.slots = 0 ∨ channel.region.tx = channel.region.rx then (none, channel)
      else
        (some (channel.region.ringReadBuffer channel.memory size).1, { channel with
          region := (channel.region.ringReadBuffer channel.memory size).2.advanceRx
            (channel.region.ringReadBuffer channel.memory size).1.length }) := by
  simp only [readMessage, canReadMessage, ring, slotsAvailableToRead]
  by_cases closed : channel.region.slots = 0
  · simp [closed]
  · by_cases same : channel.region.tx = channel.region.rx
    · simp [closed, same]
    · simp [closed, same]

namespace Channel.Streams

variable {channel : Channel} {stream : ByteStream}

section

variable (streams : channel.Streams stream)
include streams

lemma write (bytes : List UInt8)
    (ahead : (stream.call channel.region.size channel.region.slots (.write bytes)).2.unread +
      channel.region.size < 2 ^ 32) : channel.Answers stream (.write bytes) := by
  obtain ⟨ring, marks, holds, closed⟩ := streams
  have order := marks.order
  simp only [Answers, ringCall, writeMessage_ring ring, ByteStream.call] at ahead ⊢
  by_cases accepted : channel.region.slots ≠ 0 ∧ bytes.length ≤ channel.region.size
  · rw [if_pos accepted] at ahead
    rw [if_pos accepted, if_pos accepted]
    obtain ⟨count, stored⟩ := marks.ringWriteBuffer_eq holds accepted.2
    refine ⟨rfl, ⟨ring, ?_, stored, fun zero => absurd zero accepted.1⟩, rfl, rfl, rfl⟩
    rw [count]
    refine marks.advanceTx ?_
    simp only [ByteStream.unread, length_append] at ahead ⊢
    omega
  · rw [if_neg accepted, if_neg accepted]
    exact ⟨rfl, ⟨ring, marks, holds, closed⟩, rfl, rfl, rfl⟩

lemma read (size : Nat) : channel.Answers stream (.read size) := by
  obtain ⟨ring, marks, holds, closed⟩ := streams
  simp only [Answers, ringCall, readMessage_ring ring, ByteStream.call]
  by_cases empty : stream.unread = 0
  · rw [if_pos empty, if_pos (.inr (marks.counters_eq_iff.mpr empty))]
    exact ⟨rfl, ⟨ring, marks, holds, closed⟩, rfl, rfl, rfl⟩
  have slots : channel.region.slots ≠ 0 := by
    intro zero
    simp [ByteStream.unread, closed zero] at empty
  rw [if_neg empty, if_neg (not_or.mpr ⟨slots, mt marks.counters_eq_iff.mp empty⟩)]
  obtain ⟨bytes, synced, offset, keptSize, keptSlots⟩ := marks.ringReadBuffer_eq holds size
  refine ⟨congrArg (fun bytes => RingResult.bytes (some bytes)) bytes, ⟨ring, ?_, ?_,
    fun zero => absurd (keptSlots.symm.trans zero) slots⟩, offset, keptSize, keptSlots⟩
  · rw [bytes]
    refine synced.advanceRx ?_
    rw [length_take, length_drop]
    exact min_le_right _ _
  · simp only [advanceRx, offset, keptSize]
    exact holds

lemma advanceRead (amount : Nat) : channel.Answers stream (.advanceRead amount) := by
  obtain ⟨ring, marks, holds, closed⟩ := streams
  have advance : (if min channel.region.size stream.unread < amount then
      min channel.region.size stream.unread else amount) =
      min amount (min channel.region.size stream.unread) := by
    split <;> omega
  simp only [Answers, ringCall, advanceReadIndex, Region.advanceReadIndex, ring, if_true,
    marks.ringBytesAvailableToRead_eq, ByteStream.call, advance]
  exact ⟨trivial, ⟨rfl, marks.advanceRx (by omega), holds, closed⟩, rfl, rfl, rfl⟩

lemma flush (bytesToLeave : Nat) : channel.Answers stream (.flush bytesToLeave) := by
  obtain ⟨ring, marks, holds, closed⟩ := streams
  have order := marks.order
  have unread : stream.unread = stream.written.length - stream.position := rfl
  simp only [Answers, ringCall, ringFlushReadData, ring, ne_eq, not_true_eq_false, if_false,
    marks.ringReaderSyncOffset_eq, ByteStream.call]
  refine ⟨trivial, ⟨rfl, ?_, holds, closed⟩, rfl, rfl, rfl⟩
  have moved := marks.advanceRx
    (Nat.sub_le stream.unread (min bytesToLeave (min channel.region.size stream.unread)))
  have position : stream.written.length - min bytesToLeave (min channel.region.size stream.unread) =
      stream.position + (stream.unread - min bytesToLeave (min channel.region.size stream.unread)) := by
    omega
  rwa [position]

/-- Every call answers as on the stream, if the writer stays near enough. -/
lemma answers (call : RingCall)
    (ahead : (stream.call channel.region.size channel.region.slots call).2.unread +
      channel.region.size < 2 ^ 32) : channel.Answers stream call := by
  cases call with
  | write bytes => exact streams.write bytes ahead
  | read size => exact streams.read size
  | advanceRead amount => exact streams.advanceRead amount
  | flush bytesToLeave => exact streams.flush bytesToLeave

end

end Channel.Streams

/-- The results so far and the channel after one more call. -/
def Channel.ringStep (state : List RingResult × Channel) (call : RingCall) :
    List RingResult × Channel :=
  (state.1 ++ [(state.2.ringCall call).1], (state.2.ringCall call).2)

/-- The same on a stream. -/
def ByteStream.step (size slots : Nat) (state : List RingResult × ByteStream) (call : RingCall) :
    List RingResult × ByteStream :=
  (state.1 ++ [(state.2.call size slots call).1], (state.2.call size slots call).2)

/-- The writer is less than `2 ^ 32 - size` bytes ahead after the call. -/
def ByteStream.Near (size slots : Nat) (state : List RingResult × ByteStream) (call : RingCall) :
    Prop :=
  (state.2.call size slots call).2.unread + size < 2 ^ 32

instance ByteStream.Near.decidable (size slots : Nat) (state : List RingResult × ByteStream)
    (call : RingCall) : Decidable (Near size slots state call) :=
  inferInstanceAs (Decidable (_ < _))

/-- A ring region before its first call. -/
structure Channel.FreshRing (channel : Channel) : Prop where
  ring : channel.serviceType = .ring
  positive : 0 < channel.region.size
  small : channel.region.size ≤ 2 ^ 31
  tx : channel.region.tx = 0
  rx : channel.region.rx = 0
  wp : channel.region.wp = 0
  rp : channel.region.rp = 0

lemma Channel.FreshRing.streams (fresh : channel.FreshRing) : channel.Streams ⟨[], 0⟩ where
  ring := fresh.ring
  marks := {
    positive := fresh.positive
    small := fresh.small
    tx := fresh.tx
    rx := fresh.rx
    wp := by rw [fresh.wp, length_nil, Nat.zero_mod]
    rp := by rw [fresh.rp, Nat.zero_mod]
    order := Nat.le_refl _
    ahead := by
      have small := fresh.small
      simp only [ByteStream.unread, length_nil]
      omega }
  holds := .nil
  closed := fun _ => rfl

/-- A run on the channel goes along with the run on the stream. -/
lemma ringStep_foldl (fresh : channel.FreshRing) (calls : List RingCall)
    (near : Lib.Runs.Along (ByteStream.step channel.region.size channel.region.slots)
      (ByteStream.Near channel.region.size channel.region.slots) ([], ⟨[], 0⟩) calls) :
    (calls.foldl Channel.ringStep ([], channel)).1 =
      (calls.foldl (ByteStream.step channel.region.size channel.region.slots) ([], ⟨[], 0⟩)).1 ∧
    (calls.foldl Channel.ringStep ([], channel)).2.Streams
      (calls.foldl (ByteStream.step channel.region.size channel.region.slots) ([], ⟨[], 0⟩)).2 ∧
    channel.region.SamePlace (calls.foldl Channel.ringStep ([], channel)).2.region := by
  refine Lib.Runs.foldl_simulates_along
    (fun (concrete : List RingResult × Channel) (abstract : List RingResult × ByteStream) =>
      concrete.1 = abstract.1 ∧ concrete.2.Streams abstract.2 ∧
        channel.region.SamePlace concrete.2.region) _ _ _ ?_ calls _
    ⟨rfl, fresh.streams, rfl, rfl, rfl⟩ near
  rintro ⟨results, reached⟩ ⟨_, stream⟩ call ⟨rfl, streams, place⟩ ahead
  unfold ByteStream.Near at ahead
  rw [← place.size, ← place.slots] at ahead
  obtain ⟨result, next, kept⟩ := streams.answers call ahead
  rw [place.size, place.slots] at result next
  refine ⟨?_, next, kept.offset.trans place.offset, kept.size.trans place.size,
    kept.slots.trans place.slots⟩
  exact congrArg (fun result => results ++ [result]) result

/-- The two representations of the positions agree. -/
lemma Region.Marks.congruent {r : Region} {stream : ByteStream} (marks : r.Marks stream) :
    u32Sub r.tx r.rx = stream.unread ∧ (r.wp : Int) - r.rp ≡ u32Sub r.tx r.rx [ZMOD r.size] := by
  have order := marks.order
  have difference : u32Sub r.tx r.rx = stream.unread := by
    rw [marks.tx, marks.rx]
    exact u32Sub_of_counts order marks.near
  refine ⟨difference, ?_⟩
  have unread : (stream.unread : Int) = stream.written.length - stream.position := by
    unfold ByteStream.unread
    omega
  rw [difference, unread, marks.wp, marks.rp, Int.natCast_mod, Int.natCast_mod]
  exact (Int.mod_modEq _ _).sub (Int.mod_modEq _ _)

/-- A ring channel is a lossy stream of bytes. In every run of calls in which the writer is
never `2 ^ 32 - size` or more bytes ahead, all calls return what the stream returns, the
counters and the offsets agree on what is unread, and after a flush the bytes asked for
remain, as far as the ring has them. -/
theorem ring_refines_stream {channel : Channel} (fresh : channel.FreshRing) (calls : List RingCall)
    (near : Lib.Runs.Along (ByteStream.step channel.region.size channel.region.slots)
      (ByteStream.Near channel.region.size channel.region.slots) ([], ⟨[], 0⟩) calls)
    {results expected : List RingResult} {final : Channel} {stream : ByteStream}
    (ran : calls.foldl Channel.ringStep ([], channel) = (results, final))
    (streamed : calls.foldl (ByteStream.step channel.region.size channel.region.slots)
      ([], ⟨[], 0⟩) = (expected, stream)) :
    results = expected ∧
    final.region.wp < channel.region.size ∧ final.region.rp < channel.region.size ∧
    (final.region.wp : Int) - final.region.rp ≡ u32Sub final.region.tx final.region.rx
      [ZMOD channel.region.size] ∧
    u32Sub final.region.tx final.region.rx = stream.unread ∧
    final.region.ringBytesAvailableToRead = min channel.region.size stream.unread ∧
    ∀ bytesToLeave, (final.ringFlushReadData bytesToLeave).2.region.ringBytesAvailableToRead =
      min bytesToLeave (min channel.region.size stream.unread) := by
  have run := ringStep_foldl fresh calls near
  rw [ran, streamed] at run
  obtain ⟨same, streams, place⟩ := run
  have marks := streams.marks
  have congruent := marks.congruent
  have positive := marks.positive
  refine ⟨same, ?_, ?_, ?_, congruent.1, ?_, fun bytesToLeave => ?_⟩
  · rw [marks.wp, ← place.size]
    exact Nat.mod_lt _ positive
  · rw [marks.rp, ← place.size]
    exact Nat.mod_lt _ positive
  · rw [← place.size]
    exact congruent.2
  · rw [← place.size]
    exact marks.ringBytesAvailableToRead_eq
  · obtain ⟨-, flushed, kept⟩ := streams.flush bytesToLeave
    rw [← place.size]
    have unread : stream.unread = stream.written.length - stream.position := rfl
    have available := flushed.marks.ringBytesAvailableToRead_eq
    rw [kept.size] at available
    refine available.trans ?_
    simp only [ByteStream.call, ByteStream.unread] at unread ⊢
    omega

/-- A ring of four bytes. -/
def fourByteRing : Channel := ⟨.ring, ⟨0, 4, 1, 0, 0, 0, 0⟩, fun _ => 0⟩

/-- The writer overtakes the reader, which skips to the last four bytes. -/
theorem ring_refines_stream_overtaken :
    ([.write [1, 2, 3], .write [4, 5, 6], .read 3, .flush 0].foldl Channel.ringStep
      ([], fourByteRing)).1 =
      [.done true, .done true, .bytes (some [3, 4, 5]), .done true] :=
  (ring_refines_stream ⟨rfl, by decide, by decide, rfl, rfl, rfl, rfl⟩
    [.write [1, 2, 3], .write [4, 5, 6], .read 3, .flush 0]
    ⟨by decide, by decide, by decide, by decide, trivial⟩ rfl rfl).1

end GsKernel.Aoc
