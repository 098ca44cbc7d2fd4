import GsKernel.Aoc.QueueDelivery

/-!
# Runs of a queue

A queue delivers its messages in order as long as the producer copies into clear slots, which it
always does when `slots` divides `2 ^ 32`. With three slots the counters wrap from slot 0 to slot
0, and the message sent before the wrap is overwritten.
-/

namespace GsKernel.Aoc

open Lib.CircularStore QueueSystem Region List Nat

namespace QueueSystem

/-- A queue before its first call; the fields of the region are `u32`. -/
structure Fresh (system : QueueSystem) : Prop where
  queue : system.channel.serviceType = .queue
  slots : 0 < system.channel.region.slots
  narrow : system.channel.region.slots < 2 ^ 32
  tx : system.channel.region.tx = 0
  rx : system.channel.region.rx = 0
  producer : system.producer = .idle
  consumer : system.consumer = .idle
  sent : system.sent = []
  received : system.received = []

variable {system : QueueSystem}

lemma Fresh.delivers (fresh : system.Fresh)
    (place : system.channel.region.size * (system.channel.region.slots - 1) < 2 ^ 32) :
    system.Delivers where
  queue := fresh.queue
  slots := fresh.slots
  narrow := fresh.narrow
  place := place
  tx := by rw [fresh.tx, fresh.sent]; rfl
  rx := by rw [fresh.rx, fresh.received]; rfl
  room := by simp [fresh.sent]
  inOrder := by simp [fresh.sent, fresh.received]
  fits := by simp [fresh.sent]
  stored := by simp [fresh.sent]
  producerReady := by simp [ProducerReady, fresh.producer]
  consumerReady := by simp [ConsumerReady, fresh.consumer]

/-- With a number of slots that divides `2 ^ 32` every slot is clear. -/
lemma clear_of_dvd (divides : system.channel.region.slots ∣ 2 ^ 32) : system.Clear := by
  intro wrapped
  rw [mod_eq_zero_of_dvd divides] at wrapped
  exact absurd wrapped (not_lt_zero _)

/-- So every run of short messages is admissible then. -/
lemma alongM_of_dvd (divides : system.channel.region.slots ∣ 2 ^ 32) {events : List QueueEvent}
    (short : ∀ bytes, QueueEvent.startWrite bytes ∈ events → bytes.length < 2 ^ 16) :
    Lib.Runs.AlongM step Admissible system events := by
  induction events generalizing system with
  | nil => trivial
  | cons event events ih =>
    refine ⟨?_, fun next ran => ih ?_ fun bytes later =>
      short bytes (mem_cons_of_mem _ later)⟩
    · cases event with
      | startWrite bytes => exact short bytes mem_cons_self
      | produce =>
        simp only [Admissible]
        split
        · exact clear_of_dvd divides
        · exact clear_of_dvd divides
        · trivial
      | startRead size => trivial
      | consume => trivial
    · rw [(samePlace_step ran).slots]
      exact divides

end QueueSystem

/-- In every run of a producer and a consumer in which the copies go to clear slots, the
messages received are the first of those sent; the next read returns the oldest unread
message, and a write of a message that fits starts exactly when a slot is free. -/
theorem queue_in_order {system final : QueueSystem} (fresh : system.Fresh)
    (place : system.channel.region.size * (system.channel.region.slots - 1) < 2 ^ 32)
    (events : List QueueEvent) (along : Lib.Runs.AlongM step Admissible system events)
    (ran : events.foldlM step system = some final) :
    final.received <+: final.sent ∧
    (∀ size, (final.channel.readMessage size).1 =
      final.sent[final.received.length]?.filter fun message => message.length ≤ size) ∧
    ∀ bytes, final.producer = .idle → final.step (.startWrite bytes) = some
      (if final.sent.length - final.received.length < system.channel.region.slots ∧
          bytes.length ≤ system.channel.region.messageSize .queue then
        { final with producer := .header bytes }
      else final) := by
  obtain ⟨delivers, same⟩ := Lib.Runs.foldlM_invariant_along
    (fun reached => reached.Delivers ∧ system.channel.region.SamePlace reached.channel.region)
    step Admissible
    (fun reached event next kept admissible stepped => by
      have place := samePlace_step stepped
      exact ⟨kept.1.step admissible stepped, place.offset.trans kept.2.offset,
        place.size.trans kept.2.size, place.slots.trans kept.2.slots⟩)
    events ⟨fresh.delivers place, rfl, rfl, rfl⟩ along ran
  have messageSize : final.channel.region.messageSize .queue =
      system.channel.region.messageSize .queue := by
    simp only [messageSize, same.size]
  refine ⟨delivers.inOrder, delivers.readMessage_eq, fun bytes idle => ?_⟩
  rw [← messageSize, ← same.slots]
  exact delivers.startWrite_eq idle bytes

/-- A queue of slots for one byte each. -/
def byteQueue (slots : Nat) : QueueSystem :=
  ⟨⟨.queue, ⟨0, 9, slots, 0, 0, 0, 0⟩, fun _ => 0⟩, .idle, .idle, [], []⟩

/-- Two messages through two slots, the second written while the first is read. -/
def interleavedRun : List QueueEvent :=
  [.startWrite [7], .produce, .produce, .produce, .startRead 1, .startWrite [8], .consume, .produce,
    .consume, .produce, .consume, .produce]

theorem queue_in_order_interleaved :
    ∃ final, interleavedRun.foldlM step (byteQueue 2) = some final ∧
      final.received <+: final.sent ∧ final.received = [[7]] ∧
      (final.channel.readMessage 1).1 = some [8] := by
  obtain ⟨final, ran, sent, received⟩ := Lib.Runs.exists_reached
    (fun final : QueueSystem => final.sent = [[7], [8]] ∧ final.received = [[7]])
    (show (interleavedRun.foldlM step (byteQueue 2)).any _ = true by decide +kernel)
  have short : ∀ bytes, QueueEvent.startWrite bytes ∈ interleavedRun → bytes.length < 2 ^ 16 := by
    intro bytes inside
    obtain rfl | rfl : bytes = [7] ∨ bytes = [8] := by simpa [interleavedRun] using inside
    · decide
    · decide
  have along := alongM_of_dvd (by decide : (byteQueue 2).channel.region.slots ∣ 2 ^ 32) short
  obtain ⟨inOrder, reads, -⟩ := queue_in_order
    ⟨rfl, by decide, by decide, rfl, rfl, rfl, rfl, rfl, rfl⟩ (by decide) interleavedRun along ran
  refine ⟨final, ran, inOrder, received, ?_⟩
  rw [reads 1, sent, received]
  rfl

namespace QueueSystem

/-- A queue of three slots all of whose messages are read. -/
def caughtUp (memory : Nat → UInt8) (counter wp rp : Nat) (sent received : List (List UInt8)) :
    QueueSystem :=
  ⟨⟨.queue, ⟨0, 9, 3, counter, counter, wp, rp⟩, memory⟩, .idle, .idle, sent, received⟩

/-- A message is written and read. -/
def oneRound : List QueueEvent := writing [] ++ reading 0

/-- A write with a free slot. -/
lemma free_write (memory : Nat → UInt8) {tx rx : Nat} (wp rp : Nat) {bytes : List UInt8}
    (fits : bytes.length ≤ 1) (free : readWriteDelta ⟨0, 9, 3, tx, rx, wp, rp⟩ < 3) :
    Channel.writeMessage ⟨.queue, ⟨0, 9, 3, tx, rx, wp, rp⟩, memory⟩ bytes =
      (true, ⟨.queue, ⟨0, 9, 3, u32 (tx + 1), rx, u32 (wp + 1) % 9, rp⟩,
        store (store memory (u32 (9 * (tx % 3))) (messageHeader bytes.length))
          (u32 (9 * (tx % 3)) + HEADER_SIZE) bytes⟩) := by
  have available : slotsAvailableToWrite ⟨0, 9, 3, tx, rx, wp, rp⟩ .queue ≠ 0 := by
    simp only [slotsAvailableToWrite, OfNat.ofNat_ne_zero, if_false]
    omega
  simp [Channel.writeMessage, Channel.canWriteMessage, available, pos_of_ne_zero available,
    messageSize, HEADER_SIZE, currentWritePointer, advanceWriteIndex,
    advanceTx, not_lt.mpr fits]

/-- A read with an unread message. -/
lemma unread_read (memory : Nat → UInt8) {tx rx : Nat} (wp rp size : Nat)
    (unread : readWriteDelta ⟨0, 9, 3, tx, rx, wp, rp⟩ ≠ 0)
    (fits : headerLength memory (u32 (9 * (rx % 3))) ≤ size) :
    Channel.readMessage ⟨.queue, ⟨0, 9, 3, tx, rx, wp, rp⟩, memory⟩ size =
      (some (load memory (u32 (9 * (rx % 3)) + HEADER_SIZE)
          (headerLength memory (u32 (9 * (rx % 3))))),
        ⟨.queue, ⟨0, 9, 3, tx, u32 (rx + 1), wp, u32 (rp + 1) % 9⟩, memory⟩) := by
  have available : slotsAvailableToRead ⟨0, 9, 3, tx, rx, wp, rp⟩ .queue ≠ 0 := by
    simp only [slotsAvailableToRead, OfNat.ofNat_ne_zero, if_false]
    split <;> omega
  simp [Channel.readMessage, Channel.canReadMessage, available, pos_of_ne_zero available,
    currentReadPointer, advanceReadIndex, advanceRx, not_lt.mpr fits]

lemma caughtUp_oneRound (memory : Nat → UInt8) {counter : Nat} (wp rp : Nat)
    (sent received : List (List UInt8)) (small : counter < 2 ^ 32) :
    ∃ memory' wp' rp', oneRound.foldlM step (caughtUp memory counter wp rp sent received) =
      some (caughtUp memory' (u32 (counter + 1)) wp' rp' (sent ++ [[]]) (received ++ [[]])) := by
  have equal : counter = u32 counter := (mod_eq_of_lt small).symm
  have written := @foldlM_write (caughtUp memory counter wp rp sent received) rfl rfl [] _
    (free_write memory wp rp (zero_le 1) (by simp [readWriteDelta]))
  rw [store_nil] at written
  have empty := headerLength_of_load (by decide : 0 < 2 ^ 16)
    (load_store memory (u32 (9 * (counter % 3))) (messageHeader 0))
  have unread : readWriteDelta ⟨0, 9, 3, u32 (counter + 1), counter, u32 (wp + 1) % 9, rp⟩ ≠ 0 := by
    rw [readWriteDelta_of_counts rfl equal (le_succ counter) (by omega)]
    omega
  have read := unread_read (store memory (u32 (9 * (counter % 3))) (messageHeader 0))
    (u32 (wp + 1) % 9) rp 0 unread empty.le
  rw [empty] at read
  rw [oneRound, foldlM_append, written]
  exact ⟨_, _, _, @foldlM_read ⟨⟨.queue, ⟨0, 9, 3, u32 (counter + 1), counter, u32 (wp + 1) % 9, rp⟩,
    store memory (u32 (9 * (counter % 3))) (messageHeader 0)⟩, .idle, .idle, sent ++ [[]],
    received⟩ rfl rfl 0 [] _ read⟩

/-- Any number of messages is written and read. -/
lemma caughtUp_rounds (rounds : Nat) :
    ∃ memory wp rp, (replicate rounds oneRound).flatten.foldlM step (byteQueue 3) =
      some (caughtUp memory (u32 rounds) wp rp (replicate rounds []) (replicate rounds [])) := by
  induction rounds with
  | zero => exact ⟨_, _, _, rfl⟩
  | succ rounds ih =>
    obtain ⟨memory, wp, rp, before⟩ := ih
    obtain ⟨memory', wp', rp', round⟩ := caughtUp_oneRound memory wp rp
      (replicate rounds []) (replicate rounds [])
      (mod_lt rounds (by decide) : u32 rounds < 2 ^ 32)
    have counted : u32 (u32 rounds + 1) = u32 (rounds + 1) := by
      simp only [u32]
      omega
    refine ⟨memory', wp', rp', ?_⟩
    rw [replicate_succ', flatten_append, foldlM_append, before,
      flatten_singleton, replicate_succ', ← counted]
    exact round

/-- Two messages are written, and one is read. -/
def aroundTheWrap : List QueueEvent := writing [1] ++ (writing [2] ++ reading 1)

/-- Around the wrap both messages go to slot 0. -/
lemma caughtUp_aroundTheWrap (memory : Nat → UInt8) {counter : Nat} (top : 2 ^ 32 - 1 = counter)
    (wp rp : Nat) (sent received : List (List UInt8)) :
    ∃ final, aroundTheWrap.foldlM step (caughtUp memory counter wp rp sent received) = some final ∧
      final.sent = sent ++ [[1]] ++ [[2]] ∧ final.received = received ++ [[2]] := by
  subst top
  have wrapped : u32 (2 ^ 32 - 1 + 1) = 0 := by norm_num [u32]
  have slot : u32 (9 * ((2 ^ 32 - 1) % 3)) = 0 := by norm_num [u32]
  have last : 2 ^ 32 - 1 = u32 (2 ^ 32 - 1) := by norm_num [u32]
  have first := @foldlM_write (caughtUp memory (2 ^ 32 - 1) wp rp sent received) rfl rfl [1] _
    (free_write memory wp rp le_rfl (by simp [readWriteDelta]))
  rw [wrapped] at first
  generalize store (store memory (u32 (9 * ((2 ^ 32 - 1) % 3))) (messageHeader [1].length))
    (u32 (9 * ((2 ^ 32 - 1) % 3)) + HEADER_SIZE) [1] = before at first
  -- the second message finds one of three slots in use
  have oneUnread : readWriteDelta ⟨0, 9, 3, 0, 2 ^ 32 - 1, u32 (wp + 1) % 9, rp⟩ < 3 := by
    rw [readWriteDelta_of_counts wrapped.symm last (le_succ _) (by norm_num)]
    norm_num
  have second := @foldlM_write ⟨⟨.queue, ⟨0, 9, 3, 0, 2 ^ 32 - 1, u32 (wp + 1) % 9, rp⟩, before⟩,
    .idle, .idle, sent ++ [[1]], received⟩ rfl rfl [2] _ (free_write before _ rp le_rfl oneUnread)
  have start : u32 (9 * (0 % 3)) = 0 := by norm_num [u32]
  simp only [start, zero_add] at second
  generalize stored : store (store before 0 (messageHeader [2].length)) HEADER_SIZE [2] = after
    at second
  have length : headerLength after 0 = 1 := by
    refine headerLength_of_load (by decide) ?_
    rw [← stored, load_store_disjoint _ _ _ (.inl (zero_add _).le)]
    exact load_store before 0 (messageHeader 1)
  have twoUnread : readWriteDelta
      ⟨0, 9, 3, u32 1, 2 ^ 32 - 1, u32 (u32 (wp + 1) % 9 + 1) % 9, rp⟩ ≠ 0 := by
    have counted : u32 1 = u32 (2 ^ 32 - 1 + 2) := by norm_num [u32]
    rw [readWriteDelta_of_counts counted last (le_add_right _ _) (by norm_num)]
    norm_num
  have read := unread_read after (u32 (u32 (wp + 1) % 9 + 1) % 9) rp 1 twoUnread
    (by rw [slot]; exact length.le)
  have bytes : load after HEADER_SIZE 1 = [2] := by
    rw [← stored]
    exact load_store (store before 0 (messageHeader 1)) HEADER_SIZE [2]
  rw [slot, length, zero_add, bytes] at read
  have third := @foldlM_read ⟨⟨.queue, ⟨0, 9, 3, u32 1, 2 ^ 32 - 1,
    u32 (u32 (wp + 1) % 9 + 1) % 9, rp⟩, after⟩, .idle, .idle, sent ++ [[1]] ++ [[2]], received⟩
    rfl rfl 1 [2] _ read
  refine ⟨_, Eq.trans ?_ third, rfl, rfl⟩
  rw [aroundTheWrap, foldlM_append, first]
  refine Eq.trans foldlM_append ?_
  exact congrArg (fun reached => reached.bind fun next => (reading 1).foldlM step next) second

end QueueSystem

/-- After `2 ^ 32 - 1` messages through three slots the next two share a slot: the second
is received in place of the first. -/
theorem queue_overwrites : ∃ final, ((replicate (2 ^ 32 - 1) oneRound).flatten ++
        aroundTheWrap).foldlM step (byteQueue 3) = some final ∧
      final.sent = replicate (2 ^ 32 - 1) [] ++ [[1]] ++ [[2]] ∧
      final.received = replicate (2 ^ 32 - 1) [] ++ [[2]] ∧
      ¬ final.received <+: final.sent := by
  have last : u32 (2 ^ 32 - 1) = 2 ^ 32 - 1 := by norm_num [u32]
  -- a variable keeps the number of rounds from being unfolded
  generalize top : 2 ^ 32 - 1 = rounds at last ⊢
  obtain ⟨memory, wp, rp, before⟩ := caughtUp_rounds rounds
  rw [last] at before
  obtain ⟨final, after, sent, received⟩ := caughtUp_aroundTheWrap memory top wp rp
    (replicate rounds []) (replicate rounds [])
  refine ⟨final, ?_, sent, received, ?_⟩
  · rw [foldlM_append, before]
    exact after
  · rw [sent, received, append_assoc, prefix_append_right_inj]
    decide

variable {bytes : List UInt8}

/-- A message that `aoc_service_write_message` accepts lies in its slot. -/
lemma Channel.stored_write {channel next : Channel}
    (queue : channel.serviceType = .queue) (written : channel.writeMessage bytes = (true, next)) :
    Stored next.memory (channel.region.currentWritePointer .queue) bytes := by
  simp only [writeMessage] at written
  split_ifs at written with closed large ring
  · cases congrArg Prod.fst written
  · cases congrArg Prod.fst written
  · exact absurd (queue.symm.trans ring) (by decide)
  · obtain rfl : _ = next := congrArg Prod.snd written
    rw [queue]
    exact ⟨(load_store_disjoint _ _ _ (.inl le_rfl)).trans (load_store _ _ _), load_store _ _ _⟩

/-- What a read with room for the message returns: the header has the length in 16 bits. -/
lemma Stored.readMessage_eq {channel : Channel} {size : Nat}
    (stored : Stored channel.memory (channel.region.currentReadPointer .queue) bytes)
    (queue : channel.serviceType = .queue) (unread : channel.canReadMessage = true)
    (room : bytes.length ≤ size) :
    (channel.readMessage size).1 = some (bytes.take (bytes.length % 2 ^ 16)) := by
  have length := headerLength_eq_mod stored.header
  have fits : ¬ size < bytes.length % 2 ^ 16 := by omega
  have payload := congrArg (take (bytes.length % 2 ^ 16)) stored.payload
  rw [load, ← map_take, take_range, min_eq_left (mod_le _ _)] at payload
  simp only [Channel.readMessage, unread, queue, length, fits, if_false, reduceCtorEq, ← payload]
  rfl

/-- A message accepted into a slot is what the read of that slot returns, if and only if
its length fits the 16 bits of the header. The read finds the bytes of the slot as the
write has left them, and has room for the message. -/
theorem queue_message_roundTrip {channel next later : Channel} {bytes : List UInt8} {size : Nat}
    (queue : channel.serviceType = .queue) (written : channel.writeMessage bytes = (true, next))
    (sameQueue : later.serviceType = .queue) (unread : later.canReadMessage = true)
    (slot : later.region.currentReadPointer .queue = channel.region.currentWritePointer .queue)
    (kept : ∀ cell, later.region.currentReadPointer .queue ≤ cell →
      cell < later.region.currentReadPointer .queue + (HEADER_SIZE + bytes.length) →
      later.memory cell = next.memory cell) (room : bytes.length ≤ size) :
    (later.readMessage size).1 = some bytes ↔ bytes.length < 2 ^ 16 := by
  obtain ⟨header, payload⟩ := Channel.stored_write queue written
  rw [← slot] at header payload
  have stored : Stored later.memory (later.region.currentReadPointer .queue) bytes := by
    refine ⟨Eq.trans ?_ header, Eq.trans ?_ payload⟩ <;>
      exact map_congr_left fun index inside =>
        kept _ (by omega) (by rw [mem_range] at inside; omega)
  rw [stored.readMessage_eq sameQueue unread room, Option.some.injEq, take_eq_self_iff]
  omega

/-- A queue whose slots hold messages of up to `2 ^ 16` bytes. -/
def wideQueue : Channel := ⟨.queue, ⟨0, 2 ^ 16 + HEADER_SIZE, 2, 0, 0, 0, 0⟩, fun _ => 0⟩

lemma wideQueue_write (fits : bytes.length ≤ 2 ^ 16) : ∃ memory, wideQueue.writeMessage bytes =
      (true, ⟨.queue, ⟨0, 2 ^ 16 + HEADER_SIZE, 2, 1, 0, 1, 0⟩, memory⟩) :=
  ⟨_, if_neg (not_lt.mpr fits)⟩

/-- A message is read after a second one was written into the other slot. -/
theorem queue_message_roundTrip_two :
    let next := (wideQueue.writeMessage [1, 2, 3, 4, 5]).2
    let later := (next.writeMessage [6, 7]).2
    (later.readMessage 8).1 = some [1, 2, 3, 4, 5] :=
  (@queue_message_roundTrip wideQueue _
    ((wideQueue.writeMessage [1, 2, 3, 4, 5]).2.writeMessage [6, 7]).2 [1, 2, 3, 4, 5] 8 rfl rfl rfl
    rfl rfl (fun cell _ inside => by
      change cell < 13 at inside
      interval_cases cell <;> rfl) (by decide)).2 (by decide)

/-- A message of `2 ^ 16` bytes is accepted, and read as an empty one. -/
theorem queue_message_cut :
    ∃ next, wideQueue.writeMessage (replicate (2 ^ 16) 7) = (true, next) ∧
      (next.readMessage (2 ^ 16)).1 = some [] := by
  have length : (replicate (2 ^ 16) (7 : UInt8)).length = 2 ^ 16 := length_replicate
  obtain ⟨memory, written⟩ := wideQueue_write length.le
  refine ⟨_, written, ?_⟩
  rw [(Channel.stored_write rfl written).readMessage_eq rfl rfl length.le, length]
  rfl

end GsKernel.Aoc
