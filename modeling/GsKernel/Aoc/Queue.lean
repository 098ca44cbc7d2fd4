import GsKernel.Aoc.Channel
import GsKernel.Lib.Runs

/-!
# A queue channel between a producer and a consumer

The calls on one queue, cut at each access to the shared region: the producer copies the header
and the message into a slot before it advances `tx`, the consumer reads them before it advances
`rx`. Message `k` goes into slot `k % 2 ^ 32 % slots`. Where `slots` does not divide `2 ^ 32`,
counts less than `slots` apart may share a slot around a wrap.
-/

namespace GsKernel.Aoc

open Lib.CircularStore

/-- What the producer does next in `aoc_service_write_message`. -/
inductive Producer where
  | idle
  | header (bytes : List UInt8)
  | payload (ptr : Nat) (bytes : List UInt8)
  | advance (bytes : List UInt8)
deriving DecidableEq

/-- What the consumer does next in `aoc_service_read_message`. -/
inductive Consumer where
  | idle
  | header (size : Nat)
  | payload (ptr length : Nat)
  | advance (bytes : List UInt8)
deriving DecidableEq

/-- A queue with its two users, the messages whose write has returned true, and the
messages that reads have returned. -/
structure QueueSystem where
  channel : Channel
  producer : Producer
  consumer : Consumer
  sent : List (List UInt8)
  received : List (List UInt8)

/-- A call starts, or goes on by one access. -/
inductive QueueEvent where
  | startWrite (bytes : List UInt8)
  | produce
  | startRead (size : Nat)
  | consume
deriving DecidableEq

namespace QueueSystem

variable (system : QueueSystem)

/-- A step of the producer. -/
def produce : Option QueueSystem :=
  match system.producer with
  | .idle => none
  | .header bytes =>
    let ptr := system.channel.region.currentWritePointer system.channel.serviceType
    some { system with
      channel := { system.channel with
        memory := store system.channel.memory ptr (messageHeader bytes.length) }
      producer := .payload ptr bytes }
  | .payload ptr bytes =>
    some { system with
      channel := { system.channel with
        memory := store system.channel.memory (ptr + HEADER_SIZE) bytes }
      producer := .advance bytes }
  | .advance bytes =>
    some { system with
      channel := { system.channel with
        region := (system.channel.region.advanceWriteIndex system.channel.serviceType 1).2 }
      producer := .idle
      sent := system.sent ++ [bytes] }

/-- A step of the consumer. -/
def consume : Option QueueSystem :=
  match system.consumer with
  | .idle => none
  | .header size =>
    let ptr := system.channel.region.currentReadPointer system.channel.serviceType
    let length := headerLength system.channel.memory ptr
    some { system with consumer := if size < length then .idle else .payload ptr length }
  | .payload ptr length =>
    some { system with
      consumer := .advance (load system.channel.memory (ptr + HEADER_SIZE) length) }
  | .advance bytes =>
    some { system with
      channel := { system.channel with
        region := (system.channel.region.advanceReadIndex system.channel.serviceType 1).2 }
      consumer := .idle
      received := system.received ++ [bytes] }

/-- One step of the system. A call that finds no slot, or has a message too large for one,
returns false at its start. -/
def step : QueueEvent → Option QueueSystem
  | .startWrite bytes =>
    if system.producer ≠ .idle then none
    else if system.channel.canWriteMessage = false ∨
        bytes.length > system.channel.region.messageSize system.channel.serviceType then
      some system
    else some { system with producer := .header bytes }
  | .produce => system.produce
  | .startRead size =>
    if system.consumer ≠ .idle then none
    else if system.channel.canReadMessage = false then some system
    else some { system with consumer := .header size }
  | .consume => system.consume

/-- The events of a write, and of a read, that is not interrupted. -/
def writing (bytes : List UInt8) : List QueueEvent :=
  [.startWrite bytes, .produce, .produce, .produce]

def reading (size : Nat) : List QueueEvent := [.startRead size, .consume, .consume, .consume]

variable {system}

/-- A write that is not interrupted is the function. -/
lemma foldlM_write (queue : system.channel.serviceType = .queue) (idle : system.producer = .idle)
    {bytes : List UInt8} {next : Channel}
    (written : system.channel.writeMessage bytes = (true, next)) :
    (writing bytes).foldlM step system =
      some { system with channel := next, sent := system.sent ++ [bytes] } := by
  obtain ⟨channel, producer, consumer, sent, received⟩ := system
  obtain rfl : producer = .idle := idle
  simp only [Channel.writeMessage] at written
  split_ifs at written with closed large ring
  · cases congrArg Prod.fst written
  · cases congrArg Prod.fst written
  · exact absurd (queue.symm.trans ring) (by decide)
  · obtain rfl : _ = next := congrArg Prod.snd written
    simp [writing, step, produce, closed, large]

/-- So is a read. -/
lemma foldlM_read (queue : system.channel.serviceType = .queue) (idle : system.consumer = .idle)
    {size : Nat} {bytes : List UInt8} {next : Channel}
    (read : system.channel.readMessage size = (some bytes, next)) :
    (reading size).foldlM step system =
      some { system with channel := next, received := system.received ++ [bytes] } := by
  obtain ⟨channel, producer, consumer, sent, received⟩ := system
  obtain rfl : consumer = .idle := idle
  simp only [Channel.readMessage] at read
  split_ifs at read with closed ring short
  · cases congrArg Prod.fst read
  · exact absurd (queue.symm.trans ring) (by decide)
  · cases congrArg Prod.fst read
  · obtain rfl : _ = bytes := Option.some.inj (congrArg Prod.fst read)
    obtain rfl : _ = next := congrArg Prod.snd read
    simp [reading, step, consume, closed, short]

end QueueSystem

end GsKernel.Aoc
