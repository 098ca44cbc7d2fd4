import Mathlib

/-!
# Circular queues with a wrap bit

The indices of a mailbox queue carry a bit above the real index that is inverted when the index
passes the end, so that a full queue and an empty one are told apart. The functions of
`gcip-mailbox.h` on such indices, all `u32`.

`encode` is the index of a number of elements counted from the start; the functions compute with
it as with the numbers, while these are no more than the size of the queue apart.
-/

namespace GsKernel.Gcip

open Nat

/-- `CIRC_QUEUE_WRAPPED`. -/
def circQueueWrapped (idx wrapBit : Nat) : Nat := idx &&& wrapBit

/-- `CIRC_QUEUE_INDEX_MASK`. -/
def circQueueIndexMask (wrapBit : Nat) : Nat := wrapBit - 1

/-- `CIRC_QUEUE_VALID_MASK`. -/
def circQueueValidMask (wrapBit : Nat) : Nat := circQueueIndexMask wrapBit ||| wrapBit

/-- `CIRC_QUEUE_REAL_INDEX`. -/
def circQueueRealIndex (idx wrapBit : Nat) : Nat := idx &&& circQueueIndexMask wrapBit

/-- `CIRC_QUEUE_MAX_SIZE`. -/
def circQueueMaxSize (wrapBit : Nat) : Nat := wrapBit - 1

/-- `gcip_circ_queue_cnt`. -/
def circQueueCnt (head tail queueSize wrapBit : Nat) : Nat :=
  let ret :=
    if circQueueWrapped tail wrapBit ≠ circQueueWrapped head wrapBit then
      (queueSize + (2 ^ 32 - circQueueRealIndex head wrapBit) +
        circQueueRealIndex tail wrapBit) % 2 ^ 32
    else (tail + (2 ^ 32 - head)) % 2 ^ 32
  if ret > queueSize then 0 else ret

/-- `gcip_circ_queue_inc`. -/
def circQueueInc (index inc queueSize wrapBit : Nat) : Nat :=
  let newIndex := (circQueueRealIndex index wrapBit + inc) % 2 ^ 32
  if newIndex ≥ queueSize then ((index + inc + (2 ^ 32 - queueSize)) % 2 ^ 32) ^^^ wrapBit
  else (index + inc) % 2 ^ 32

/-- `gcip_valid_circ_queue_size`. -/
def validCircQueueSize (size wrapBit : Nat) : Bool :=
  if size = 0 ∨ size > circQueueMaxSize wrapBit then false else true

/-- A queue whose wrap bit is the `u32` bit `bit`. -/
structure QueueShape (size bit : Nat) : Prop where
  positive : 0 < size
  fits : size < 2 ^ bit
  word : bit < 32

lemma QueueShape.of_valid {size bit : Nat} (word : bit < 32)
    (valid : validCircQueueSize size (2 ^ bit) = true) : QueueShape size bit := by
  unfold validCircQueueSize circQueueMaxSize at valid
  split at valid
  · cases valid
  · have positive : 0 < 2 ^ bit := Nat.two_pow_pos bit
    exact ⟨by omega, by omega, word⟩

/-- Whether the index of `count` has the wrap bit set. -/
def wraps (size count : Nat) : Bool := decide (count / size % 2 = 1)

/-- The index that stands for `count` elements. -/
def encode (size bit count : Nat) : Nat :=
  count % size + if wraps size count then 2 ^ bit else 0

namespace QueueShape

variable {size bit : Nat}

lemma pow_le (shape : QueueShape size bit) : 2 ^ bit ≤ 2 ^ 31 :=
  Nat.pow_le_pow_right (by decide) (Nat.le_of_lt_succ shape.word)

lemma realIndex_encode (shape : QueueShape size bit) (count : Nat) :
    circQueueRealIndex (encode size bit count) (2 ^ bit) = count % size := by
  have small : count % size < 2 ^ bit := (mod_lt _ shape.positive).trans shape.fits
  rw [circQueueRealIndex, circQueueIndexMask, and_two_pow_sub_one_eq_mod, encode]
  split
  · rw [add_mod_right, mod_eq_of_lt small]
  · rw [add_zero, mod_eq_of_lt small]

lemma wrapped_encode (shape : QueueShape size bit) (count : Nat) :
    circQueueWrapped (encode size bit count) (2 ^ bit) =
      if wraps size count then 2 ^ bit else 0 := by
  have small : count % size < 2 ^ bit := (mod_lt _ shape.positive).trans shape.fits
  rw [circQueueWrapped, encode, and_two_pow]
  split
  · rw [add_comm, testBit_two_pow_add_eq, testBit_lt_two_pow small]
    simp
  · rw [add_zero, testBit_lt_two_pow small]
    simp

/-- Inverting the wrap bit of an index. -/
lemma xor_wrapBit {value : Nat} (small : value < 2 ^ bit) (set : Bool) :
    (value + if set then 2 ^ bit else 0) ^^^ 2 ^ bit = value + if set then 0 else 2 ^ bit := by
  have joined : 2 ^ bit + value = 2 ^ bit ^^^ value := by
    have disjoint : 2 ^ bit + value = 2 ^ bit ||| value := by
      simpa only [mul_one] using two_pow_add_eq_or_of_lt small 1
    rw [disjoint]
    refine eq_of_testBit_eq fun index => ?_
    rw [testBit_or, testBit_xor, testBit_two_pow]
    by_cases same : bit = index
    · subst same
      simp [testBit_lt_two_pow small]
    · simp [same]
  cases set
  · simp only [Bool.false_eq_true, if_false, add_zero]
    rw [Nat.xor_comm, ← joined, Nat.add_comm]
  · simp only [if_true, add_zero]
    rw [Nat.add_comm, joined, Nat.xor_comm, ← Nat.xor_assoc, Nat.xor_self, Nat.zero_xor]

section

variable (shape : QueueShape size bit)
include shape

/-- Quotient and remainder a little further on. -/
lemma divMod_add (count : Nat) {distance : Nat} (near : distance ≤ size) :
    (count % size + distance < size → (count + distance) / size = count / size ∧
      (count + distance) % size = count % size + distance) ∧
    (size ≤ count % size + distance → (count + distance) / size = count / size + 1 ∧
      (count + distance) % size = count % size + distance - size) := by
  have inside := mod_lt count shape.positive
  have whole := mod_add_div count size
  refine ⟨fun before => ?_, fun past => ?_⟩
  · rw [Nat.div_mod_unique shape.positive]
    omega
  · rw [Nat.div_mod_unique shape.positive, Nat.mul_succ]
    omega

lemma wraps_add {count distance : Nat} (near : distance ≤ size) : wraps size (count + distance) =
      if count % size + distance < size then wraps size count else !wraps size count := by
  obtain ⟨before, past⟩ := shape.divMod_add count near
  unfold wraps
  split_ifs with room
  · rw [(before room).1]
  · rw [(past (not_lt.mp room)).1, ← decide_not, decide_eq_decide]
    omega

/-- Increasing an index adds to the number it stands for. -/
lemma circQueueInc_encode {count inc : Nat} (near : inc ≤ size) :
    circQueueInc (encode size bit count) inc size (2 ^ bit) = encode size bit (count + inc) := by
  have inside := mod_lt count shape.positive
  have fits := shape.fits
  have bound := shape.pow_le
  obtain ⟨before, past⟩ := shape.divMod_add count near
  have word : (count % size + inc) % 2 ^ 32 = count % size + inc := mod_eq_of_lt (by omega)
  unfold circQueueInc
  rw [shape.realIndex_encode, word]
  by_cases room : count % size + inc < size
  · rw [if_neg (not_le.mpr room), encode, encode, shape.wraps_add near, if_pos room,
      (before room).2, mod_eq_of_lt (by split <;> omega)]
    omega
  have past := (past (not_lt.mp room)).2
  have moved : (encode size bit count + inc + (2 ^ 32 - size)) % 2 ^ 32 =
      count % size + inc - size + if wraps size count then 2 ^ bit else 0 := by
    unfold encode
    split <;> omega
  rw [if_pos (not_lt.mp room), moved, xor_wrapBit (by omega), encode, shape.wraps_add near,
    if_neg room, past]
  cases wraps size count <;> rfl

/-- The count between two indices is the difference of the numbers they stand for. -/
lemma circQueueCnt_encode {head tail : Nat} (order : head ≤ tail) (near : tail ≤ head + size) :
    circQueueCnt (encode size bit head) (encode size bit tail) size (2 ^ bit) = tail - head := by
  have inside := mod_lt head shape.positive
  have fits := shape.fits
  have bound := shape.pow_le
  have positive : 0 < 2 ^ bit := Nat.two_pow_pos bit
  obtain ⟨distance, rfl⟩ := Nat.exists_eq_add_of_le order
  have distant : distance ≤ size := by omega
  obtain ⟨before, past⟩ := shape.divMod_add head distant
  unfold circQueueCnt
  rw [shape.wrapped_encode, shape.wrapped_encode, shape.realIndex_encode, shape.realIndex_encode,
    shape.wraps_add distant]
  by_cases room : head % size + distance < size
  · have same : encode size bit (head + distance) = encode size bit head + distance := by
      rw [encode, encode, shape.wraps_add distant, if_pos room, (before room).2]
      omega
    have low : encode size bit head < 2 ^ 32 := by
      unfold encode
      split <;> omega
    have difference : (encode size bit head + distance + (2 ^ 32 - encode size bit head)) % 2 ^ 32 =
        distance := by omega
    simp only [if_pos room, ne_eq, not_true_eq_false, if_false, same, difference]
    rw [if_neg (by omega)]
    omega
  · have other : (if !wraps size head then 2 ^ bit else 0) ≠ if wraps size head then 2 ^ bit else 0 := by
      cases wraps size head <;> simp [positive.ne]
    have difference : (size + (2 ^ 32 - head % size) + (head % size + distance - size)) % 2 ^ 32 =
        distance := by omega
    simp only [if_neg room, if_pos other, (past (not_lt.mp room)).2, difference]
    rw [if_neg (by omega)]
    omega

/-- Indices of numbers that lie no more than the size apart are equal only for equal
numbers. -/
lemma encode_eq_iff {head tail : Nat} (order : head ≤ tail)
    (near : tail ≤ head + size) : encode size bit head = encode size bit tail ↔ head = tail := by
  refine ⟨fun same => ?_, fun same => by rw [same]⟩
  have difference := shape.circQueueCnt_encode order near
  have none := shape.circQueueCnt_encode (le_refl tail) (le_add_right tail size)
  rw [same, none] at difference
  omega

/-- No bit above the wrap bit is set in an index. -/
lemma encode_valid (count : Nat) :
    encode size bit count &&& (2 ^ 32 - (circQueueValidMask (2 ^ bit) + 1)) = 0 := by
  have small : count % size < 2 ^ bit := (Nat.mod_lt _ shape.positive).trans shape.fits
  have below : encode size bit count < 2 ^ (bit + 1) := by
    rw [Nat.pow_succ, encode]
    split <;> omega
  have mask : circQueueValidMask (2 ^ bit) = 2 ^ (bit + 1) - 1 := by
    refine Nat.eq_of_testBit_eq fun index => ?_
    rw [circQueueValidMask, circQueueIndexMask, Nat.testBit_or, Nat.testBit_two_pow_sub_one,
      Nat.testBit_two_pow_sub_one, Nat.testBit_two_pow, ← Bool.decide_or, decide_eq_decide]
    omega
  have word : 2 ^ (bit + 1) - 1 < 2 ^ 32 := by
    have bound := Nat.pow_le_pow_right (by decide : 0 < 2) shape.word
    have positive := Nat.two_pow_pos (bit + 1)
    simp only [Nat.succ_eq_add_one] at bound
    omega
  rw [mask]
  refine Nat.eq_of_testBit_eq fun index => ?_
  rw [Nat.testBit_and, Nat.testBit_two_pow_sub_succ word, Nat.testBit_two_pow_sub_one,
    Nat.zero_testBit]
  by_cases low : index < bit + 1
  · simp [low]
  · rw [Nat.testBit_lt_two_pow (below.trans_le (Nat.pow_le_pow_right (by decide) (not_lt.mp low))),
      Bool.false_and]

end

end QueueShape

end GsKernel.Gcip
