import GsKernel.Gcip.CircQueue
import GsKernel.Lib.CircularStore
import GsKernel.Lib.Runs

/-!
# The response queue of a mailbox

The firmware appends responses at the tail while the host fetches them, one or as many as there
are. `gcip_mailbox_fetch_responses` reads the tail again after each batch, advances a copy of the
head, and publishes the head once at the end. A fetch is cut at every access to the queue or its
indices.
-/

namespace GsKernel.Gcip

open Lib.CircularStore Lib.Runs List

variable {α : Type*}

/-- The fetch under way. `one`, `copyOne` and `advanceOne` are the steps of
`gcip_mailbox_fetch_one_response`; the others are the loop of `gcip_mailbox_fetch_responses`, the
copies of a batch, of which `left` are to come, and its end. Its `total` is the length of `ret`.
-/
inductive Fetch (α : Type*) where
  | idle
  | one (head : Nat)
  | copyOne (head : Nat)
  | advanceOne (elem : α)
  | loop (head : Nat) (ret : List α)
  | copying (head count j left : Nat) (ret : List α)
  | finish (ret : List α)
deriving DecidableEq

def Fetch.isIdle : Fetch α → Bool
  | .idle => true
  | _ => false

/-- The queue with its indices as both sides see them. `produced` are the responses that
the firmware has appended, `fetched` those that the finished fetches have returned. -/
structure RxQueue (α : Type*) where
  size : Nat
  wrapBit : Nat
  head : Nat
  tail : Nat
  cells : Nat → α
  fetch : Fetch α
  produced : List α
  fetched : List α

/-- An append of the firmware, the start of a fetch, or a step of the one under way. A
fetch may find the block off; `allocated` is whether `krealloc` succeeds. -/
inductive RxEvent (α : Type*) where
  | append (value : α)
  | fetchResponses (blockOff : Bool)
  | fetchOneResponse (blockOff : Bool)
  | continueFetch (allocated : Bool)
deriving DecidableEq

namespace RxQueue

variable (queue : RxQueue α)

/-- The firmware appends a response and advances the tail. -/
def append (value : α) : RxQueue α :=
  { queue with
    cells := store queue.cells (circQueueRealIndex queue.tail queue.wrapBit) [value]
    tail := circQueueInc queue.tail 1 queue.size queue.wrapBit
    produced := queue.produced ++ [value] }

/-- `inc_rx_queue_head`, at the end of a fetch that returns `ret`. -/
def incRxQueueHead (ret : List α) : RxQueue α :=
  { queue with
    head := circQueueInc queue.head ret.length queue.size queue.wrapBit
    fetch := .idle
    fetched := queue.fetched ++ ret }

/-- The check of a tail that the loop of `gcip_mailbox_fetch_responses` has read. -/
def invalidTail (tail : Nat) : Bool :=
  decide (tail &&& (2 ^ 32 - (circQueueValidMask queue.wrapBit + 1)) ≠ 0 ∨
    circQueueRealIndex tail queue.wrapBit ≥ queue.size)

/-- One step of the fetch under way. -/
def continueFetch (allocated : Bool) : Option (RxQueue α) :=
  match queue.fetch with
  | .idle => none
  | .one head =>
    some { queue with fetch := if head = queue.tail then .idle else .copyOne head }
  | .copyOne head =>
    some { queue with fetch := .advanceOne (queue.cells (circQueueRealIndex head queue.wrapBit)) }
  | .advanceOne elem => some (queue.incRxQueueHead [elem])
  | .loop head ret =>
    let tail := queue.tail
    let count := circQueueCnt head tail queue.size queue.wrapBit
    if queue.invalidTail tail = true ∨ count = 0 ∨ allocated = false then
      some { queue with fetch := .finish ret }
    else
      some { queue with
        fetch := .copying head count (circQueueRealIndex head queue.wrapBit) count ret }
  | .copying head count _ 0 ret =>
    some { queue with fetch := .loop (circQueueInc head count queue.size queue.wrapBit) ret }
  | .copying head count j (left + 1) ret =>
    some { queue with
      fetch := .copying head count ((j + 1) % queue.size) left (ret ++ [queue.cells j]) }
  | .finish ret => some (queue.incRxQueueHead ret)

/-- One step of the firmware or the host. A fetch that finds the block off or the lock
taken returns without an effect. -/
def step : RxEvent α → Option (RxQueue α)
  | .append value => some (queue.append value)
  | .fetchResponses blockOff =>
    if blockOff = true ∨ queue.fetch.isIdle = false then some queue
    else some { queue with fetch := .loop queue.head [] }
  | .fetchOneResponse blockOff =>
    if blockOff = true ∨ queue.fetch.isIdle = false then some queue
    else some { queue with fetch := .one queue.head }
  | .continueFetch allocated => queue.continueFetch allocated

/-- The firmware never puts more than `size` responses ahead of the published head. -/
def Room : RxEvent α → Prop
  | .append _ => queue.produced.length < queue.fetched.length + queue.size
  | _ => True

end RxQueue

/-- An empty queue. -/
def RxQueue.initial (size wrapBit : Nat) (cells : Nat → α) : RxQueue α :=
  ⟨size, wrapBit, 0, 0, cells, .idle, [], []⟩

namespace RxQueue

variable {queue next : RxQueue α} {bit : Nat}

/-- What the fetch under way has read so far. -/
def FetchReady (queue : RxQueue α) (bit : Nat) : Prop :=
  match queue.fetch with
  | .idle => True
  | .one head => head = encode queue.size bit queue.fetched.length
  | .copyOne head =>
    head = encode queue.size bit queue.fetched.length ∧ queue.fetched.length < queue.produced.length
  | .advanceOne elem => queue.fetched ++ [elem] <+: queue.produced
  | .loop head ret =>
    head = encode queue.size bit (queue.fetched.length + ret.length) ∧
      queue.fetched ++ ret <+: queue.produced
  | .copying head count j left ret =>
    (∃ start, head = encode queue.size bit start ∧
      start + count = queue.fetched.length + ret.length + left) ∧ count ≤ queue.size ∧
      j = (queue.fetched.length + ret.length) % queue.size ∧
      queue.fetched.length + ret.length + left ≤ queue.produced.length ∧
      queue.fetched ++ ret <+: queue.produced
  | .finish ret => queue.fetched ++ ret <+: queue.produced

/-- The invariant of a queue: the indices stand for the numbers of responses, and what is
not fetched lies in its cells. -/
structure InOrder (queue : RxQueue α) (bit : Nat) : Prop where
  shape : QueueShape queue.size bit
  wrapBit : queue.wrapBit = 2 ^ bit
  head : queue.head = encode queue.size bit queue.fetched.length
  tail : queue.tail = encode queue.size bit queue.produced.length
  prefixed : queue.fetched <+: queue.produced
  room : queue.produced.length ≤ queue.fetched.length + queue.size
  holds : HoldsEnd queue.cells 0 queue.size queue.produced
  fetchReady : queue.FetchReady bit

open RxQueue

lemma inOrder_initial {size : Nat} (shape : QueueShape size bit) (cells : Nat → α) :
    (initial size (2 ^ bit) cells).InOrder bit where
  shape := shape
  wrapBit := rfl
  head := by simp [initial, encode, wraps]
  tail := by simp [initial, encode, wraps]
  prefixed := prefix_rfl
  room := Nat.zero_le _
  holds := .nil
  fetchReady := trivial

/-- Growing the sequence of responses keeps what has been read. -/
lemma FetchReady.append (ready : queue.FetchReady bit) (value : α) :
    (queue.append value).FetchReady bit := by
  have grown : queue.produced <+: queue.produced ++ [value] := prefix_append _ _
  have longer : queue.produced.length ≤ (queue.produced ++ [value]).length := grown.length_le
  unfold FetchReady at ready ⊢
  simp only [RxQueue.append]
  cases fetch : queue.fetch <;> rw [fetch] at ready
  case idle => trivial
  case one head =>
    exact ready
  case copyOne head =>
    exact ⟨ready.1, ready.2.trans_le longer⟩
  case advanceOne elem | finish ret =>
    exact ready.trans grown
  case loop head ret =>
    exact ⟨ready.1, ready.2.trans grown⟩
  case copying head count j left ret =>
    obtain ⟨start, small, cell, bounded, read⟩ := ready
    exact ⟨start, small, cell, bounded.trans longer, read.trans grown⟩

section

variable (inOrder : queue.InOrder bit)
include inOrder

namespace InOrder

lemma append (room : queue.produced.length < queue.fetched.length + queue.size) (value : α) :
    (queue.append value).InOrder bit := by
  have positive := inOrder.shape.positive
  refine ⟨inOrder.shape, inOrder.wrapBit, inOrder.head, ?_,
    inOrder.prefixed.trans (prefix_append _ _), ?_, ?_, inOrder.fetchReady.append value⟩
  · simp only [RxQueue.append, inOrder.tail, inOrder.wrapBit, length_append,
      length_singleton]
    exact inOrder.shape.circQueueInc_encode positive
  · simp only [RxQueue.append, length_append, length_singleton]
    omega
  · have inside := Nat.mod_lt queue.produced.length positive
    have short : [value].length ≤ queue.size := Nat.succ_le_of_lt positive
    have stored := inOrder.holds.append positive short
    simp only [storeAround, length_singleton, Nat.succ_le_of_lt inside, if_true,
      Nat.zero_add] at stored
    simpa only [RxQueue.append, inOrder.tail, inOrder.wrapBit, inOrder.shape.realIndex_encode]
      using stored

/-- The cell of a response that is not fetched holds it. -/
lemma cell {position : Nat}
    (unfetched : queue.fetched.length ≤ position) (produced : position < queue.produced.length) :
    queue.cells (position % queue.size) = queue.produced[position] := by
  have room := inOrder.room
  have found := inOrder.holds position produced (by omega)
  rwa [Nat.zero_add] at found

variable {ret : List α}

/-- The end of a fetch that returns the next responses. -/
lemma incRxQueueHead
    (next : queue.fetched ++ ret <+: queue.produced) : (queue.incRxQueueHead ret).InOrder bit := by
  have bounded := next.length_le
  have room := inOrder.room
  rw [length_append] at bounded
  refine ⟨inOrder.shape, inOrder.wrapBit, ?_, inOrder.tail, next, ?_, inOrder.holds, trivial⟩
  · simp only [RxQueue.incRxQueueHead, inOrder.head, inOrder.wrapBit, length_append]
    exact inOrder.shape.circQueueInc_encode (by omega)
  · simp only [RxQueue.incRxQueueHead, length_append]
    omega

/-- A step that only moves the fetch keeps the invariant when it has read the next
responses. -/
lemma withFetch {fetch : Fetch α} (ready : { queue with fetch := fetch }.FetchReady bit) :
    { queue with fetch := fetch }.InOrder bit :=
  { inOrder with fetchReady := ready }

/-- The next response in the queue is the one in the cell of its number. -/
lemma read_next (read : queue.fetched ++ ret <+: queue.produced)
    (more : queue.fetched.length + ret.length < queue.produced.length) :
    queue.fetched ++ (ret ++ [queue.cells ((queue.fetched.length + ret.length) % queue.size)]) <+:
      queue.produced := by
  have inside : (queue.fetched ++ ret).length < queue.produced.length := by
    rwa [length_append]
  rw [inOrder.cell (Nat.le_add_right _ _) more, ← append_assoc]
  simpa only [length_append, get_eq_getElem] using concat_get_prefix read inside

/-- The count that the loop computes is the number of responses it has not read, and the
tail passes its check. -/
lemma loop_count (read : queue.fetched ++ ret <+: queue.produced) :
    circQueueCnt (encode queue.size bit (queue.fetched.length + ret.length)) queue.tail queue.size
      queue.wrapBit = queue.produced.length - (queue.fetched.length + ret.length) := by
  have bounded := read.length_le
  have room := inOrder.room
  rw [length_append] at bounded
  rw [inOrder.tail, inOrder.wrapBit]
  exact inOrder.shape.circQueueCnt_encode bounded (by omega)

lemma tail_valid : queue.invalidTail queue.tail = false := by
  have inside := Nat.mod_lt queue.produced.length inOrder.shape.positive
  have none := inOrder.shape.encode_valid queue.produced.length
  simp only [invalidTail, inOrder.tail, inOrder.wrapBit, none, inOrder.shape.realIndex_encode,
    ne_eq, not_true_eq_false, false_or, ge_iff_le, not_le.mpr inside, decide_false]

/-- Every access of a fetch keeps the responses in order. -/
lemma continueFetch {allocated : Bool}
    (ran : queue.continueFetch allocated = some next) : next.InOrder bit := by
  have ready := inOrder.fetchReady
  have room := inOrder.room
  unfold FetchReady at ready
  unfold RxQueue.continueFetch at ran
  cases fetch : queue.fetch with
  | idle => simp [fetch] at ran
  | one head =>
    simp only [fetch] at ran ready
    cases ran
    refine inOrder.withFetch ?_
    by_cases empty : head = queue.tail
    · simp only [if_pos empty, FetchReady]
    · have bounded := inOrder.prefixed.length_le
      rw [ready, inOrder.tail, inOrder.shape.encode_eq_iff bounded room] at empty
      simp only [ready, inOrder.tail, inOrder.shape.encode_eq_iff bounded room, if_neg empty,
        FetchReady]
      exact ⟨trivial, by omega⟩
  | copyOne head =>
    simp only [fetch] at ran ready
    cases ran
    refine inOrder.withFetch ?_
    have none : queue.fetched ++ [] <+: queue.produced := by simpa using inOrder.prefixed
    have next := inOrder.read_next none (by simpa using ready.2)
    simpa only [FetchReady, ready.1, inOrder.wrapBit, inOrder.shape.realIndex_encode,
      length_nil, Nat.add_zero, nil_append] using next
  | advanceOne elem | finish ret =>
    simp only [fetch] at ran ready
    cases ran
    exact inOrder.incRxQueueHead ready
  | loop head ret =>
    simp only [fetch] at ran ready
    obtain ⟨at_ret, read⟩ := ready
    have bounded := read.length_le
    rw [length_append] at bounded
    subst at_ret
    rw [inOrder.loop_count read] at ran
    split at ran
    · cases ran
      exact inOrder.withFetch read
    cases ran
    have small : queue.produced.length - (queue.fetched.length + ret.length) ≤ queue.size := by
      omega
    have all : queue.fetched.length + ret.length +
        (queue.produced.length - (queue.fetched.length + ret.length)) =
          queue.produced.length := by omega
    refine inOrder.withFetch ⟨⟨_, rfl, rfl⟩, small, ?_, all.le, read⟩
    rw [inOrder.wrapBit, inOrder.shape.realIndex_encode]
  | copying head count j left ret =>
    cases left with
    | zero =>
      simp only [fetch] at ran ready
      obtain ⟨⟨start, rfl, reached⟩, small, -, -, read⟩ := ready
      cases ran
      refine inOrder.withFetch ⟨?_, read⟩
      rw [inOrder.wrapBit, inOrder.shape.circQueueInc_encode small, reached, Nat.add_zero]
    | succ left =>
      simp only [fetch] at ran ready
      obtain ⟨⟨start, rfl, reached⟩, small, rfl, more, read⟩ := ready
      cases ran
      have last := inOrder.read_next read (by omega)
      have moved : queue.fetched.length +
          (ret ++ [queue.cells ((queue.fetched.length + ret.length) % queue.size)]).length +
            left = queue.fetched.length + ret.length + (left + 1) := by
        rw [length_append, length_singleton]
        omega
      refine inOrder.withFetch
        ⟨⟨start, rfl, reached.trans moved.symm⟩, small, ?_, moved.trans_le more, last⟩
      rw [length_append, length_singleton, ← Nat.add_assoc, Nat.mod_add_mod]

lemma step {event : RxEvent α} (room : queue.Room event)
    (ran : queue.step event = some next) : next.InOrder bit := by
  cases event <;> simp only [RxQueue.step] at ran
  case append value =>
    cases ran
    exact inOrder.append room value
  case fetchResponses blockOff =>
    split at ran
    · cases ran
      exact inOrder
    · cases ran
      exact inOrder.withFetch ⟨inOrder.head, by simpa using inOrder.prefixed⟩
  case fetchOneResponse blockOff =>
    split at ran
    · cases ran
      exact inOrder
    · cases ran
      exact inOrder.withFetch inOrder.head
  case continueFetch allocated => exact inOrder.continueFetch ran

end InOrder

end

lemma step_size {event : RxEvent α} (ran : queue.step event = some next) :
    next.size = queue.size := by
  cases event with
  | append value =>
    cases ran
    rfl
  | fetchResponses blockOff => grind [step]
  | fetchOneResponse blockOff => grind [step]
  | continueFetch allocated =>
    grind [step, continueFetch, incRxQueueHead]

end RxQueue

/-- Under every interleaving of the firmware, which never puts more than `size` responses
ahead of the published head, with fetches of one response or of all there are, the
responses fetched are the first ones produced, and the indices stand for the numbers of
responses on each side. -/
theorem responses_in_order {size bit : Nat} (word : bit < 32)
    (valid : validCircQueueSize size (2 ^ bit) = true) (cells : Nat → α)
    (events : List (RxEvent α)) {final : RxQueue α}
    (along : Lib.Runs.AlongM RxQueue.step RxQueue.Room (.initial size (2 ^ bit) cells) events)
    (ran : events.foldlM RxQueue.step (.initial size (2 ^ bit) cells) = some final) :
    final.fetched <+: final.produced ∧ final.head = encode size bit final.fetched.length ∧
      circQueueCnt final.head final.tail size (2 ^ bit) =
        final.produced.length - final.fetched.length := by
  have shape := QueueShape.of_valid word valid
  obtain ⟨inOrder, rfl⟩ := foldlM_invariant_along
    (fun reached => reached.InOrder bit ∧ reached.size = size) RxQueue.step RxQueue.Room
    (fun reached event next kept room stepped =>
      ⟨kept.1.step room stepped, (RxQueue.step_size stepped).trans kept.2⟩)
    events ⟨RxQueue.inOrder_initial shape cells, rfl⟩ along ran
  refine ⟨inOrder.prefixed, inOrder.head, ?_⟩
  rw [inOrder.head, inOrder.tail]
  exact inOrder.shape.circQueueCnt_encode inOrder.prefixed.length_le inOrder.room

instance decidableRoom (queue : RxQueue α) (event : RxEvent α) : Decidable (queue.Room event) :=
  match event with
  | .append _ => inferInstanceAs (Decidable (_ < _))
  | .fetchResponses _ => isTrue trivial
  | .fetchOneResponse _ => isTrue trivial
  | .continueFetch _ => isTrue trivial

/-- Four responses through a queue of three: the first is fetched alone, the others in two
batches, with the last one appended after the first batch. -/
def lateResponseRun : List (RxEvent Nat) :=
  [.append 1, .append 2, .fetchOneResponse false, .continueFetch true, .continueFetch true,
    .append 3, .continueFetch true, .fetchResponses false, .continueFetch true,
    .continueFetch true, .append 4, .continueFetch true, .continueFetch true, .continueFetch true,
    .continueFetch true, .continueFetch true, .continueFetch true, .continueFetch true]

theorem responses_in_order_late :
    ∃ final, lateResponseRun.foldlM RxQueue.step (.initial 3 (2 ^ 2) fun _ => 0) = some final ∧
      final.fetched = [1, 2, 3, 4] ∧ final.head = 5 ∧
      circQueueCnt final.head final.tail 3 (2 ^ 2) = 0 := by
  obtain ⟨final, ran, fetched, produced⟩ := exists_reached
    (fun final : RxQueue Nat => final.fetched = [1, 2, 3, 4] ∧ final.produced = [1, 2, 3, 4])
    (show (lateResponseRun.foldlM RxQueue.step (.initial 3 (2 ^ 2) fun _ => 0)).any _ = true by
      decide +kernel)
  have along : AlongM RxQueue.step RxQueue.Room (.initial 3 (2 ^ 2) fun _ => 0)
      lateResponseRun := alongM_of_check (by decide +kernel)
  obtain ⟨-, head, left⟩ := responses_in_order (by decide) (by decide) _ _ along ran
  refine ⟨final, ran, fetched, ?_, ?_⟩
  · rw [head, fetched]
    rfl
  · rw [left, fetched, produced]
    rfl

/-- Under every interleaving the loop of a fetch that gets its memory ends when there is nothing
left to read, and only then. -/
theorem fetch_ends_iff {size bit : Nat} (word : bit < 32)
    (valid : validCircQueueSize size (2 ^ bit) = true) (cells : Nat → α)
    (events : List (RxEvent α)) {queue : RxQueue α}
    (along : AlongM RxQueue.step RxQueue.Room (.initial size (2 ^ bit) cells) events)
    (ran : events.foldlM RxQueue.step (.initial size (2 ^ bit) cells) = some queue)
    {head : Nat} {ret : List α} (looping : queue.fetch = .loop head ret) :
    queue.step (.continueFetch true) = some { queue with fetch := .finish ret } ↔
      queue.fetched ++ ret = queue.produced := by
  have inOrder := foldlM_invariant_along (fun queue => RxQueue.InOrder queue bit) RxQueue.step
    RxQueue.Room (fun _ _ _ kept room => kept.step room) events
    (RxQueue.inOrder_initial (QueueShape.of_valid word valid) cells) along ran
  have ready := inOrder.fetchReady
  simp only [RxQueue.FetchReady, looping] at ready
  obtain ⟨rfl, read⟩ := ready
  have rest : queue.produced.length - (queue.fetched.length + ret.length) = 0 ↔
      queue.fetched ++ ret = queue.produced := by
    rw [Nat.sub_eq_zero_iff_le, ← length_append]
    exact ⟨read.eq_of_length_le, fun same => same ▸ le_rfl⟩
  rw [← rest]
  simp [RxQueue.step, RxQueue.continueFetch, looping, inOrder.loop_count read, inOrder.tail_valid]

theorem fetch_ends_iff_late :
    ∃ queue, (lateResponseRun.take 16).foldlM RxQueue.step (.initial 3 (2 ^ 2) fun _ => 0) =
        some queue ∧
      queue.step (.continueFetch true) = some { queue with fetch := .finish [2, 3, 4] } := by
  have reached : ∃ queue, (lateResponseRun.take 16).foldlM RxQueue.step
      (.initial 3 (2 ^ 2) fun _ => 0) = some queue ∧ (queue.fetch = .loop 5 [2, 3, 4] ∧
        queue.fetched ++ [2, 3, 4] = queue.produced) := exists_reached _ (by decide +kernel)
  obtain ⟨queue, ran, looping, read⟩ := reached
  exact ⟨queue, ran, (fetch_ends_iff (by decide) (by decide) _ _
    (alongM_of_check (by decide +kernel)) ran looping).2 read⟩

end GsKernel.Gcip
