import GsKernel.Acpm.Queues

/-!
# Sequence numbers and the copying of responses

The number of a request whose response is not copied has its bit set and its slot cleared, so
no other request gets it. Copying the response of a request that wants one puts it into the
slot; otherwise it clears the bit.
-/

namespace GsKernel.Acpm

open Function Lib.ColorIndex AcpmChannel List

variable {count : Nat}

/-- The numbers of the requests, for the number of responses that were copied. -/
structure AcpmChannel.Numbers (channel : AcpmChannel count) (copied : Nat) : Prop where
  small : channel.seqNum < SEQ_NUM_MAX
  range : ∀ request ∈ channel.sent, 0 < request.seq ∧ request.seq < SEQ_NUM_MAX
  pending : ∀ index request, copied ≤ index → channel.sent[index]? = some request →
    channel.bitmap (request.seq - 1) = true ∧
      (channel.chCfg (request.seq - 1)).response = request.response ∧
      (channel.chCfg (request.seq - 1)).cmd.seq = 0
  distinct : ∀ first second one other, copied ≤ first → first < second →
    channel.sent[first]? = some one → channel.sent[second]? = some other → one.seq ≠ other.seq

/-- A request that is waited for: its bit is set, its number was not given out again, and its
response is in the slot if it was copied. -/
structure AcpmChannel.Waiting (channel : AcpmChannel count) (copied seq request : Nat) : Prop where
  bit : channel.bitmap (seq - 1) = true
  last : ∀ index later, request < index → channel.sent[index]? = some later → later.seq ≠ seq
  arrived : request < copied → channel.answers[request]? = some (channel.chCfg (seq - 1)).cmd

section Frames

variable {channel : AcpmChannel count} {copied seq request : Nat}

/-- The numbers depend on the requests, the bits and the slots. -/
lemma AcpmChannel.Numbers.frame (numbers : channel.Numbers copied) (next : AcpmChannel count)
    (seqNum : next.seqNum = channel.seqNum) (bitmap : next.bitmap = channel.bitmap)
    (chCfg : next.chCfg = channel.chCfg) (sent : next.sent = channel.sent) :
    next.Numbers copied := by
  refine ⟨by rw [seqNum]; exact numbers.small, ?_, ?_, ?_⟩
  · rw [sent]
    exact numbers.range
  · rw [sent, bitmap, chCfg]
    exact numbers.pending
  · rw [sent]
    exact numbers.distinct

/-- What is waited for does not depend on responses yet to come. -/
lemma AcpmChannel.Waiting.frame (waiting : channel.Waiting copied seq request)
    (next : AcpmChannel count) (bitmap : next.bitmap = channel.bitmap)
    (chCfg : next.chCfg = channel.chCfg) (sent : next.sent = channel.sent)
    (keeps : ∀ (index : Nat) cmd, channel.answers[index]? = some cmd →
      next.answers[index]? = some cmd) : next.Waiting copied seq request := by
  refine ⟨by rw [bitmap]; exact waiting.bit, by rw [sent]; exact waiting.last, fun arrived => ?_⟩
  rw [chCfg]
  exact keeps request _ (waiting.arrived arrived)

end Frames

/-- What copying the responses up to a number does. -/
structure AcpmChannel.Copies (channel next : AcpmChannel count) (copied upTo : Nat) : Prop where
  frame : ∃ bitmap chCfg copies,
    next = { channel with bitmap := bitmap, chCfg := chCfg, copies := copies }
  queues : next.Queues upTo
  numbers : next.Numbers upTo
  clears : ∀ bit, next.bitmap bit = true → channel.bitmap bit = true
  waits : ∀ seq request sender, channel.sent[request]? = some ⟨sender, seq, true⟩ →
    channel.Waiting copied seq request → next.Waiting upTo seq request

section Copying

variable {channel middle next : AcpmChannel count} {copied between upTo : Nat}

lemma AcpmChannel.Copies.refl (queues : channel.Queues copied)
    (numbers : channel.Numbers copied) : channel.Copies channel copied copied :=
  ⟨⟨channel.bitmap, channel.chCfg, channel.copies, rfl⟩, queues, numbers, fun _ isSet => isSet,
    fun _ _ _ _ waiting => waiting⟩

lemma AcpmChannel.Copies.trans (first : channel.Copies middle copied between)
    (second : middle.Copies next between upTo) : channel.Copies next copied upTo := by
  obtain ⟨bitmap, chCfg, copies, rfl⟩ := first.frame
  obtain ⟨lastBitmap, lastChCfg, lastCopies, rfl⟩ := second.frame
  refine ⟨⟨lastBitmap, lastChCfg, lastCopies, rfl⟩, second.queues, second.numbers, ?_, ?_⟩
  · intro bit isSet
    exact first.clears bit (second.clears bit isSet)
  · intro seq request sender isRequest waiting
    exact second.waits seq request sender isRequest
      (first.waits seq request sender isRequest waiting)

/-- One more response is copied. -/
lemma AcpmChannel.Queues.advance (queues : channel.Queues copied)
    (more : copied < channel.answers.length) :
    { channel with
      copies := channel.copies ++ [channel.rx (copied % channel.len)] }.Queues (copied + 1) := by
  have bounded := queues.bounded
  refine { queues with
    copied_le := more
    bounded := by change channel.sent.length + 2 ≤ copied + 1 + channel.len; omega
    rxKept := fun request low high => queues.rxKept request (by omega) high
    copies := ?_ }
  have kept := queues.rxKept copied le_rfl more
  rw [take_add_one, kept, queues.copies]
  rfl

/-- The number of another request that is waited for is another one. -/
lemma AcpmChannel.Numbers.apart (numbers : channel.Numbers copied) {seq request : Nat}
    {sender : Fin count} {one : Sent count} (isOne : channel.sent[copied]? = some one)
    (isRequest : channel.sent[request]? = some ⟨sender, seq, true⟩)
    (waiting : channel.Waiting copied seq request) (ne : request ≠ copied) :
    seq - 1 ≠ one.seq - 1 := by
  have oneRange := numbers.range one (mem_of_getElem? isOne)
  have range := numbers.range _ (mem_of_getElem? isRequest)
  have differs : seq ≠ one.seq := by
    rcases Nat.lt_or_gt_of_ne ne with before | after
    · exact (waiting.last copied one before isOne).symm
    · exact (numbers.distinct copied request one _ le_rfl after isOne isRequest).symm
  have positive : 0 < seq := range.1
  omega

/-- A later request that is not copied has another number. -/
lemma AcpmChannel.Numbers.later (numbers : channel.Numbers copied) {index : Nat}
    {one other : Sent count} (isOne : channel.sent[copied]? = some one) (after : copied < index)
    (isOther : channel.sent[index]? = some other) : other.seq - 1 ≠ one.seq - 1 := by
  have oneRange := numbers.range one (mem_of_getElem? isOne)
  have range := numbers.range other (mem_of_getElem? isOther)
  have differs := numbers.distinct copied index one other le_rfl after isOne isOther
  omega

lemma AcpmChannel.Copies.copyResponse (queues : channel.Queues copied)
    (numbers : channel.Numbers copied) (more : copied < channel.answers.length) :
    channel.Copies (channel.copyResponse (copied % channel.len)) copied (copied + 1) := by
  obtain ⟨one, isOne, isAnswer, seq⟩ := queues.next more
  have range := numbers.range one (mem_of_getElem? isOne)
  obtain ⟨-, wants, -⟩ := numbers.pending copied one le_rfl isOne
  have valid : ¬ (one.seq = 0 ∨ SEQ_NUM_MAX ≤ one.seq) := by omega
  unfold AcpmChannel.copyResponse
  simp only [seq, if_neg valid, wants]
  split
  · refine ⟨⟨_, _, _, rfl⟩, (queues.advance more).frame _ _ _ _ _ _ _,
      ⟨numbers.small, numbers.range, ?_, fun first second _ _ low =>
        numbers.distinct first second _ _ (by omega)⟩, fun _ isSet => isSet, ?_⟩
    · intro index request low isRequest
      have apart := numbers.later isOne low isRequest
      simp only [update_of_ne apart]
      exact numbers.pending index request (by omega) isRequest
    · intro waited request sender isRequest waiting
      refine ⟨waiting.bit, waiting.last, fun arrived => ?_⟩
      by_cases same : request = copied
      · subst same
        obtain rfl : one = ⟨sender, waited, true⟩ := Option.some.inj (isOne.symm.trans isRequest)
        simp only [update_self]
        exact isAnswer
      · simp only [update_of_ne (numbers.apart isOne isRequest waiting same)]
        exact waiting.arrived (by omega)
  · rename_i noResponse
    refine ⟨⟨_, _, _, rfl⟩, (queues.advance more).frame _ _ _ _ _ _ _,
      ⟨numbers.small, numbers.range, ?_, fun first second _ _ low =>
        numbers.distinct first second _ _ (by omega)⟩, ?_, ?_⟩
    · intro index request low isRequest
      have apart := numbers.later isOne low isRequest
      simp only [update_of_ne apart]
      exact numbers.pending index request (by omega) isRequest
    · intro bit isSet
      by_cases same : bit = one.seq - 1
      · subst same
        simp only [update_self] at isSet
        exact absurd isSet (by decide)
      · simpa only [update_of_ne same] using isSet
    · intro waited request sender isRequest waiting
      have ne : request ≠ copied := by
        rintro rfl
        obtain rfl : one = ⟨sender, waited, true⟩ := Option.some.inj (isOne.symm.trans isRequest)
        exact noResponse rfl
      refine ⟨?_, waiting.last, fun arrived => waiting.arrived (by omega)⟩
      simp only [update_of_ne (numbers.apart isOne isRequest waiting ne)]
      exact waiting.bit

/-- The loop of `check_response` copies everything that the firmware has answered. -/
lemma AcpmChannel.Copies.copyResponses {front : Nat} (turns : Nat)
    (queues : channel.Queues copied) (numbers : channel.Numbers copied)
    (running : channel.panicked = none) (isFront : channel.rxFront = front)
    (enough : channel.answers.length ≤ copied + turns) :
    channel.Copies (copyResponses front turns (copied % channel.len) channel) copied
      channel.answers.length := by
  have copied_le := queues.copied_le
  induction turns generalizing channel copied with
  | zero =>
    obtain rfl : copied = channel.answers.length := by omega
    exact .refl queues numbers
  | succ turns ih =>
    have taken_le := queues.taken_le
    have bounded := queues.bounded
    rw [copyResponses, running]
    by_cases isEnd : copied % channel.len = front
    · rw [if_pos (.inl isEnd)]
      obtain rfl : copied = channel.answers.length := by
        by_contra apart
        rw [← isFront, queues.rxFront] at isEnd
        exact @slot_ne channel.len copied _ _ le_rfl (by omega) copied_le (by omega) apart isEnd
      exact .refl queues numbers
    · have more : copied < channel.answers.length := by
        rcases copied_le.eq_or_lt with same | less
        · exact absurd (by rw [same, ← queues.rxFront, isFront]) isEnd
        · exact less
      rw [if_neg (by simp [isEnd]), Nat.mod_add_mod]
      have copies := Copies.copyResponse queues numbers more
      refine copies.trans ?_
      obtain ⟨bitmap, chCfg, read, isNext⟩ := copies.frame
      have rest := ih copies.queues copies.numbers (by rw [isNext]; exact running)
        (by rw [isNext]; exact isFront) (by rw [isNext]; exact enough.trans (by omega))
        copies.queues.copied_le
      rw [isNext] at rest ⊢
      exact rest

/-- `check_response` up to its last part. -/
lemma AcpmChannel.Copies.checkQueue (queues : channel.Queues copied)
    (numbers : channel.Numbers copied) (running : channel.panicked = none)
    (rear : channel.rxRear = copied % channel.len) :
    ∃ next, channel.Copies next copied channel.answers.length ∧
      channel.checkQueue = { next with rxRear := channel.rxFront } := by
  have taken_le := queues.taken_le
  have bounded := queues.bounded
  refine ⟨_, ?_, rfl⟩
  rw [rear]
  exact .copyResponses channel.len queues numbers running rfl (by omega)

end Copying

/-! ## Giving out a number -/

section Sending

variable {channel : AcpmChannel count} {copied : Nat}

lemma AcpmChannel.Numbers.nextSeq (numbers : channel.Numbers copied) :
    0 < channel.nextSeq ∧ channel.nextSeq < SEQ_NUM_MAX := by
  have small := numbers.small
  unfold AcpmChannel.nextSeq
  unfold SEQ_NUM_MAX at small ⊢
  split <;> omega

/-- A number whose bit is clear belongs to no request that is not copied. -/
lemma AcpmChannel.Numbers.unused (numbers : channel.Numbers copied)
    (clear : channel.bitmap (channel.nextSeq - 1) = false) {index : Nat} {request : Sent count}
    (low : copied ≤ index) (isRequest : channel.sent[index]? = some request) :
    request.seq - 1 ≠ channel.nextSeq - 1 := by
  intro same
  have isSet := (numbers.pending index request low isRequest).1
  rw [same, clear] at isSet
  exact absurd isSet (by decide)

/-- The requests sent, after one more. -/
lemma AcpmChannel.sent_send {sender : Fin count} {cmd : Cmd} {response : Bool} {index : Nat}
    {request : Sent count}
    (isRequest : (channel.send sender cmd response).sent[index]? = some request) :
    (index < channel.sent.length ∧ channel.sent[index]? = some request) ∨
      (index = channel.sent.length ∧ request = ⟨sender, channel.nextSeq, response⟩) := by
  change (channel.sent ++ [_])[index]? = some request at isRequest
  by_cases old : index < channel.sent.length
  · rw [getElem?_append_left old] at isRequest
    exact .inl ⟨old, isRequest⟩
  · have inside := (List.getElem?_eq_some_iff.mp isRequest).1
    rw [length_append, length_singleton] at inside
    obtain rfl : index = channel.sent.length := by omega
    rw [getElem?_concat_length] at isRequest
    exact .inr ⟨rfl, (Option.some.inj isRequest).symm⟩

lemma AcpmChannel.Numbers.send (numbers : channel.Numbers copied)
    (clear : channel.bitmap (channel.nextSeq - 1) = false) (sender : Fin count) (cmd : Cmd)
    (response : Bool) : (channel.send sender cmd response).Numbers copied := by
  have next := numbers.nextSeq
  refine ⟨next.2, ?_, ?_, ?_⟩
  · intro request isRequest
    rcases mem_append.mp isRequest with old | new
    · exact numbers.range request old
    · rw [mem_singleton] at new
      subst new
      exact next
  · intro index request low isRequest
    rcases AcpmChannel.sent_send isRequest with ⟨-, old⟩ | ⟨-, rfl⟩
    · have apart := numbers.unused clear low old
      simp only [AcpmChannel.send, update_of_ne apart]
      exact numbers.pending index request low old
    · simp only [AcpmChannel.send, update_self]
      exact ⟨trivial, trivial, Cmd.cleared_seq _⟩
  · intro first second one other low before isOne isOther
    rcases AcpmChannel.sent_send isOne with ⟨inside, oldOne⟩ | ⟨rfl, rfl⟩
    · rcases AcpmChannel.sent_send isOther with ⟨-, oldOther⟩ | ⟨-, rfl⟩
      · exact numbers.distinct first second one other low before oldOne oldOther
      · intro same
        exact numbers.unused clear low oldOne (by rw [same])
    · rcases AcpmChannel.sent_send isOther with ⟨inside, -⟩ | ⟨same, -⟩
      · omega
      · omega

end Sending

end GsKernel.Acpm
