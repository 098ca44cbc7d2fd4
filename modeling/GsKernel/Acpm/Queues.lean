import GsKernel.Acpm.Ipc
import GsKernel.Lib.ColorIndex

/-!
# The queues of a channel

Requests are sent, taken, answered and copied in order. The requests that are sent and whose
responses are not copied always leave two elements of the queues free: a request is sent only
after the receive queue was drained, with at least three elements free.
-/

namespace GsKernel.Acpm

open Function Lib.ColorIndex List Nat

variable {count : Nat}

section Numbers

/-- The number that is put into a message without one. -/
lemma Cmd.setSeq_seq {cmd : Cmd} (zero : cmd.seq = 0) {seq : Nat} (small : seq < SEQ_NUM_MAX) :
    (cmd.setSeq seq).seq = seq := by
  unfold Cmd.seq at zero
  have mask : seq &&& 0x3f = seq := by
    rw [show (0x3f : Nat) = 2 ^ 6 - 1 from rfl, and_two_pow_sub_one_eq_mod]
    exact mod_eq_of_lt small
  simp only [Cmd.seq, Cmd.setSeq, mask]
  rw [shiftRight_or_distrib, and_or_distrib_right, zero, shiftLeft_shiftRight, mask,
    zero_or]

lemma Cmd.cleared_seq (cmd : Cmd) : cmd.cleared.seq = 0 := by
  simp [Cmd.seq, Cmd.cleared]

end Numbers

/-- The sequence number of a request. -/
def AcpmChannel.seqAt (channel : AcpmChannel count) (request : Nat) : Option Nat :=
  (channel.sent[request]?).map Sent.seq

/-- The queues, for the number of responses that were copied. -/
structure AcpmChannel.Queues (channel : AcpmChannel count) (copied : Nat) : Prop where
  long : 3 ≤ channel.len
  txFront : channel.txFront = channel.sent.length % channel.len
  txRear : channel.txRear = (channel.answers.length + channel.firmware.length) % channel.len
  rxFront : channel.rxFront = channel.answers.length % channel.len
  copied_le : copied ≤ channel.answers.length
  taken_le : channel.answers.length + channel.firmware.length ≤ channel.sent.length
  bounded : channel.sent.length + 2 ≤ copied + channel.len
  txKept : ∀ request, channel.answers.length + channel.firmware.length ≤ request →
    request < channel.sent.length →
    channel.seqAt request = some (channel.tx (request % channel.len)).seq
  taken : ∀ index, index < channel.firmware.length →
    channel.firmware[index]? = channel.seqAt (channel.answers.length + index)
  rxKept : ∀ request, copied ≤ request → request < channel.answers.length →
    channel.answers[request]? = some (channel.rx (request % channel.len))
  echo : ∀ request, request < channel.answers.length →
    (channel.answers[request]?).map Cmd.seq = channel.seqAt request
  copies : channel.copies = channel.answers.take copied

section Steps

variable {channel : AcpmChannel count} {copied : Nat}

section

variable (queues : channel.Queues copied)
include queues

namespace AcpmChannel.Queues

/-- The queues do not depend on the other fields of the channel. -/
lemma frame (rxRear seqNum : Nat)
    (bitmap : Nat → Bool) (chCfg : Nat → ChCfg) (txLock : Option (Fin count))
    (senders : Fin count → Sender) (returned : List (Nat × Cmd)) :
    { channel with rxRear, seqNum, bitmap, chCfg, txLock, senders, returned }.Queues copied :=
  { queues with }

/-- With three elements free the transmit queue is not full. -/
lemma room (free : channel.sent.length + 3 ≤ channel.answers.length + channel.len) :
    (channel.txFront + 1) % channel.len ≠ channel.txRear := by
  have taken_le := queues.taken_le
  rw [queues.txFront, queues.txRear, mod_add_mod]
  exact @slot_ne channel.len (channel.answers.length + channel.firmware.length) _ _ (by omega)
    (by omega) le_rfl (by omega) (by omega)

/-- The wait for the receive queue leaves three elements free. -/
lemma reserve (guard : (channel.txFront + 2) % channel.len ≠ channel.rxFront) :
    channel.sent.length + 3 ≤ channel.answers.length + channel.len := by
  have copied_le := queues.copied_le
  have bounded := queues.bounded
  rw [queues.txFront, queues.rxFront, mod_add_mod] at guard
  by_contra full
  refine guard ?_
  rw [show channel.sent.length + 2 = channel.answers.length + channel.len by omega,
    add_mod_right]

/-- The firmware takes a request. -/
lemma take (more : channel.txRear ≠ channel.txFront) :
    { channel with
      firmware := channel.firmware ++ [(channel.tx channel.txRear).seq]
      txRear := (channel.txRear + 1) % channel.len }.Queues copied := by
  have next : channel.answers.length + channel.firmware.length < channel.sent.length := by
    rw [queues.txRear, queues.txFront] at more
    rcases queues.taken_le.eq_or_lt with same | less
    · exact absurd (by rw [same]) more
    · exact less
  have length : (channel.firmware ++ [(channel.tx channel.txRear).seq]).length =
      channel.firmware.length + 1 := by simp
  refine ⟨queues.long, queues.txFront, ?_, queues.rxFront, queues.copied_le, ?_, queues.bounded,
    ?_, ?_, queues.rxKept, queues.echo, queues.copies⟩
  · simp only [length]
    rw [queues.txRear, mod_add_mod, add_assoc]
  · simp only [length]
    omega
  · intro request low high
    simp only [length] at low
    exact queues.txKept request (by omega) high
  · intro index inside
    simp only [length] at inside
    by_cases old : index < channel.firmware.length
    · exact (getElem?_append_left old).trans (queues.taken index old)
    · obtain rfl : index = channel.firmware.length := by omega
      refine (getElem?_concat_length).trans ?_
      rw [queues.txRear]
      exact (queues.txKept _ le_rfl next).symm

/-- The firmware answers the first request it has taken. -/
lemma answer {response : Cmd} {seq : Nat}
    {rest : List Nat} (first : channel.firmware = seq :: rest) (echo : response.seq = seq) :
    { channel with
      firmware := rest
      rx := update channel.rx channel.rxFront response
      rxFront := (channel.rxFront + 1) % channel.len
      answers := channel.answers ++ [response] }.Queues copied := by
  have copied_le := queues.copied_le
  have taken_le := queues.taken_le
  have bounded := queues.bounded
  have isFirst := queues.taken 0 (by rw [first]; exact succ_pos _)
  have length : (channel.answers ++ [response]).length = channel.answers.length + 1 := by simp
  have taken : channel.firmware.length = rest.length + 1 := by rw [first, length_cons]
  refine ⟨queues.long, queues.txFront, ?_, ?_, ?_, ?_, queues.bounded, ?_, ?_, ?_, ?_, ?_⟩
  · simp only [length]
    rw [queues.txRear, taken]
    congr 1
    omega
  · simp only [length]
    rw [queues.rxFront, mod_add_mod]
  · simp only [length]
    omega
  · simp only [length]
    omega
  · intro request low high
    simp only [length] at low
    exact queues.txKept request (by omega) high
  · intro index inside
    have kept := queues.taken (index + 1) (by rw [taken]; exact succ_lt_succ inside)
    rw [first, getElem?_cons_succ] at kept
    simp only [length]
    rw [kept, add_comm index 1, ← add_assoc]
    rfl
  · intro request low high
    simp only [length] at high
    by_cases old : request < channel.answers.length
    · have apart : request % channel.len ≠ channel.rxFront := by
        rw [queues.rxFront]
        exact @slot_ne channel.len copied _ _ low (by omega) copied_le (by omega) (by omega)
      refine (getElem?_append_left old).trans ((queues.rxKept request low old).trans ?_)
      exact congrArg some (update_of_ne apart _ _).symm
    · obtain rfl : request = channel.answers.length := by omega
      refine (getElem?_concat_length).trans (congrArg some ?_)
      change response = update channel.rx channel.rxFront response _
      rw [← queues.rxFront, update_self]
  · intro request high
    simp only [length] at high
    by_cases old : request < channel.answers.length
    · have kept := queues.echo request old
      simp only [getElem?_append_left old]
      exact kept
    · obtain rfl : request = channel.answers.length := by omega
      simp only [getElem?_concat_length, Option.map_some, echo]
      rw [first, getElem?_cons_zero, add_zero] at isFirst
      exact isFirst
  · exact queues.copies.trans (take_append_of_le_length copied_le).symm

/-- A request is sent, with three elements free. -/
lemma send (free : channel.sent.length + 3 ≤ copied + channel.len) (sender : Fin count) {cmd : Cmd}
    (zero : cmd.seq = 0) (response : Bool) (small : channel.nextSeq < SEQ_NUM_MAX) :
    (channel.send sender cmd response).Queues copied := by
  have copied_le := queues.copied_le
  have taken_le := queues.taken_le
  have length : (channel.send sender cmd response).sent.length = channel.sent.length + 1 := by
    simp [AcpmChannel.send]
  have older : ∀ request, request < channel.sent.length →
      (channel.send sender cmd response).seqAt request = channel.seqAt request := by
    intro request old
    simp only [AcpmChannel.seqAt, AcpmChannel.send, getElem?_append_left old]
  refine ⟨queues.long, ?_, queues.txRear, queues.rxFront, copied_le, ?_, ?_, ?_, ?_,
    queues.rxKept, ?_, queues.copies⟩
  · rw [length]
    change (channel.txFront + 1) % channel.len = (channel.sent.length + 1) % channel.len
    rw [queues.txFront, mod_add_mod]
  · rw [length]
    exact taken_le.trans (le_succ _)
  · rw [length]
    exact free
  · intro request low high
    rw [length] at high
    have low : channel.answers.length + channel.firmware.length ≤ request := low
    by_cases old : request < channel.sent.length
    · have apart : request % channel.len ≠ channel.txFront := by
        rw [queues.txFront]
        exact @slot_ne channel.len (channel.answers.length + channel.firmware.length) _ _ low
          (by omega) taken_le (by omega) (by omega)
      rw [older request old, queues.txKept request low old]
      exact congrArg (fun message : Cmd => some message.seq) (update_of_ne apart _ _).symm
    · obtain rfl : request = channel.sent.length := by omega
      have message : (channel.send sender cmd response).tx (channel.sent.length % channel.len) =
          cmd.setSeq channel.nextSeq := by
        rw [← queues.txFront]
        exact update_self _ _ _
      change _ = some ((channel.send sender cmd response).tx
        (channel.sent.length % channel.len)).seq
      rw [message, Cmd.setSeq_seq zero small]
      simp [AcpmChannel.seqAt, AcpmChannel.send]
  · intro index inside
    have inside : index < channel.firmware.length := inside
    have kept := queues.taken index inside
    exact kept.trans (older _ (by omega)).symm
  · intro request high
    have high : request < channel.answers.length := high
    have kept := queues.echo request high
    exact kept.trans (older _ (by omega)).symm

/-- What the next response to be copied is. -/
lemma next (more : copied < channel.answers.length) :
    ∃ request, channel.sent[copied]? = some request ∧
      channel.answers[copied]? = some (channel.rx (copied % channel.len)) ∧
      (channel.rx (copied % channel.len)).seq = request.seq := by
  have taken_le := queues.taken_le
  have kept := queues.rxKept copied le_rfl more
  have echo := queues.echo copied more
  have isRequest : channel.sent[copied]? = some channel.sent[copied] :=
    getElem?_eq_getElem (by omega)
  refine ⟨_, isRequest, kept, ?_⟩
  rw [kept, AcpmChannel.seqAt, isRequest] at echo
  exact Option.some.inj echo

end AcpmChannel.Queues

end

end Steps

end GsKernel.Acpm
