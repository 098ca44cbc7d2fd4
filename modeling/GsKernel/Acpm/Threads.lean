import GsKernel.Acpm.Responses

/-!
# The steps of a thread

`check_response` copies what the firmware has answered, and for a thread that waits takes its
response from the slot. Sending gives out a number whose bit is clear.
-/

namespace GsKernel.Acpm

open Function Lib.ColorIndex AcpmChannel

variable {count : Nat} {channel : AcpmChannel count} {copied : Nat}

/-! ## Looking for responses -/

/-- `check_response` up to its last part keeps everything. -/
lemma AcpmChannel.Sound.checkQueue (sound : channel.Sound copied) :
    channel.checkQueue.Sound channel.answers.length ∧
      (channel.Owned copied → channel.checkQueue.Owned channel.answers.length) ∧
      (∃ bitmap chCfg copies, channel.checkQueue =
        { channel with
          rxRear := channel.rxFront, bitmap := bitmap, chCfg := chCfg, copies := copies }) := by
  obtain ⟨next, copies, isNext⟩ := Copies.checkQueue sound.queues sound.numbers
    sound.running sound.rear
  obtain ⟨bitmap, chCfg, read, rfl⟩ := copies.frame
  have waits : ∀ {seq request : Nat} {sender : Fin count},
      channel.sent[request]? = some ⟨sender, seq, true⟩ → channel.Waiting copied seq request →
      channel.checkQueue.Waiting channel.answers.length seq request := by
    intro seq request sender isRequest waiting
    rw [isNext]
    exact (copies.waits seq request sender isRequest waiting).frame _ rfl rfl rfl
      fun _ _ isAnswer => isAnswer
  refine ⟨?_, fun owned => ⟨fun sender => ?_, ?_⟩, ⟨bitmap, chCfg, read, isNext⟩⟩
  · rw [isNext]
    refine ⟨copies.queues.frame _ _ _ _ _ _ _, sound.queues.rxFront,
      copies.numbers.frame _ rfl rfl rfl rfl, sound.running, fun sender => ?_⟩
    exact (sound.senders sender).frame _ rfl rfl rfl le_rfl sound.queues.copied_le
  · have place := sound.senders sender
    have own := owned.own sender
    have same : channel.checkQueue.senders = channel.senders := by rw [isNext]
    rw [same]
    cases state : channel.senders sender with
    | polling cmd seq request =>
      rw [state] at place own
      exact waits place.2 own
    | checked cmd seq request =>
      rw [state] at place own
      rcases own with waiting | ⟨clear, isAnswer⟩
      · exact .inl (waits place.2 waiting)
      · refine .inr ⟨?_, by rw [isNext]; exact isAnswer⟩
        rw [isNext]
        have stays := copies.clears (seq - 1)
        rw [clear] at stays
        exact Bool.eq_false_of_not_eq_true fun isSet => absurd (stays isSet) (by decide)
    | _ => trivial
  · rw [isNext]
    exact owned.returned

/-- Two threads that wait have different numbers. -/
lemma AcpmChannel.Waiting.apart {seq request otherSeq otherRequest : Nat}
    {sender other : Fin count} (waiting : channel.Waiting copied seq request)
    (isRequest : channel.sent[request]? = some ⟨sender, seq, true⟩)
    (otherWaiting : channel.Waiting copied otherSeq otherRequest)
    (isOther : channel.sent[otherRequest]? = some ⟨other, otherSeq, true⟩) (ne : other ≠ sender) :
    otherSeq ≠ seq := by
  rcases Nat.lt_trichotomy request otherRequest with before | same | after
  · exact waiting.last otherRequest _ before isOther
  · subst same
    have same := Option.some.inj (isRequest.symm.trans isOther)
    exact absurd (congrArg Sent.sender same).symm ne
  · exact (otherWaiting.last request _ after isRequest).symm

section Responding

variable {sender : Fin count} {cmd : Cmd} {seq request : Nat}

/-- A response that is there is not pending. -/
lemma AcpmChannel.Numbers.responded (numbers : channel.Numbers copied) (positive : 0 < cmd.seq)
    (responded : channel.responded cmd = true) {index : Nat} {one : Sent count}
    (low : copied ≤ index) (isOne : channel.sent[index]? = some one) :
    one.seq - 1 ≠ cmd.seq - 1 := by
  intro same
  have empty := (numbers.pending index one low isOne).2.2
  rw [AcpmChannel.responded, decide_eq_true_eq, ← same, empty] at responded
  omega

/-- The end of `check_response` for a thread whose response is there. -/
lemma AcpmChannel.Sound.respond (sound : channel.Sound copied)
    (state : channel.senders sender = .polling cmd seq request)
    (responded : channel.responded cmd = true) :
    { channel with
      bitmap := update channel.bitmap (cmd.seq - 1) false
      senders := update channel.senders sender
        (.checked (channel.chCfg (cmd.seq - 1)).cmd seq request) }.Sound copied := by
  have place := sound.senders sender
  rw [state] at place
  obtain ⟨isSeq, isRequest⟩ := place
  have positive : 0 < cmd.seq := by
    have range := (sound.numbers.range _ (List.mem_of_getElem? isRequest)).1
    rw [isSeq]
    exact range
  have response : (channel.chCfg (cmd.seq - 1)).cmd.seq = cmd.seq := by
    rwa [AcpmChannel.responded, decide_eq_true_eq] at responded
  have cleared : { channel with
      bitmap := update channel.bitmap (cmd.seq - 1) false }.Sound copied := by
    refine ⟨sound.queues.frame _ _ _ _ _ _ _, sound.rear,
      ⟨sound.numbers.small, sound.numbers.range, ?_, sound.numbers.distinct⟩, sound.running,
      sound.senders⟩
    intro index one low isOne
    have apart := sound.numbers.responded positive responded low isOne
    simp only [update_of_ne apart]
    exact sound.numbers.pending index one low isOne
  exact cleared.setSender ⟨response.trans isSeq, isRequest⟩

lemma AcpmChannel.Owned.respond (owned : channel.Owned copied) (sound : channel.Sound copied)
    (state : channel.senders sender = .polling cmd seq request)
    (responded : channel.responded cmd = true) :
    { channel with
      bitmap := update channel.bitmap (cmd.seq - 1) false
      senders := update channel.senders sender
        (.checked (channel.chCfg (cmd.seq - 1)).cmd seq request) }.Owned copied := by
  have place := sound.senders sender
  have waiting := owned.own sender
  rw [state] at place waiting
  obtain ⟨rfl, isRequest⟩ := place
  have range : ∀ {index : Nat} {one : Sent count}, channel.sent[index]? = some one →
      0 < one.seq := fun isOne => (sound.numbers.range _ (List.mem_of_getElem? isOne)).1
  have positive : 0 < cmd.seq := range isRequest
  have arrived : request < copied := by
    by_contra pending
    exact sound.numbers.responded positive responded (by omega) isRequest rfl
  have kept : ∀ {other : Fin count} {otherSeq otherRequest : Nat}, other ≠ sender →
      channel.sent[otherRequest]? = some ⟨other, otherSeq, true⟩ →
      channel.Waiting copied otherSeq otherRequest →
      { channel with
        bitmap := update channel.bitmap (cmd.seq - 1) false
        senders := update channel.senders sender
          (.checked (channel.chCfg (cmd.seq - 1)).cmd cmd.seq request) }.Waiting copied otherSeq
        otherRequest := by
    intro other otherSeq otherRequest ne isOther otherWaiting
    have apart := Waiting.apart waiting isRequest otherWaiting isOther ne
    have otherPositive : 0 < otherSeq := range isOther
    have bits : otherSeq - 1 ≠ cmd.seq - 1 := by omega
    refine ⟨?_, otherWaiting.last, otherWaiting.arrived⟩
    simp only [update_of_ne bits]
    exact otherWaiting.bit
  refine ⟨fun other => ?_, owned.returned⟩
  by_cases same : other = sender
  · subst same
    simp only [update_self]
    refine .inr ⟨update_self _ _ _, ?_⟩
    exact waiting.arrived arrived
  simp only [update_of_ne same]
  have otherPlace := sound.senders other
  have own := owned.own other
  cases otherState : channel.senders other with
  | polling otherCmd otherSeq otherRequest =>
    rw [otherState] at otherPlace own
    exact kept same otherPlace.2 own
  | checked otherCmd otherSeq otherRequest =>
    rw [otherState] at otherPlace own
    rcases own with otherWaiting | ⟨clear, isAnswer⟩
    · exact .inl (kept same otherPlace.2 otherWaiting)
    · refine .inr ⟨?_, isAnswer⟩
      by_cases bits : otherSeq - 1 = cmd.seq - 1
      · simp only [bits, update_self]
      · simp only [update_of_ne bits]
        exact clear
  | _ => trivial

/-- `check_response` of a thread that waits. -/
lemma AcpmChannel.Sound.checkResponse (sound : channel.Sound copied)
    (state : channel.senders sender = .polling cmd seq request) :
    (channel.checkResponse sender cmd seq request).Sound channel.answers.length ∧
      (channel.Owned copied →
        (channel.checkResponse sender cmd seq request).Owned channel.answers.length) := by
  obtain ⟨next, nextOwned, bitmap, chCfg, read, isNext⟩ := sound.checkQueue
  have nextState : channel.checkQueue.senders sender = .polling cmd seq request := by
    rw [isNext]
    exact state
  by_cases responded : channel.checkQueue.responded cmd = true
  · simp only [AcpmChannel.checkResponse, if_pos responded]
    exact ⟨next.respond nextState responded,
      fun owned => (nextOwned owned).respond next nextState responded⟩
  simp only [AcpmChannel.checkResponse, if_neg responded]
  have place := next.senders sender
  rw [nextState] at place
  refine ⟨next.setSender place, fun owned => (nextOwned owned).setSender sender ?_⟩
  have own := (nextOwned owned).own sender
  rw [nextState] at own
  exact .inl own

end Responding

/-! ## Sending -/

section Sending

variable {sender : Fin count} {cmd : Cmd} {response : Bool}

/-- Where the threads are after a request was sent. -/
lemma AcpmChannel.send_senders (channel : AcpmChannel count) (sender other : Fin count)
    (cmd : Cmd) (response : Bool) :
    (channel.send sender cmd response).senders other = update channel.senders sender
        (if response then .polling (cmd.setSeq channel.nextSeq).clearArgs
          (cmd.setSeq channel.nextSeq).seq channel.sent.length else .idle) other := rfl

lemma AcpmChannel.Sound.send (sound : channel.Sound copied)
    (state : channel.senders sender = .numbering cmd response)
    (clear : channel.bitmap (channel.nextSeq - 1) = false) :
    (channel.send sender cmd response).Sound copied := by
  have place := sound.senders sender
  rw [state] at place
  obtain ⟨zero, locked, free⟩ := place
  have small := sound.numbers.nextSeq.2
  refine ⟨sound.queues.send free sender zero response small, sound.rear,
    sound.numbers.send clear sender cmd response, sound.running, fun other => ?_⟩
  rw [channel.send_senders]
  by_cases same : other = sender
  · subst same
    rw [update_self]
    cases response with
    | false => trivial
    | true =>
      refine ⟨rfl, ?_⟩
      rw [Cmd.setSeq_seq zero small]
      exact List.getElem?_concat_length
  · rw [update_of_ne same]
    have otherPlace := sound.senders other
    have notOther : channel.txLock ≠ some other := by
      rw [locked]
      exact fun holder => same (Option.some.inj holder).symm
    have older : ∀ {index : Nat} {one : Sent count}, channel.sent[index]? = some one →
        (channel.send sender cmd response).sent[index]? = some one := by
      intro index one isOne
      refine (List.getElem?_append_left ?_).trans isOne
      exact (List.getElem?_eq_some_iff.mp isOne).1
    cases otherState : channel.senders other with
    | idle => trivial
    | entered cmd response =>
      rw [otherState] at otherPlace
      exact otherPlace
    | locked cmd response =>
      rw [otherState] at otherPlace
      exact absurd otherPlace.2 notOther
    | reserved cmd response | checking cmd response =>
      rw [otherState] at otherPlace
      exact absurd otherPlace.2.1 notOther
    | numbering cmd response =>
      rw [otherState] at otherPlace
      exact absurd otherPlace.2.1 notOther
    | polling otherCmd seq request | checked otherCmd seq request =>
      rw [otherState] at otherPlace
      exact ⟨otherPlace.1, older otherPlace.2⟩

/-- The thread has called `check_response` under this number and not tested its bit yet. -/
def Sender.claims (seq : Nat) : Sender → Bool
  | .checked _ owned _ => owned = seq
  | _ => false

/-- No thread between its `check_response` and its test of the bit has the number. -/
def AcpmChannel.Unclaimed (channel : AcpmChannel count) (seq : Nat) : Prop :=
  ∀ sender, (channel.senders sender).claims seq = false

lemma AcpmChannel.Owned.send (owned : channel.Owned copied) (sound : channel.Sound copied)
    (state : channel.senders sender = .numbering cmd response)
    (clear : channel.bitmap (channel.nextSeq - 1) = false)
    (unclaimed : channel.Unclaimed channel.nextSeq) :
    (channel.send sender cmd response).Owned copied := by
  have place := sound.senders sender
  rw [state] at place
  obtain ⟨zero, -, free⟩ := place
  have next := sound.numbers.nextSeq
  have positive : ∀ {index : Nat} {one : Sent count}, channel.sent[index]? = some one →
      0 < one.seq := fun isOne => (sound.numbers.range _ (List.mem_of_getElem? isOne)).1
  have kept : ∀ {other : Fin count} {seq request : Nat},
      channel.sent[request]? = some ⟨other, seq, true⟩ → channel.Waiting copied seq request →
      (channel.send sender cmd response).Waiting copied seq request := by
    intro other seq request isRequest waiting
    have bits : seq - 1 ≠ channel.nextSeq - 1 := by
      intro same
      have bit := waiting.bit
      rw [same, clear] at bit
      exact absurd bit (by decide)
    refine ⟨?_, ?_, ?_⟩
    · simp only [AcpmChannel.send, update_of_ne bits]
      exact waiting.bit
    · intro index later after isLater
      rcases sent_send isLater with ⟨-, old⟩ | ⟨-, rfl⟩
      · exact waiting.last index later after old
      · rintro rfl
        exact bits rfl
    · intro arrived
      simp only [AcpmChannel.send, update_of_ne bits]
      exact waiting.arrived arrived
  refine ⟨fun other => ?_, owned.returned⟩
  rw [channel.send_senders]
  by_cases same : other = sender
  · subst same
    rw [update_self]
    cases response with
    | false => trivial
    | true =>
      have copied_le := sound.queues.copied_le
      have taken_le := sound.queues.taken_le
      rw [Cmd.setSeq_seq zero next.2]
      refine ⟨update_self _ _ _, ?_, fun arrived => absurd arrived (by omega)⟩
      intro index later after isLater
      rcases sent_send isLater with ⟨old, -⟩ | ⟨same, -⟩
      · omega
      · omega
  · rw [update_of_ne same]
    have otherPlace := sound.senders other
    have own := owned.own other
    cases otherState : channel.senders other with
    | polling otherCmd seq request =>
      rw [otherState] at otherPlace own
      exact kept otherPlace.2 own
    | checked otherCmd seq request =>
      rw [otherState] at otherPlace own
      rcases own with waiting | ⟨isClear, isAnswer⟩
      · exact .inl (kept otherPlace.2 waiting)
      have apart : seq ≠ channel.nextSeq := by
        rintro rfl
        have claims := unclaimed other
        rw [otherState] at claims
        exact absurd claims (by simp [Sender.claims])
      have otherPositive : 0 < seq := positive otherPlace.2
      have bits : seq - 1 ≠ channel.nextSeq - 1 := by omega
      refine .inr ⟨?_, isAnswer⟩
      simp only [AcpmChannel.send, update_of_ne bits]
      exact isClear
    | _ => trivial

end Sending

end GsKernel.Acpm
