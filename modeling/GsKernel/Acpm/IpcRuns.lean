import GsKernel.Acpm.Threads

/-!
# Whole runs of a channel

The queues and the numbers are right in every run. A thread that leaves its wait loop holds its
own response in every run in which no number is given out between another thread's
`check_response` and its test of the bit.
-/

namespace GsKernel.Acpm

open AcpmChannel Lib.Runs List

variable {count : Nat}

/-- A step that gives out no number whose last owner has not tested its bit. -/
def AcpmChannel.Meets (channel : AcpmChannel count) : AcpmStep count → Prop
  | .thread sender =>
    match channel.senders sender with
    | .numbering _ _ =>
      channel.bitmap (channel.nextSeq - 1) = false → channel.Unclaimed channel.nextSeq
    | _ => True
  | _ => True

section Steps

variable {channel next : AcpmChannel count} {copied : Nat}

/-- What a step keeps, for the number of responses copied after it. -/
def AcpmChannel.Keeps (channel : AcpmChannel count) (copied : Nat) (step : AcpmStep count)
    (next : AcpmChannel count) : Prop :=
  ∃ later, next.Sound later ∧ (channel.Meets step → channel.Owned copied → next.Owned later)

lemma AcpmChannel.Sound.threadStep (sound : channel.Sound copied) {sender : Fin count}
    (ran : channel.threadStep sender = some next) :
    channel.Keeps copied (.thread sender) next := by
  have place := sound.senders sender
  unfold AcpmChannel.threadStep at ran
  cases state : channel.senders sender with
  | idle => simp [state] at ran
  | entered cmd response =>
    rw [state] at place
    simp only [state] at ran
    split at ran
    · cases ran
    rename_i free
    cases ran
    refine ⟨copied, sound.entered (by simpa using free) place response, fun _ owned => ?_⟩
    exact ⟨fun other => ((owned.setSender sender (show channel.Own copied (.locked cmd response)
      from trivial)).own other).frame _ rfl rfl rfl fun _ _ isAnswer => isAnswer, owned.returned⟩
  | locked cmd response =>
    rw [state] at place
    simp only [state] at ran
    split at ran
    · cases ran
    rename_i guard
    cases ran
    exact ⟨copied, sound.setSender ⟨place.1, place.2, sound.queues.reserve guard⟩,
      fun _ owned => owned.setSender sender trivial⟩
  | reserved cmd response =>
    rw [state] at place
    simp only [state] at ran
    rw [if_neg (sound.queues.room place.2.2)] at ran
    cases ran
    exact ⟨copied, sound.setSender place, fun _ owned => owned.setSender sender trivial⟩
  | checking cmd response =>
    rw [state] at place
    simp only [state] at ran
    cases ran
    obtain ⟨checked, checkedOwned, bitmap, chCfg, read, isNext⟩ := sound.checkQueue
    refine ⟨channel.answers.length, checked.setSender ?_,
      fun _ owned => (checkedOwned owned).setSender sender trivial⟩
    rw [isNext]
    exact place
  | numbering cmd response =>
    simp only [state] at ran
    split at ran
    · cases ran
      refine ⟨copied, ⟨sound.queues.frame _ _ _ _ _ _ _, sound.rear, ?_, sound.running,
        sound.senders⟩, fun _ owned => ⟨fun other => ?_, owned.returned⟩⟩
      · exact ⟨sound.numbers.nextSeq.2, sound.numbers.range, sound.numbers.pending,
          sound.numbers.distinct⟩
      · exact (owned.own other).frame _ rfl rfl rfl fun _ _ isAnswer => isAnswer
    · rename_i isClear
      have clear : channel.bitmap (channel.nextSeq - 1) = false := by simpa using isClear
      cases ran
      refine ⟨copied, sound.send state clear, fun meets owned => ?_⟩
      simp only [Meets, state] at meets
      exact owned.send sound state clear (meets clear)
  | polling cmd seq request =>
    simp only [state] at ran
    cases ran
    obtain ⟨checked, checkedOwned⟩ := sound.checkResponse state
    exact ⟨channel.answers.length, checked, fun _ owned => checkedOwned owned⟩
  | checked cmd seq request =>
    rw [state] at place
    simp only [state] at ran
    split at ran
    · rename_i isSet
      cases ran
      refine ⟨copied, sound.setSender place, fun _ owned => owned.setSender sender ?_⟩
      have own := owned.own sender
      rw [state] at own
      exact own.resolve_right fun taken => absurd (isSet.symm.trans taken.1) (by decide)
    · rename_i isClear
      cases ran
      refine ⟨copied, ?_, fun _ owned => ?_⟩
      · have idle := sound.setSender (show channel.SenderAt copied sender .idle from trivial)
        exact ⟨idle.queues.frame _ _ _ _ _ _ _, idle.rear, idle.numbers.frame _ rfl rfl rfl rfl,
          idle.running, idle.senders⟩
      · have own := owned.own sender
        rw [state] at own
        have taken := own.resolve_left fun waiting => isClear waiting.bit
        have idle := owned.setSender sender (show channel.Own copied .idle from trivial)
        refine ⟨fun other => (idle.own other).frame _ rfl rfl rfl fun _ _ isAnswer => isAnswer, ?_⟩
        intro returned held isReturned
        rcases mem_append.mp isReturned with old | new
        · exact owned.returned returned held old
        · obtain ⟨rfl, rfl⟩ := Prod.mk.inj (mem_singleton.mp new)
          exact taken.2

lemma AcpmChannel.Sound.step (sound : channel.Sound copied) {step : AcpmStep count}
    (ran : channel.step step = some next) : channel.Keeps copied step next := by
  unfold AcpmChannel.step at ran
  rw [if_neg (by simp [sound.running])] at ran
  cases step <;> simp only at ran
  case call sender cmd response =>
    split at ran
    · cases ran
      exact ⟨copied, sound.setSender cmd.zero, fun _ owned => owned.setSender sender trivial⟩
    · cases ran
  case thread sender => exact sound.threadStep ran
  case timeout sender =>
    split at ran
    · split at ran
      · cases ran
        exact ⟨copied, sound.setSender trivial, fun _ owned => owned.setSender sender trivial⟩
      · cases ran
    · cases ran
  case take =>
    split at ran
    · cases ran
    · rename_i more
      cases ran
      exact ⟨copied, sound.take more, fun _ owned =>
        ⟨fun other => (owned.own other).frame _ rfl rfl rfl fun _ _ isAnswer => isAnswer,
          owned.returned⟩⟩
  case answer response =>
    split at ran
    · cases ran
    rename_i seq rest first
    split at ran
    · cases ran
    · rename_i echo
      cases ran
      exact ⟨copied, sound.answer first (by simpa using echo),
        fun _ owned => owned.answer response rest⟩

end Steps

/-! ## What holds in every state -/

instance decidableUnclaimed (channel : AcpmChannel count) (seq : Nat) :
    Decidable (channel.Unclaimed seq) :=
  inferInstanceAs (Decidable (∀ sender, (channel.senders sender).claims seq = false))

instance decidableMeets (channel : AcpmChannel count) :
    (step : AcpmStep count) → Decidable (channel.Meets step)
  | .thread sender =>
    match state : channel.senders sender with
    | .numbering _ _ =>
      decidable_of_iff
        (channel.bitmap (channel.nextSeq - 1) = false → channel.Unclaimed channel.nextSeq)
        (by simp only [Meets, state])
    | .idle | .entered _ _ | .locked _ _ | .reserved _ _ | .checking _ _ | .polling _ _ _
    | .checked _ _ _ => .isTrue (by simp only [Meets, state])
  | .call _ _ _ => .isTrue trivial
  | .timeout _ => .isTrue trivial
  | .take => .isTrue trivial
  | .answer _ => .isTrue trivial

/-- The responses that are in the receive queue. -/
def AcpmChannel.unread (channel : AcpmChannel count) : List Cmd :=
  (range ((channel.rxFront + channel.len - channel.rxRear) % channel.len)).map
    fun offset => channel.rx ((channel.rxRear + offset) % channel.len)

/-- Every response was read, or is in the receive queue. -/
lemma AcpmChannel.Sound.responses {channel : AcpmChannel count} {copied : Nat}
    (sound : channel.Sound copied) : channel.answers = channel.copies ++ channel.unread := by
  have copied_le := sound.queues.copied_le
  have taken_le := sound.queues.taken_le
  have bounded := sound.queues.bounded
  have unread : channel.unread = channel.answers.drop copied := by
    unfold unread
    rw [sound.queues.rxFront, sound.rear, Lib.ColorIndex.gap copied_le (by omega)]
    apply ext_getElem?
    intro offset
    rw [getElem?_drop, getElem?_map]
    by_cases inside : offset < channel.answers.length - copied
    · rw [getElem?_range inside, sound.queues.rxKept _ (by omega) (by omega),
        Option.map_some, Nat.mod_add_mod]
    · rw [getElem?_eq_none (by rw [length_range]; omega),
        getElem?_eq_none (by omega), Option.map_none]
  rw [unread, sound.queues.copies, take_append_drop]

/-- For a queue of at least three elements, any number of threads and every interleaving. No two
requests that are not answered have one sequence number; every response of the firmware was
read from the receive queue or is still there; and there was no panic. If no number was given
out while a thread was between `check_response` under that number and its test of the bit, each
call that has left its wait loop holds the response to its own request. -/
theorem acpm_responses_own (count len : Nat) (long : 3 ≤ len) (steps : List (AcpmStep count))
    (channel : AcpmChannel count) (ran : steps.foldlM step (initial count len) = some channel) :
    (∀ first second one other, channel.answers.length ≤ first → first < second →
      channel.sent[first]? = some one → channel.sent[second]? = some other →
      one.seq ≠ other.seq) ∧
    channel.answers = channel.copies ++ channel.unread ∧
    channel.panicked = none ∧
    (Lib.Runs.AlongM step Meets (initial count len) steps →
      ∀ request cmd, (request, cmd) ∈ channel.returned → channel.answers[request]? = some cmd) := by
  have reached : ∃ copied, channel.Sound copied :=
    foldlM_preserves (fun channel : AcpmChannel count => ∃ copied, channel.Sound copied) step
      (fun _ _ _ sound stepped =>
        let ⟨_, sound⟩ := sound
        let ⟨later, next, _⟩ := sound.step stepped
        ⟨later, next⟩)
      steps ⟨0, initial_sound long⟩ ran
  obtain ⟨copied, sound⟩ := reached
  refine ⟨?_, sound.responses, sound.running, fun along => ?_⟩
  · intro first second one other low
    exact sound.numbers.distinct first second one other (sound.queues.copied_le.trans low)
  · have owned := foldlM_invariant_along
      (fun channel : AcpmChannel count => ∃ copied, channel.Sound copied ∧ channel.Owned copied)
      step Meets
      (fun _ _ _ both meets stepped =>
        let ⟨_, sound, owned⟩ := both
        let ⟨later, next, nextOwned⟩ := sound.step stepped
        ⟨later, next, nextOwned meets owned⟩)
      steps ⟨0, initial_sound long, initial_owned len⟩ along ran
    obtain ⟨_, -, owned⟩ := owned
    exact owned.returned

/-- A message without a number. -/
def plainCmd : CallerCmd := ⟨⟨0, [0]⟩, rfl⟩

/-- A response with a number and a value. -/
def reply (seq value : Nat) : Cmd := ⟨seq <<< ACPM_IPC_PROTOCOL_SEQ_NUM, [value]⟩

/-- A thread goes on for a number of steps. -/
def threadSteps (sender : Fin count) (steps : Nat) : List (AcpmStep count) :=
  replicate steps (.thread sender)

/-- A call until its request is sent, with no bit in the way. -/
def sendSteps (sender : Fin count) (response : Bool) : List (AcpmStep count) :=
  .call sender plainCmd response :: threadSteps sender 5

/-- The firmware takes and answers a request. -/
def answerSteps (response : Cmd) : List (AcpmStep count) := [.take, .answer response]

/-- A call that gets its response, and two requests behind it. -/
def respondedRun (first second : Fin count) : List (AcpmStep count) :=
  sendSteps first true ++ answerSteps (reply 1 100) ++ threadSteps first 2 ++
    sendSteps first true ++ sendSteps second true

/-- The call returns with its response, and the two requests have different numbers. -/
theorem acpm_responses_own_returned :
    ∃ channel, (respondedRun 0 1).foldlM step (initial 2 5) = some channel ∧
      channel.answers[0]? = some (reply 1 100) ∧ channel.panicked = none ∧
      ∃ one other, channel.sent[1]? = some one ∧ channel.sent[2]? = some other ∧
        one.seq ≠ other.seq := by
  have along : AlongM step Meets (initial 2 5)
      (respondedRun 0 1) := alongM_of_check (by decide +kernel)
  have reached : ∃ channel, (respondedRun 0 1).foldlM step (initial 2 5) = some channel ∧
      ((0, reply 1 100) ∈ channel.returned ∧ channel.answers.length = 1 ∧
        channel.sent[1]? = some ⟨0, 2, true⟩ ∧ channel.sent[2]? = some ⟨1, 3, true⟩) :=
    exists_reached _ (by decide +kernel)
  obtain ⟨channel, ran, isReturned, length, isFirst, isSecond⟩ := reached
  obtain ⟨distinct, -, running, own⟩ :=
    acpm_responses_own 2 5 (by decide) (respondedRun 0 1) channel ran
  exact ⟨channel, ran, own along 0 _ isReturned, running, _, _, isFirst, isSecond,
    distinct 1 2 _ _ length.le (by decide) isFirst isSecond⟩

/-- The first thread takes its response; before it tests its bit, 62 requests that want no
response and one that does are sent, and the last one gets the number again. -/
def recycledRun (first second third : Fin count) : List (AcpmStep count) :=
  sendSteps first true ++ answerSteps (reply 1 100) ++ threadSteps first 1 ++
    (range 62).flatMap
      (fun index => sendSteps second false ++ answerSteps (reply (index + 2) 0)) ++
    sendSteps third true ++ answerSteps (reply 1 200) ++ threadSteps first 3

/-- The first thread returns with the response to another thread's request. -/
theorem acpm_recycled_number : ∃ channel, (recycledRun 0 1 2).foldlM step (initial 3 3) =
        some channel ∧
      (channel.returned = [(0, reply 1 200)] ∧ channel.answers[0]? = some (reply 1 100) ∧
        channel.sent[63]? = some ⟨2, 1, true⟩ ∧ channel.answers[63]? = some (reply 1 200)) :=
  exists_reached _ (by decide +kernel)

end GsKernel.Acpm
