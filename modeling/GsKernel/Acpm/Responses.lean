import GsKernel.Acpm.Numbers

/-!
# Threads and their responses

A thread that waits polls under the number of its own request. As long as no number is given
out again between a thread's `check_response` and its test of the bit, a thread that sees its
bit clear has taken its own response.
-/

namespace GsKernel.Acpm

open Function Lib.ColorIndex AcpmChannel

variable {count : Nat}

/-- Where a thread is. -/
def AcpmChannel.SenderAt (channel : AcpmChannel count) (copied : Nat) (sender : Fin count) :
    Sender → Prop
  | .idle => True
  | .entered cmd _ => cmd.seq = 0
  | .locked cmd _ => cmd.seq = 0 ∧ channel.txLock = some sender
  | .reserved cmd _ | .checking cmd _ =>
    cmd.seq = 0 ∧ channel.txLock = some sender ∧
      channel.sent.length + 3 ≤ channel.answers.length + channel.len
  | .numbering cmd _ =>
    cmd.seq = 0 ∧ channel.txLock = some sender ∧ channel.sent.length + 3 ≤ copied + channel.len
  | .polling cmd seq request | .checked cmd seq request =>
    cmd.seq = seq ∧ channel.sent[request]? = some ⟨sender, seq, true⟩

/-- A thread's response is its own: it waits for it, or it has taken it and its bit is still
clear. -/
def AcpmChannel.Own (channel : AcpmChannel count) (copied : Nat) : Sender → Prop
  | .polling _ seq request => channel.Waiting copied seq request
  | .checked cmd seq request =>
    channel.Waiting copied seq request ∨
      (channel.bitmap (seq - 1) = false ∧ channel.answers[request]? = some cmd)
  | _ => True

/-- What holds in every run. -/
structure AcpmChannel.Sound (channel : AcpmChannel count) (copied : Nat) : Prop where
  queues : channel.Queues copied
  rear : channel.rxRear = copied % channel.len
  numbers : channel.Numbers copied
  running : channel.panicked = none
  senders : ∀ sender, channel.SenderAt copied sender (channel.senders sender)

/-- What holds as long as no number is given out too early. -/
structure AcpmChannel.Owned (channel : AcpmChannel count) (copied : Nat) : Prop where
  own : ∀ sender, channel.Own copied (channel.senders sender)
  returned : ∀ request cmd, (request, cmd) ∈ channel.returned → channel.answers[request]? = some cmd

lemma AcpmChannel.initial_sound {len : Nat} (long : 3 ≤ len) : (initial count len).Sound 0 where
  queues := ⟨long, rfl, rfl, rfl, le_rfl, le_rfl, by simp [initial]; omega,
    fun _ _ high => absurd high (Nat.not_lt_zero _),
    fun _ inside => absurd inside (Nat.not_lt_zero _),
    fun _ _ high => absurd high (Nat.not_lt_zero _),
    fun _ high => absurd high (Nat.not_lt_zero _), rfl⟩
  rear := rfl
  numbers := ⟨Nat.zero_lt_succ _, fun _ isRequest => absurd isRequest (List.not_mem_nil),
    fun _ _ _ isRequest => absurd isRequest (by simp [initial]),
    fun _ _ _ _ _ _ isOne => absurd isOne (by simp [initial])⟩
  running := rfl
  senders := fun _ => trivial

lemma AcpmChannel.initial_owned (len : Nat) : (initial count len).Owned 0 :=
  ⟨fun _ => trivial, fun _ _ isReturned => absurd isReturned (List.not_mem_nil)⟩

section Frames

variable {channel next : AcpmChannel count} {copied more : Nat} {state : Sender}

variable {sender : Fin count}

/-- A thread's place is kept when the channel goes on under its lock. -/
lemma AcpmChannel.SenderAt.frame
    (place : channel.SenderAt copied sender state) (next : AcpmChannel count)
    (lock : next.txLock = channel.txLock) (sent : next.sent = channel.sent)
    (len : next.len = channel.len) (answers : channel.answers.length ≤ next.answers.length)
    (later : copied ≤ more) : next.SenderAt more sender state := by
  cases state with
  | idle => trivial
  | entered cmd response => exact place
  | locked cmd response => exact ⟨place.1, lock.trans place.2⟩
  | reserved cmd response | checking cmd response | numbering cmd response =>
    have free := place.2.2
    exact ⟨place.1, lock.trans place.2.1, by rw [sent, len]; omega⟩
  | polling cmd seq request => exact ⟨place.1, by rw [sent]; exact place.2⟩
  | checked cmd seq request => exact ⟨place.1, by rw [sent]; exact place.2⟩

lemma AcpmChannel.Own.frame (own : channel.Own copied state)
    (next : AcpmChannel count) (bitmap : next.bitmap = channel.bitmap)
    (chCfg : next.chCfg = channel.chCfg) (sent : next.sent = channel.sent)
    (keeps : ∀ (index : Nat) cmd, channel.answers[index]? = some cmd →
      next.answers[index]? = some cmd) : next.Own copied state := by
  cases state with
  | polling cmd seq request =>
    exact Waiting.frame own next bitmap chCfg sent keeps
  | checked cmd seq request =>
    rcases own with waiting | ⟨clear, isAnswer⟩
    · exact .inl (waiting.frame next bitmap chCfg sent keeps)
    · exact .inr ⟨by rw [bitmap]; exact clear, keeps _ _ isAnswer⟩
  | _ => trivial

/-- A thread goes to another place. -/
lemma AcpmChannel.Sound.setSender (sound : channel.Sound copied)
    (place : channel.SenderAt copied sender state) :
    { channel with senders := update channel.senders sender state }.Sound copied := by
  refine ⟨sound.queues.frame _ _ _ _ _ _ _, sound.rear,
    sound.numbers.frame _ rfl rfl rfl rfl, sound.running, fun other => ?_⟩
  by_cases same : other = sender
  · subst same
    simp only [update_self]
    exact place
  · simp only [update_of_ne same]
    exact sound.senders other

lemma AcpmChannel.Owned.setSender (owned : channel.Owned copied) (sender : Fin count)
    (own : channel.Own copied state) :
    { channel with senders := update channel.senders sender state }.Owned copied := by
  refine ⟨fun other => ?_, owned.returned⟩
  by_cases same : other = sender
  · subst same
    simp only [update_self]
    exact own.frame _ rfl rfl rfl fun _ _ isAnswer => isAnswer
  · simp only [update_of_ne same]
    exact (owned.own other).frame _ rfl rfl rfl fun _ _ isAnswer => isAnswer

/-- Only the holder of `tx_lock` is in the part that it protects. -/
lemma AcpmChannel.Sound.entered (sound : channel.Sound copied) (free : channel.txLock = none)
    {cmd : Cmd} (zero : cmd.seq = 0) (response : Bool) :
    { channel with
      txLock := some sender
      senders := update channel.senders sender (.locked cmd response) }.Sound copied := by
  refine ⟨sound.queues.frame _ _ _ _ _ _ _, sound.rear,
    sound.numbers.frame _ rfl rfl rfl rfl, sound.running, fun other => ?_⟩
  by_cases same : other = sender
  · subst same
    simp only [update_self]
    exact ⟨zero, rfl⟩
  simp only [update_of_ne same]
  have place := sound.senders other
  have unlocked : channel.txLock ≠ some other := by rw [free]; simp
  cases state : channel.senders other with
  | idle => trivial
  | entered cmd response | polling cmd seq request | checked cmd seq request =>
    rw [state] at place
    exact place
  | locked cmd response =>
    rw [state] at place
    exact absurd place.2 unlocked
  | reserved cmd response | checking cmd response | numbering cmd response =>
    rw [state] at place
    exact absurd place.2.1 unlocked

end Frames

/-! ## The firmware -/

section Firmware

variable {channel : AcpmChannel count} {copied : Nat}

lemma AcpmChannel.Sound.take (sound : channel.Sound copied)
    (more : channel.txRear ≠ channel.txFront) :
    { channel with
      firmware := channel.firmware ++ [(channel.tx channel.txRear).seq]
      txRear := (channel.txRear + 1) % channel.len }.Sound copied :=
  ⟨sound.queues.take more, sound.rear,
    sound.numbers.frame _ rfl rfl rfl rfl, sound.running, sound.senders⟩

lemma AcpmChannel.Sound.answer (sound : channel.Sound copied) {response : Cmd} {seq : Nat}
    {rest : List Nat} (first : channel.firmware = seq :: rest) (echo : response.seq = seq) :
    { channel with
      firmware := rest
      rx := update channel.rx channel.rxFront response
      rxFront := (channel.rxFront + 1) % channel.len
      answers := channel.answers ++ [response] }.Sound copied := by
  refine ⟨sound.queues.answer first echo, sound.rear,
    sound.numbers.frame _ rfl rfl rfl rfl, sound.running, fun sender => ?_⟩
  exact (sound.senders sender).frame _ rfl rfl rfl (by simp) le_rfl

lemma AcpmChannel.Owned.answer (owned : channel.Owned copied) (response : Cmd) (rest : List Nat) :
    { channel with
      firmware := rest
      rx := update channel.rx channel.rxFront response
      rxFront := (channel.rxFront + 1) % channel.len
      answers := channel.answers ++ [response] }.Owned copied := by
  have keeps : ∀ (index : Nat) (cmd : Cmd), channel.answers[index]? = some cmd →
      (channel.answers ++ [response])[index]? = some cmd := by
    intro index cmd isAnswer
    rw [List.getElem?_append_left (List.getElem?_eq_some_iff.mp isAnswer).1]
    exact isAnswer
  exact ⟨fun sender => (owned.own sender).frame _ rfl rfl rfl keeps,
    fun request cmd isReturned => keeps _ _ (owned.returned _ _ isReturned)⟩

end Firmware

end GsKernel.Acpm
