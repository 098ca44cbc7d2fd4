import GsKernel.Gcip.Mailbox

/-!
# Sequence numbers of awaiters

While the timeout work of an awaiter starts only after the awaiter has been queued, the
number in its response buffer is the one assigned to its command, and no other queued
awaiter has it. So the entry that its timeout or its cancellation finds is its own.
-/

namespace GsKernel.Gcip

open Lib.Tasks

variable {ρ : Type*}

/-- The operators do what they are for, for numbers of 64 bits: the number set in a
response is the one read back, and a response matches a waiter of its number only. -/
structure MailboxOps.Lawful (ops : MailboxOps ρ) : Prop where
  get_set : ∀ resp seq, seq < 2 ^ 64 → ops.getRespElemSeq (some (ops.setRespElemSeq resp seq)) = seq
  matched : ∀ incoming waiting, ops.doesResponseMatchWaiter incoming waiting = true →
    ops.getRespElemSeq (some incoming) = ops.getRespElemSeq waiting

namespace PutPhase

/-- The number of a command whose put holds the lock of the queue. -/
def locked : PutPhase → Option Nat
  | waiting seq | pushing seq | adding seq | queued seq => some seq
  | _ => none

/-- The number that the put has written into the response buffer. -/
def written : PutPhase → Option Nat
  | pushing seq | adding seq | queued seq | done seq => some seq
  | _ => none

/-- The number assigned to a queued command. -/
def number : PutPhase → Option Nat
  | queued seq | done seq => some seq
  | _ => none

variable {phase : PutPhase}

lemma isQueued_iff : phase.isQueued = true ↔ ∃ seq, phase.number = some seq := by
  cases phase <;> simp [isQueued, number]

lemma written_of_number {seq : Nat} (assigned : phase.number = some seq) :
    phase.written = some seq := by
  cases phase <;> simp_all [number, written]

end PutPhase

/-- What is known of the number of an awaiter: its put holds the lock with the current
number, has written it into the buffer, and has moved the current number on when done. -/
structure Awaiter.Numbered (ops : MailboxOps ρ) (curSeq : Nat) (lock : Option Nat) (id : Nat)
    (awaiter : Awaiter ρ) : Prop where
  present : awaiter.put = .locking ∨ (∃ seq, awaiter.put = .waiting seq) → awaiter.resp ≠ none
  holder : ∀ seq, awaiter.put.locked = some seq → lock = some id ∧ seq = curSeq
  finished : ∀ seq, awaiter.put = .done seq → seq < curSeq
  buffer : ∀ seq, awaiter.put.written = some seq → ops.getRespElemSeq awaiter.resp = seq

variable {awaiter : Awaiter ρ} {ops : MailboxOps ρ}

/-- An awaiter whose put does not hold the lock, while another put goes on. -/
lemma Awaiter.Numbered.other {curSeq later id : Nat}
    {lock next : Option Nat} (numbered : awaiter.Numbered ops curSeq lock id)
    (unlocked : lock ≠ some id) (order : curSeq ≤ later) :
    awaiter.Numbered ops later next id where
  present := numbered.present
  holder seq locked := absurd (numbered.holder seq locked).1 unlocked
  finished seq done := (numbered.finished seq done).trans_le order
  buffer := numbered.buffer

/-- The put has failed. -/
def PutPhase.isFailed : PutPhase → Bool
  | .failed | .dropping | .freeing | .freed => true
  | _ => false

variable {curSeq id : Nat}

lemma Awaiter.Numbered.of_failed {lock : Option Nat} (failed : awaiter.put.isFailed = true) :
    awaiter.Numbered ops curSeq lock id := by
  constructor <;> cases put : awaiter.put <;>
    simp_all [PutPhase.isFailed, PutPhase.locked, PutPhase.written]

/-- An awaiter whose put holds the lock and has written the number. -/
lemma Awaiter.Numbered.of_written
    (locked : awaiter.put.locked = some curSeq) (written : awaiter.put.written = some curSeq)
    (buffer : ops.getRespElemSeq awaiter.resp = curSeq) :
    awaiter.Numbered ops curSeq (some id) id := by
  constructor <;> cases put : awaiter.put <;> simp_all [PutPhase.locked, PutPhase.written]

/-- The invariant of the numbers. -/
structure Mailbox.Numbered (ops : MailboxOps ρ) (mailbox : Mailbox ρ) : Prop where
  bounded : mailbox.curSeq < 2 ^ 64
  awaiter : ∀ id, (mailbox.awaiters id).Numbered ops mailbox.curSeq mailbox.txQueueLock id
  distinct : ∀ id other seq, (mailbox.awaiters id).put = .done seq →
    (mailbox.awaiters other).put = .done seq → id = other

namespace Mailbox

variable {ops : MailboxOps ρ} {mailbox shared : Mailbox ρ}

/-- Queued awaiters have different numbers. -/
lemma Numbered.unique (numbered : mailbox.Numbered ops) {id other seq : Nat}
    (first : (mailbox.awaiters id).put.number = some seq)
    (second : (mailbox.awaiters other).put.number = some seq) : id = other := by
  cases putId : (mailbox.awaiters id).put <;> rw [putId] at first <;> cases first <;>
    cases putOther : (mailbox.awaiters other).put <;> rw [putOther] at second <;> cases second
  · have holdsId := ((numbered.awaiter id).holder seq (by rw [putId]; rfl)).1
    have holdsOther := ((numbered.awaiter other).holder seq (by rw [putOther]; rfl)).1
    exact Option.some.inj (holdsId.symm.trans holdsOther)
  · have current := ((numbered.awaiter id).holder seq (by rw [putId]; rfl)).2
    exact absurd current ((numbered.awaiter other).finished seq putOther).ne
  · have current := ((numbered.awaiter other).holder seq (by rw [putOther]; rfl)).2
    exact absurd current ((numbered.awaiter id).finished seq putId).ne
  · exact numbered.distinct id other seq putId putOther

/-- Nothing has changed about the numbers. -/
structure SameNumbers (ops : MailboxOps ρ) (mailbox shared : Mailbox ρ) : Prop where
  curSeq : shared.curSeq = mailbox.curSeq
  txQueueLock : shared.txQueueLock = mailbox.txQueueLock
  put : ∀ id, (shared.awaiters id).put = (mailbox.awaiters id).put
  resp : ∀ id, (mailbox.awaiters id).resp ≠ none → (shared.awaiters id).resp ≠ none
  seq : ∀ id, ops.getRespElemSeq (shared.awaiters id).resp =
    ops.getRespElemSeq (mailbox.awaiters id).resp

namespace SameNumbers

lemma refl (mailbox : Mailbox ρ) : SameNumbers ops mailbox mailbox :=
  ⟨rfl, rfl, fun _ => rfl, fun _ given => given, fun _ => rfl⟩

lemma trans {next : Mailbox ρ} (first : SameNumbers ops mailbox shared)
    (second : SameNumbers ops shared next) : SameNumbers ops mailbox next :=
  ⟨second.curSeq.trans first.curSeq, second.txQueueLock.trans first.txQueueLock,
    fun id => (second.put id).trans (first.put id),
    fun id given => second.resp id (first.resp id given),
    fun id => (second.seq id).trans (first.seq id)⟩

/-- An update that keeps the put and the number in the buffer of an awaiter. -/
lemma update {id : Nat} {change : Awaiter ρ → Awaiter ρ}
    (put : (change (mailbox.awaiters id)).put = (mailbox.awaiters id).put)
    (resp : (mailbox.awaiters id).resp ≠ none → (change (mailbox.awaiters id)).resp ≠ none)
    (seq : ops.getRespElemSeq (change (mailbox.awaiters id)).resp =
      ops.getRespElemSeq (mailbox.awaiters id).resp) :
    SameNumbers ops mailbox (mailbox.update id change) := by
  refine ⟨rfl, rfl, fun other => ?_, fun other => ?_, fun other => ?_⟩ <;>
    by_cases same : other = id
  · subst same
    rwa [update_self]
  · rw [update_of_ne _ _ _ same]
  · subst same
    rwa [update_self]
  · rw [update_of_ne _ _ _ same]
    exact fun given => given
  · subst same
    rwa [update_self]
  · rw [update_of_ne _ _ _ same]

lemma awaiterDecRefs (mailbox : Mailbox ρ) (id : Nat) :
    SameNumbers ops mailbox (mailbox.awaiterDecRefs id) := .update rfl (fun given => given) rfl

lemma setTimeout (mailbox : Mailbox ρ) (id : Nat) (phase : TimeoutPhase) :
    SameNumbers ops mailbox (mailbox.setTimeout id phase) := .update rfl (fun given => given) rfl

lemma record (mailbox : Mailbox ρ) (outcome : Outcome ρ) :
    SameNumbers ops mailbox (mailbox.record outcome) :=
  ⟨rfl, rfl, fun _ => rfl, fun _ given => given, fun _ => rfl⟩

lemma delWaitResp (mailbox : Mailbox ρ) (id seq : Nat) :
    SameNumbers ops mailbox (mailbox.delWaitResp ops id seq).1 := by
  unfold Mailbox.delWaitResp
  split
  · exact .refl mailbox
  · rename_i entry found
    obtain ⟨curSeq, lock, put, resp, seq⟩ : SameNumbers ops mailbox
        (mailbox.awaiterDecRefs entry) := .awaiterDecRefs mailbox entry
    exact ⟨curSeq, lock, put, resp, seq⟩

lemma flush (entries : List Nat) (mailbox : Mailbox ρ) :
    SameNumbers ops mailbox (entries.foldl Mailbox.awaiterDecRefs mailbox) := by
  induction entries generalizing mailbox with
  | nil => exact .refl mailbox
  | cons entry entries ih =>
    exact (SameNumbers.awaiterDecRefs mailbox entry).trans (ih _)

end SameNumbers

section

variable (numbered : mailbox.Numbered ops)
include numbered

lemma Numbered.of_same (same : SameNumbers ops mailbox shared) : shared.Numbered ops := by
  refine ⟨?_, fun id => ?_, fun id other seq first second => ?_⟩
  · rw [same.curSeq]
    exact numbered.bounded
  · obtain ⟨present, holder, finished, buffer⟩ := numbered.awaiter id
    rw [same.curSeq, same.txQueueLock]
    refine ⟨?_, ?_, ?_, ?_⟩
    · rw [same.put]
      exact fun early => same.resp id (present early)
    · rw [same.put]
      exact holder
    · rw [same.put]
      exact finished
    · rw [same.put, same.seq]
      exact buffer
  · rw [same.put] at first second
    exact numbered.distinct id other seq first second

variable {id : Nat} {change : Awaiter ρ → Awaiter ρ}

/-- A step of a put that neither takes nor holds the lock. -/
lemma Numbered.unlocked
    (next : (change (mailbox.awaiters id)).Numbered ops mailbox.curSeq mailbox.txQueueLock id)
    (unfinished : ∀ seq, (change (mailbox.awaiters id)).put ≠ .done seq) :
    (mailbox.update id change).Numbered ops := by
  refine ⟨numbered.bounded, fun other => ?_, fun first second seq doneFirst doneSecond => ?_⟩
  · by_cases same : other = id
    · subst same
      rw [update_self]
      exact next
    · rw [update_of_ne _ _ _ same]
      exact numbered.awaiter other
  · by_cases sameFirst : first = id
    · subst sameFirst
      rw [update_self] at doneFirst
      exact absurd doneFirst (unfinished seq)
    · by_cases sameSecond : second = id
      · subst sameSecond
        rw [update_self] at doneSecond
        exact absurd doneSecond (unfinished seq)
      · rw [update_of_ne _ _ _ sameFirst] at doneFirst
        rw [update_of_ne _ _ _ sameSecond] at doneSecond
        exact numbered.distinct first second seq doneFirst doneSecond

/-- A step of a put that takes, holds or drops the lock. -/
lemma Numbered.locked {id later : Nat} {lock : Option Nat} {entries : List Nat}
    (mine : ∀ other, other ≠ id → mailbox.txQueueLock ≠ some other)
    (order : mailbox.curSeq ≤ later) (bounded : later < 2 ^ 64)
    (next : (change (mailbox.awaiters id)).Numbered ops later lock id)
    (finished : ∀ seq, (change (mailbox.awaiters id)).put = .done seq → seq = mailbox.curSeq) :
    ({ mailbox.update id change with
      curSeq := later, txQueueLock := lock, waitList := entries } : Mailbox ρ).Numbered ops := by
  refine ⟨bounded, fun other => ?_, fun first second seq doneFirst doneSecond => ?_⟩
  · by_cases same : other = id
    · subst same
      simp only [update_self]
      exact next
    · simp only [update_of_ne _ _ _ same]
      exact (numbered.awaiter other).other (mine other same) order
  · simp only at doneFirst doneSecond
    by_cases sameFirst : first = id <;> by_cases sameSecond : second = id
    · rw [sameFirst, sameSecond]
    · subst sameFirst
      rw [update_self] at doneFirst
      rw [update_of_ne _ _ _ sameSecond] at doneSecond
      have current := finished seq doneFirst
      exact absurd current ((numbered.awaiter second).finished seq doneSecond).ne
    · subst sameSecond
      rw [update_self] at doneSecond
      rw [update_of_ne _ _ _ sameFirst] at doneFirst
      have current := finished seq doneSecond
      exact absurd current ((numbered.awaiter first).finished seq doneFirst).ne
    · rw [update_of_ne _ _ _ sameFirst] at doneFirst
      rw [update_of_ne _ _ _ sameSecond] at doneSecond
      exact numbered.distinct first second seq doneFirst doneSecond

lemma Numbered.putCmdFlags {resp : Option ρ} {noTimeout : Bool} (given : resp ≠ none)
    (ran : mailbox.putCmdFlags id resp noTimeout = some shared) : shared.Numbered ops := by
  unfold Mailbox.putCmdFlags at ran
  split at ran
  · cases ran
    refine numbered.unlocked ⟨fun _ => given, ?_, ?_, ?_⟩ ?_ <;> intro seq next <;> cases next
  · simp at ran

lemma Numbered.continuePut (lawful : ops.Lawful)
    {succeeds : Bool} (timely : (mailbox.awaiters id).put.isQueued = true →
      succeeds = true ∧ mailbox.curSeq + 1 < 2 ^ 64)
    (ran : mailbox.continuePut ops id succeeds = some shared) : shared.Numbered ops := by
  have current := numbered.awaiter id
  have bounded := numbered.bounded
  have mine (held : mailbox.txQueueLock = some id) (other : Nat) (ne : other ≠ id) :
      mailbox.txQueueLock ≠ some other := by
    rw [held]
    exact fun same => ne (Option.some.inj same).symm
  unfold Mailbox.continuePut at ran
  cases put : (mailbox.awaiters id).put with
  | locking =>
    simp only [put] at ran
    split at ran
    · rename_i free
      cases ran
      refine numbered.locked (fun other _ => by simp [free]) le_rfl bounded
        ⟨fun _ => current.present (.inl put), fun seq locked => ?_, ?_, ?_⟩ ?_
      · cases locked
        exact ⟨rfl, rfl⟩
      all_goals intro seq next; cases next
    · simp at ran
  | waiting seq =>
    obtain ⟨held, rfl⟩ := current.holder seq (by rw [put]; rfl)
    simp only [put] at ran
    split at ran
    · cases ran
      obtain ⟨resp, given⟩ := Option.ne_none_iff_exists'.mp (current.present (.inr ⟨_, put⟩))
      refine numbered.unlocked ?_ fun seq => ?_
      · rw [held, given]
        exact .of_written rfl rfl (lawful.get_set resp _ bounded)
      · simp [given]
    · cases ran
      exact numbered.locked (mine held) le_rfl bounded (.of_failed rfl) (by simp)
  | pushing seq =>
    obtain ⟨held, rfl⟩ := current.holder seq (by rw [put]; rfl)
    simp only [put] at ran
    split at ran
    · cases ran
      refine numbered.unlocked ?_ fun seq => by simp
      rw [held]
      exact .of_written rfl rfl (current.buffer _ (by rw [put]; rfl))
    · cases ran
      exact numbered.locked (mine held) le_rfl bounded (.of_failed rfl) (by simp)
  | adding seq =>
    obtain ⟨held, rfl⟩ := current.holder seq (by rw [put]; rfl)
    simp only [put] at ran
    cases ran
    refine numbered.locked (mine held) le_rfl bounded ?_ (by simp)
    show Awaiter.Numbered ops mailbox.curSeq mailbox.txQueueLock id _
    rw [held]
    exact .of_written rfl rfl (current.buffer _ (by rw [put]; rfl))
  | queued seq =>
    obtain ⟨held, rfl⟩ := current.holder seq (by rw [put]; rfl)
    obtain ⟨succeeded, small⟩ := timely (by rw [put]; rfl)
    simp only [put, if_pos succeeded, Nat.mod_eq_of_lt small] at ran
    cases ran
    refine numbered.locked (mine held) (Nat.le_succ _) small ⟨by simp, ?_, ?_, ?_⟩ (by simp)
    · intro seq locked
      cases locked
    · intro seq done
      cases done
      exact Nat.lt_succ_self _
    · intro seq written
      cases written
      exact current.buffer _ (by rw [put]; rfl)
  | failed =>
    simp only [put] at ran
    split at ran
    · cases ran
      exact numbered.unlocked (.of_failed rfl) (by simp)
    · cases ran
      rw [setPut, setTimeout, update_update]
      exact numbered.unlocked (.of_failed rfl) (by simp)
    · simp at ran
  | dropping =>
    simp only [put] at ran
    cases ran
    rw [setPut, awaiterDecRefs, update_update]
    exact numbered.unlocked (.of_failed rfl) (by simp)
  | freeing =>
    simp only [put] at ran
    cases ran
    exact numbered.unlocked (.of_failed rfl) (by simp)
  | absent => simp [put] at ran
  | done seq => simp [put] at ran
  | freed => simp [put] at ran

end

end Mailbox

end GsKernel.Gcip
