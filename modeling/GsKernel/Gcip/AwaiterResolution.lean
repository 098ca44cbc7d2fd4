import GsKernel.Gcip.AwaiterNumbers

/-!
# Awaiters are resolved once

A queued awaiter is on the wait list, or one call has taken its entry and is about to
resolve it, or it has been resolved once.
-/

namespace GsKernel.Gcip

open Lib.Tasks Mailbox PutPhase List

variable {ρ : Type*}

/-- The outcome resolves the awaiter. -/
def Outcome.resolves (id : Nat) : Outcome ρ → Bool
  | arrived awaiter _ | timedOut awaiter | cancelled awaiter | flushed awaiter => awaiter = id
  | removed _ _ => false

/-- The call has taken the entry of the awaiter and is about to resolve it. -/
@[simp]
def Call.resolves (id : Nat) : Call ρ → Nat
  | arrived awaiter _ | arrivedDropping awaiter _ | arrivedHandling awaiter _
  | cancelTimeout awaiter true | cancelDropping awaiter true => if awaiter = id then 1 else 0
  | flushing entries => entries.count id
  | flushDropping awaiter entries | flushHandling awaiter entries => (awaiter :: entries).count id
  | _ => 0

def TimeoutPhase.resolves : TimeoutPhase → Nat
  | .handling true => 1
  | _ => 0

namespace MailboxSystem

/-- The calls and the timeout work that are about to resolve the awaiter. -/
def resolving (system : MailboxSystem ρ) (id : Nat) : Nat :=
  (system.shared.awaiters id).timeout.resolves + total (Call.resolves id) system.tasks

def resolutions (system : MailboxSystem ρ) (id : Nat) : Nat :=
  system.shared.log.countP (Outcome.resolves id)

/-- Resolutions of the awaiter, past and to come. -/
def outcomes (system : MailboxSystem ρ) (id : Nat) : Nat :=
  system.resolutions id + system.shared.waitList.count id + system.resolving id

end MailboxSystem

/-- What a call knows of the numbers of its awaiter. -/
def Call.Knows (ops : MailboxOps ρ) (mailbox : Mailbox ρ) : Call ρ → Prop
  | arrived id resp | arrivedDropping id resp | arrivedHandling id resp =>
    (mailbox.awaiters id).put.number = some (ops.getRespElemSeq (some resp))
  | cancelAwaiter id => (mailbox.awaiters id).put.isQueued = true
  | cancelDeleting id seq => (mailbox.awaiters id).put.number = some seq
  | _ => True

/-- What the timeout work knows of the number of its awaiter. -/
def Awaiter.Knows (awaiter : Awaiter ρ) : Prop :=
  match awaiter.timeout with
  | .running => awaiter.put.isQueued = true
  | .deleting seq => awaiter.put.number = some seq
  | _ => True

/-- What an outcome tells: a response that arrived carries the number of its awaiter, and
only the own entry of an awaiter is removed for it. -/
def Outcome.Right (ops : MailboxOps ρ) (mailbox : Mailbox ρ) : Outcome ρ → Prop
  | arrived id resp => (mailbox.awaiters id).put.number = some (ops.getRespElemSeq (some resp))
  | removed id entry => entry = id
  | _ => True

/-- The invariant of the resolutions. -/
structure MailboxSystem.Resolved (ops : MailboxOps ρ) (system : MailboxSystem ρ) : Prop where
  numbered : system.shared.Numbered ops
  calls : ∀ call ∈ system.tasks, call.Knows ops system.shared
  timeouts : ∀ id, (system.shared.awaiters id).Knows
  log : ∀ outcome ∈ system.shared.log, outcome.Right ops system.shared
  balance : ∀ id, system.outcomes id = (system.shared.awaiters id).put.isQueued.toNat

namespace MailboxSystem

variable {ops : MailboxOps ρ} {mailbox shared : Mailbox ρ} {calls others rest : List (Call ρ)}

lemma outcomes_perm {others : List (Call ρ)} (same : calls.Perm others) (id : Nat) :
    outcomes ⟨mailbox, calls⟩ id = outcomes ⟨mailbox, others⟩ id := by
  simp only [outcomes, resolutions, resolving, total_perm _ same]

lemma outcomes_call (call : Call ρ) (id : Nat) :
    outcomes ⟨mailbox, call :: calls⟩ id = outcomes ⟨mailbox, calls⟩ id + call.resolves id := by
  simp only [outcomes, resolutions, resolving, total_cons]
  omega

section

variable (resolved : Resolved ops ⟨mailbox, calls⟩)
include resolved

/-- The entry on the wait list that a queued awaiter finds by its number is its own. -/
lemma Resolved.own_entry {id entry seq : Nat}
    (assigned : (mailbox.awaiters id).put.number = some seq)
    (found : mailbox.waitList.find? (fun entry =>
      decide (ops.getRespElemSeq (mailbox.awaiters entry).resp = seq)) = some entry) :
    entry = id := by
  have listed := count_pos_iff.mpr (mem_of_find?_eq_some found)
  have same : ops.getRespElemSeq (mailbox.awaiters entry).resp = seq := by
    simpa using find?_some found
  have sum := resolved.balance entry
  obtain ⟨number, numbered⟩ : ∃ number, (mailbox.awaiters entry).put.number = some number := by
    rw [← isQueued_iff]
    cases queued : (mailbox.awaiters entry).put.isQueued with
    | true => rfl
    | false =>
      simp only [outcomes, queued, Bool.toNat_false] at sum
      omega
  have written := (resolved.numbered.awaiter entry).buffer number (written_of_number numbered)
  rw [← written.symm.trans same] at assigned
  exact resolved.numbered.unique numbered assigned

/-- A step after which queued awaiters still have their numbers. -/
lemma Resolved.of_keeps (numbered : shared.Numbered ops)
    (keeps : ∀ id seq, (mailbox.awaiters id).put.number = some seq →
      (shared.awaiters id).put.number = some seq)
    {next : List (Call ρ)} (known : ∀ call ∈ next, call ∈ calls ∨ call.Knows ops shared)
    (timeouts : ∀ id, (shared.awaiters id).timeout = (mailbox.awaiters id).timeout ∨
      (shared.awaiters id).Knows)
    (log : ∀ outcome ∈ shared.log, outcome ∈ mailbox.log ∨ outcome.Right ops shared)
    (balance : ∀ id, outcomes ⟨shared, next⟩ id = (shared.awaiters id).put.isQueued.toNat) :
    Resolved ops ⟨shared, next⟩ := by
  have queued (id : Nat) (before : (mailbox.awaiters id).put.isQueued = true) :
      (shared.awaiters id).put.isQueued = true := by
    obtain ⟨seq, assigned⟩ := isQueued_iff.mp before
    exact isQueued_iff.mpr ⟨seq, keeps id seq assigned⟩
  refine ⟨numbered, fun call mem => ?_, fun id => ?_, fun outcome mem => ?_, balance⟩
  · refine (known call mem).elim (fun old => ?_) fun knows => knows
    have knows := resolved.calls call old
    cases call <;> simp only [Call.Knows] at knows ⊢ <;>
      first | exact keeps _ _ knows | exact queued _ knows
  · refine (timeouts id).elim (fun kept => ?_) fun knows => knows
    have knows := resolved.timeouts id
    simp only [Awaiter.Knows] at knows ⊢
    rw [kept]
    cases timeout : (mailbox.awaiters id).timeout <;> simp only [timeout] at knows ⊢ <;>
      first | exact queued id knows | exact keeps id _ knows
  · refine (log outcome mem).elim (fun old => ?_) fun right => right
    have right := resolved.log outcome old
    cases outcome <;> simp only [Outcome.Right] at right ⊢ <;>
      first | exact right | exact keeps _ _ right

/-- A step that leaves the numbers as they are. -/
lemma Resolved.of_same (same : Mailbox.SameNumbers ops mailbox shared) {next : List (Call ρ)}
    (known : ∀ call ∈ next, call ∈ calls ∨ call.Knows ops shared)
    (timeouts : ∀ id, (shared.awaiters id).timeout = (mailbox.awaiters id).timeout ∨
      (shared.awaiters id).Knows)
    (log : ∀ outcome ∈ shared.log, outcome ∈ mailbox.log ∨ outcome.Right ops shared)
    (sum : ∀ id, outcomes ⟨shared, next⟩ id = outcomes ⟨mailbox, calls⟩ id) :
    Resolved ops ⟨shared, next⟩ := by
  refine resolved.of_keeps (resolved.numbered.of_same same) (fun id seq assigned => ?_) known
    timeouts log fun id => ?_
  · rwa [same.put]
  · rw [sum, same.put]
    exact resolved.balance id

/-- What the deletion for a queued awaiter does: it removes its own entry if it is on the
wait list. -/
lemma Resolved.delWaitResp_cases {id seq : Nat}
    (assigned : (mailbox.awaiters id).put.number = some seq) :
    mailbox.delWaitResp ops id seq = (mailbox, false) ∨
      (id ∈ mailbox.waitList ∧ mailbox.delWaitResp ops id seq =
        ((({ mailbox with waitList := mailbox.waitList.erase id } : Mailbox ρ).awaiterDecRefs
          id).record (.removed id id), true)) := by
  unfold delWaitResp
  split
  · exact .inl rfl
  · rename_i entry found
    have listed := mem_of_find?_eq_some found
    obtain rfl := resolved.own_entry assigned found
    exact .inr ⟨listed, rfl⟩

/-- The deletion for a queued awaiter passes its entry on to the one who deletes. -/
lemma Resolved.delWaitResp {id seq : Nat} (assigned : (mailbox.awaiters id).put.number = some seq) :
    (∀ other, outcomes ⟨(mailbox.delWaitResp ops id seq).1, calls⟩ other +
      (if id = other then (mailbox.delWaitResp ops id seq).2.toNat else 0) =
        outcomes ⟨mailbox, calls⟩ other) ∧
    (∀ other, ((mailbox.delWaitResp ops id seq).1.awaiters other).timeout =
      (mailbox.awaiters other).timeout) ∧
    ∀ outcome ∈ (mailbox.delWaitResp ops id seq).1.log,
      outcome ∈ mailbox.log ∨ outcome = .removed id id := by
  obtain none | ⟨listed, found⟩ := resolved.delWaitResp_cases assigned
  · rw [none]
    exact ⟨fun other => by simp, fun _ => rfl, fun _ => .inl⟩
  rw [found]
  have counted := count_pos_iff.mpr listed
  refine ⟨fun other => ?_, fun other => ?_, fun outcome mem => ?_⟩
  · by_cases same : other = id
    · subst same
      simp [outcomes, resolutions, resolving, record, awaiterDecRefs,
        Outcome.resolves, Awaiter.decRefs]
      omega
    · simp [outcomes, resolutions, resolving, record, awaiterDecRefs,
        Outcome.resolves, same, Ne.symm same, count_erase_of_ne same]
  · by_cases same : other = id
    · subst same
      simp [record, awaiterDecRefs, Awaiter.decRefs]
    · simp [record, awaiterDecRefs, same]
  · simpa [record, awaiterDecRefs, update] using mem

end

lemma outcomes_update {subject : Nat} {change : Awaiter ρ → Awaiter ρ}
    (kept : (change (mailbox.awaiters subject)).timeout.resolves =
      (mailbox.awaiters subject).timeout.resolves) (id : Nat) :
    outcomes ⟨mailbox.update subject change, calls⟩ id = outcomes ⟨mailbox, calls⟩ id := by
  simp only [outcomes, resolutions, resolving, update_log, update_waitList]
  by_cases same : id = subject
  · subst same
    rw [update_self, kept]
  · rw [update_of_ne _ _ _ same]

lemma outcomes_record (outcome : Outcome ρ) (id : Nat) :
    outcomes ⟨mailbox.record outcome, calls⟩ id =
      outcomes ⟨mailbox, calls⟩ id + (outcome.resolves id).toNat := by
  simp only [outcomes, resolutions, resolving, record, countP_append, countP_singleton]
  cases outcome.resolves id <;> simp
  omega

section

variable (resolved : Resolved ops ⟨mailbox, calls⟩)
include resolved

/-- An update of one awaiter that keeps its number, for a call or none. -/
lemma Resolved.update {subject : Nat} {change : Awaiter ρ → Awaiter ρ}
    (same : Mailbox.SameNumbers ops mailbox (mailbox.update subject change))
    (knows : (change (mailbox.awaiters subject)).Knows)
    (kept : (change (mailbox.awaiters subject)).timeout.resolves =
      (mailbox.awaiters subject).timeout.resolves) :
    Resolved ops ⟨mailbox.update subject change, calls⟩ := by
  refine resolved.of_same same (fun _ => .inl) (fun id => ?_) (fun _ => .inl) (outcomes_update kept)
  by_cases here : id = subject
  · subst here
    rw [update_self]
    exact .inr knows
  · rw [update_of_ne _ _ _ here]
    exact .inl rfl

lemma Resolved.awaiterDecRefs (subject : Nat) :
    Resolved ops ⟨mailbox.awaiterDecRefs subject, calls⟩ :=
  resolved.update (.awaiterDecRefs mailbox subject) (resolved.timeouts subject) rfl

lemma Resolved.disown (subject : Nat) :
    Resolved ops ⟨mailbox.update subject fun awaiter => { awaiter with owned := false }, calls⟩ := by
  refine resolved.update ?_ (resolved.timeouts subject) rfl
  exact .update rfl (fun given => given) rfl

lemma Resolved.setTimeout {subject : Nat} {phase : TimeoutPhase}
    (knows : ({ mailbox.awaiters subject with timeout := phase } : Awaiter ρ).Knows)
    (kept : phase.resolves = (mailbox.awaiters subject).timeout.resolves) :
    Resolved ops ⟨mailbox.setTimeout subject phase, calls⟩ :=
  resolved.update (.setTimeout mailbox subject phase) knows kept

end

/-- A call is replaced by what is left of it. -/
lemma Resolved.replace {call : Call ρ} (resolved : Resolved ops ⟨mailbox, call :: others⟩)
    (known : ∀ call ∈ rest, call.Knows ops mailbox)
    (passed : ∀ id, total (Call.resolves id) rest = call.resolves id) :
    Resolved ops ⟨mailbox, rest ++ others⟩ := by
  refine resolved.of_same (.refl mailbox) (fun call mem => ?_) (fun _ => .inl rfl) (fun _ => .inl)
    fun id => ?_
  · rcases mem_append.mp mem with new | old
    · exact .inr (known call new)
    · exact .inl (mem_cons_of_mem _ old)
  · simp only [outcomes, resolutions, resolving, total_append, total_cons, passed]

/-- A call resolves its awaiter. -/
lemma Resolved.resolve {call : Call ρ} {outcome : Outcome ρ}
    (resolved : Resolved ops ⟨mailbox, call :: others⟩) (right : outcome.Right ops mailbox)
    (known : ∀ call ∈ rest, call.Knows ops mailbox)
    (passed : ∀ id, total (Call.resolves id) rest + (outcome.resolves id).toNat = call.resolves id) :
    Resolved ops ⟨mailbox.record outcome, rest ++ others⟩ := by
  refine resolved.of_same (.record mailbox outcome)
    (fun call mem => ?_) (fun _ => .inl rfl) (fun entry mem => ?_) fun id => ?_
  · rcases mem_append.mp mem with new | old
    · exact .inr (known call new)
    · exact .inl (mem_cons_of_mem _ old)
  · rcases mem_append.mp mem with old | new
    · exact .inl old
    · obtain rfl := mem_singleton.mp new
      exact .inr right
  · rw [outcomes_record, outcomes_call, ← passed id]
    simp only [outcomes, resolutions, resolving, total_append]
    omega

end MailboxSystem

end GsKernel.Gcip
