import GsKernel.Gcip.AwaiterResolution

/-!
# Resolution by timeouts and calls

The steps of the timeout work, of arrivals, cancellations and flushes: each takes the
entry of a queued awaiter and passes it on until it resolves the awaiter.
-/

namespace GsKernel.Gcip.MailboxSystem

open Mailbox Call List

variable {ρ : Type*} {ops : MailboxOps ρ} {mailbox shared : Mailbox ρ}
  {calls others rest : List (Call ρ)}

section

variable (resolved : Resolved ops ⟨mailbox, calls⟩)
include resolved

/-- The number of a queued awaiter is the one in its buffer. -/
lemma Resolved.number_of_queued {id : Nat} (queued : (mailbox.awaiters id).put.isQueued = true) :
    (mailbox.awaiters id).put.number = some (ops.getRespElemSeq (mailbox.awaiters id).resp) := by
  obtain ⟨seq, assigned⟩ := PutPhase.isQueued_iff.mp queued
  rw [assigned, (resolved.numbered.awaiter id).buffer seq (PutPhase.written_of_number assigned)]

lemma Resolved.continueTimeout {subject : Nat}
    (timely : (mailbox.awaiters subject).timeout = .pending →
      (mailbox.awaiters subject).put.isQueued = true)
    (ran : mailbox.continueTimeout ops subject = some shared) :
    Resolved ops ⟨shared, calls⟩ := by
  have knows := resolved.timeouts subject
  unfold Mailbox.continueTimeout at ran
  simp only [Awaiter.Knows] at knows
  cases timeout : (mailbox.awaiters subject).timeout <;> simp only [timeout, reduceCtorEq] at ran
  case pending =>
    cases ran
    exact resolved.setTimeout (timely timeout) (by rw [timeout]; rfl)
  case running =>
    simp only [timeout] at ran knows
    cases ran
    exact resolved.setTimeout (resolved.number_of_queued knows) (by rw [timeout]; rfl)
  case deleting seq =>
    simp only [timeout] at ran knows
    cases ran
    obtain ⟨sum, kept, log⟩ := resolved.delWaitResp knows
    refine resolved.of_same ((Mailbox.SameNumbers.delWaitResp mailbox subject seq).trans
      (.setTimeout _ _ _)) (fun _ => .inl) (fun id => ?_) (fun outcome mem => ?_) fun id => ?_
    · by_cases same : id = subject
      · subst same
        rw [Mailbox.setTimeout, Mailbox.update_self]
        exact .inr trivial
      · rw [Mailbox.setTimeout, Mailbox.update_of_ne _ _ _ same]
        exact .inl (kept id)
    · refine (log outcome mem).imp_right fun removed => ?_
      rw [removed]
      rfl
    · have before := sum id
      by_cases same : id = subject
      · subst same
        cases removed : (mailbox.delWaitResp ops id seq).2 <;>
          simp [outcomes, resolving, resolutions, Mailbox.setTimeout, TimeoutPhase.resolves, kept,
            timeout, removed] at before ⊢ <;> omega
      · simp [outcomes, resolving, resolutions, Mailbox.setTimeout, same, Ne.symm same, kept]
          at before ⊢
        omega
  case handling removed =>
    cases ran
    cases removed with
    | false => exact resolved.setTimeout trivial (by rw [timeout]; rfl)
    | true =>
      refine resolved.of_same ((Mailbox.SameNumbers.record mailbox _).trans
        (.setTimeout _ _ _)) (fun _ => .inl) (fun id => ?_) (fun outcome mem => ?_)
        fun id => ?_
      · by_cases same : id = subject
        · subst same
          rw [Mailbox.setTimeout, Mailbox.update_self]
          exact .inr trivial
        · rw [Mailbox.setTimeout, Mailbox.update_of_ne _ _ _ same]
          exact .inl rfl
      · rcases mem_append.mp mem with old | new
        · exact .inl old
        · obtain rfl := mem_singleton.mp new
          exact .inr trivial
      · by_cases same : id = subject
        · subst same
          simp [outcomes, resolving, resolutions, Mailbox.setTimeout, Mailbox.record,
            TimeoutPhase.resolves, Outcome.resolves, timeout]
          omega
        · simp [outcomes, resolving, resolutions, Mailbox.setTimeout, Mailbox.record,
            Outcome.resolves, same, Ne.symm same]
  case dropping =>
    cases ran
    refine (resolved.awaiterDecRefs subject).setTimeout trivial ?_
    simp [Mailbox.awaiterDecRefs, Awaiter.decRefs, timeout, TimeoutPhase.resolves]

/-- A response takes the entry that it matches. -/
lemma Resolved.arrive (lawful : ops.Lawful) {resp : ρ} {entry : Nat}
    (found : mailbox.waitList.find? (fun entry =>
      ops.doesResponseMatchWaiter resp (mailbox.awaiters entry).resp) = some entry) :
    Resolved ops ⟨{ mailbox.update entry fun awaiter => { awaiter with resp := some resp } with
      waitList := mailbox.waitList.erase entry }, .arrived entry resp :: calls⟩ := by
  have listed := count_pos_iff.mpr (mem_of_find?_eq_some found)
  have matched : ops.getRespElemSeq (some resp) =
      ops.getRespElemSeq (mailbox.awaiters entry).resp :=
    lawful.matched _ _ (by simpa using find?_some found)
  have queued : (mailbox.awaiters entry).put.isQueued = true := by
    have sum := resolved.balance entry
    cases queued : (mailbox.awaiters entry).put.isQueued with
    | true => rfl
    | false =>
      simp only [outcomes, queued, Bool.toNat_false] at sum
      omega
  obtain ⟨curSeq, lock, put, given, seq⟩ : SameNumbers ops mailbox
      (mailbox.update entry fun awaiter => { awaiter with resp := some resp }) :=
    .update rfl (fun _ => by simp) matched
  have same : SameNumbers ops mailbox
      { mailbox.update entry fun awaiter => { awaiter with resp := some resp } with
        waitList := mailbox.waitList.erase entry } := ⟨curSeq, lock, put, given, seq⟩
  refine resolved.of_same same (fun call mem => ?_) (fun id => .inl ?_) (fun _ => .inl) fun id => ?_
  · rcases mem_cons.mp mem with rfl | old
    · refine .inr ?_
      simp only [Knows, update_self, matched]
      exact resolved.number_of_queued queued
    · exact .inl old
  · by_cases here : id = entry
    · subst here
      simp only [update_self]
    · simp only [update_of_ne _ _ _ here]
  · rw [outcomes_call]
    by_cases here : id = entry
    · subst here
      simp only [outcomes, resolutions, resolving, update_self, update_log,
        count_erase_self, resolves, if_true]
      omega
    · simp [outcomes, resolutions, resolving, here, Ne.symm here, count_erase_of_ne here]

/-- A flush takes all entries. -/
lemma Resolved.flush :
    Resolved ops ⟨mailbox.waitList.foldl Mailbox.awaiterDecRefs { mailbox with waitList := [] },
      .flushing mailbox.waitList :: calls⟩ := by
  have kept (entries : List Nat) (mailbox : Mailbox ρ) :
      (entries.foldl Mailbox.awaiterDecRefs mailbox).log = mailbox.log ∧
        (entries.foldl Mailbox.awaiterDecRefs mailbox).waitList = mailbox.waitList ∧
        ∀ id, ((entries.foldl Mailbox.awaiterDecRefs mailbox).awaiters id).timeout =
          (mailbox.awaiters id).timeout := by
    induction entries generalizing mailbox with
    | nil => exact ⟨rfl, rfl, fun _ => rfl⟩
    | cons entry entries ih =>
      obtain ⟨log, list, timeouts⟩ := ih (mailbox.awaiterDecRefs entry)
      refine ⟨log, list, fun id => (timeouts id).trans ?_⟩
      by_cases same : id = entry
      · subst same
        rw [Mailbox.awaiterDecRefs, Mailbox.update_self]
        rfl
      · rw [Mailbox.awaiterDecRefs, Mailbox.update_of_ne _ _ _ same]
  obtain ⟨log, list, timeouts⟩ := kept mailbox.waitList { mailbox with waitList := [] }
  obtain ⟨curSeq, lock, put, resp, seq⟩ : Mailbox.SameNumbers ops { mailbox with waitList := [] }
      (mailbox.waitList.foldl Mailbox.awaiterDecRefs { mailbox with waitList := [] }) := .flush _ _
  refine resolved.of_same ⟨curSeq, lock, put, resp, seq⟩ (fun call mem => ?_)
    (fun id => .inl (timeouts id)) (fun outcome mem => .inl (log ▸ mem)) fun id => ?_
  · rcases mem_cons.mp mem with rfl | old
    · exact .inr trivial
    · exact .inl old
  · rw [outcomes_call]
    simp only [outcomes, resolutions, resolving, log, list, timeouts, Call.resolves, count_nil]
    omega

end

/-- A step of a call keeps the accounts of resolutions. -/
lemma Resolved.continueCall {call : Call ρ} (resolved : Resolved ops ⟨mailbox, call :: others⟩)
    (lawful : ops.Lawful) (ran : mailbox.continueCall ops call () = some (shared, rest)) :
    Resolved ops ⟨shared, rest ++ others⟩ := by
  have knows := resolved.calls call mem_cons_self
  unfold Mailbox.continueCall at ran
  cases call with
  | handleResponse resp =>
    have started : Resolved ops ⟨mailbox, [] ++ others⟩ :=
      resolved.replace (by simp) fun id => rfl
    simp only at ran
    split at ran
    · cases ran
      exact started
    · rename_i entry found
      cases ran
      exact started.arrive lawful found
  | arrived subject resp =>
    simp only at ran
    split at ran
    · rename_i pending
      cases ran
      have passed : Resolved ops ⟨mailbox, [.arrivedDropping subject resp] ++ others⟩ :=
        resolved.replace (by simpa [Knows] using knows) fun id => rfl
      exact passed.setTimeout trivial (by rw [pending]; rfl)
    · cases ran
      exact resolved.replace (by simpa [Knows] using knows) fun id => rfl
  | arrivedDropping subject resp =>
    cases ran
    have passed : Resolved ops ⟨mailbox, [.arrivedHandling subject resp] ++ others⟩ :=
      resolved.replace (by simpa [Knows] using knows) fun id => rfl
    exact passed.awaiterDecRefs subject
  | arrivedHandling subject resp =>
    cases ran
    refine resolved.resolve knows (by simp [Knows]) fun id => ?_
    by_cases same : subject = id <;> simp [Outcome.resolves, same]
  | arrivedReleasing subject =>
    cases ran
    have passed : Resolved ops ⟨mailbox, [] ++ others⟩ := resolved.replace (by simp) fun id => rfl
    exact passed.awaiterDecRefs subject
  | cancelAwaiter subject =>
    cases ran
    refine resolved.replace ?_ fun id => rfl
    simpa [Knows] using resolved.number_of_queued knows
  | cancelDeleting subject seq =>
    obtain ⟨sum, kept, log⟩ := resolved.delWaitResp knows
    have same : SameNumbers ops mailbox (mailbox.delWaitResp ops subject seq).1 :=
      .delWaitResp mailbox subject seq
    simp only at ran
    generalize mailbox.delWaitResp ops subject seq = result at ran sum kept log same
    obtain ⟨deleted, removed⟩ := result
    cases ran
    refine resolved.of_same same (fun call mem => ?_) (fun id => .inl (kept id))
      (fun outcome mem => ?_) fun id => ?_
    · rcases mem_cons.mp mem with rfl | old
      · exact .inr trivial
      · exact .inl (mem_cons_of_mem _ old)
    · refine (log outcome mem).imp_right fun removed => ?_
      rw [removed]
      rfl
    · rw [← sum id, singleton_append, outcomes_call, outcomes_call]
      cases removed <;> simp
  | cancelTimeout subject removed =>
    simp only at ran
    split at ran
    · cases ran
      cases removed with
      | false => exact resolved.replace (by simp) fun id => rfl
      | true =>
        refine resolved.resolve trivial (by simp) fun id => ?_
        by_cases same : subject = id <;> simp [Outcome.resolves, same]
    · rename_i pending
      cases ran
      have passed : Resolved ops ⟨mailbox, [.cancelDropping subject removed] ++ others⟩ :=
        resolved.replace (by simp [Knows]) fun id => by cases removed <;> rfl
      exact passed.setTimeout trivial (by rw [pending]; rfl)
    · simp at ran
  | cancelDropping subject removed =>
    cases ran
    have dropped := resolved.awaiterDecRefs subject
    cases removed with
    | false => exact dropped.replace (by simp) fun id => rfl
    | true =>
      refine dropped.resolve trivial (by simp) fun id => ?_
      by_cases same : subject = id <;> simp [Outcome.resolves, same]
  | flushAwaiter =>
    cases ran
    have started : Resolved ops ⟨mailbox, [] ++ others⟩ :=
      resolved.replace (by simp) fun id => rfl
    exact started.flush
  | flushing entries =>
    cases entries with
    | nil =>
      cases ran
      exact resolved.replace (by simp) fun id => rfl
    | cons subject entries =>
      simp only at ran
      split at ran
      · cases ran
        exact resolved.replace (by simp [Knows]) fun id => rfl
      · rename_i pending
        cases ran
        have passed : Resolved ops ⟨mailbox, [.flushDropping subject entries] ++ others⟩ :=
          resolved.replace (by simp [Knows]) fun id => rfl
        exact passed.setTimeout trivial (by rw [pending]; rfl)
      · simp at ran
  | flushDropping subject entries =>
    cases ran
    have passed : Resolved ops ⟨mailbox, [.flushHandling subject entries] ++ others⟩ :=
      resolved.replace (by simp [Knows]) fun id => rfl
    exact passed.awaiterDecRefs subject
  | flushHandling subject entries =>
    cases ran
    have flushed : Resolved ops ⟨mailbox.record (.flushed subject),
        [.flushing entries] ++ others⟩ := by
      refine resolved.resolve trivial (by simp [Knows]) fun id => ?_
      by_cases same : subject = id <;> simp [Outcome.resolves, same]
    cases ops.handlesFlushed with
    | true => exact flushed
    | false =>
      exact (flushed.awaiterDecRefs subject).disown subject

end GsKernel.Gcip.MailboxSystem
