import GsKernel.Gcip.AwaiterSteps

/-!
# References of awaiters along runs

The balance of the references is kept by every move, so it holds in every run.
-/

namespace GsKernel.Gcip

open MailboxSystem Lib.Runs

variable {ρ : Type*}

namespace MailboxSystem

variable {ops : MailboxOps ρ} {system next : MailboxSystem ρ}

/-- Every awaiter is counted. -/
def Counted (ops : MailboxOps ρ) (system : MailboxSystem ρ) : Prop :=
  ∀ id, AwaiterView.Counted ops.handlesFlushed (system.view id) ∧ (system.view id).Single

lemma counted_initial (ops : MailboxOps ρ) : Counted ops (initial ρ) := fun _ =>
  ⟨⟨fun created => absurd rfl created, fun _ => ⟨rfl, rfl, rfl, rfl, rfl⟩, fun _ => rfl,
    fun early => by simp [view, initial, PutPhase.isEarly] at early, Nat.zero_le 1,
    fun _ => Nat.zero_le _⟩,
    ⟨Nat.zero_le 1, Nat.zero_le 1⟩⟩

lemma Counted.step (counted : Counted ops system) {event : MailboxEvent ρ}
    (permitted : system.Permitted ops event) (ran : system.step ops event = some next) :
    Counted ops next := by
  intro id
  have moves := step_moves permitted ran id
  generalize next.view id = after at moves ⊢
  induction moves with
  | refl => exact counted id
  | tail _ move ih =>
    exact ⟨ih.1.move move, ih.2.move ih.1 move⟩

end MailboxSystem

/-- In every run in which `after_enqueue_cmd` does not fail, and in which without a
`handle_awaiter_flushed` no awaiter is released both by its owner and by a flush, the references
of an awaiter that has not been freed are that of its owner, that of its entry and that of its
timeout work, and it has been freed, once, exactly when none of these is left. -/
theorem awaiter_references (ops : MailboxOps ρ) (events : List (MailboxEvent ρ))
    {final : MailboxSystem ρ} (along : AlongM (step ops) (Permitted ops) (.initial ρ) events)
    (ran : events.foldlM (step ops) (.initial ρ) = some final) (id : Nat)
    (created : (final.shared.awaiters id).put ≠ .absent) :
    ((final.shared.awaiters id).frees = 0 →
      (final.shared.awaiters id).refs = (final.shared.awaiters id).owned.toNat +
        (final.view id).entryUses + (final.view id).timeoutUses) ∧
    (final.view id).entryUses ≤ 1 ∧ (final.view id).timeoutUses ≤ 1 ∧
    (final.shared.awaiters id).frees =
      if (final.shared.awaiters id).owned = false ∧ (final.view id).entryUses = 0 ∧
        (final.view id).timeoutUses = 0 then 1 else 0 := by
  obtain ⟨counted, single⟩ := foldlM_invariant_along (Counted ops) (step ops) (Permitted ops)
    (fun _ _ _ counted permitted stepped => counted.step permitted stepped) events
    (counted_initial ops) along ran id
  obtain ⟨live, freed⟩ := counted.balanced created
  refine ⟨live, single.entry, single.timeout, freed.trans (if_congr ?_ rfl rfl)⟩
  simp only [AwaiterView.uses, Nat.add_eq_zero_iff, Bool.toNat_eq_zero]
  exact and_assoc

instance decidablePermitted (ops : MailboxOps ρ) (system : MailboxSystem ρ)
    (event : MailboxEvent ρ) : Decidable (system.Permitted ops event) :=
  match event with
  | .continuePut _ _ => inferInstanceAs (Decidable (_ → _))
  | .releaseAwaiter _ => inferInstanceAs (Decidable (_ ∨ _))
  | .putCmdFlags _ _ _ => isTrue trivial
  | .continueTimeout _ => isTrue trivial
  | .handleResponse _ => isTrue trivial
  | .cancelAwaiter _ => isTrue trivial
  | .flushAwaiter => isTrue trivial
  | .continueCall _ => inferInstanceAs (Decidable (_ ∨ _))

/-- Responses that are their sequence number. -/
def seqOps (handlesFlushed : Bool) : MailboxOps Nat where
  getRespElemSeq := fun resp => resp.getD 0
  setRespElemSeq := fun _ seq => seq
  doesResponseMatchWaiter := MailboxOps.matchBySeq fun resp => resp.getD 0
  handlesFlushed := handlesFlushed

/-- A put that succeeds. -/
def putRun (id : Nat) (noTimeout : Bool) : List (MailboxEvent Nat) :=
  .putCmdFlags id (some 0) noTimeout :: List.replicate 5 (.continuePut id true)

/-- The response arrives and cancels the timeout, and the owner releases the awaiter
before the handler of the response is over. -/
def earlyReleaseRun : List (MailboxEvent Nat) :=
  putRun 0 false ++ [.handleResponse 0, .continueCall 0, .continueCall 0, .continueCall 0,
    .continueCall 0, .releaseAwaiter 0]

theorem awaiter_references_earlyRelease :
    ∃ final, earlyReleaseRun.foldlM (step (seqOps true)) (.initial Nat) = some final ∧
      (final.shared.awaiters 0).refs = 1 ∧ (final.shared.awaiters 0).frees = 0 := by
  obtain ⟨final, ran, frees, owned, entry, timeout, created⟩ := exists_reached
    (fun final : MailboxSystem Nat => (final.shared.awaiters 0).frees = 0 ∧
      (final.shared.awaiters 0).owned = false ∧ (final.view 0).entryUses = 1 ∧
      (final.view 0).timeoutUses = 0 ∧ (final.shared.awaiters 0).put ≠ .absent)
    (show (earlyReleaseRun.foldlM (step (seqOps true)) (.initial Nat)).any _ = true by
      decide +kernel)
  have along : AlongM (step (seqOps true))
      (Permitted (seqOps true)) (.initial Nat) earlyReleaseRun :=
    alongM_of_check (by decide +kernel)
  obtain ⟨live, -⟩ := awaiter_references _ _ along ran 0 created
  refine ⟨final, ran, ?_, frees⟩
  rw [live frees, owned, entry, timeout]
  rfl

def flushRun : List (MailboxEvent Nat) :=
  putRun 0 true ++ [.flushAwaiter, .continueCall 0, .continueCall 0, .continueCall 0]

/-- A response has arrived and its handler has cancelled the timeout work. -/
def halfCancelledRun : List (MailboxEvent Nat) :=
  putRun 0 false ++ [.handleResponse 0, .continueCall 0, .continueCall 0]

/-- A flush without `handle_awaiter_flushed` frees an awaiter that its owner never
releases; and between the cancellation of the timeout work and the drop of its reference
this reference is neither that of the owner, nor of the entry, nor of a pending or running
work. -/
theorem awaiter_references_exceptions :
    (∃ final, flushRun.foldlM (step (seqOps false)) (.initial Nat) = some final ∧
      (final.shared.awaiters 0).frees = 1) ∧
    ∃ final, halfCancelledRun.foldlM (step (seqOps true)) (.initial Nat) = some final ∧
      (final.shared.awaiters 0).refs = 3 ∧ (final.shared.awaiters 0).owned = true ∧
      (final.view 0).entryUses = 1 ∧ (final.shared.awaiters 0).timeout = .idle := by
  refine ⟨exists_reached _ ?_, exists_reached _ ?_⟩
  · decide +kernel
  · decide +kernel

end GsKernel.Gcip
