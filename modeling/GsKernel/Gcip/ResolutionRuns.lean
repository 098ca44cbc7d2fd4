import GsKernel.Gcip.ResolutionSteps
import GsKernel.Gcip.AwaiterRefRuns

/-!
# Awaiters are resolved once along runs

A put adds the entry of its awaiter, so each queued awaiter has one outcome, past or to
come, in every run whose timeout works start after their commands have been queued.
-/

namespace GsKernel.Gcip

open Lib.Tasks Lib.Runs Mailbox MailboxSystem PutPhase

variable {ρ : Type*}

namespace MailboxSystem

variable {ops : MailboxOps ρ} {mailbox shared : Mailbox ρ} {calls : List (Call ρ)}

section

variable (resolved : Resolved ops ⟨mailbox, calls⟩)
include resolved

/-- A step of the put of one awaiter. -/
lemma Resolved.put (subject : Nat) (numbered : shared.Numbered ops)
    (frame : ∀ id, id ≠ subject → shared.awaiters id = mailbox.awaiters id ∧
      shared.waitList.count id = mailbox.waitList.count id) (log : shared.log = mailbox.log)
    (keeps : ∀ seq, (mailbox.awaiters subject).put.number = some seq →
      (shared.awaiters subject).put.number = some seq)
    (timeout : (shared.awaiters subject).timeout = (mailbox.awaiters subject).timeout ∨
      (shared.awaiters subject).timeout = .idle ∨ (shared.awaiters subject).timeout = .pending)
    (balance : outcomes ⟨shared, calls⟩ subject =
      (shared.awaiters subject).put.isQueued.toNat) : Resolved ops ⟨shared, calls⟩ := by
  refine resolved.of_keeps numbered (fun id seq assigned => ?_) (fun _ => .inl) (fun id => ?_)
    (fun outcome mem => .inl (log ▸ mem)) fun id => ?_
  · by_cases same : id = subject
    · subst same
      exact keeps seq assigned
    · rwa [(frame id same).1]
  · by_cases same : id = subject
    · subst same
      refine timeout.imp_right fun unstarted => ?_
      rcases unstarted with idle | pending
      · simp only [Awaiter.Knows, idle]
      · simp only [Awaiter.Knows, pending]
    · rw [(frame id same).1]
      exact .inl rfl
  · by_cases same : id = subject
    · subst same
      exact balance
    · obtain ⟨awaiter, entries⟩ := frame id same
      have before := resolved.balance id
      simp only [outcomes, resolutions, resolving, log, awaiter, entries] at before ⊢
      exact before

/-- An awaiter that is not queued has no outcome. -/
lemma Resolved.unqueued {id : Nat} (unqueued : (mailbox.awaiters id).put.isQueued = false) :
    (resolutions ⟨mailbox, calls⟩ id = 0 ∧ mailbox.waitList.count id = 0) ∧
      (mailbox.awaiters id).timeout.resolves = 0 ∧ total (Call.resolves id) calls = 0 := by
  have sum := resolved.balance id
  simp only [unqueued, Bool.toNat_false, outcomes, resolving] at sum
  omega

lemma Resolved.putCmdFlags {subject : Nat}
    {resp : Option ρ} {noTimeout : Bool} (given : resp ≠ none)
    (ran : mailbox.putCmdFlags subject resp noTimeout = some shared) :
    Resolved ops ⟨shared, calls⟩ := by
  have numbered := resolved.numbered.putCmdFlags given ran
  unfold Mailbox.putCmdFlags at ran
  split at ran
  · rename_i absent
    cases ran
    obtain ⟨⟨resolutions, listed⟩, -, resolving⟩ :=
      resolved.unqueued (show (mailbox.awaiters subject).put.isQueued = false by rw [absent]; rfl)
    refine resolved.put subject numbered (fun id other => ⟨?_, rfl⟩) rfl
      (fun seq assigned => ?_) (.inr ?_) ?_
    · rw [Mailbox.update_of_ne _ _ _ other]
    · rw [absent] at assigned
      cases assigned
    · rw [Mailbox.update_self]
      cases noTimeout
      · exact .inr rfl
      · exact .inl rfl
    · simp only [outcomes, MailboxSystem.resolutions, MailboxSystem.resolving, Mailbox.update_log,
        Mailbox.update_waitList, Mailbox.update_self] at resolutions ⊢
      rw [resolutions, listed, resolving]
      cases noTimeout <;> rfl
  · simp at ran

/-- A step of a put that leaves its awaiter off the wait list. -/
lemma Resolved.put_early (subject : Nat) (numbered : shared.Numbered ops)
    (frame : ∀ id, id ≠ subject → shared.awaiters id = mailbox.awaiters id ∧
      shared.waitList.count id = mailbox.waitList.count id) (log : shared.log = mailbox.log)
    (unqueued : (mailbox.awaiters subject).put.isQueued = false)
    (still : (shared.awaiters subject).put.isQueued = false)
    (entries : shared.waitList = mailbox.waitList)
    (timeout : (shared.awaiters subject).timeout = (mailbox.awaiters subject).timeout ∨
      (shared.awaiters subject).timeout = .idle) : Resolved ops ⟨shared, calls⟩ := by
  obtain ⟨⟨resolutions, listed⟩, past, resolving⟩ := resolved.unqueued unqueued
  refine resolved.put subject numbered frame log (fun seq assigned => ?_)
    (timeout.imp_right .inl) ?_
  · rw [PutPhase.isQueued_iff.mpr ⟨seq, assigned⟩] at unqueued
    cases unqueued
  · have none : (shared.awaiters subject).timeout.resolves = 0 := by
      rcases timeout with kept | idle
      · rw [kept, past]
      · rw [idle]
        rfl
    simp only [outcomes, MailboxSystem.resolutions, MailboxSystem.resolving, log] at resolutions ⊢
    rw [resolutions, entries, listed, none, resolving, still]
    rfl

lemma Resolved.continuePut (lawful : ops.Lawful) {subject : Nat} {succeeds : Bool}
    (timely : (mailbox.awaiters subject).put.isQueued = true →
      succeeds = true ∧ mailbox.curSeq + 1 < 2 ^ 64)
    (ran : mailbox.continuePut ops subject succeeds = some shared) :
    Resolved ops ⟨shared, calls⟩ := by
  have numbered := resolved.numbered.continuePut lawful timely ran
  have log := Mailbox.continuePut_log ran
  have frame (id : Nat) (other : id ≠ subject) := Mailbox.continuePut_frame other ran
  have present := (resolved.numbered.awaiter subject).present
  unfold Mailbox.continuePut at ran
  cases put : (mailbox.awaiters subject).put with
  | adding seq =>
    simp only [put] at ran
    cases ran
    obtain ⟨⟨resolutions, listed⟩, past, resolving⟩ :=
      resolved.unqueued (show (mailbox.awaiters subject).put.isQueued = false by rw [put]; rfl)
    refine resolved.put subject numbered frame log (fun seq assigned => ?_) (.inl ?_) ?_
    · rw [put] at assigned
      cases assigned
    · simp [Mailbox.setPut]
    · simp only [outcomes, MailboxSystem.resolutions, MailboxSystem.resolving,
        Mailbox.update_log, Mailbox.setPut, Mailbox.update_self, List.count_append,
        List.count_singleton_self] at resolutions ⊢
      rw [resolutions, listed, past, resolving]
      rfl
  | queued seq =>
    obtain ⟨succeeded, small⟩ := timely (by rw [put]; rfl)
    simp only [put, if_pos succeeded] at ran
    cases ran
    have before := resolved.balance subject
    refine resolved.put subject numbered frame log (fun seq assigned => ?_) (.inl ?_) ?_
    · rw [put] at assigned
      simpa [Mailbox.setPut, PutPhase.number] using assigned
    · simp [Mailbox.setPut]
    · simpa [outcomes, MailboxSystem.resolutions, MailboxSystem.resolving, Mailbox.setPut, put,
        PutPhase.isQueued] using before
  | waiting seq =>
    have unqueued : (mailbox.awaiters subject).put.isQueued = false := by rw [put]; rfl
    obtain ⟨resp, given⟩ : ∃ resp, (mailbox.awaiters subject).resp = some resp :=
      Option.ne_none_iff_exists'.mp (present (.inr ⟨seq, put⟩))
    simp only [put] at ran
    split at ran <;> cases ran <;>
      refine resolved.put_early subject numbered frame log unqueued ?_ rfl ?_ <;>
      simp [given, Mailbox.setPut, PutPhase.isQueued]
  | done seq => simp [put] at ran
  | _ =>
    -- the other steps leave the awaiter off the wait list
    have unqueued : (mailbox.awaiters subject).put.isQueued = false := by rw [put]; rfl
    simp only [put] at ran
    repeat' split at ran
    all_goals
      first
      | contradiction
      | cases ran
        refine resolved.put_early subject numbered frame log unqueued ?_ rfl ?_ <;>
          simp [Mailbox.setPut, Mailbox.setTimeout, Mailbox.awaiterDecRefs, Awaiter.decRefs,
            PutPhase.isQueued]

end

/-- A call starts. -/
lemma Resolved.start {system : MailboxSystem ρ} (resolved : Resolved ops system) {call : Call ρ}
    (knows : call.Knows ops system.shared) (none : ∀ id, call.resolves id = 0) :
    Resolved ops { system with tasks := call :: system.tasks } := by
  have before : Resolved ops ⟨system.shared, system.tasks⟩ := resolved
  refine before.of_same (.refl _) (fun other mem => ?_) (fun _ => .inl rfl) (fun _ => .inl)
    fun id => ?_
  · rcases List.mem_cons.mp mem with rfl | old
    · exact .inr knows
    · exact .inl old
  · rw [outcomes_call, none, Nat.add_zero]

lemma Resolved.perm {others : List (Call ρ)} (resolved : Resolved ops ⟨mailbox, calls⟩)
    (same : calls.Perm others) : Resolved ops ⟨mailbox, others⟩ :=
  resolved.of_same (.refl _) (fun _ mem => .inl (same.mem_iff.mpr mem)) (fun _ => .inl rfl)
    (fun _ => .inl) fun id => (outcomes_perm same id).symm

/-- The commands have a response buffer, `after_enqueue_cmd` does not fail, the sequence
number does not overflow, and the timeout work of an awaiter starts only after its command
has been queued. -/
def Timely (system : MailboxSystem ρ) : MailboxEvent ρ → Prop
  | .putCmdFlags _ resp _ => resp ≠ none
  | .continuePut id succeeds => (system.shared.awaiters id).put.isQueued = true →
    succeeds = true ∧ system.shared.curSeq + 1 < 2 ^ 64
  | .continueTimeout id => (system.shared.awaiters id).timeout = .pending →
    (system.shared.awaiters id).put.isQueued = true
  | _ => True

lemma resolved_initial (ops : MailboxOps ρ) : Resolved ops (initial ρ) := by
  refine ⟨⟨Nat.two_pow_pos 64, fun id => ⟨?_, ?_, ?_, ?_⟩, ?_⟩, ?_, ?_, ?_, ?_⟩
  · simp [initial]
  · simp [initial, locked]
  · simp [initial]
  · simp [initial, written]
  · simp [initial]
  · simp [initial]
  · exact fun _ => trivial
  · simp [initial]
  · exact fun _ => rfl

/-- Every timely step keeps the accounts of resolutions. -/
lemma Resolved.step {system next : MailboxSystem ρ} (resolved : Resolved ops system)
    (lawful : ops.Lawful) {event : MailboxEvent ρ} (timely : system.Timely event)
    (stepped : system.step ops event = some next) : Resolved ops next := by
  cases event <;> simp only [MailboxSystem.step] at stepped
  case putCmdFlags subject resp noTimeout =>
    obtain ⟨shared, put, rfl⟩ := Option.map_eq_some_iff.mp stepped
    exact resolved.putCmdFlags timely put
  case continuePut subject succeeds =>
    obtain ⟨shared, put, rfl⟩ := Option.map_eq_some_iff.mp stepped
    exact resolved.continuePut lawful timely put
  case continueTimeout subject =>
    obtain ⟨shared, worked, rfl⟩ := Option.map_eq_some_iff.mp stepped
    exact resolved.continueTimeout timely worked
  case handleResponse resp | flushAwaiter =>
    cases stepped
    exact resolved.start trivial fun id => rfl
  case cancelAwaiter subject =>
    split at stepped
    · rename_i known
      cases stepped
      exact resolved.start known.1 fun id => rfl
    · simp at stepped
  case releaseAwaiter subject =>
    split at stepped
    · cases stepped
      exact (Resolved.awaiterDecRefs resolved subject).disown subject
    · simp at stepped
  case continueCall index =>
    obtain ⟨call, others, rest, -, ran, same, left⟩ := Pool.run_eq_some stepped
    have chosen : Resolved ops ⟨system.shared, call :: others⟩ := resolved.perm same
    have stepped := chosen.continueCall lawful ran
    rwa [← left] at stepped

end MailboxSystem

/-- In every run whose steps are timely, each awaiter whose put has succeeded is on the
wait list, or about to be resolved by one call or its timeout, or resolved once; a response
handed to an awaiter carries the number assigned to its command; and only its own entry is
removed by the timeout or the cancellation of an awaiter. -/
theorem awaiter_resolved_once {ops : MailboxOps ρ} (lawful : ops.Lawful)
    (events : List (MailboxEvent ρ)) {final : MailboxSystem ρ}
    (along : Lib.Runs.AlongM (MailboxSystem.step ops) MailboxSystem.Timely (.initial ρ) events)
    (ran : events.foldlM (MailboxSystem.step ops) (.initial ρ) = some final) :
    (∀ id seq, (final.shared.awaiters id).put = .done seq →
      final.resolutions id + final.shared.waitList.count id + final.resolving id = 1) ∧
    (∀ id resp, .arrived id resp ∈ final.shared.log →
      (final.shared.awaiters id).put.number = some (ops.getRespElemSeq (some resp))) ∧
    ∀ id entry, .removed id entry ∈ final.shared.log → entry = id := by
  have resolved := foldlM_invariant_along (Resolved ops) (step ops) Timely
    (fun _ _ _ resolved timely stepped => resolved.step lawful timely stepped) events
    (resolved_initial ops) along ran
  refine ⟨fun id seq done => ?_, fun id resp => resolved.log _, fun id entry => resolved.log _⟩
  have balance := resolved.balance id
  rw [done] at balance
  exact balance

instance decidableTimely (system : MailboxSystem ρ) (event : MailboxEvent ρ) :
    Decidable (system.Timely event) :=
  match event with
  | .putCmdFlags _ (some _) _ => isTrue (by simp [MailboxSystem.Timely])
  | .putCmdFlags _ none _ => isFalse (by simp [MailboxSystem.Timely])
  | .continuePut _ _ => inferInstanceAs (Decidable (_ → _ ∧ _))
  | .continueTimeout _ => inferInstanceAs (Decidable (_ → _))
  | .releaseAwaiter _ => isTrue trivial
  | .handleResponse _ => isTrue trivial
  | .cancelAwaiter _ => isTrue trivial
  | .flushAwaiter => isTrue trivial
  | .continueCall _ => isTrue trivial

lemma seqOps_lawful (handlesFlushed : Bool) : (seqOps handlesFlushed).Lawful where
  get_set _ _ _ := rfl
  matched _ _ matched := of_decide_eq_true matched

/-- Two commands: the timeout of the first removes its entry before its response arrives,
and the second is cancelled. -/
def timeoutAndCancelRun : List (MailboxEvent Nat) :=
  putRun 0 false ++ putRun 1 false ++ List.replicate 3 (.continueTimeout 0) ++
    [.handleResponse 0, .cancelAwaiter 1, .continueTimeout 0, .continueCall 1, .continueCall 0,
      .continueCall 0, .continueCall 0, .continueCall 0]

theorem awaiter_resolved_once_timeoutAndCancel :
    ∃ final, timeoutAndCancelRun.foldlM (MailboxSystem.step (seqOps true)) (.initial Nat) =
        some final ∧
      final.shared.log = [.removed 0 0, .timedOut 0, .removed 1 1, .cancelled 1] ∧
      final.resolutions 0 + final.shared.waitList.count 0 + final.resolving 0 = 1 ∧
      final.resolutions 1 + final.shared.waitList.count 1 + final.resolving 1 = 1 := by
  obtain ⟨final, ran, log, first, second⟩ := exists_reached (fun final : MailboxSystem Nat =>
      final.shared.log = [.removed 0 0, .timedOut 0, .removed 1 1, .cancelled 1] ∧
      (final.shared.awaiters 0).put = .done 0 ∧ (final.shared.awaiters 1).put = .done 1)
    (show (timeoutAndCancelRun.foldlM (step (seqOps true)) (.initial Nat)).any _ =
      true by decide +kernel)
  have along : AlongM (step (seqOps true)) Timely
      (.initial Nat) timeoutAndCancelRun := alongM_of_check (by decide +kernel)
  obtain ⟨once, -⟩ := awaiter_resolved_once (seqOps_lawful true) _ along ran
  exact ⟨final, ran, log, once 0 0 first, once 1 1 second⟩

/-- The second put waits for room in the command queue while its timeout expires: the
number in its buffer is still that of the first command. -/
def staleNumberRun : List (MailboxEvent Nat) :=
  putRun 0 true ++ [.putCmdFlags 1 (some 0) false, .continuePut 1 true] ++
    List.replicate 5 (.continueTimeout 1) ++ List.replicate 4 (.continuePut 1 true)

/-- The timeout of the second awaiter removes the entry of the first, which is then never
resolved, while the second is on the wait list after it has timed out. -/
theorem timeout_steals_entry :
    ∃ final, staleNumberRun.foldlM (MailboxSystem.step (seqOps true)) (.initial Nat) = some final ∧
      final.tasks = [] ∧ (final.shared.awaiters 0).put = .done 0 ∧
      (final.shared.awaiters 1).put = .done 1 ∧
      final.shared.log = [.removed 1 0, .timedOut 1] ∧ final.shared.waitList = [1] := by
  refine exists_reached _ ?_
  decide +kernel

end GsKernel.Gcip
