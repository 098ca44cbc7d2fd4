import GsKernel.Lwis.PeriodicIo

/-!
# What a cancellation of a periodic I/O waits for

`io_done` is completed when a periodic I/O is submitted and after each execution, and taken back
at the start of one. But the completion counts: a cancellation that has got through its wait has
taken what the next one would need, and a cancelled periodic I/O is still found.
-/

namespace GsKernel.Lwis

open Function Lib.Runs PeriodicClient

/-- An execution of a periodic I/O is between its `reinit_completion` and its `complete`. -/
def PeriodicClient.Executing (client : PeriodicClient) (id : Nat) : Prop :=
  client.worker = .running id

/-- A cancellation waits for a periodic I/O and cannot go on. -/
def PeriodicClient.Blocks (client : PeriodicClient) (id : Nat) : Prop :=
  0 < client.waiting id ∧ ∃ io, client.ios id = some io ∧ io.ioDone = 0

/-- What a periodic I/O and its cancellations keep to, when each is cancelled once: without an
execution, the completion is there for those cancellations that have not got through yet. -/
structure PeriodicClient.DoneKept (client : PeriodicClient) (id : Nat) (io : PeriodicIo) :
    Prop where
  waits : client.waiting id ≤ io.cancels
  once : io.cancels ≤ 1
  done : ¬client.Executing id → client.waiting id + 1 ≤ io.ioDone + io.cancels

/-- The completions of a client. -/
structure PeriodicClient.CompletionsKept (client : PeriodicClient) : Prop where
  unknown : ∀ id, client.ios id = none → client.waiting id = 0
  numbered : ∀ id, client.periodicIoCounter ≤ id → client.ios id = none
  kept : ∀ id io, client.ios id = some io → client.DoneKept id io

variable {client next : PeriodicClient} {id : Nat} {io : PeriodicIo} {periodNs : Int}

lemma PeriodicClient.CompletionsKept.initial : initial.CompletionsKept where
  unknown := fun _ _ => rfl
  numbered := fun _ _ => rfl
  kept := fun _ _ found => by cases found

section

variable (kept : client.CompletionsKept)
include kept

/-- A step that concerns one periodic I/O keeps the completions if it keeps that one's. -/
lemma PeriodicClient.CompletionsKept.change {after : PeriodicIo} (found : client.ios id = some io)
    (ios : next.ios = update client.ios id (some after))
    (counter : next.periodicIoCounter = client.periodicIoCounter)
    (waiting : ∀ other, other ≠ id → next.waiting other = client.waiting other)
    (executing : ∀ other, other ≠ id → (next.Executing other ↔ client.Executing other))
    (changed : next.DoneKept id after) : next.CompletionsKept := by
  have elsewhere {other : Nat} (ne : other ≠ id) : next.ios other = client.ios other := by
    rw [ios, update_of_ne ne]
  have self : next.ios id = some after := by rw [ios, update_self]
  refine ⟨fun other missing => ?_, fun other beyond => ?_, fun other later had => ?_⟩
  · by_cases same : other = id
    · rw [same, self] at missing
      cases missing
    · rw [waiting other same]
      exact kept.unknown other ((elsewhere same).symm.trans missing)
  · have missing := kept.numbered other (counter ▸ beyond)
    have ne : other ≠ id := by
      rintro rfl
      cases missing.symm.trans found
    exact (elsewhere ne).trans missing
  · by_cases same : other = id
    · subst same
      obtain rfl := Option.some.inj (self.symm.trans had)
      exact changed
    · have old := kept.kept other later ((elsewhere same).symm.trans had)
      refine ⟨?_, old.once, ?_⟩
      · rw [waiting other same]
        exact old.waits
      · rw [waiting other same, executing other same]
        exact old.done

/-- A step that leaves the periodic I/Os and the executions alone keeps the completions. -/
lemma PeriodicClient.CompletionsKept.frame (ios : next.ios = client.ios)
    (counter : next.periodicIoCounter = client.periodicIoCounter)
    (waiting : next.waiting = client.waiting)
    (executing : ∀ other, next.Executing other ↔ client.Executing other) :
    next.CompletionsKept where
  unknown := fun id missing => by
    rw [waiting]
    exact kept.unknown id (ios ▸ missing)
  numbered := fun id beyond => ios ▸ kept.numbered id (counter ▸ beyond)
  kept := fun id io found => by
    obtain ⟨waits, once, done⟩ := kept.kept id io (ios ▸ found)
    refine ⟨?_, once, ?_⟩
    · rwa [waiting]
    · rwa [waiting, executing]

namespace PeriodicClient

/-- A cancellation is the first to find its periodic I/O. -/
def FirstCancel (client : PeriodicClient) : PeriodicStep → Prop
  | .cancel id => ∀ io, client.ios id = some io → io.cancels = 0
  | .submit _ _ | .waited _ | .expire _ _ | .callbackEnd _ | .take | .reinit | .complete _
  | .settle => True

namespace CompletionsKept

lemma queue (list : PeriodicIoList) : (client.queuePeriodicIo periodNs list).CompletionsKept := by
  have fresh : client.ios client.periodicIoCounter = none := kept.numbered _ le_rfl
  refine ⟨fun id missing => ?_, fun id beyond => ?_, fun id io found => ?_⟩
  · by_cases new : id = client.periodicIoCounter
    · exact new ▸ kept.unknown _ fresh
    · exact kept.unknown id ((client.queuePeriodicIo_old _ _ new).symm.trans missing)
  · have older : client.periodicIoCounter < id := beyond
    rw [client.queuePeriodicIo_old _ _ (by omega)]
    exact kept.numbered id (by omega)
  · by_cases new : id = client.periodicIoCounter
    · subst new
      rw [client.queuePeriodicIo_new] at found
      cases found
      have none_waits : client.waiting client.periodicIoCounter = 0 := kept.unknown _ fresh
      exact ⟨none_waits.le, Nat.zero_le 1, fun _ => (congrArg (· + 1) none_waits).le⟩
    · rw [client.queuePeriodicIo_old _ _ new] at found
      obtain ⟨waits, once, done⟩ := kept.kept id io found
      exact ⟨waits, once, done⟩

lemma submit (listAllocated : Bool) : (client.submit periodNs listAllocated).CompletionsKept := by
  unfold PeriodicClient.submit
  split
  · exact kept.queue _
  · split
    · exact kept.queue _
    · exact kept

lemma cancel (first : ∀ io, client.ios id = some io → io.cancels = 0) :
    (client.cancel id).CompletionsKept := by
  unfold PeriodicClient.cancel
  cases found : client.ios id with
  | none => exact kept
  | some io =>
    have uncancelled := first io found
    obtain ⟨waits, -, done⟩ := kept.kept id io found
    refine kept.change found rfl rfl (fun other ne => update_of_ne ne ..)
      (fun _ _ => Iff.rfl) ⟨?_, ?_, fun idle => ?_⟩
    · simpa using waits
    · simp [uncancelled]
    · have before := done idle
      simp only [update_self]
      omega

lemma waited (ran : client.waited id = some next) : next.CompletionsKept := by
  obtain ⟨io, found, waits, positive, rfl⟩ := waited_cases ran
  have old := kept.kept id io found
  refine kept.change found rfl rfl (fun other ne => update_of_ne ne ..)
    (fun _ _ => Iff.rfl) ⟨?_, old.once, fun idle => ?_⟩
  · have before := old.waits
    simp only [update_self]
    omega
  · have before := old.done idle
    simp only [update_self]
    omega

lemma take (ran : client.take = some next) : next.CompletionsKept := by
  obtain ⟨idle, id, rest, -, rfl | rfl⟩ := take_cases ran
  · exact kept.frame rfl rfl rfl fun _ => Iff.rfl
  · exact kept.frame rfl rfl rfl fun other => by simp [Executing, idle]

lemma reinit (ran : client.reinit = some next) : next.CompletionsKept := by
  obtain ⟨id, io, taken, found, rfl⟩ := reinit_cases ran
  have old := kept.kept id io found
  refine kept.change found rfl rfl (fun _ _ => rfl) (fun other ne => ?_)
    ⟨old.waits, old.once, fun idle => absurd rfl idle⟩
  simp [Executing, taken, Ne.symm ne]

lemma complete {error : Int}
    (ran : client.complete error = some next) : next.CompletionsKept := by
  obtain ⟨id, io, running, found, rfl⟩ := complete_cases ran
  have old := kept.kept id io found
  refine kept.change found rfl rfl (fun _ _ => rfl) (fun other ne => ?_)
    ⟨old.waits, old.once, fun _ => ?_⟩
  · simp [Executing, running, Ne.symm ne]
  · -- The count is at least one, and no more cancellations wait than have found the I/O.
    have before := old.waits
    show client.waiting id + 1 ≤ io.ioDone + 1 + io.cancels
    omega

lemma settle (ran : client.settle = some next) : next.CompletionsKept := by
  obtain ⟨id, io, completed, found, rfl⟩ := settle_cases ran
  have old := kept.kept id io found
  have idle : ¬client.Executing id := by simp [Executing, completed]
  refine kept.change found rfl rfl (fun _ _ => rfl) (fun other _ => ?_)
    ⟨old.waits, old.once, fun _ => old.done idle⟩
  simp [Executing, completed]

/-- Every step that does not cancel a periodic I/O again keeps the completions. -/
lemma step {step : PeriodicStep}
    (first : client.FirstCancel step) (ran : client.step step = some next) :
    next.CompletionsKept := by
  cases step with
  | submit periodNs listAllocated =>
    cases ran
    exact kept.submit listAllocated
  | cancel id =>
    cases ran
    exact kept.cancel first
  | waited id => exact kept.waited ran
  | expire periodNs proxyAllocated =>
    obtain ⟨list, -, -, -, rfl⟩ := expire_cases ran
    exact kept.frame rfl rfl rfl fun _ => Iff.rfl
  | callbackEnd periodNs =>
    obtain ⟨list, -, ⟨-, rfl⟩ | ⟨-, rfl⟩⟩ := callbackEnd_cases ran
    all_goals exact kept.frame rfl rfl rfl fun _ => Iff.rfl
  | take => exact kept.take ran
  | reinit => exact kept.reinit ran
  | complete error => exact kept.complete ran
  | settle => exact kept.settle ran

end CompletionsKept

end PeriodicClient

end

/-- In every run in which no periodic I/O is cancelled again, a cancellation is held up only
while an execution of its periodic I/O is going on. -/
theorem periodic_io_cancel_blocks (steps : List PeriodicStep) {client : PeriodicClient}
    (ran : steps.foldlM step .initial = some client)
    (first : Lib.Runs.AlongM step FirstCancel .initial steps) :
    ∀ id, client.Blocks id → client.Executing id := by
  have kept : client.CompletionsKept := foldlM_invariant_along CompletionsKept step FirstCancel
    (fun _ _ _ kept first stepped => kept.step first stepped) steps .initial first ran
  rintro id ⟨waits, io, found, consumed⟩
  by_contra idle
  obtain ⟨-, once, done⟩ := kept.kept id io found
  have enough := done idle
  omega

instance PeriodicClient.instDecidableFirstCancel (client : PeriodicClient)
    (step : PeriodicStep) : Decidable (client.FirstCancel step) :=
  match step with
  | .cancel id =>
    match found : client.ios id with
    | none => .isTrue fun _ had => by cases found.symm.trans had
    | some io =>
      decidable_of_iff (io.cancels = 0)
        ⟨fun none _ had => Option.some.inj (found.symm.trans had) ▸ none, fun all => all io found⟩
  | .submit _ _ | .waited _ | .expire _ _ | .callbackEnd _ | .take | .reinit | .complete _
  | .settle => .isTrue trivial

/-- A cancellation during an execution is held up, and the execution is going on. -/
theorem periodic_io_cancel_blocks_running :
    ∃ client, [.submit 5 true, .expire 5 fun _ => true, .take, .reinit, .cancel 0].foldlM
        step .initial = some client ∧
      client.Blocks 0 ∧ client.Executing 0 := by
  obtain ⟨client, ran, waits, found⟩ : ∃ client,
      [.submit 5 true, .expire 5 fun _ => true, .take, .reinit, .cancel 0].foldlM
        step .initial = some client ∧
      client.waiting 0 = 1 ∧ client.ios 0 = some ⟨5, false, -125, 0, 1⟩ :=
    exists_reached _ (by decide +kernel)
  have blocks : client.Blocks 0 := ⟨by omega, _, found, rfl⟩
  exact ⟨client, ran, blocks, periodic_io_cancel_blocks _ ran
    (alongM_of_check (by decide +kernel)) 0 blocks⟩

/-- A periodic I/O that never runs is cancelled twice: the first cancellation takes the only
completion there is, and the second is held up for good. -/
theorem periodic_io_cancel_again_blocks :
    ∃ client, [.submit 5 true, .cancel 0, .waited 0, .cancel 0].foldlM step .initial = some client ∧
      client.Blocks 0 ∧ ¬client.Executing 0 := by
  obtain ⟨client, ran, waits, found, idle⟩ : ∃ client,
      [.submit 5 true, .cancel 0, .waited 0, .cancel 0].foldlM step .initial = some client ∧
      client.waiting 0 = 1 ∧ client.ios 0 = some ⟨5, false, -125, 0, 2⟩ ∧ client.worker = .idle :=
    exists_reached _ (by decide +kernel)
  refine ⟨client, ran, ⟨by omega, _, found, rfl⟩, ?_⟩
  simp [Executing, idle]

end GsKernel.Lwis
