import GsKernel.Lwis.PeriodicSubmit

/-!
# The clean-up of a failed submission

The command that submits a periodic I/O has five stages that can fail. When its construction does,
it releases a lock not yet taken; when the creation of a timer list does, the response is freed
twice. All other failures are cleaned up.
-/

namespace GsKernel.Lwis

open List

/-- `lwis_periodic_io_submit` gets as far as queueing. -/
def ReachesQueue (bitwidth : UInt32) (replies : PeriodicReplies) (submission : Submission) : Prop :=
  replies.eventsReady = true ∧ (preparePeriodicResponse (regValueBytewidth
    bitwidth).toNat submission.info).isSome = true ∧ replies.responseAllocated = true

/-- The period of a submission has a timer list, or gets one. -/
def FindsList (replies : PeriodicReplies) (submission : Submission) (lists : TimerLists) : Prop :=
  (lists submission.periodNs).isSome = true ∨ replies.listAllocated = true

open SubmitState

/-- The three ways `lwis_periodic_io_submit` ends. -/
lemma periodicIoSubmit_cases (bitwidth : UInt32) (replies : PeriodicReplies)
    (submission : Submission) (lists : TimerLists) :
    let outcome := periodicIoSubmit bitwidth replies submission lists
    (¬ReachesQueue bitwidth replies submission ∧ outcome = ⟨[], false, false⟩) ∨
    (FindsList replies submission lists ∧ outcome.submitted = true ∧
      ∀ state, (outcome.trace.foldl act state).lock = state.lock ∧
        (outcome.trace.foldl act state).misused = state.misused) ∨
    (ReachesQueue bitwidth replies submission ∧ ¬FindsList replies submission lists ∧
      outcome = ⟨[.alloc .response, .free .response], false, true⟩) := by
  simp only [periodicIoSubmit]
  split
  next missing => exact .inl ⟨by simp_all [ReachesQueue], rfl⟩
  split
  next missing => exact .inl ⟨by simp_all [ReachesQueue], rfl⟩
  split
  next missing => exact .inl ⟨by simp_all [ReachesQueue], rfl⟩
  next events sizes response =>
    refine .inr ?_
    simp only [queuePeriodicIoLocked]
    cases found : lists submission.periodNs with
    | some ids => exact .inl ⟨.inl (by rw [found, Option.isSome_some]), rfl, fun _ => ⟨rfl, rfl⟩⟩
    | none =>
      cases created : replies.listAllocated with
      | true => exact .inl ⟨.inr created, rfl, fun _ => ⟨rfl, rfl⟩⟩
      | false =>
        refine .inr ⟨⟨by simpa using events, ?_, by simpa using response⟩, ?_, rfl⟩
        · simpa [Option.isSome_iff_ne_none] using sizes
        · simp [FindsList, found, created]

/-- A submission that fails before it queues anything is clean. -/
lemma submitsCleanly_early (submission : Submission) (lists : TimerLists) :
    SubmitsCleanly lists (submission.objects.map .alloc ++ [.lock] ++ [] ++
      periodicIoFree submission false ++ [.unlock], false) := by
  refine ⟨?_, ?_, fun _ => ?_, fun _ => ?_⟩
  all_goals simp only [stateAfter, periodicIoFree, foldl_append, foldl_allocs, foldl_frees]
  all_goals simp only [foldl, act, Bool.false_eq_true, if_false]
  · rfl
  · refine ⟨submission.objects_nodup, ?_⟩
    exact (perm_append_singleton _ _).trans ((perm_append_singleton _ _).cons _)

/-- A submission whose timer list cannot be allocated frees the response twice. -/
lemma not_submitsCleanly_twice (submission : Submission) (lists : TimerLists) :
    ¬SubmitsCleanly lists (submission.objects.map .alloc ++ [.lock] ++
      [.alloc .response, .free .response] ++ periodicIoFree submission true ++ [.unlock],
      false) := by
  intro clean
  obtain ⟨distinct, same⟩ := clean.once rfl
  have repeated := same.nodup_iff.mpr distinct
  simp [stateAfter, periodicIoFree, foldl_append, act] at repeated

/-- A submission unlocks the client only when it holds the lock, and fails without a trace,
exactly when the periodic I/O can be constructed and, once its response is there, its period has
a timer list or gets one. -/
theorem cmd_periodic_io_submit_clean (bitwidth : UInt32) (replies : PeriodicReplies)
    (submission : Submission) (lists : TimerLists) :
    SubmitsCleanly lists (cmdPeriodicIoSubmit bitwidth replies submission lists) ↔
      Constructs bitwidth replies submission ∧
        (ReachesQueue bitwidth replies submission →
          FindsList replies submission lists) := by
  obtain ⟨constructs, objects, leaves⟩ :=
    constructPeriodicIoFromCmd_spec bitwidth replies submission
  simp only [cmdPeriodicIoSubmit]
  cases done : (constructPeriodicIoFromCmd bitwidth replies submission).2 with
  | false =>
    refine ⟨fun clean => ?_, fun sound => absurd (constructs.mpr sound.1) (by simp [done])⟩
    have proper := clean.proper
    simp [stateAfter, foldl_append, act, leaves _] at proper
  | true =>
    rw [objects done, ← constructs]
    rcases periodicIoSubmit_cases bitwidth replies submission lists with
      ⟨early, outcome⟩ | ⟨finds, queued, keeps⟩ | ⟨reaches, missing, outcome⟩
    · rw [outcome]
      exact ⟨fun _ => ⟨done, fun reaches => absurd reaches early⟩,
        fun _ => submitsCleanly_early submission lists⟩
    · simp only [queued, Bool.not_true, Bool.false_eq_true, if_false]
      refine ⟨fun _ => ⟨done, fun _ => finds⟩, fun _ => ⟨?_, ?_, by simp, by simp⟩⟩
      · simp [stateAfter, foldl_append, act]
      · simp [stateAfter, foldl_append, act, keeps]
    · rw [outcome]
      exact ⟨fun clean => absurd clean (not_submitsCleanly_twice submission lists),
        fun sound => absurd (sound.2 reaches) missing⟩

/-- A submission of no entries at all, every microsecond. -/
def emptySubmission (info : PeriodicInfo) : Submission where
  periodNs := 1000
  counter := 0
  info := { info with entries := [] }

/-- Answers that let everything succeed but the copy of the info and the timer list. -/
def submitReplies (infoCopied listAllocated : Bool) : PeriodicReplies where
  objectAllocated := true
  infoCopied := infoCopied
  admission := {
    entriesAllocated := true
    entriesCopied := true
    bufferAllocated := fun _ => true
    bufferCopied := fun _ => true
    bufferMap := fun _ => 0 }
  eventsReady := true
  responseAllocated := true
  listAllocated := listAllocated

/-- Info that cannot be copied makes the command release a lock it does not hold; a timer list
that cannot be allocated makes it free the response twice. -/
theorem cmd_periodic_io_submit_unclean :
    let submission := emptySubmission ⟨1, [], by decide⟩
    (stateAfter (fun _ => none) (cmdPeriodicIoSubmit 32 (submitReplies false true) submission
      fun _ => none).1).misused = true ∧
    (stateAfter (fun _ => none) (cmdPeriodicIoSubmit 32 (submitReplies true false) submission
      fun _ => none).1).freed.count .response = 2 := by
  decide +kernel

end GsKernel.Lwis
