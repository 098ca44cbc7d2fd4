import GsKernel.Gcip.AwaiterRefs

/-!
# What the steps of a mailbox do to awaiters

Every step of a put, a timeout work or another call is, for every awaiter, a sequence of
moves.
-/

namespace GsKernel.Gcip

open Lib.Tasks Relation AwaiterView Call Mailbox List Nat

variable {ρ : Type*}

namespace MailboxSystem

variable {ops : MailboxOps ρ} {system next : MailboxSystem ρ}

/-- `after_enqueue_cmd` does not fail; and where `handle_awaiter_flushed` is not defined, so that
a flush releases awaiters in their owners' place, it takes none off the wait list that its owner
has released, and the owner does not release one that is being flushed. -/
def Permitted (ops : MailboxOps ρ) (system : MailboxSystem ρ) : MailboxEvent ρ → Prop
  | .continuePut id succeeds => (system.shared.awaiters id).put.isQueued = true → succeeds = true
  | .releaseAwaiter id =>
    ops.handlesFlushed = true ∨ (system.view id).flushes = 0
  | .continueCall index =>
    ops.handlesFlushed = true ∨ (system.tasks[index]?.any Call.takesEntries = true →
      ∀ id ∈ system.shared.waitList, (system.shared.awaiters id).owned = true)
  | _ => True

variable {shared : Mailbox ρ}

/-- An awaiter that a step of a put or a timeout is not about. -/
lemma view_of_ne {id : Nat} (same : shared.awaiters id = system.shared.awaiters id)
    (entries : shared.waitList.count id = system.shared.waitList.count id) :
    MailboxSystem.view ⟨shared, system.tasks⟩ id = system.view id := by
  simp only [view, same, entries]

lemma move_continuePut {id : Nat} {succeeds : Bool}
    (permitted : system.Permitted ops (.continuePut id succeeds))
    (ran : system.shared.continuePut ops id succeeds = some shared) :
    Move ops.handlesFlushed (system.view id) (MailboxSystem.view ⟨shared, system.tasks⟩ id) := by
  unfold continuePut at ran
  cases put : (system.shared.awaiters id).put <;> simp only [put, reduceCtorEq] at ran
  case locking =>
    split at ran
    · cases ran
      simp only [view, setPut, update_self, update_waitList]
      exact .putEarly _ _ _ (.inl put) (.inl ⟨_, rfl⟩)
    · simp at ran
  case waiting seq =>
    split at ran
    · cases ran
      simp only [view, update_self, update_waitList]
      cases resp : (system.shared.awaiters id).resp with
      | none => exact .putEarly _ _ _ (.inr (.inl ⟨_, put⟩)) (.inr (.inr (.inl ⟨_, rfl⟩)))
      | some buffer => exact .putEarly _ _ _ (.inr (.inl ⟨_, put⟩)) (.inr (.inl ⟨_, rfl⟩))
    · cases ran
      simp only [view, setPut, update_self, update_waitList]
      exact .putEarly _ _ _ (.inr (.inl ⟨_, put⟩)) (.inr (.inr (.inr rfl)))
  case pushing seq =>
    split at ran
    · cases ran
      simp only [view, update_self, update_waitList]
      exact .takeEntry _ _ put
    · cases ran
      simp only [view, setPut, update_self, update_waitList]
      exact .putEarly _ _ _ (.inr (.inr ⟨_, put⟩)) (.inr (.inr (.inr rfl)))
  case adding seq =>
    cases ran
    simp only [view, setPut, update_self, count_append, count_singleton_self]
    exact .addEntry _ _ put
  case queued seq =>
    rw [if_pos (permitted (by rw [put]; rfl))] at ran
    cases ran
    simp only [view, setPut, update_self, update_waitList]
    exact .putDone _ _ put
  case failed =>
    cases timeout : (system.shared.awaiters id).timeout <;> simp only [timeout, reduceCtorEq] at ran
    case idle =>
      cases ran
      simp only [view, setPut, update_self, update_waitList]
      exact .putIdle _ put timeout
    case pending =>
      cases ran
      simp only [view, setPut, setTimeout, update_self, update_waitList]
      exact .putCancels _ put timeout
  case dropping =>
    cases ran
    simp only [view, setPut, awaiterDecRefs, update_self, update_waitList]
    exact .putDrops _ put
  case freeing =>
    cases ran
    simp only [view, update_self, update_waitList]
    exact .putFrees _ put

variable {handles : Bool} {subject : Nat} {change : Awaiter ρ → Awaiter ρ} {calls : List (Call ρ)}

variable {mailbox : Mailbox ρ}

/-- A move of the awaiter that an update is about is one for every awaiter. -/
lemma moves_update (move : Move handles (view ⟨mailbox, calls⟩ subject)
      { view ⟨mailbox, calls⟩ subject with awaiter := change (mailbox.awaiters subject) })
    (id : Nat) :
    ReflTransGen (Move handles) (view ⟨mailbox, calls⟩ id)
      (view ⟨mailbox.update subject change, calls⟩ id) := by
  by_cases same : id = subject
  · subst same
    refine .single ?_
    simpa only [view, update_self, update_waitList] using move
  · simp only [view, update_of_ne _ _ _ same, update_waitList]
    exact .refl

/-- The entry that a deletion removes loses the reference of its entry. -/
lemma moves_delWaitResp (mailbox : Mailbox ρ) (calls : List (Call ρ)) (subject seq id : Nat) :
    ReflTransGen (Move ops.handlesFlushed) (view ⟨mailbox, calls⟩ id)
      (view ⟨(mailbox.delWaitResp ops subject seq).1, calls⟩ id) := by
  unfold delWaitResp
  split
  · exact .refl
  rename_i entry found
  have listed := mem_of_find?_eq_some found
  by_cases same : id = entry
  · subst same
    have counted : mailbox.waitList.count id = (mailbox.waitList.erase id).count id + 1 := by
      have positive := count_pos_iff.mpr listed
      rw [count_erase_self]
      omega
    refine .single ?_
    simp only [view, record, awaiterDecRefs, update_self, update_waitList, counted]
    exact .removeEntry _
  · simp only [view, record, awaiterDecRefs, update_of_ne _ _ _ same,
      update_waitList, count_erase_of_ne same]
    exact .refl

lemma delWaitResp_timeout (mailbox : Mailbox ρ) (subject seq id : Nat) :
    ((mailbox.delWaitResp ops subject seq).1.awaiters id).timeout =
      (mailbox.awaiters id).timeout := by
  unfold delWaitResp
  split
  · rfl
  rename_i entry found
  by_cases same : id = entry
  · subst same
    simp only [record, awaiterDecRefs, update_self]
    rfl
  · simp only [record, awaiterDecRefs, update_of_ne _ _ _ same]

variable {mailbox shared : Mailbox ρ}

lemma moves_continueTimeout
    (ran : mailbox.continueTimeout ops subject = some shared) (id : Nat) :
    ReflTransGen (Move ops.handlesFlushed) (view ⟨mailbox, calls⟩ id)
      (view ⟨shared, calls⟩ id) := by
  unfold continueTimeout at ran
  cases timeout : (mailbox.awaiters subject).timeout <;> simp only [timeout, reduceCtorEq] at ran
  case pending | running =>
    cases ran
    exact moves_update (.timeoutWork _ _ (by simp [timeout]) (by simp)) id
  case deleting seq =>
    cases ran
    refine (moves_delWaitResp mailbox calls subject seq id).trans ?_
    refine moves_update (.timeoutWork _ _ ?_ (by simp)) id
    simp [delWaitResp_timeout, timeout]
  case handling removed =>
    cases ran
    cases removed with
    | true =>
      show ReflTransGen _ _ (view ⟨mailbox.setTimeout subject .dropping, calls⟩ id)
      exact moves_update (.timeoutWork _ _ (by simp [timeout]) (by simp)) id
    | false => exact moves_update (.timeoutWork _ _ (by simp [timeout]) (by simp)) id
  case dropping =>
    cases ran
    rw [setTimeout, awaiterDecRefs, update_update]
    exact moves_update (.timeoutEnds _ timeout) id

lemma view_perm {calls others : List (Call ρ)} (same : calls.Perm others)
    (id : Nat) : view ⟨shared, calls⟩ id = view ⟨shared, others⟩ id := by
  simp only [view, total_perm _ same]

lemma view_call (shared : Mailbox ρ) (call : Call ρ) (others : List (Call ρ)) (id : Nat) :
    view ⟨shared, call :: others⟩ id = ⟨shared.awaiters id, shared.waitList.count id,
        total (holdsEntry id) others + call.holdsEntry id,
        total (dropsTimeout id) others + call.dropsTimeout id,
        total (flushes id) others + call.flushes id,
        total (mentions id) others + call.mentions id⟩ := by
  simp only [view, total_cons, add_comm]

lemma awaiterDecRefs_owned (mailbox : Mailbox ρ) (subject id : Nat) :
    ((mailbox.awaiterDecRefs subject).awaiters id).owned = (mailbox.awaiters id).owned := by
  by_cases same : id = subject
  · subst same
    rw [awaiterDecRefs, update_self]
    rfl
  · rw [awaiterDecRefs, update_of_ne _ _ _ same]

/-- The locked section of a flush moves every entry of the wait list to the flush. -/
lemma moves_flush (entries : List Nat) (mailbox : Mailbox ρ) (id : Nat)
    (held dropping flushes mentions : Nat) (owned : handles = true ∨
      ∀ entry ∈ entries, (mailbox.awaiters entry).owned = true) :
    ReflTransGen (Move handles)
      ⟨mailbox.awaiters id, entries.count id, held, dropping, flushes, mentions⟩
      ⟨(entries.foldl awaiterDecRefs mailbox).awaiters id, 0, held, dropping,
        flushes + entries.count id, mentions⟩ := by
  induction entries generalizing mailbox flushes with
  | nil => exact .refl
  | cons entry entries ih =>
    have later (other : Nat) : handles = true ∨ ∀ entry ∈ entries,
        ((mailbox.awaiterDecRefs other).awaiters entry).owned = true := by
      refine owned.imp_right fun owned entry mem => ?_
      rw [awaiterDecRefs_owned]
      exact owned entry (mem_cons_of_mem _ mem)
    by_cases same : id = entry
    · subst same
      rw [count_cons_self]
      refine .head (.flush _ (owned.imp_right fun owned => owned id mem_cons_self)) ?_
      have rest := ih (mailbox.awaiterDecRefs id) (flushes + 1) (later id)
      rw [awaiterDecRefs, update_self, add_assoc, add_comm 1] at rest
      exact rest
    · rw [count_cons_of_ne (Ne.symm same)]
      have rest := ih (mailbox.awaiterDecRefs entry) flushes (later entry)
      rw [awaiterDecRefs, update_of_ne _ _ _ same] at rest
      exact rest

lemma foldl_awaiterDecRefs_waitList (entries : List Nat) (mailbox : Mailbox ρ) :
    (entries.foldl awaiterDecRefs mailbox).waitList = mailbox.waitList := by
  induction entries generalizing mailbox with
  | nil => rfl
  | cons entry entries ih => exact ih _

variable {rest others : List (Call ρ)}

/-- A step of a call about one awaiter that updates this awaiter. -/
lemma moves_call {call : Call ρ}
    (moves : ReflTransGen (Move handles) (view ⟨mailbox, call :: others⟩ subject)
      { view ⟨mailbox, rest ++ others⟩ subject with awaiter := change (mailbox.awaiters subject) })
    (frame : ∀ id, id ≠ subject →
      view ⟨mailbox, call :: others⟩ id = view ⟨mailbox, rest ++ others⟩ id) (id : Nat) :
    ReflTransGen (Move handles) (view ⟨mailbox, call :: others⟩ id)
      (view ⟨mailbox.update subject change, rest ++ others⟩ id) := by
  by_cases same : id = subject
  · subst same
    simpa only [view, update_self, update_waitList] using moves
  · rw [frame id same]
    simp only [view, update_of_ne _ _ _ same, update_waitList]
    exact .refl

/-- A call whose step passes what it holds of each awaiter on. -/
lemma moves_continueCall {call : Call ρ} (owned : ops.handlesFlushed = true ∨
      (call.takesEntries = true → ∀ id ∈ mailbox.waitList, (mailbox.awaiters id).owned = true))
    (ran : mailbox.continueCall ops call () = some (shared, rest)) (id : Nat) :
    ReflTransGen (AwaiterView.Move ops.handlesFlushed) (view ⟨mailbox, call :: others⟩ id)
      (view ⟨shared, rest ++ others⟩ id) := by
  unfold Mailbox.continueCall at ran
  cases call with
  | handleResponse resp =>
    simp only at ran
    split at ran
    · cases ran
      rw [view_call]
      exact .refl
    rename_i entry found
    cases ran
    have listed := count_pos_iff.mpr (mem_of_find?_eq_some found)
    rw [singleton_append, view_call, view_call]
    by_cases same : id = entry
    · subst same
      have counted : mailbox.waitList.count id = (mailbox.waitList.erase id).count id + 1 := by
        rw [count_erase_self]
        omega
      refine .single ?_
      simp only [Call.holdsEntry, Call.dropsTimeout, Call.flushes, Call.mentions, if_true,
        add_zero, Mailbox.update_self, counted]
      exact .arrive _ _
    · simp only [Call.holdsEntry, Call.dropsTimeout, Call.flushes, Call.mentions,
        if_neg (Ne.symm same), Mailbox.update_of_ne _ _ _ same, count_erase_of_ne same]
      exact .refl
  | arrived subject resp =>
    simp only at ran
    by_cases pending : (mailbox.awaiters subject).timeout = .pending
    · rw [if_pos pending] at ran
      cases ran
      refine moves_call ?_ (fun other ne => by simp [view_call, ne.symm]) id
      simp only [singleton_append, view_call, Call.holdsEntry, Call.dropsTimeout,
        Call.flushes, Call.mentions, if_true, add_zero]
      exact .single (.cancelTimeout _ pending (by omega))
    · rw [if_neg pending] at ran
      cases ran
      exact .refl
  | arrivedDropping subject resp | flushDropping subject entries =>
    cases ran
    refine moves_call ?_ (fun other ne => by simp [view_call, ne.symm]) id
    simp only [singleton_append, view_call, Call.holdsEntry, Call.dropsTimeout, Call.flushes,
      Call.mentions, if_true, add_zero]
    exact .single (.dropTimeout _)
  | arrivedHandling subject resp | cancelAwaiter subject =>
    cases ran
    exact .refl
  | arrivedReleasing subject =>
    cases ran
    refine moves_call ?_ (fun other ne => by simp [view, ne.symm]) id
    simp only [nil_append, view_call, Call.holdsEntry, Call.dropsTimeout, Call.flushes,
      Call.mentions, if_true, add_zero]
    exact .tail (.single (.releaseEntry _)) (.returns _)
  | cancelDeleting subject seq =>
    cases ran
    exact moves_delWaitResp mailbox (.cancelDeleting subject seq :: others) subject seq id
  | cancelTimeout subject removed =>
    simp only at ran
    split at ran
    · cases ran
      have ends : ReflTransGen (AwaiterView.Move ops.handlesFlushed)
          (view ⟨mailbox, .cancelTimeout subject removed :: others⟩ id)
          (view ⟨mailbox, others⟩ id) := by
        rw [view_call]
        by_cases same : subject = id
        · simp only [Call.holdsEntry, Call.dropsTimeout, Call.flushes, Call.mentions, if_pos same,
            add_zero]
          exact .single (.returns _)
        · simp only [Call.holdsEntry, Call.dropsTimeout, Call.flushes, Call.mentions, if_neg same,
            add_zero]
          exact .refl
      cases removed <;> exact ends
    · rename_i pending
      cases ran
      refine moves_call ?_ (fun other ne => by simp [view_call, ne.symm]) id
      simp only [singleton_append, view_call, Call.holdsEntry, Call.dropsTimeout,
        Call.flushes, Call.mentions, if_true, add_zero]
      exact .single (.cancelTimeout _ pending (by omega))
    · simp at ran
  | cancelDropping subject removed =>
    cases ran
    have ends : ReflTransGen (AwaiterView.Move ops.handlesFlushed)
        (view ⟨mailbox, .cancelDropping subject removed :: others⟩ id)
        (view ⟨mailbox.awaiterDecRefs subject, [] ++ others⟩ id) := by
      refine moves_call ?_ (fun other ne => by simp [view, ne.symm]) id
      simp only [nil_append, view_call, Call.holdsEntry, Call.dropsTimeout, Call.flushes,
        Call.mentions, if_true, add_zero]
      exact .tail (.single (.dropTimeout _)) (.returns _)
    cases removed <;> exact ends
  | flushAwaiter =>
    cases ran
    rw [singleton_append, view_call, view_call, foldl_awaiterDecRefs_waitList]
    exact moves_flush mailbox.waitList { mailbox with waitList := [] } id _ _ _ _
      (owned.imp_right fun owned => owned rfl)
  | flushing entries =>
    cases entries with
    | nil =>
      cases ran
      rw [view_call]
      exact .refl
    | cons subject entries =>
      simp only at ran
      split at ran
      · cases ran
        exact .refl
      · rename_i pending
        cases ran
        refine moves_call ?_ (fun other ne => by simp [view_call, ne.symm]) id
        simp only [singleton_append, view_call, Call.holdsEntry, Call.dropsTimeout,
          Call.flushes, Call.mentions, if_true, add_zero, count_cons_self]
        exact .single (.cancelTimeout _ pending (by omega))
      · simp at ran
  | flushHandling subject entries =>
    cases ran
    cases handles : ops.handlesFlushed with
    | true =>
      rw [singleton_append, view_call, view_call]
      by_cases same : subject = id
      · subst same
        simp only [Call.flushes, count_cons_self]
        exact .single (.flushed _ rfl)
      · simp only [Call.flushes, count_cons_of_ne same]
        exact .refl
    | false =>
      have released : ReflTransGen (AwaiterView.Move false)
          (view ⟨mailbox, .flushHandling subject entries :: others⟩ id)
          (view ⟨mailbox.update subject ((fun awaiter => { awaiter with owned := false }) ∘
            Awaiter.decRefs), [.flushing entries] ++ others⟩ id) := by
        refine moves_call ?_ (fun other ne => by simp [view_call, count_cons_of_ne ne.symm]) id
        simp only [singleton_append, view_call, Call.holdsEntry, Call.dropsTimeout,
          Call.flushes, Call.mentions, add_zero, count_cons_self]
        exact .single (.flushReleases _ rfl)
      rw [← Mailbox.update_update] at released
      exact released

/-- What a step does to each awaiter. -/
lemma step_moves {event : MailboxEvent ρ} (permitted : system.Permitted ops event)
    (stepped : system.step ops event = some next) (id : Nat) :
    ReflTransGen (AwaiterView.Move ops.handlesFlushed) (system.view id) (next.view id) := by
  cases event with
  | putCmdFlags subject resp noTimeout =>
    obtain ⟨shared, put, rfl⟩ := Option.map_eq_some_iff.mp stepped
    unfold Mailbox.putCmdFlags at put
    split at put
    · rename_i absent
      cases put
      exact moves_update (.create _ resp noTimeout absent) id
    · simp at put
  | continuePut subject succeeds =>
    obtain ⟨shared, put, rfl⟩ := Option.map_eq_some_iff.mp stepped
    by_cases same : id = subject
    · subst same
      exact .single (move_continuePut permitted put)
    · obtain ⟨awaiter, entries⟩ := Mailbox.continuePut_frame same put
      rw [view_of_ne awaiter entries]
  | continueTimeout subject =>
    obtain ⟨shared, put, rfl⟩ := Option.map_eq_some_iff.mp stepped
    exact moves_continueTimeout put id
  | handleResponse resp | flushAwaiter =>
    cases stepped
    rw [view_call]
    exact .refl
  | cancelAwaiter subject =>
    simp only [step] at stepped
    split at stepped
    · rename_i known
      cases stepped
      rw [view_call]
      by_cases same : subject = id
      · subst same
        simp only [Call.holdsEntry, Call.dropsTimeout, Call.flushes, Call.mentions, if_true,
          add_zero]
        exact .single (.cancel _ known.1)
      · simp only [Call.holdsEntry, Call.dropsTimeout, Call.flushes, Call.mentions, if_neg same,
          add_zero]
        exact .refl
    · simp at stepped
  | releaseAwaiter subject =>
    simp only [step] at stepped
    split at stepped
    · rename_i known
      cases stepped
      rw [Mailbox.awaiterDecRefs, Mailbox.update_update]
      exact moves_update (.release _ known.2 known.1 permitted) id
    · simp at stepped
  | continueCall index =>
    obtain ⟨call, others, rest, chosen, ran, same, left⟩ := Pool.run_eq_some stepped
    have before : system.view id = view ⟨system.shared, call :: others⟩ id := view_perm same id
    have after : next.view id = view ⟨next.shared, rest ++ others⟩ id := by
      simp only [view, left]
    rw [before, after]
    simp only [Permitted, chosen, Option.any_some] at permitted
    exact moves_continueCall permitted ran id

end MailboxSystem

end GsKernel.Gcip
