import GsKernel.Gcip.Mailbox

/-!
# References of awaiters

The owner, the entry on the wait list or the handler that has taken it, and the timeout work hold
a reference each. What a step does to one awaiter and its users is one of a few moves, from which
the balance of the references follows.
-/

namespace GsKernel.Gcip

open Lib.Tasks Relation Awaiter PutPhase TimeoutPhase Bool Nat

variable {ρ : Type*}

def PutPhase.holdsEntry : PutPhase → Nat
  | .adding _ => 1
  | _ => 0

def PutPhase.dropsTimeout : PutPhase → Nat
  | .dropping => 1
  | _ => 0

/-- The put has made the awaiter and neither queued nor freed it. -/
def PutPhase.isEarly : PutPhase → Bool
  | .absent | .queued _ | .done _ | .freed => false
  | _ => true

/-- There is no timeout work: the put has not armed it, or has failed and cancelled it. -/
def PutPhase.isLate : PutPhase → Bool
  | .absent | .dropping | .freeing | .freed => true
  | _ => false

def TimeoutPhase.isActive : TimeoutPhase → Bool
  | .idle => false
  | _ => true

namespace Call

/-- The handler of a response that has taken the entry of the awaiter. -/
@[simp]
def holdsEntry (id : Nat) : Call ρ → Nat
  | arrived awaiter _ | arrivedDropping awaiter _ | arrivedHandling awaiter _
  | arrivedReleasing awaiter => if awaiter = id then 1 else 0
  | _ => 0

/-- A call that has cancelled the timeout work and is about to drop its reference. -/
@[simp]
def dropsTimeout (id : Nat) : Call ρ → Nat
  | arrivedDropping awaiter _ | cancelDropping awaiter _ | flushDropping awaiter _ =>
    if awaiter = id then 1 else 0
  | _ => 0

/-- The entries that a flush has still to handle. -/
@[simp]
def flushes (id : Nat) : Call ρ → Nat
  | flushing entries => entries.count id
  | flushDropping awaiter entries | flushHandling awaiter entries => (awaiter :: entries).count id
  | _ => 0

/-- Arrivals and cancellations of the awaiter. -/
@[simp]
def mentions (id : Nat) : Call ρ → Nat
  | arrived awaiter _ | arrivedDropping awaiter _ | arrivedHandling awaiter _
  | arrivedReleasing awaiter | cancelAwaiter awaiter | cancelDeleting awaiter _
  | cancelTimeout awaiter _ | cancelDropping awaiter _ => if awaiter = id then 1 else 0
  | _ => 0

/-- The locked section of a flush comes next. -/
def takesEntries : Call ρ → Bool
  | flushAwaiter => true
  | _ => false

end Call

/-- An awaiter with the numbers of its entries on the wait list, of the handlers that hold one, of
the calls that drop its timeout's reference, of its entries in flushes, and of its arrivals and
cancellations. -/
structure AwaiterView (ρ : Type*) where
  awaiter : Awaiter ρ
  listed : Nat
  held : Nat
  dropping : Nat
  flushes : Nat
  mentions : Nat

def MailboxSystem.view (system : MailboxSystem ρ) (id : Nat) : AwaiterView ρ where
  awaiter := system.shared.awaiters id
  listed := system.shared.waitList.count id
  held := total (Call.holdsEntry id) system.tasks
  dropping := total (Call.dropsTimeout id) system.tasks
  flushes := total (Call.flushes id) system.tasks
  mentions := total (Call.mentions id) system.tasks

namespace AwaiterView

/-- The references that the entry accounts for. -/
def entryUses (view : AwaiterView ρ) : Nat :=
  view.awaiter.put.holdsEntry + view.listed + view.held

/-- The references that the timeout work accounts for. -/
def timeoutUses (view : AwaiterView ρ) : Nat :=
  view.awaiter.timeout.isActive.toNat + view.awaiter.put.dropsTimeout + view.dropping

def uses (view : AwaiterView ρ) : Nat :=
  view.awaiter.owned.toNat + view.entryUses + view.timeoutUses

/-- What one step can do to an awaiter: its put, its timeout work, then the calls that
take its entry, cancel its timeout or drop a reference. -/
inductive Move (handles : Bool) : AwaiterView ρ → AwaiterView ρ → Prop
  | create (w : Awaiter ρ) (resp : Option ρ) (noTimeout : Bool) {l h d f m : Nat}
      (absent : w.put = .absent) :
      Move handles ⟨w, l, h, d, f, m⟩
        ⟨{ refs := if noTimeout then 1 else 2, resp := resp, put := .locking,
           timeout := if noTimeout then .idle else .pending, owned := true, frees := 0 },
          l, h, d, f, m⟩
  | putEarly (w : Awaiter ρ) (phase : PutPhase) (resp : Option ρ) {l h d f m : Nat}
      (early : w.put = .locking ∨ (∃ seq, w.put = .waiting seq) ∨ ∃ seq, w.put = .pushing seq)
      (next : (∃ seq, phase = .waiting seq) ∨ (∃ seq, phase = .pushing seq) ∨
        (∃ seq, phase = .queued seq) ∨ phase = .failed) :
      Move handles ⟨w, l, h, d, f, m⟩ ⟨{ w with put := phase, resp := resp }, l, h, d, f, m⟩
  | takeEntry (w : Awaiter ρ) (seq : Nat) {l h d f m : Nat} (pushing : w.put = .pushing seq) :
      Move handles ⟨w, l, h, d, f, m⟩
        ⟨{ w with put := .adding seq, refs := w.refs + 1 }, l, h, d, f, m⟩
  | addEntry (w : Awaiter ρ) (seq : Nat) {l h d f m : Nat} (adding : w.put = .adding seq) :
      Move handles ⟨w, l, h, d, f, m⟩ ⟨{ w with put := .queued seq }, l + 1, h, d, f, m⟩
  | putDone (w : Awaiter ρ) (seq : Nat) {l h d f m : Nat} (queued : w.put = .queued seq) :
      Move handles ⟨w, l, h, d, f, m⟩ ⟨{ w with put := .done seq }, l, h, d, f, m⟩
  | putCancels (w : Awaiter ρ) {l h d f m : Nat} (failed : w.put = .failed)
      (pending : w.timeout = .pending) :
      Move handles ⟨w, l, h, d, f, m⟩
        ⟨{ w with put := .dropping, timeout := .idle }, l, h, d, f, m⟩
  | putIdle (w : Awaiter ρ) {l h d f m : Nat} (failed : w.put = .failed) (idle : w.timeout = .idle) :
      Move handles ⟨w, l, h, d, f, m⟩ ⟨{ w with put := .freeing }, l, h, d, f, m⟩
  | putDrops (w : Awaiter ρ) {l h d f m : Nat} (dropping : w.put = .dropping) :
      Move handles ⟨w, l, h, d, f, m⟩ ⟨{ w.decRefs with put := .freeing }, l, h, d, f, m⟩
  | putFrees (w : Awaiter ρ) {l h d f m : Nat} (freeing : w.put = .freeing) :
      Move handles ⟨w, l, h, d, f, m⟩
        ⟨{ w with put := .freed, owned := false, frees := w.frees + 1 }, l, h, d, f, m⟩
  | timeoutWork (w : Awaiter ρ) (phase : TimeoutPhase) {l h d f m : Nat} (active : w.timeout ≠ .idle)
      (next : phase ≠ .idle) :
      Move handles ⟨w, l, h, d, f, m⟩ ⟨{ w with timeout := phase }, l, h, d, f, m⟩
  | timeoutEnds (w : Awaiter ρ) {l h d f m : Nat} (dropping : w.timeout = .dropping) :
      Move handles ⟨w, l, h, d, f, m⟩ ⟨{ w.decRefs with timeout := .idle }, l, h, d, f, m⟩
  | removeEntry (w : Awaiter ρ) {l h d f m : Nat} :
      Move handles ⟨w, l + 1, h, d, f, m⟩ ⟨w.decRefs, l, h, d, f, m⟩
  | arrive (w : Awaiter ρ) (resp : Option ρ) {l h d f m : Nat} :
      Move handles ⟨w, l + 1, h, d, f, m⟩ ⟨{ w with resp := resp }, l, h + 1, d, f, m + 1⟩
  | cancel (w : Awaiter ρ) {l h d f m : Nat} (queued : w.put.isQueued = true) :
      Move handles ⟨w, l, h, d, f, m⟩ ⟨w, l, h, d, f, m + 1⟩
  | returns (w : Awaiter ρ) {l h d f m : Nat} :
      Move handles ⟨w, l, h, d, f, m + 1⟩ ⟨w, l, h, d, f, m⟩
  | cancelTimeout (w : Awaiter ρ) {l h d f m : Nat} (pending : w.timeout = .pending)
      (known : 0 < f + m) :
      Move handles ⟨w, l, h, d, f, m⟩ ⟨{ w with timeout := .idle }, l, h, d + 1, f, m⟩
  | dropTimeout (w : Awaiter ρ) {l h d f m : Nat} :
      Move handles ⟨w, l, h, d + 1, f, m⟩ ⟨w.decRefs, l, h, d, f, m⟩
  | releaseEntry (w : Awaiter ρ) {l h d f m : Nat} :
      Move handles ⟨w, l, h + 1, d, f, m⟩ ⟨w.decRefs, l, h, d, f, m⟩
  | flush (w : Awaiter ρ) {l h d f m : Nat} (owned : handles = true ∨ w.owned = true) :
      Move handles ⟨w, l + 1, h, d, f, m⟩ ⟨w.decRefs, l, h, d, f + 1, m⟩
  | flushed (w : Awaiter ρ) {l h d f m : Nat} (handled : handles = true) :
      Move handles ⟨w, l, h, d, f + 1, m⟩ ⟨w, l, h, d, f, m⟩
  | flushReleases (w : Awaiter ρ) {l h d f m : Nat} (handled : handles = false) :
      Move handles ⟨w, l, h, d, f + 1, m⟩ ⟨{ w.decRefs with owned := false }, l, h, d, f, m⟩
  | release (w : Awaiter ρ) {l h d f m : Nat} (owned : w.owned = true)
      (queued : w.put.isQueued = true) (other : handles = true ∨ f = 0) :
      Move handles ⟨w, l, h, d, f, m⟩ ⟨{ w.decRefs with owned := false }, l, h, d, f, m⟩

/-- The references of a live awaiter are its uses; without uses it has been freed once. -/
structure Balanced (refs frees uses : Nat) : Prop where
  live : frees = 0 → refs = uses
  freed : frees = if uses = 0 then 1 else 0

lemma Balanced.drop {refs frees uses : Nat} (balanced : Balanced refs frees (uses + 1)) :
    Balanced (refs - 1) (if refs = 1 then frees + 1 else frees) uses := by
  obtain ⟨live, freed⟩ := balanced
  rw [if_neg (succ_ne_zero uses)] at freed
  rw [live freed, freed]
  refine ⟨fun _ => by omega, ?_⟩
  by_cases last : uses = 0 <;> simp [last]

lemma Balanced.take {refs frees uses : Nat} (balanced : Balanced refs frees uses)
    (used : 0 < uses) : Balanced (refs + 1) frees (uses + 1) := by
  obtain ⟨live, freed⟩ := balanced
  rw [if_neg used.ne'] at freed
  exact ⟨fun _ => by rw [live freed], by simpa using freed⟩

/-- The invariant of an awaiter: its references are balanced, and nothing but the put and
the timeout work uses it before its entry is on the wait list. -/
structure Counted (handlesFlushed : Bool) (view : AwaiterView ρ) : Prop where
  balanced : view.awaiter.put ≠ .absent → Balanced view.awaiter.refs view.awaiter.frees view.uses
  unqueued : view.awaiter.put.isQueued = false →
    view.listed = 0 ∧ view.held = 0 ∧ view.dropping = 0 ∧ view.flushes = 0 ∧ view.mentions = 0
  late : view.awaiter.put.isLate = true → view.awaiter.timeout = .idle
  early : view.awaiter.put.isEarly = true → view.awaiter.owned = true
  once : view.listed + view.flushes ≤ 1
  flushOwned : handlesFlushed = false → view.flushes ≤ view.awaiter.owned.toNat

variable {handles : Bool} {view next : AwaiterView ρ}

/-- The invariant of an awaiter whose entry has been on the wait list. -/
lemma Counted.of_queued (queued : view.awaiter.put.isQueued = true)
    (balanced : Balanced view.awaiter.refs view.awaiter.frees view.uses)
    (once : view.listed + view.flushes ≤ 1)
    (flushOwned : handles = false → view.flushes ≤ view.awaiter.owned.toNat) :
    Counted handles view := by
  refine ⟨fun _ => balanced, fun unqueued => ?_, fun late => ?_, fun early => ?_, once, flushOwned⟩
  · exact absurd unqueued (by simp [queued])
  · cases put : view.awaiter.put <;> simp [put, isQueued, isLate] at queued late
  · cases put : view.awaiter.put <;> simp [put, isQueued, isEarly] at queued early

section

variable (counted : Counted handles view)
include counted

lemma Counted.balanced_of_queued (queued : view.awaiter.put.isQueued = true) :
    Balanced view.awaiter.refs view.awaiter.frees view.uses := by
  refine counted.balanced fun absent => ?_
  simp [absent, isQueued] at queued

section

variable (known : 0 < view.listed + view.held + view.dropping + view.flushes + view.mentions)
include known

/-- An awaiter that a call knows has been queued. -/
lemma Counted.queued
    :
    view.awaiter.put.isQueued = true := by
  cases queued : view.awaiter.put.isQueued with
  | true => rfl
  | false =>
    have none := counted.unqueued queued
    omega

/-- A call that drops the reference of a use that ends. -/
lemma Counted.drops
    (dropped : next.awaiter = view.awaiter.decRefs) (ends : view.uses = next.uses + 1)
    (fewer : next.listed + next.flushes ≤ view.listed + view.flushes)
    (owned : next.flushes ≤ view.flushes ∨ handles = true ∨ view.awaiter.owned = true) :
    Counted handles next := by
  have queued := counted.queued known
  have balanced := counted.balanced_of_queued queued
  have once := fewer.trans counted.once
  rw [ends] at balanced
  refine .of_queued ?_ ?_ once fun unhandled => ?_
  · rw [dropped]
    exact queued
  · rw [dropped]
    exact balanced.drop
  · rw [dropped]
    rcases owned with fewer | handled | owned
    · exact fewer.trans (counted.flushOwned unhandled)
    · exact absurd handled (by simp [unhandled])
    · rw [show view.awaiter.decRefs.owned = true from owned, toNat_true]
      omega

end

/-- A call that passes a use on. -/
lemma Counted.keeps (queued : view.awaiter.put.isQueued = true)
    {resp : Option ρ} {timeout : TimeoutPhase}
    (same : next.awaiter = { view.awaiter with resp := resp, timeout := timeout })
    (passed : view.uses = next.uses)
    (fewer : next.listed + next.flushes ≤ view.listed + view.flushes ∧
      next.flushes ≤ view.flushes) : Counted handles next := by
  have balanced := counted.balanced_of_queued queued
  rw [passed] at balanced
  refine .of_queued ?_ ?_ (fewer.1.trans counted.once) fun unhandled => ?_
  · rw [same]
    exact queued
  · rw [same]
    exact balanced
  · rw [same]
    exact fewer.2.trans (counted.flushOwned unhandled)

/-- A release of the owner's reference, by the owner or by a flush. -/
lemma Counted.releases (queued : view.awaiter.put.isQueued = true)
    (owned : view.awaiter.owned = true)
    (released : next.awaiter = { view.awaiter.decRefs with owned := false })
    (entry : next.entryUses = view.entryUses) (timeout : next.timeoutUses = view.timeoutUses)
    (fewer : next.listed + next.flushes ≤ view.listed + view.flushes)
    (none : handles = false → next.flushes = 0) : Counted handles next := by
  have balanced := counted.balanced_of_queued queued
  have ends : view.uses = next.uses + 1 := by
    simp only [uses, entry, timeout, owned, released, toNat_true, toNat_false]
    omega
  rw [ends] at balanced
  refine .of_queued ?_ ?_ (fewer.trans counted.once) fun unhandled => ?_
  · rw [released]
    exact queued
  · rw [released]
    exact balanced.drop
  · rw [none unhandled]
    exact zero_le _

end

/-- A step of an unfinished or failed put, which nothing but its timeout work knows of. -/
lemma Counted.put {w after : Awaiter ρ} {l h d f m : Nat}
    (counted : Counted handles ⟨w, l, h, d, f, m⟩) (early : w.put.isEarly = true)
    (owned : after.owned = w.owned) (late : after.put.isLate = true → after.timeout = .idle)
    (balanced : w.owned = true → Balanced w.refs w.frees (uses ⟨w, 0, 0, 0, 0, 0⟩) →
      Balanced after.refs after.frees (uses ⟨after, 0, 0, 0, 0, 0⟩)) :
    Counted handles ⟨after, l, h, d, f, m⟩ := by
  obtain ⟨created, unqueued⟩ : w.put ≠ .absent ∧ w.put.isQueued = false := by
    cases put : w.put <;> simp [put, isEarly, isQueued] at early ⊢
  obtain ⟨rfl, rfl, rfl, rfl, rfl⟩ : l = 0 ∧ h = 0 ∧ d = 0 ∧ f = 0 ∧ m = 0 :=
    counted.unqueued unqueued
  have isOwned : w.owned = true := counted.early early
  exact ⟨fun _ => balanced isOwned (counted.balanced created), fun _ => ⟨rfl, rfl, rfl, rfl, rfl⟩,
    late, fun _ => owned.trans isOwned, zero_le _, fun _ => zero_le _⟩

/-- Every move keeps the references balanced. -/
lemma Counted.move (counted : Counted handles view) (move : Move handles view next) :
    Counted handles next := by
  cases move with
  | @create w resp noTimeout l h d f m absent =>
    obtain ⟨rfl, rfl, rfl, rfl, rfl⟩ : l = 0 ∧ h = 0 ∧ d = 0 ∧ f = 0 ∧ m = 0 :=
      counted.unqueued (by simp [absent, isQueued])
    refine ⟨fun _ => ?_, fun _ => ⟨rfl, rfl, rfl, rfl, rfl⟩, fun late => ?_, fun _ => rfl,
      zero_le _, fun _ => zero_le _⟩
    · cases noTimeout <;> exact ⟨fun _ => rfl, rfl⟩
    · simp [isLate] at late
  | putEarly w phase resp early next =>
    rcases w with ⟨refs, old, put, timeout, owned, frees⟩
    rcases early with rfl | ⟨seq, rfl⟩ | ⟨seq, rfl⟩ <;>
      rcases next with ⟨seq, rfl⟩ | ⟨seq, rfl⟩ | ⟨seq, rfl⟩ | rfl <;>
      exact counted.put rfl rfl (fun late => by simp [isLate] at late) fun _ balanced => balanced
  | takeEntry w seq pushing =>
    rcases w with ⟨refs, resp, put, timeout, owned, frees⟩
    obtain rfl : put = .pushing seq := pushing
    refine counted.put rfl rfl (fun late => by simp [isLate] at late) fun isOwned balanced => ?_
    obtain rfl : owned = true := isOwned
    have taken := balanced.take (by simp only [uses, toNat_true]; omega)
    simpa only [uses, entryUses, timeoutUses, holdsEntry, dropsTimeout,
      add_zero, zero_add, add_comm, add_left_comm, add_assoc] using taken
  | @addEntry w seq l h d f m adding =>
    rcases w with ⟨refs, resp, put, timeout, owned, frees⟩
    obtain rfl : put = .adding seq := adding
    obtain ⟨rfl, rfl, rfl, rfl, rfl⟩ : l = 0 ∧ h = 0 ∧ d = 0 ∧ f = 0 ∧ m = 0 := counted.unqueued rfl
    exact .of_queued rfl (counted.balanced nofun) le_rfl fun _ => zero_le _
  | putDone w seq queued =>
    rcases w with ⟨refs, resp, put, timeout, owned, frees⟩
    obtain rfl : put = .queued seq := queued
    exact .of_queued rfl (counted.balanced_of_queued rfl) counted.once counted.flushOwned
  | putCancels w failed pending =>
    rcases w with ⟨refs, resp, put, timeout, owned, frees⟩
    obtain ⟨rfl, rfl⟩ : put = .failed ∧ timeout = .pending := ⟨failed, pending⟩
    exact counted.put rfl rfl (fun _ => rfl) fun _ balanced => balanced
  | putIdle w failed idle =>
    rcases w with ⟨refs, resp, put, timeout, owned, frees⟩
    obtain ⟨rfl, rfl⟩ : put = .failed ∧ timeout = .idle := ⟨failed, idle⟩
    exact counted.put rfl rfl (fun _ => rfl) fun _ balanced => balanced
  | putDrops w dropping =>
    rcases w with ⟨refs, resp, put, timeout, owned, frees⟩
    obtain rfl : put = .dropping := dropping
    obtain rfl : timeout = .idle := counted.late rfl
    exact counted.put rfl rfl (fun _ => rfl) fun _ balanced => balanced.drop
  | @putFrees w l h d f m freeing =>
    rcases w with ⟨refs, resp, put, timeout, owned, frees⟩
    obtain rfl : put = .freeing := freeing
    obtain rfl : timeout = .idle := counted.late rfl
    obtain rfl : owned = true := counted.early rfl
    obtain ⟨rfl, rfl, rfl, rfl, rfl⟩ : l = 0 ∧ h = 0 ∧ d = 0 ∧ f = 0 ∧ m = 0 := counted.unqueued rfl
    obtain rfl : frees = 0 := (counted.balanced nofun).freed
    exact ⟨fun _ => ⟨fun none => absurd none (by simp), rfl⟩, fun _ => ⟨rfl, rfl, rfl, rfl, rfl⟩,
      fun _ => rfl, fun early => by simp [isEarly] at early, zero_le _, fun _ => zero_le _⟩
  | @timeoutWork w phase l h d f m active next =>
    have same : uses ⟨{ w with timeout := phase }, l, h, d, f, m⟩ = uses ⟨w, l, h, d, f, m⟩ := by
      have before : w.timeout.isActive = true := by
        cases timeout : w.timeout <;> simp_all [isActive]
      have after : phase.isActive = true := by cases phase <;> simp_all [isActive]
      simp only [uses, entryUses, timeoutUses, before, after]
    exact ⟨fun created => by rw [same]; exact counted.balanced created, counted.unqueued,
      fun late => absurd (counted.late late) active, counted.early, counted.once,
      counted.flushOwned⟩
  | @timeoutEnds w l h d f m dropping =>
    rcases w with ⟨refs, resp, put, timeout, owned, frees⟩
    obtain rfl : timeout = .dropping := dropping
    have fewer : uses ⟨⟨refs, resp, put, .dropping, owned, frees⟩, l, h, d, f, m⟩ =
        uses ⟨⟨refs, resp, put, .idle, owned, frees⟩, l, h, d, f, m⟩ + 1 := by
      simp only [uses, entryUses, timeoutUses, isActive, toNat_true, toNat_false]
      omega
    refine ⟨fun created => ?_, counted.unqueued, fun _ => rfl, counted.early, counted.once,
      counted.flushOwned⟩
    have balanced := counted.balanced created
    rw [fewer] at balanced
    exact balanced.drop
  | removeEntry w =>
    refine counted.drops (by simp only; omega) rfl ?_ (by simp only; omega) (.inl le_rfl)
    simp only [uses, entryUses, timeoutUses, decRefs]
    omega
  | flush w owned =>
    refine counted.drops (by simp only; omega) rfl ?_ (by simp only; omega) (.inr owned)
    simp only [uses, entryUses, timeoutUses, decRefs]
    omega
  | arrive w resp =>
    refine counted.keeps (counted.queued (by simp only; omega)) rfl ?_ (by simp only; omega)
    simp only [uses, entryUses, timeoutUses]
    omega
  | cancel w queued => exact counted.keeps queued rfl rfl ⟨le_rfl, le_rfl⟩
  | returns w =>
    exact counted.keeps (counted.queued (by simp only; omega)) rfl rfl ⟨le_rfl, le_rfl⟩
  | cancelTimeout w pending known =>
    refine counted.keeps (counted.queued (by simp only; omega)) rfl ?_ ⟨le_rfl, le_rfl⟩
    simp only [uses, entryUses, timeoutUses, pending, isActive, toNat_true, toNat_false]
    omega
  | dropTimeout w | releaseEntry w =>
    refine counted.drops (by simp only; omega) rfl ?_ le_rfl (.inl le_rfl)
    simp only [uses, entryUses, timeoutUses, decRefs]
    omega
  | flushed w handles =>
    exact counted.keeps (counted.queued (by simp only; omega)) rfl rfl (by simp only; omega)
  | flushReleases w unhandled =>
    have once := counted.once
    have bounded := counted.flushOwned unhandled
    simp only at once bounded
    have owned : w.owned = true := by
      cases owned : w.owned with
      | true => rfl
      | false =>
        rw [owned, toNat_false] at bounded
        omega
    exact counted.releases (counted.queued (by simp only; omega)) owned rfl rfl rfl
      (by simp only; omega) fun _ => by simp only; omega
  | release w owned queued other =>
    refine counted.releases queued owned rfl rfl rfl le_rfl fun unhandled => ?_
    exact other.resolve_left (by simp [unhandled])

/-- There is one entry and one timeout work for each awaiter. -/
structure Single (view : AwaiterView ρ) : Prop where
  entry : view.entryUses ≤ 1
  timeout : view.timeoutUses ≤ 1

/-- No move makes a second entry or timeout work. -/
lemma Single.move (single : Single view) (counted : Counted handles view)
    (move : Move handles view next) : Single next := by
  obtain ⟨entry, timeout⟩ := single
  cases move with
  | @create w resp noTimeout l h d f m absent =>
    obtain ⟨rfl, rfl, rfl, rfl, rfl⟩ : l = 0 ∧ h = 0 ∧ d = 0 ∧ f = 0 ∧ m = 0 :=
      counted.unqueued (by simp [absent, isQueued])
    exact ⟨zero_le 1, toNat_le _⟩
  | putEarly w phase resp early next =>
    obtain ⟨held, drops⟩ : phase.holdsEntry = 0 ∧ phase.dropsTimeout = 0 := by
      rcases next with ⟨seq, rfl⟩ | ⟨seq, rfl⟩ | ⟨seq, rfl⟩ | rfl <;> exact ⟨rfl, rfl⟩
    simp only [entryUses, timeoutUses] at entry timeout
    constructor <;> simp only [entryUses, timeoutUses, held, drops] <;> omega
  | takeEntry w seq pushing =>
    obtain ⟨rfl, rfl, -⟩ := counted.unqueued (by simp [pushing, isQueued])
    simp only [timeoutUses] at timeout
    refine ⟨le_refl 1, ?_⟩
    simp only [timeoutUses, dropsTimeout]
    omega
  | addEntry w seq adding =>
    simp only [entryUses, timeoutUses, adding, holdsEntry] at entry timeout
    constructor <;> simp only [entryUses, timeoutUses, holdsEntry, dropsTimeout] <;> omega
  | putCancels w failed pending =>
    simp only [entryUses, timeoutUses, pending, isActive, toNat_true] at entry timeout
    constructor <;> simp only [entryUses, timeoutUses, holdsEntry,
      dropsTimeout, isActive, toNat_false] <;> omega
  | timeoutWork w phase active next =>
    have before : w.timeout.isActive = true := by
      cases timeout : w.timeout <;> simp_all [isActive]
    have after := toNat_le phase.isActive
    simp only [entryUses, timeoutUses, before, toNat_true] at entry timeout
    constructor <;> simp only [entryUses, timeoutUses] <;> omega
  | cancelTimeout w pending known =>
    simp only [entryUses, timeoutUses, pending, isActive, toNat_true] at entry timeout
    constructor <;> simp only [entryUses, timeoutUses, isActive, toNat_false] <;> omega
  | putDone | putIdle | putDrops | putFrees =>
    simp only [entryUses, timeoutUses] at entry timeout
    constructor <;> simp only [entryUses, timeoutUses, holdsEntry, dropsTimeout, decRefs] <;> omega
  | timeoutEnds =>
    simp only [entryUses, timeoutUses] at entry timeout
    constructor <;> simp only [entryUses, timeoutUses, isActive, toNat_false,
      decRefs] <;> omega
  | _ =>
    -- The other moves end a use of the entry or the timeout or pass it on.
    simp only [entryUses, timeoutUses] at entry timeout
    constructor <;> simp only [entryUses, timeoutUses, decRefs] <;> omega

end AwaiterView

end GsKernel.Gcip
