import GsKernel.Gcma.CacheRuns

/-!
# The pages are partitioned

At every quiet point of a run each page of an area is free, cached or handed out, and in no
two of these. A run here allocates no page twice and gives back only pages that it
allocated; all its operations end.
-/

namespace GsKernel.Gcma

open Cache List Option

variable {κ δ : Type*}

inductive PageState where
  | free
  | cached
  | handedOut
deriving DecidableEq

/-- What holds of a page of an area in each state. -/
def Cache.InState (cache : Cache κ δ) (carried : Nat → Nat) (id pfn : Nat) : PageState → Prop
  | .free =>
    (∀ other, pfn ∈ cache.memory.freePages other ↔ other = id) ∧
      (cache.memory.freePages id).Nodup ∧ (cache.memory.pages pfn).gcmaFree = true ∧
      ((cache.memory.pages pfn).count = 0 ∨ (cache.memory.pages pfn).count = carried pfn) ∧
      ¬ cache.IsCached pfn ∧ cache.memory.handedOut pfn = false
  | .cached =>
    (∃ ino, (∀ other offset, (offset, pfn) ∈ (cache.index.inodes other).pages ↔
        other = ino ∧ offset = (cache.memory.pages pfn).index) ∧
      (cache.memory.pages pfn).mapping = some ino) ∧
      (cache.memory.pages pfn).count = 1 ∧ (cache.memory.pages pfn).gcmaFree = false ∧
      (∀ other, pfn ∉ cache.memory.freePages other) ∧ cache.memory.handedOut pfn = false
  | .handedOut =>
    cache.memory.handedOut pfn = true ∧ (cache.memory.pages pfn).gcmaFree = false ∧
      (∀ other, pfn ∉ cache.memory.freePages other) ∧ ¬ cache.IsCached pfn

structure Cache.Partitioned (cache : Cache κ δ) (carried : Nat → Nat) : Prop where
  pages : ∀ id pfn, holds cache.memory.areas id pfn = true →
    ∃! state, cache.InState carried id pfn state
  /-- Only pages of the areas are cached. -/
  cached : ∀ pfn, cache.IsCached pfn → ∃ id, holds cache.memory.areas id pfn = true
  cachedPage : cache.memory.cachedPage = ({pfn | cache.IsCached pfn} : Set Nat).ncard
  refCount : ∀ ino, (cache.index.inodes ino).refCount = (cache.index.inodes ino).pages.length
  hashed : ∀ fs hash ino, cache.index.inodeHash fs = some hash → ino ∈ hash →
    (cache.index.inodes ino).pages ≠ []

variable {cache next : Cache κ δ} {carried : Nat → Nat} {expected : Nat → κ → Nat → Option δ}

/-- The flag and the record of what is handed out tell the states apart. -/
lemma Cache.InState.unique {id pfn : Nat} {first second : PageState}
    (inFirst : cache.InState carried id pfn first) (inSecond : cache.InState carried id pfn second) :
    first = second := by
  have tells : ∀ {state}, cache.InState carried id pfn state →
      ((cache.memory.pages pfn).gcmaFree = true ↔ state = .free) ∧
      (cache.memory.handedOut pfn = true ↔ state = .handedOut) := by
    intro state inState
    cases state with
    | free => simp [inState.2.2.1, inState.2.2.2.2.2]
    | cached => simp [inState.2.2.1, inState.2.2.2.2]
    | handedOut => simp [inState.1, inState.2.1]
  have firstTells := tells inFirst
  have secondTells := tells inSecond
  rw [firstTells.1, firstTells.2] at secondTells
  cases first <;> cases second <;> simp at secondTells ⊢

lemma Valid.inState {standing : Nat → Standing}
    (valid : Valid cache [] carried (fun _ => 0) standing expected) {id pfn : Nat}
    (held : holds cache.memory.areas id pfn = true) : ∃ state, cache.InState carried id pfn state := by
  have stands := valid.owned.stands pfn
  have inside := stands.area.mp ⟨id, held⟩
  have only : ∀ other, holds cache.memory.areas other pfn = true ↔ other = id :=
    fun other => ⟨fun otherHeld => valid.owned.disjoint _ _ _ otherHeld held, fun same => same ▸ held⟩
  have flag := stands.flag inside
  cases owner : standing pfn with
  | outside => exact absurd owner inside
  | free =>
    rw [owner] at stands flag
    refine ⟨.free, fun other => ?_, valid.owned.freeNodup id, flag.mpr rfl, (stands.reset rfl).2, ?_,
      ?_⟩
    · rw [stands.listed, only]
      simp
    · simp [IsCached, valid.indexed.entries, owner]
    · simpa using stands.out
  | cached ino offset =>
    obtain ⟨mapping, index, count⟩ := stands.fields ino offset owner
    rw [owner] at stands flag
    refine ⟨.cached, ⟨ino, fun other position => ?_, mapping⟩, by simpa using count, ?_, ?_, ?_⟩
    · rw [valid.indexed.entries, owner, index, Standing.cached.injEq, eq_comm, @eq_comm _ offset]
    · simpa using flag
    · simp [stands.listed]
    · simpa using stands.out
  | handedOut =>
    rw [owner] at stands flag
    refine ⟨.handedOut, stands.out.mpr rfl, by simpa using flag, by simp [stands.listed], ?_⟩
    simp [IsCached, valid.indexed.entries, owner]

lemma Quiet.partitioned (quiet : Quiet cache carried expected) : cache.Partitioned carried := by
  obtain ⟨standing, valid⟩ := quiet
  have isCached : ∀ pfn, cache.IsCached pfn ↔ (standing pfn).IsCached := by
    intro pfn
    simp only [IsCached, valid.indexed.entries]
    cases standing pfn with
    | outside | free | handedOut => simp [Standing.IsCached]
    | cached ino offset => simp [Standing.IsCached]
  constructor
  · intro id pfn held
    obtain ⟨state, inState⟩ := valid.inState held
    exact ⟨state, inState, fun other inOther => inOther.unique inState⟩
  · intro pfn cached
    refine (valid.owned.stands pfn).area.mpr fun outside => ?_
    rw [isCached, outside] at cached
    exact cached
  · have listed : ({pfn | cache.IsCached pfn} : Set Nat) = cache.memory.lru.toFinset := by
      ext pfn
      simp [isCached, (valid.owned.stands pfn).lru]
    rw [listed, Set.ncard_coe_finset, toFinset_card_of_nodup valid.owned.lruNodup]
    simpa using valid.owned.cachedPage
  · simpa using valid.indexed.refs
  · intro fs hash ino isHash mem empty
    have counted := valid.indexed.refs ino
    rw [empty] at counted
    exact ((valid.indexed.hashed fs hash isHash ino).mp mem).2 counted

/-- Ranges are allocated when no page of them is handed out and given back when all pages
are; a page is used by those it is handed out to. `idr_alloc` gives a number that is not in
use. -/
def Cache.Admissible (cache : Cache κ δ) : Event κ δ → Prop
  | .register startPfn pageCount => cache.Allowed (.register startPfn pageCount)
  | .initFs hashId => ∀ fs ∈ hashId, cache.index.inodeHash fs = none
  | .allocRange startPfn endPfn =>
    ∀ pfn, startPfn ≤ pfn → pfn ≤ endPfn → cache.memory.handedOut pfn = false
  | .freeRange startPfn endPfn =>
    ∀ pfn, startPfn ≤ pfn → pfn ≤ endPfn → cache.memory.handedOut pfn = true
  | .use pfn _ => cache.memory.handedOut pfn = true
  | _ => True

lemma forall_inRange_iff {startPfn endPfn : Nat} {property : Nat → Prop} :
    (∀ pfn ∈ range' startPfn (endPfn + 1 - startPfn), property pfn) ↔
      ∀ pfn, startPfn ≤ pfn → pfn ≤ endPfn → property pfn := by
  refine ⟨fun all pfn low high => all pfn (mem_range'_1.mpr (by omega)), fun all pfn mem => ?_⟩
  rw [mem_range'_1] at mem
  exact all pfn mem.1 (by omega)

lemma apart_iff {areas : List Area} {startPfn pageCount : Nat} :
    (∀ pfn ∈ range' startPfn pageCount, ∀ id ∈ range areas.length,
      holds areas id pfn = false) ↔
      ∀ pfn, InRange startPfn pageCount pfn → ∀ id, holds areas id pfn = false := by
  constructor
  · intro all pfn inRange id
    by_cases bound : id < areas.length
    · exact all pfn (mem_range'_1.mpr inRange) id (mem_range.mpr bound)
    · simp [holds, getElem?_eq_none (Nat.not_lt.mp bound)]
  · intro all pfn mem id _
    exact all pfn (mem_range'_1.mp mem) id

instance instDecidableAdmissible (cache : Cache κ δ) (event : Event κ δ) :
    Decidable (cache.Admissible event) :=
  match event with
  | .register _ _ => decidable_of_iff (_ ∧ _) (and_congr_right fun _ => apart_iff)
  | .initFs none => isTrue fun _ isSome => absurd isSome (not_mem_none _)
  | .initFs (some fs) =>
    decidable_of_iff (cache.index.inodeHash fs = none)
      ⟨fun unused _ isSome => some.inj isSome ▸ unused, fun all => all fs rfl⟩
  | .allocRange _ _ => decidable_of_iff _ forall_inRange_iff
  | .freeRange _ _ => decidable_of_iff _ forall_inRange_iff
  | .use _ _ => inferInstanceAs (Decidable (_ = _))
  | .store .. | .load .. | .invalidatePage .. | .invalidateInode .. | .invalidateFs .. | .evict .. =>
    isTrue trivial

lemma Quiet.allowed (quiet : Quiet cache carried expected) {event : Event κ δ}
    (admissible : cache.Admissible event) : cache.Allowed event := by
  cases event with
  | register => exact admissible
  | freeRange startPfn endPfn =>
    obtain ⟨standing, valid⟩ := quiet
    rintro pfn low high ⟨ino, offset, stored⟩
    have out := (valid.owned.stands pfn).out.mp (admissible pfn low high)
    rw [valid.indexed.entries, out] at stored
    simp at stored
  | initFs | store | load | invalidatePage | invalidateInode | invalidateFs | evict | allocRange
    | use => trivial

variable [DecidableEq κ]

/-- Every such operation ends. -/
lemma Quiet.step_total (quiet : Quiet cache carried expected) {event : Event κ δ}
    (admissible : cache.Admissible event) : ∃ next, cache.step event = some next := by
  cases event with
  | register | store | load | invalidatePage => exact ⟨_, rfl⟩
  | initFs hashId =>
    simp only [Cache.step]
    split
    next => exact ⟨_, rfl⟩
    next =>
      cases hashId with
      | none => exact ⟨_, rfl⟩
      | some fs => exact ⟨_, by rw [Index.ccInitFs, if_pos (admissible fs rfl), map_some]⟩
  | invalidateInode fs key =>
    obtain ⟨next, ran, -⟩ := quiet.ccInvalidateInode fs key
    exact ⟨next, ran⟩
  | invalidateFs fs =>
    obtain ⟨next, ran, -⟩ := quiet.ccInvalidateFs fs
    exact ⟨next, ran⟩
  | evict request =>
    obtain ⟨standing, valid⟩ := quiet
    obtain ⟨next, -, ran, -⟩ := valid.evictRounds request request
    exact ⟨next, ran⟩
  | allocRange startPfn endPfn => exact quiet.gcmaAllocRange_total admissible
  | freeRange startPfn endPfn =>
    obtain ⟨memory, ran⟩ := quiet.gcmaFreeRange_total admissible
    exact ⟨_, by rw [Cache.step, ran, map_some]⟩
  | use pfn page => exact ⟨_, if_pos admissible⟩

/-- A run, with the reference counts that pages were brought with. -/
noncomputable def observe (state : Cache κ δ × (Nat → Nat)) (event : Event κ δ) :
    Option (Cache κ δ × (Nat → Nat)) :=
  (state.1.step event).map fun next => (next, event.carry state.1 state.2)

/-- At every quiet point of every run each page of an area is in exactly one of the three
states, the statistic counts the cached pages, and an inode has a reference for each page
cached in it and is in no hash without one. -/
theorem gcma_partition (pages : Nat → Page δ) (inodes : Nat → Inode κ) (events : List (Event κ δ))
    (admissible : Lib.Runs.AlongM observe (fun state => Admissible state.1)
      (initial pages inodes, fun _ => 0) events) :
    ∃ state, events.foldlM observe (initial pages inodes, fun _ => 0) = some state ∧
      state.1.Partitioned state.2 := by
  have preserved : ∀ (state : Cache κ δ × (Nat → Nat)) event,
      (∃ expected, Quiet state.1 state.2 expected) → state.1.Admissible event →
      ∃ next, observe state event = some next ∧ ∃ expected, Quiet next.1 next.2 expected := by
    rintro state event ⟨expected, quiet⟩ meets
    obtain ⟨next, stepped⟩ := quiet.step_total meets
    exact ⟨_, by rw [observe, stepped, map_some], _,
      quiet.step (quiet.allowed meets) stepped⟩
  obtain ⟨state, ran, expected, quiet⟩ := Lib.Runs.foldlM_total_along _ observe _ preserved events
    ⟨fun _ _ _ => none, quiet_initial pages inodes _ _⟩ admissible
  exact ⟨state, ran, quiet.partitioned⟩

def handoverRun : List (Event Nat Nat) :=
  [.register 4 3, .register 9 2, .initFs (some 0), .store 0 7 3 10 true true true,
    .store 0 8 3 11 true true true, .allocRange 5 9, .use 6 ⟨5, some 3, 2, true, 4, 9⟩,
    .freeRange 6 6, .evict 1]

theorem gcma_partition_handover :
    ∃ state, handoverRun.foldlM observe (usedCache, fun _ => 0) = some state ∧
      state.1.Partitioned state.2 :=
  gcma_partition _ _ handoverRun (Lib.Runs.alongM_of_check (by decide +kernel))

/-- A page that is registered with a reference is free with a reference. -/
theorem free_with_reference : ∃ cache, [Event.register 4 1].foldlM step usedCache = some cache ∧
      4 ∈ cache.memory.freePages 0 ∧ (cache.memory.pages 4).gcmaFree = true ∧
      (cache.memory.pages 4).count ≠ 0 :=
  Lib.Runs.exists_reached _ (by decide +kernel)

end GsKernel.Gcma
