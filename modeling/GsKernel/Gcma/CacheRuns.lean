import GsKernel.Gcma.Ranges

/-!
# Runs of the cache

A load that returns 0 gives the bytes of the last store for its place, and at every quiet
point each page of the areas is free, cached once, or handed out.
-/

namespace GsKernel.Gcma

open Cache Event Lib.Runs Option

variable {κ δ : Type*}

/-- What is expected after an operation. -/
def Event.expect [DecidableEq κ] (expected : Nat → κ → Nat → Option δ) :
    Event κ δ → Nat → κ → Nat → Option δ
  | .store fs key offset data workingset _ _ =>
    expectAt expected fs key offset (if workingset then some data else none)
  | .invalidatePage fs key offset => expectAt expected fs key offset none
  | .invalidateInode fs key => expectInode expected fs key
  | .invalidateFs fs => expectFs expected fs
  | _ => expected

/-- Some inode has the page. -/
def Cache.IsCached (cache : Cache κ δ) (pfn : Nat) : Prop :=
  ∃ ino offset, (offset, pfn) ∈ (cache.index.inodes ino).pages

/-- The page comes to its free list from outside the cache. -/
def Event.Brings (pfn : Nat) : Event κ δ → Prop
  | .register startPfn pageCount => InRange startPfn pageCount pfn
  | .freeRange startPfn endPfn => startPfn ≤ pfn ∧ pfn ≤ endPfn
  | _ => False

open scoped Classical in
/-- The counts of pages that are cached are forgotten. -/
noncomputable def Cache.carryCached (cache : Cache κ δ) (carried : Nat → Nat) : Nat → Nat :=
  fun pfn => if cache.IsCached pfn then 0 else carried pfn

open scoped Classical in
/-- The reference counts that pages were brought with, 0 for those that have been cached
since. -/
noncomputable def Event.carry (cache : Cache κ δ) (carried : Nat → Nat) (event : Event κ δ) :
    Nat → Nat :=
  fun pfn =>
    if event.Brings pfn then (cache.memory.pages pfn).count else cache.carryCached carried pfn

/-- Areas do not overlap, and `gcma_free_range` gets no cached page. -/
def Cache.Allowed (cache : Cache κ δ) : Event κ δ → Prop
  | .register startPfn pageCount => 0 < pageCount ∧
      ∀ pfn, InRange startPfn pageCount pfn → ∀ id, holds cache.memory.areas id pfn = false
  | .freeRange startPfn endPfn => ∀ pfn, startPfn ≤ pfn → pfn ≤ endPfn → ¬ cache.IsCached pfn
  | _ => True

variable {cache next : Cache κ δ} {carried : Nat → Nat} {expected : Nat → κ → Nat → Option δ}
  {event : Event κ δ}

/-- Only the counts that free pages were brought with matter. -/
lemma Quiet.carrying {carriedNext : Nat → Nat} (quiet : Quiet cache carried expected)
    (same : ∀ pfn, ¬ cache.IsCached pfn → (∃ id, holds cache.memory.areas id pfn = true) →
      carriedNext pfn = carried pfn) : Quiet cache carriedNext expected := by
  obtain ⟨standing, valid⟩ := quiet
  refine ⟨standing, ⟨?_, valid.indexed, valid.coherent⟩⟩
  refine { valid.owned with stands := fun pfn => { valid.owned.stands pfn with reset := ?_ } }
  intro free
  have stands := valid.owned.stands pfn
  rw [same pfn]
  · exact stands.reset free
  · rintro ⟨ino, offset, stored⟩
    simp [(valid.indexed.entries ino offset pfn).mp stored] at free
  · exact stands.area.mpr (by simp [free])

section

variable (quiet : Quiet cache carried expected)
include quiet

lemma Quiet.register {startPfn pageCount : Nat}
    (allowed : cache.Allowed (.register startPfn pageCount)) :
    Quiet { cache with memory := cache.memory.registerGcmaArea startPfn pageCount }
      (fun pfn => if InRange startPfn pageCount pfn then (cache.memory.pages pfn).count
        else carried pfn) expected := by
  obtain ⟨nonempty, apart⟩ := allowed
  by_cases room : cache.memory.areas.length < Memory.maxGcmaAreas
  · obtain ⟨standing, valid⟩ := quiet
    have registered := valid.owned.registered nonempty apart room
    have outside : ∀ pfn, (standing pfn).IsCached → ¬ InRange startPfn pageCount pfn := by
      intro pfn cached inRange
      obtain ⟨id, held⟩ := (valid.owned.stands pfn).area.mpr fun out => by
        simp [out, Standing.IsCached] at cached
      simp [apart pfn inRange id] at held
    refine ⟨_, registered, valid.indexed.restand fun pfn ino offset => ?_, ?_⟩
    · by_cases inRange : InRange startPfn pageCount pfn
      · have uncached : standing pfn ≠ .cached ino offset := fun cached =>
          outside pfn (by simp [cached, Standing.IsCached]) inRange
        simp [inRange, uncached]
      · rw [if_neg inRange]
    · intro pfn ino offset cached
      have notIn : ¬ InRange startPfn pageCount pfn := by
        intro inRange
        simp [inRange] at cached
      rw [if_neg notIn] at cached
      simpa [Memory.registerGcmaArea, Nat.not_le.mpr room, notIn] using
        valid.coherent pfn ino offset cached
  · rw [Memory.registerGcmaArea, if_pos (Nat.not_lt.mp room)]
    refine quiet.carrying fun pfn _ held => if_neg fun inRange => ?_
    obtain ⟨id, held⟩ := held
    simp [apart pfn inRange id] at held

lemma Quiet.initFs {hashId : Option Nat} {index : Index κ}
    (mounted : cache.index.ccInitFs hashId = some index) :
    Quiet { cache with index := index } carried expected := by
  obtain ⟨standing, valid⟩ := quiet
  cases hashId with
  | none =>
    cases mounted
    exact ⟨standing, valid⟩
  | some fs =>
    simp only [Index.ccInitFs] at mounted
    split at mounted
    next unused =>
      cases mounted
      exact ⟨standing, valid.owned, valid.indexed.mount unused, valid.coherent⟩
    next => simp at mounted

lemma Quiet.use {pfn : Nat} (out : cache.memory.handedOut pfn = true) (page : Page δ) :
    Quiet { cache with memory := cache.memory.setPage pfn fun _ => { page with gcmaFree := false } }
      carried expected := by
  obtain ⟨standing, valid⟩ := quiet
  have isOut := (valid.owned.stands pfn).out.mp out
  refine ⟨standing, valid.owned.used isOut page, valid.indexed, fun other ino offset cached => ?_⟩
  have isOther : other ≠ pfn := by
    rintro rfl
    simp [isOut] at cached
  simpa [Memory.setPage, isOther] using valid.coherent other ino offset cached

end

/-- Before any area is registered nothing is cached. -/
lemma quiet_initial (pages : Nat → Page δ) (inodes : Nat → Inode κ) (carried : Nat → Nat)
    (expected : Nat → κ → Nat → Option δ) : Quiet (initial pages inodes) carried expected := by
  refine ⟨fun _ => .outside, ⟨fun pfn => ?_, ?_, ?_, ?_, ?_, ?_⟩, ?_, ?_⟩
  · constructor <;> simp [initial, holds, Standing.IsCached]
  · simp [initial, holds]
  · simp [initial]
  · simp [initial]
  · simp
  · simp [initial]
  · constructor <;> simp [initial]
  · simp

variable [DecidableEq κ]

/-- Every operation that ends leaves a quiet state, with what is expected after it. -/
lemma Quiet.step (quiet : Quiet cache carried expected) (allowed : cache.Allowed event)
    (stepped : cache.step event = some next) :
    Quiet next (event.carry cache carried) (event.expect expected) := by
  have dropped : Quiet cache (cache.carryCached carried) expected :=
    quiet.carrying fun pfn uncached _ => if_neg uncached
  have keeps : (∀ pfn, ¬ event.Brings pfn) →
      event.carry cache carried = cache.carryCached carried :=
    fun brings => funext fun pfn => if_neg (brings pfn)
  cases event with
  | register startPfn pageCount =>
    cases stepped
    have brought : carry cache carried (.register startPfn pageCount) = fun pfn =>
        if InRange startPfn pageCount pfn then (cache.memory.pages pfn).count
        else cache.carryCached carried pfn := by
      funext pfn
      by_cases inRange : InRange startPfn pageCount pfn <;> simp [carry, Brings, inRange]
    rw [brought]
    exact dropped.register allowed
  | freeRange startPfn endPfn =>
    obtain ⟨memory, freed, rfl⟩ := map_eq_some_iff.mp stepped
    have uncached : ∀ pfn, startPfn ≤ pfn → pfn ≤ endPfn → ∀ ino offset,
        (offset, pfn) ∉ (cache.index.inodes ino).pages := fun pfn low high ino offset stored =>
      allowed pfn low high ⟨ino, offset, stored⟩
    have brought : carry cache carried (.freeRange startPfn endPfn) = fun pfn =>
        if startPfn ≤ pfn ∧ pfn ≤ endPfn then (cache.memory.pages pfn).count
        else cache.carryCached carried pfn := by
      funext pfn
      by_cases inRange : startPfn ≤ pfn ∧ pfn ≤ endPfn <;> simp [carry, Brings, inRange]
    rw [brought]
    exact dropped.gcmaFreeRange uncached freed
  | store fs key offset data workingset allocates stores =>
    cases stepped
    rw [keeps fun _ => id]
    exact dropped.ccStorePage fs key offset data workingset allocates stores
  | load fs key offset =>
    cases stepped
    rw [keeps fun _ => id]
    exact dropped.ccLoadPage fs key offset
  | invalidatePage fs key offset =>
    cases stepped
    rw [keeps fun _ => id]
    exact dropped.ccInvalidatePage fs key offset
  | invalidateInode fs key =>
    obtain ⟨other, ran, nextQuiet⟩ := dropped.ccInvalidateInode fs key
    obtain rfl : other = next := some.inj (ran.symm.trans stepped)
    rwa [keeps fun _ => id]
  | invalidateFs fs =>
    obtain ⟨other, ran, nextQuiet⟩ := dropped.ccInvalidateFs fs
    obtain rfl : other = next := some.inj (ran.symm.trans stepped)
    rwa [keeps fun _ => id]
  | initFs hashId =>
    rw [keeps fun _ => id]
    simp only [step] at stepped
    split at stepped
    next =>
      cases stepped
      exact dropped
    next =>
      obtain ⟨index, mounted, rfl⟩ := map_eq_some_iff.mp stepped
      exact dropped.initFs mounted
  | evict request =>
    obtain ⟨standing, valid⟩ := dropped
    obtain ⟨other, standingNext, ran, nextValid⟩ := valid.evictRounds request request
    obtain rfl : other = next := some.inj (ran.symm.trans stepped)
    rw [keeps fun _ => id]
    exact ⟨standingNext, nextValid⟩
  | allocRange startPfn endPfn =>
    rw [keeps fun _ => id]
    exact dropped.gcmaAllocRange stepped
  | use pfn page =>
    rw [keeps fun _ => id]
    simp only [step] at stepped
    split at stepped
    next out =>
      cases stepped
      exact dropped.use out page
    next => simp at stepped

/-- The operation stores at a place or invalidates it. -/
def Event.Touches (fs : Nat) (key : κ) (offset : Nat) : Event κ δ → Prop
  | .store fs' key' offset' _ _ _ _ => fs' = fs ∧ key' = key ∧ offset' = offset
  | .invalidatePage fs' key' offset' => fs' = fs ∧ key' = key ∧ offset' = offset
  | .invalidateInode fs' key' => fs' = fs ∧ key' = key
  | .invalidateFs fs' => fs' = fs
  | _ => False

/-- The last operation on a place is a store of these bytes from the workingset. -/
def LastStored (events : List (Event κ δ)) (fs : Nat) (key : κ) (offset : Nat) (data : δ) : Prop :=
  ∃ before after allocates stores,
    events = before ++ .store fs key offset data true allocates stores :: after ∧
    ∀ event ∈ after, ¬ event.Touches fs key offset

variable {fs offset : Nat} {key : κ} {data : δ}

lemma Event.expect_of_not_touches (untouched : ¬ event.Touches fs key offset) :
    event.expect expected fs key offset = expected fs key offset := by
  cases event with
  | store | invalidatePage | invalidateInode | invalidateFs =>
    simp only [Touches] at untouched
    simp only [expect, expectAt, expectInode, expectFs]
    rw [if_neg]
    simpa only [eq_comm] using untouched
  | register | initFs | load | evict | allocRange | freeRange | use => rfl

lemma Event.expect_of_touches (touches : event.Touches fs key offset)
    (stored : event.expect expected fs key offset = some data) :
    ∃ allocates stores, event = .store fs key offset data true allocates stores := by
  cases event with
  | store fs' key' offset' data' workingset allocates stores =>
    obtain ⟨rfl, rfl, rfl⟩ := touches
    cases workingset with
    | true =>
      obtain rfl : data' = data := by simpa [expect, expectAt] using stored
      exact ⟨allocates, stores, rfl⟩
    | false => simp [expect, expectAt] at stored
  | invalidatePage =>
    obtain ⟨rfl, rfl, rfl⟩ := touches
    simp [expect, expectAt] at stored
  | invalidateInode =>
    obtain ⟨rfl, rfl⟩ := touches
    simp [expect, expectInode] at stored
  | invalidateFs =>
    obtain rfl := touches
    simp [expect, expectFs] at stored
  | register | initFs | load | evict | allocRange | freeRange | use => exact touches.elim

lemma lastStored_of_expect (events : List (Event κ δ))
    (stored : events.foldl Event.expect (fun _ _ _ => none) fs key offset = some data) :
    LastStored events fs key offset data := by
  induction events using List.reverseRecOn with
  | nil => simp at stored
  | append_singleton events event ih =>
    rw [List.foldl_append, List.foldl_cons, List.foldl_nil] at stored
    by_cases touches : event.Touches fs key offset
    · obtain ⟨allocates, stores, rfl⟩ := expect_of_touches touches stored
      exact ⟨events, [], allocates, stores, rfl, by simp⟩
    rw [expect_of_not_touches touches] at stored
    obtain ⟨before, after, allocates, stores, split, untouched⟩ := ih stored
    refine ⟨before, after ++ [event], allocates, stores, by simp [split], ?_⟩
    intro other mem
    rcases List.mem_append.mp mem with old | last
    · exact untouched other old
    · rwa [List.mem_singleton.mp last]

/-- In every run whose areas do not overlap and that gives back no cached page, a load that
returns 0 gives the bytes of the last store for its place: that store was of a page of the
workingset, and no invalidation of the place came after it. -/
theorem gcma_load_coherent (pages : Nat → Page δ) (inodes : Nat → Inode κ)
    (events : List (Event κ δ))
    (allowed : Lib.Runs.AlongM step Allowed (initial pages inodes) events)
    (ran : events.foldlM step (initial pages inodes) = some cache)
    (loaded : (cache.ccLoadPage fs key offset).1 = some data) :
    LastStored events fs key offset data := by
  obtain ⟨carried, quiet⟩ := foldlM_simulates_along
    (fun cache expected => ∃ carried, Quiet cache carried expected) step expect
    Allowed
    (fun _ _ _ _ quiet allowed stepped => ⟨_, quiet.choose_spec.step allowed stepped⟩)
    events (fun _ _ _ => none) ⟨fun _ => 0, quiet_initial pages inodes _ _⟩ allowed ran
  exact lastStored_of_expect events (quiet.ccLoadPage_eq_some loaded)

/-- A cache over pages that were used before. -/
def usedCache : Cache Nat Nat :=
  initial (fun _ => ⟨0, none, 0, false, 1, 0⟩) (fun _ => ⟨0, 0, [], 0⟩)

def overwritingRun : List (Event Nat Nat) :=
  [.register 4 2, .initFs (some 0), .store 0 7 3 10 true true true, .store 0 8 3 11 true true true,
    .store 0 7 3 12 true true true, .invalidatePage 0 8 3, .evict 0]

theorem gcma_load_coherent_overwritten :
    ∃ cache, overwritingRun.foldlM step usedCache = some cache ∧
      (cache.ccLoadPage 0 7 3).1 = some 12 ∧ LastStored overwritingRun 0 7 3 12 := by
  have reached : ∃ cache, overwritingRun.foldlM step usedCache = some cache ∧
      (cache.ccLoadPage 0 7 3).1 = some 12 := exists_reached _ (by decide +kernel)
  obtain ⟨cache, ran, loaded⟩ := reached
  refine ⟨cache, ran, loaded, gcma_load_coherent _ _ _ ?_ ran loaded⟩
  simp [overwritingRun, AlongM, Allowed, holds, initial]

def freeingRun : List (Event Nat Nat) :=
  [.register 4 1, .initFs (some 0), .store 0 7 3 10 true true true, .freeRange 4 4,
    .store 0 8 3 11 true true true]

/-- A range is given back that was never handed out: its page, still cached for one file,
takes the bytes of another. -/
theorem freed_while_cached : ∃ cache, freeingRun.foldlM step usedCache = some cache ∧
      (cache.ccLoadPage 0 7 3).1 = some 11 ∧ ¬ LastStored freeingRun 0 7 3 11 := by
  have reached : ∃ cache, freeingRun.foldlM step usedCache = some cache ∧
      (cache.ccLoadPage 0 7 3).1 = some 11 := exists_reached _ (by decide +kernel)
  obtain ⟨cache, ran, loaded⟩ := reached
  refine ⟨cache, ran, loaded, ?_⟩
  rintro ⟨before, after, allocates, stores, split, -⟩
  have mem : store 0 7 3 11 true allocates stores ∈ freeingRun := by simp [split]
  simp [freeingRun] at mem

end GsKernel.Gcma
