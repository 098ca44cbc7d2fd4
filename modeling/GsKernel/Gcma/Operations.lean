import GsKernel.Gcma.Coherence

/-!
# What each operation does to the cache

Every operation ends in a valid state from a valid one: a store of a page of the workingset makes
its bytes the expected ones, any other store and the invalidations make nothing expected. No
operation holds an inode or isolates a page when it is over.
-/

namespace GsKernel.Gcma

open Function Cache Index Memory

variable {κ δ : Type*}

/-- Contents expected at one place. -/
def expectAt [DecidableEq κ] (expected : Nat → κ → Nat → Option δ) (fs : Nat) (key : κ)
    (offset : Nat) (data : Option δ) : Nat → κ → Nat → Option δ :=
  fun fs' key' offset' =>
    if fs' = fs ∧ key' = key ∧ offset' = offset then data else expected fs' key' offset'

/-- No operation is running. -/
def Quiet (cache : Cache κ δ) (carried : Nat → Nat) (expected : Nat → κ → Nat → Option δ) : Prop :=
  ∃ standing, Valid cache [] carried (fun _ => 0) standing expected

variable {cache : Cache κ δ} {carried extra : Nat → Nat}
  {standing : Nat → Standing} {expected : Nat → κ → Nat → Option δ} {ino offset pfn fs : Nat}
  {key : κ}

/-- A call that holds one inode and drops it. -/
lemma Valid.quiet (valid : Valid cache [] carried (update (fun _ => 0) ino 1) standing
    expected) : Quiet (cache.putInode ino) carried expected := by
  have held : update (fun _ => 0) ino 1 ino ≠ 0 := by simp
  have put := valid.putInode held
  exact ⟨standing, by simpa using put⟩

/-- The LRU list is not looked at. -/
lemma Valid.rotateLruPage (valid : Valid cache [] carried extra standing expected) (pfn : Nat) :
    Valid { cache with memory := cache.memory.rotateLruPage pfn } [] carried extra standing
      expected := by
  refine ⟨valid.owned.rotated pfn, valid.indexed, ?_⟩
  have pages : (cache.memory.rotateLruPage pfn).pages = cache.memory.pages := by
    rw [Memory.rotateLruPage]
    split <;> rfl
  simpa only [pages] using valid.coherent

/-- The page that was allocated could not be stored. -/
lemma Valid.storeFailed (valid : Valid cache [] carried extra standing expected)
    {memory : Memory δ} (allocated : cache.memory.gcmaAllocPage = some (pfn, memory)) :
    Valid (gcmaPutPage { cache with memory := memory } pfn) [] carried extra standing expected := by
  have refreed := valid.owned.refreed allocated
  obtain ⟨id, listed, rfl⟩ := gcmaAllocPage_eq allocated
  obtain ⟨free, -⟩ := valid.owned.free_of_mem listed
  have reset := ((valid.owned.stands pfn).reset free).1
  rw [gcmaPutPage_unmapped (by simp) (by simpa using reset)]
  refine ⟨refreed, valid.indexed, fun other inode position otherCached => ?_⟩
  have isOther : other ≠ pfn := by
    rintro rfl
    simp [free] at otherCached
  simpa [dropped_data, isOther] using valid.coherent other inode position otherCached

lemma Valid.addGcmaInode (valid : Valid cache [] carried (fun _ => 0) standing expected)
    (mounted : cache.index.inodeHash fs ≠ none)
    (absent : ∀ ino, (cache.index.inodes ino).refCount ≠ 0 → cache.index.name ino ≠ (fs, key)) :
    Valid { cache with index := cache.index.addGcmaInode fs key } [] carried
      (update (fun _ => 0) cache.index.nextInode 1) standing expected := by
  refine ⟨valid.owned, valid.indexed.addGcmaInode mounted absent, fun pfn ino offset cached => ?_⟩
  have isOld : ino ≠ cache.index.nextInode := by
    rintro rfl
    exact valid.indexed.live_of_cached cached (valid.indexed.fresh _ le_rfl)
  rw [name_addGcmaInode, update_of_ne isOld]
  exact valid.coherent pfn ino offset cached

variable [DecidableEq κ]

section

variable (valid : Valid cache [] carried extra standing expected)
include valid

section

variable (live : (cache.index.inodes ino).refCount ≠ 0) (named : cache.index.name ino = (fs, key))
include live named

/-- At a place there is the page of its inode or none. -/
lemma Valid.expectAt_eq {other position : Nat} (value : Option δ) (cached : standing pfn = .cached other position) :
    expectAt expected fs key offset value (cache.index.name other).1 (cache.index.name other).2 position =
      if other = ino ∧ position = offset then value
      else expected (cache.index.name other).1 (cache.index.name other).2 position := by
  rw [expectAt]
  have same : (cache.index.name other).1 = fs ∧ (cache.index.name other).2 = key ∧ position = offset ↔
      other = ino ∧ position = offset := by
    constructor
    · rintro ⟨sameFs, sameKey, samePosition⟩
      refine ⟨valid.indexed.unique other ino (valid.indexed.live_of_cached cached) live ?_,
        samePosition⟩
      rw [named]
      exact Prod.ext sameFs sameKey
    · rintro ⟨rfl, rfl⟩
      simp [named]
  simp only [same]

/-- Any contents may be expected where nothing is cached. -/
lemma Valid.expectAt (absent : ∀ pfn, standing pfn ≠ .cached ino offset) (value : Option δ) :
    Valid cache [] carried extra standing (expectAt expected fs key offset value) := by
  refine valid.expecting fun pfn other position cached => ?_
  rw [valid.expectAt_eq live named value cached, if_neg]
  rintro ⟨rfl, rfl⟩
  exact absent pfn cached

end

/-- The contents of a cached page change. -/
lemma Valid.overwrite (named : cache.index.name ino = (fs, key))
    (cached : standing pfn = .cached ino offset) (data : δ) :
    Valid { cache with memory := cache.memory.copyPage pfn data } [] carried extra standing
      (Gcma.expectAt expected fs key offset (some data)) := by
  refine ⟨valid.owned.copied pfn data, valid.indexed, fun other inode position otherCached => ?_⟩
  have live := valid.indexed.live_of_cached cached
  rw [valid.expectAt_eq live named (some data) otherCached]
  by_cases isPage : other = pfn
  · subst isPage
    rw [cached, Standing.cached.injEq] at otherCached
    simp [otherCached.1, otherCached.2, copyPage, setPage]
  rw [if_neg]
  · simpa [copyPage, setPage, isPage] using valid.coherent other inode position otherCached
  · rintro ⟨rfl, rfl⟩
    rw [← valid.indexed.xaLoad_eq_some] at cached otherCached
    exact isPage (Option.some.inj (otherCached.symm.trans cached))

/-- A page is erased, and nothing is expected any more. -/
lemma Valid.eraseAt (named : cache.index.name ino = (fs, key))
    (cached : standing pfn = .cached ino offset) :
    Valid (cache.gcmaErasePage ino offset pfn) [] carried extra (update standing pfn .free)
      (Gcma.expectAt expected fs key offset none) := by
  have live := valid.indexed.live_of_cached cached
  refine (valid.gcmaErasePage cached List.not_mem_nil).expecting fun other inode position left => ?_
  by_cases isPage : other = pfn
  · simp [isPage] at left
  · rw [update_of_ne isPage] at left
    rw [name_gcmaErasePage, valid.expectAt_eq live named none left, if_neg]
    rintro ⟨rfl, rfl⟩
    rw [← valid.indexed.xaLoad_eq_some] at cached left
    exact isPage (Option.some.inj (left.symm.trans cached))

/-- A page that was allocated takes the contents. -/
lemma Valid.storeNew (live : (cache.index.inodes ino).refCount ≠ 0)
    (named : cache.index.name ino = (fs, key))
    (absent : cache.index.xaLoad ino offset = none) {memory : Memory δ}
    (allocated : cache.memory.gcmaAllocPage = some (pfn, memory)) (data : δ) {stored : Cache κ δ}
    (isStored : Cache.gcmaPutPage (Cache.gcmaStorePage { cache with memory := memory } ino offset pfn)
      pfn = stored) :
    Valid { stored with memory := (stored.memory.copyPage pfn data).addPageToLru pfn } [] carried
      extra (update standing pfn (.cached ino offset))
      (Gcma.expectAt expected fs key offset (some data)) := by
  obtain ⟨id, listed, rfl⟩ := Memory.gcmaAllocPage_eq allocated
  obtain ⟨free, -⟩ := valid.owned.free_of_mem listed
  have uncached : ¬ (standing pfn).IsCached := by simp [free, Standing.IsCached]
  rw [Cache.gcmaPutPage_shared (by simp [Cache.gcmaStorePage, Memory.gcmaGetPage, Memory.setPage])]
    at isStored
  have filled := valid.owned.filled listed ino offset data
  have indexed := valid.indexed.xaStore uncached absent live
  have closed : Cache.mk ((stored.memory.copyPage pfn data).addPageToLru pfn) stored.index =
      ⟨cache.memory.filled id pfn ino offset data,
        (cache.index.xaStore ino offset pfn).getGcmaInode ino⟩ := by
    rw [← isStored]
    simp [Cache.gcmaStorePage, Memory.gcmaGetPage, Memory.setPage, Memory.copyPage,
      Memory.addPageToLru, Memory.filled]
  rw [closed]
  refine ⟨filled, indexed, fun other inode position otherCached => ?_⟩
  simp only [Index.name_getGcmaInode, Index.name_xaStore]
  by_cases isPage : other = pfn
  · subst isPage
    rw [update_self, Standing.cached.injEq] at otherCached
    obtain ⟨rfl, rfl⟩ := otherCached
    simp [Gcma.expectAt, named, Memory.filled]
  rw [update_of_ne isPage] at otherCached
  rw [valid.expectAt_eq live named (some data) otherCached, if_neg]
  · simpa [Memory.filled, isPage] using valid.coherent other inode position otherCached
  · rintro ⟨rfl, rfl⟩
    rw [← valid.indexed.xaLoad_eq_some, absent] at otherCached
    simp at otherCached

/-- `gcma_cc_store_page` for an inode that it holds. -/
lemma Valid.storeInInode (named : cache.index.name ino = (fs, key)) (held : extra ino ≠ 0)
    (offset : Nat) (data : δ) (workingset stores : Bool) :
    ∃ standingNext, Valid (cache.storeInInode ino offset data workingset stores) [] carried extra
      standingNext (Gcma.expectAt expected fs key offset (if workingset then some data else none)) := by
  have live : (cache.index.inodes ino).refCount ≠ 0 := by
    have counted := valid.indexed.refs ino
    omega
  rw [Cache.storeInInode]
  cases loaded : cache.index.xaLoad ino offset with
  | some pfn =>
    have cached := valid.indexed.xaLoad_eq_some.mp loaded
    cases workingset with
    | true => exact ⟨standing, (valid.overwrite named cached data).rotateLruPage pfn⟩
    | false => exact ⟨_, valid.eraseAt named cached⟩
  | none =>
    have absent : ∀ pfn, standing pfn ≠ .cached ino offset := by
      intro pfn cached
      rw [← valid.indexed.xaLoad_eq_some, loaded] at cached
      simp at cached
    cases workingset with
    | false => exact ⟨standing, valid.expectAt live named absent none⟩
    | true =>
      cases allocated : cache.memory.gcmaAllocPage with
      | none => exact ⟨standing, valid.expectAt live named absent (some data)⟩
      | some result =>
        cases stores with
        | true => exact ⟨_, valid.storeNew live named loaded allocated data rfl⟩
        | false =>
          have expecting := valid.expectAt live named absent (some data)
          exact ⟨standing, expecting.storeFailed allocated⟩

/-- Without an inode of a name nothing of it is cached. -/
lemma Valid.expectAbsent
    (absent : ∀ ino, (cache.index.inodes ino).refCount ≠ 0 → cache.index.name ino ≠ (fs, key))
    (offset : Nat) (value : Option δ) :
    Valid cache [] carried extra standing (Gcma.expectAt expected fs key offset value) := by
  refine valid.expecting fun pfn ino position cached => ?_
  rw [Gcma.expectAt, if_neg]
  rintro ⟨sameFs, sameKey, -⟩
  exact absent ino (valid.indexed.live_of_cached cached) (Prod.ext sameFs sameKey)

end

section

variable (quiet : Quiet cache carried expected)
include quiet

/-- A store makes its bytes, or nothing, expected. -/
lemma Quiet.ccStorePage (fs : Nat) (key : κ) (offset : Nat)
    (data : δ) (workingset allocates stores : Bool) :
    Quiet (cache.ccStorePage fs key offset data workingset allocates stores) carried
      (Gcma.expectAt expected fs key offset (if workingset then some data else none)) := by
  obtain ⟨standing, valid⟩ := quiet
  rw [Cache.ccStorePage]
  split
  next unmounted =>
    refine ⟨standing, valid.expectAbsent (fun ino live named => ?_) offset _⟩
    have sameFs : (cache.index.inodes ino).gcmaFs = fs := congrArg Prod.fst named
    exact valid.indexed.mounted ino live (sameFs ▸ unmounted)
  next mounted =>
    cases found : cache.index.findGcmaInode fs key with
    | some ino =>
      obtain ⟨live, named⟩ := valid.indexed.findGcmaInode_eq_some found
      have gotNamed : (cache.getInode ino).index.name ino = (fs, key) := by
        simpa [getInode] using named
      obtain ⟨standingNext, stored⟩ :=
        (valid.getInode live).storeInInode gotNamed (by simp) offset data workingset stores
      exact stored.quiet
    | none =>
      have absent := valid.indexed.findGcmaInode_eq_none found
      simp only
      split
      next =>
        have named : (cache.index.addGcmaInode fs key).name cache.index.nextInode = (fs, key) := by
          simp [Index.name_addGcmaInode]
        obtain ⟨standingNext, stored⟩ :=
          (valid.addGcmaInode mounted absent).storeInInode named (by simp) offset data workingset
            stores
        exact stored.quiet
      next => exact ⟨standing, valid.expectAbsent absent offset _⟩

lemma Quiet.ccLoadPage (fs : Nat) (key : κ) (offset : Nat) :
    Quiet (cache.ccLoadPage fs key offset).2 carried expected := by
  obtain ⟨standing, valid⟩ := quiet
  rw [Cache.ccLoadPage]
  cases found : cache.index.findGcmaInode fs key with
  | none => exact ⟨standing, valid⟩
  | some ino =>
    obtain ⟨live, -⟩ := valid.indexed.findGcmaInode_eq_some found
    have got := valid.getInode live
    simp only
    split
    next => exact got.quiet
    next pfn _ => exact (got.rotateLruPage pfn).quiet

/-- What a load returns is what is expected. -/
lemma Quiet.ccLoadPage_eq_some {data : δ}
    (loaded : (cache.ccLoadPage fs key offset).1 = some data) :
    expected fs key offset = some data := by
  obtain ⟨standing, valid⟩ := quiet
  rw [Cache.ccLoadPage] at loaded
  cases found : cache.index.findGcmaInode fs key with
  | none => simp [found] at loaded
  | some ino =>
    obtain ⟨live, named⟩ := valid.indexed.findGcmaInode_eq_some found
    have got := valid.getInode live
    simp only [found] at loaded
    split at loaded
    next => simp at loaded
    next pfn isPage =>
      have coherent := got.coherent pfn ino offset (got.indexed.xaLoad_eq_some.mp isPage)
      rw [← Option.some.inj loaded, ← coherent]
      simp [getInode, named]

lemma Quiet.ccInvalidatePage (fs : Nat) (key : κ) (offset : Nat) :
    Quiet (cache.ccInvalidatePage fs key offset) carried
      (Gcma.expectAt expected fs key offset none) := by
  obtain ⟨standing, valid⟩ := quiet
  rw [Cache.ccInvalidatePage]
  cases found : cache.index.findGcmaInode fs key with
  | none =>
    exact ⟨standing, valid.expectAbsent (valid.indexed.findGcmaInode_eq_none found) offset none⟩
  | some ino =>
    obtain ⟨live, named⟩ := valid.indexed.findGcmaInode_eq_some found
    have got := valid.getInode live
    have gotNamed : (cache.getInode ino).index.name ino = (fs, key) := by
      simpa [getInode] using named
    simp only
    split
    next absent =>
      refine (got.expectAt ?_ gotNamed (fun pfn cached => ?_) none).quiet
      · simp [getInode, Index.getGcmaInode, Index.setInode]
      · rw [← got.indexed.xaLoad_eq_some, absent] at cached
        simp at cached
    next pfn isPage =>
      exact (got.eraseAt gotNamed (got.indexed.xaLoad_eq_some.mp isPage)).quiet

end

end GsKernel.Gcma
