import GsKernel.Gcma.Core

/-!
# Who owns a page

A page is outside of every area, on the free list of its area, cached at an offset of an inode, or
handed out. `Stands` is the state of the code for each standing, and `Owned` that all pages stand
as a map says. Every operation moves one page from one standing to another. The eviction holds a
further reference to the pages that it has isolated from the LRU list.
-/

namespace GsKernel.Gcma

open Memory List

open Function (update update_eq_self update_of_ne update_self)

variable {δ : Type*}

inductive Standing where
  | outside
  | free
  | handedOut
  | cached (ino offset : Nat)
deriving DecidableEq

def Standing.IsCached : Standing → Prop
  | .cached _ _ => True
  | _ => False

/-- The state of the code for one page. `carried` is the reference count with which a page
came to its free list from outside the cache. -/
structure Stands (memory : Memory δ) (isolated : List Nat) (carried : Nat → Nat)
    (standing : Standing) (pfn : Nat) : Prop where
  area : (∃ id, holds memory.areas id pfn = true) ↔ standing ≠ .outside
  areaId : ∀ id, standing ≠ .handedOut → holds memory.areas id pfn = true →
    (memory.pages pfn).areaId = id
  listed : ∀ id, pfn ∈ memory.freePages id ↔ standing = .free ∧ holds memory.areas id pfn = true
  flag : standing ≠ .outside → ((memory.pages pfn).gcmaFree = true ↔ standing = .free)
  out : memory.handedOut pfn = true ↔ standing = .handedOut
  lru : pfn ∈ memory.lru ↔ standing.IsCached ∧ pfn ∉ isolated
  held : pfn ∈ isolated → standing.IsCached
  reset : standing = .free → (memory.pages pfn).mapping = none ∧
    ((memory.pages pfn).count = 0 ∨ (memory.pages pfn).count = carried pfn)
  fields : ∀ ino offset, standing = .cached ino offset → (memory.pages pfn).mapping = some ino ∧
    (memory.pages pfn).index = offset ∧ (memory.pages pfn).count = 1 + isolated.count pfn

/-- Every page stands as the map says. -/
structure Owned (memory : Memory δ) (isolated : List Nat) (carried : Nat → Nat)
    (standing : Nat → Standing) : Prop where
  stands : ∀ pfn, Stands memory isolated carried (standing pfn) pfn
  disjoint : ∀ first second pfn, holds memory.areas first pfn = true →
    holds memory.areas second pfn = true → first = second
  freeNodup : ∀ id, (memory.freePages id).Nodup
  lruNodup : memory.lru.Nodup
  isolatedNodup : isolated.Nodup
  cachedPage : memory.cachedPage = memory.lru.length + isolated.length

variable {memory next : Memory δ} {isolated left : List Nat} {carried carriedNext : Nat → Nat}
  {standing : Nat → Standing} {pfn : Nat}

/-- What an operation on other pages leaves as it is. -/
structure SameAt (memory next : Memory δ) (isolated left : List Nat) (pfn : Nat) : Prop where
  page : next.pages pfn = memory.pages pfn
  listed : ∀ id, pfn ∈ next.freePages id ↔ pfn ∈ memory.freePages id
  lru : pfn ∈ next.lru ↔ pfn ∈ memory.lru
  out : next.handedOut pfn = memory.handedOut pfn
  held : left.count pfn = isolated.count pfn

lemma Stands.of_sameAt {owner : Standing} (stands : Stands memory isolated carried owner pfn)
    (areas : next.areas = memory.areas) (same : SameAt memory next isolated left pfn)
    (carries : carriedNext pfn = carried pfn) : Stands next left carriedNext owner pfn := by
  have mem : pfn ∈ left ↔ pfn ∈ isolated := by
    rw [← count_pos_iff, ← count_pos_iff, same.held]
  obtain ⟨area, areaId, listed, flag, out, lru, held, reset, fields⟩ := stands
  constructor <;> simp only [areas, same.page, same.listed, same.lru, same.out, same.held,
      mem, carries] <;> assumption

section

variable (owned : Owned memory isolated carried standing)
include owned

/-- One page moves to another standing. -/
lemma Owned.move (areas : next.areas = memory.areas)
    (owner : Standing) (here : Stands next left carriedNext owner pfn)
    (elsewhere : ∀ other, other ≠ pfn → SameAt memory next isolated left other ∧
      carriedNext other = carried other)
    (freeNodup : ∀ id, (next.freePages id).Nodup) (lruNodup : next.lru.Nodup)
    (isolatedNodup : left.Nodup) (cachedPage : next.cachedPage = next.lru.length + left.length) :
    Owned next left carriedNext (update standing pfn owner) := by
  refine ⟨fun other => ?_, ?_, freeNodup, lruNodup, isolatedNodup, cachedPage⟩
  · by_cases isPage : other = pfn
    · subst isPage
      rwa [update_self]
    · rw [update_of_ne isPage]
      exact (owned.stands other).of_sameAt areas (elsewhere other isPage).1 (elsewhere other isPage).2
  · rw [areas]
    exact owned.disjoint

/-- The same when the page keeps its standing. -/
lemma Owned.stay (pfn : Nat) (areas : next.areas = memory.areas)
    (here : Stands next left carriedNext (standing pfn) pfn)
    (elsewhere : ∀ other, other ≠ pfn → SameAt memory next isolated left other ∧
      carriedNext other = carried other)
    (freeNodup : ∀ id, (next.freePages id).Nodup) (lruNodup : next.lru.Nodup)
    (isolatedNodup : left.Nodup) (cachedPage : next.cachedPage = next.lru.length + left.length) :
    Owned next left carriedNext standing := by
  have moved := owned.move areas (standing pfn) here elsewhere freeNodup lruNodup isolatedNodup
    cachedPage
  rwa [update_eq_self] at moved

/-- A page of the cache is in the area that it names. -/
lemma Owned.holds_areaId (pfn : Nat)
    (inside : standing pfn ≠ .outside) (kept : standing pfn ≠ .handedOut) (id : Nat) :
    holds memory.areas id pfn = true ↔ (memory.pages pfn).areaId = id := by
  have stands := owned.stands pfn
  refine ⟨stands.areaId id kept, fun named => ?_⟩
  obtain ⟨area, found⟩ := stands.area.mpr inside
  rwa [← named, stands.areaId area kept found]

end

variable {lists : Nat → List Nat} {list : List Nat}

/-- Another page is on the free lists as before. -/
lemma mem_update_iff {id other : Nat} (same : other ∈ list ↔ other ∈ lists id) (area : Nat) :
    other ∈ update lists id list area ↔ other ∈ lists area := by
  by_cases isArea : area = id
  · subst isArea
    rw [update_self, same]
  · rw [update_of_ne isArea]

lemma Owned.nodup_update (owned : Owned memory isolated carried standing) (id : Nat)
    (nodup : list.Nodup) (area : Nat) : (update memory.freePages id list area).Nodup := by
  by_cases isArea : area = id
  · subst isArea
    rwa [update_self]
  · rw [update_of_ne isArea]
    exact owned.freeNodup area

/-- A page whose last reference goes, back on the free list. -/
def Memory.dropped (memory : Memory δ) (pfn : Nat) : Memory δ :=
  ((memory.setPage pfn fun page => { page with count := 0 }).deletePageFromLru pfn).gcmaFreePage pfn

lemma Memory.dropped_eq (memory : Memory δ) (pfn : Nat) : memory.dropped pfn =
      { memory with
        freePages := update memory.freePages (memory.pages pfn).areaId
          (pfn :: memory.freePages (memory.pages pfn).areaId)
        pages := update memory.pages pfn
          { memory.pages pfn with mapping := none, index := 0, gcmaFree := true, count := 0 }
        lru := memory.lru.erase pfn
        cachedPage := memory.cachedPage - 1 } := by
  simp [dropped, gcmaFreePage, freePage, resetGcmaPage, deletePageFromLru, setPage, setFreePages]

/-- A page is added to the free list of the area that holds it. -/
lemma mem_update_cons {areas : List Area} {id : Nat}
    (unlisted : ∀ area, pfn ∉ lists area) (held : ∀ area, holds areas area pfn = true ↔ id = area)
    (area : Nat) : pfn ∈ update lists id (pfn :: lists id) area ↔ holds areas area pfn = true := by
  rw [held]
  by_cases isArea : id = area
  · subst isArea
    simp
  · rw [update_of_ne (Ne.symm isArea)]
    simp [unlisted, isArea]

section

variable (owned : Owned memory isolated carried standing)
include owned

/-- A page is taken from the free list of the area that holds it. -/
lemma Owned.not_mem_update_erase {id : Nat}
    (held : ∀ area, holds memory.areas area pfn = true → id = area) (area : Nat) :
    pfn ∉ update memory.freePages id ((memory.freePages id).erase pfn) area := by
  by_cases isArea : area = id
  · subst isArea
    rw [update_self]
    exact (owned.freeNodup area).not_mem_erase
  · rw [update_of_ne isArea, (owned.stands pfn).listed]
    exact fun listed => isArea (held area listed.2).symm

/-- The number of pages on the LRU list and isolated goes down with a cached page. -/
lemma Owned.length_erase (pfn : Nat) (cached : (standing pfn).IsCached) :
    memory.cachedPage - 1 = (memory.lru.erase pfn).length + (isolated.erase pfn).length := by
  have counted := owned.cachedPage
  have stands := owned.stands pfn
  by_cases held : pfn ∈ isolated
  · have off : pfn ∉ memory.lru := by simp [stands.lru, held]
    have := length_pos_of_mem held
    rw [erase_of_not_mem off, length_erase_of_mem held]
    omega
  · have on : pfn ∈ memory.lru := by simp [stands.lru, held, cached]
    have := length_pos_of_mem on
    rw [erase_of_not_mem held, length_erase_of_mem on]
    omega

/-- The last reference to a cached page goes. -/
lemma Owned.dropped {ino offset : Nat} (cached : standing pfn = .cached ino offset) :
    Owned (memory.dropped pfn) (isolated.erase pfn) carried (update standing pfn .free) := by
  have stands := owned.stands pfn
  have areaId := owned.holds_areaId pfn (by simp [cached]) (by simp [cached])
  have counted := owned.length_erase pfn (by simp [cached, Standing.IsCached])
  rw [cached] at stands
  have unlisted : ∀ id, pfn ∉ memory.freePages id := by simp [stands.listed]
  rw [dropped_eq]
  refine owned.move (by rfl) .free ?_ ?_ (owned.nodup_update _ ?_) (owned.lruNodup.erase pfn)
    (owned.isolatedNodup.erase pfn) counted
  · constructor
    · simpa using stands.area
    · simpa using stands.areaId
    · simpa using mem_update_cons unlisted areaId
    · simp
    · simpa using stands.out
    · simp [Standing.IsCached, owned.lruNodup.not_mem_erase]
    · exact fun still => absurd still owned.isolatedNodup.not_mem_erase
    · simp
    · simp
  · intro other isOther
    refine ⟨⟨?_, mem_update_iff ?_, ?_, rfl, count_erase_of_ne isOther⟩, rfl⟩
    · simp [isOther]
    · simp [isOther]
    · simp [mem_erase_of_ne isOther]
  · exact nodup_cons.mpr ⟨unlisted _, owned.freeNodup _⟩

end

/-- What `gcma_alloc_page` finds and does. -/
lemma Memory.gcmaAllocPage_eq (found : memory.gcmaAllocPage = some (pfn, next)) :
    ∃ id, pfn ∈ memory.freePages id ∧ next =
      { memory with
        freePages := update memory.freePages id ((memory.freePages id).erase pfn)
        pages := update memory.pages pfn
          { memory.pages pfn with gcmaFree := false, count := 1 }
        cachedPage := memory.cachedPage + 1 } := by
  obtain ⟨id, -, here⟩ := exists_of_findSome?_eq_some found
  obtain ⟨last, isLast, same⟩ := Option.map_eq_some_iff.mp here
  obtain ⟨rfl, rfl⟩ := Prod.mk.inj same
  exact ⟨id, mem_of_getLast? isLast, rfl⟩

section

variable (owned : Owned memory isolated carried standing)
include owned

lemma Owned.free_of_mem {id : Nat} (listed : pfn ∈ memory.freePages id) :
    standing pfn = .free ∧ ∀ area, holds memory.areas area pfn = true ↔ id = area := by
  obtain ⟨free, held⟩ := ((owned.stands pfn).listed id).mp listed
  refine ⟨free, fun area => ⟨fun other => owned.disjoint _ _ _ held other, ?_⟩⟩
  rintro rfl
  exact held

/-- A free page with the contents of an offset of an inode. -/
def Memory.filled (memory : Memory δ) (id pfn ino offset : Nat) (data : δ) : Memory δ :=
  { memory with
    freePages := update memory.freePages id ((memory.freePages id).erase pfn)
    pages := update memory.pages pfn ⟨(memory.pages pfn).areaId, some ino, offset, false, 1, data⟩
    lru := pfn :: memory.lru
    cachedPage := memory.cachedPage + 1 }

lemma Owned.filled {id : Nat} (listed : pfn ∈ memory.freePages id) (ino offset : Nat) (data : δ) :
    Owned (memory.filled id pfn ino offset data) isolated carried
      (update standing pfn (.cached ino offset)) := by
  obtain ⟨free, held⟩ := owned.free_of_mem listed
  have stands := owned.stands pfn
  rw [free] at stands
  have loose : pfn ∉ isolated := fun mem => stands.held mem
  have off : pfn ∉ memory.lru := by simp [stands.lru, Standing.IsCached]
  rw [Memory.filled]
  refine owned.move (by rfl) _ ?_ ?_ (owned.nodup_update _ ((owned.freeNodup id).erase pfn))
    (nodup_cons.mpr ⟨off, owned.lruNodup⟩) owned.isolatedNodup ?_
  · constructor
    · simpa using stands.area
    · simpa using stands.areaId
    · have taken := owned.not_mem_update_erase fun area => (held area).mp
      simpa using taken
    · simp
    · simpa using stands.out
    · simp [Standing.IsCached, loose]
    · simp [Standing.IsCached]
    · simp
    · simp [count_eq_zero_of_not_mem loose]
  · intro other isOther
    refine ⟨⟨?_, mem_update_iff ?_, ?_, rfl, rfl⟩, rfl⟩
    · simp [isOther]
    · simp [mem_erase_of_ne isOther]
    · simp [isOther]
  · have counted := owned.cachedPage
    simp only [length_cons]
    omega

/-- A page that was allocated and could not be stored goes back. -/
lemma Owned.refreed (found : memory.gcmaAllocPage = some (pfn, next)) :
    Owned (next.dropped pfn) isolated carried standing := by
  obtain ⟨id, listed, allocated⟩ := gcmaAllocPage_eq found
  obtain ⟨free, held⟩ := owned.free_of_mem listed
  have stands := owned.stands pfn
  have named : (memory.pages pfn).areaId = id :=
    stands.areaId id (by simp [free]) ((held id).mpr rfl)
  have off : pfn ∉ memory.lru := by simp [stands.lru, free, Standing.IsCached]
  have same : next.dropped pfn =
      { memory with
        freePages := update memory.freePages id (pfn :: (memory.freePages id).erase pfn)
        pages := update memory.pages pfn
          { memory.pages pfn with mapping := none, index := 0, gcmaFree := true, count := 0 } } := by
    rw [dropped_eq, allocated]
    simp [named, erase_of_not_mem off]
  rw [same]
  refine owned.stay pfn (by rfl) ?_ ?_ (owned.nodup_update _ ?_) owned.lruNodup owned.isolatedNodup
    owned.cachedPage
  · rw [free] at stands ⊢
    constructor
    · simpa using stands.area
    · simpa using stands.areaId
    · intro area
      by_cases isArea : area = id
      · subst isArea
        simpa using (held area).mpr rfl
      · simpa [isArea] using stands.listed area
    · simp
    · simpa using stands.out
    · simpa using stands.lru
    · exact stands.held
    · simp
    · simp
  · intro other isOther
    refine ⟨⟨?_, mem_update_iff ?_, Iff.rfl, rfl, rfl⟩, rfl⟩
    · simp [isOther]
    · simp [mem_erase_of_ne isOther, isOther]
  · exact nodup_cons.mpr ⟨(owned.freeNodup id).not_mem_erase, (owned.freeNodup id).erase pfn⟩

/-- The eviction isolates a page. -/
lemma Owned.isolatePage (on : pfn ∈ memory.lru) :
    Owned (memory.isolatePage pfn) (isolated ++ [pfn]) carried standing := by
  have stands := owned.stands pfn
  obtain ⟨cached, loose⟩ := stands.lru.mp on
  refine owned.stay pfn (by rfl) ?_ ?_ owned.freeNodup (owned.lruNodup.erase pfn) ?_ ?_
  · constructor
    · exact stands.area
    · simpa [Memory.isolatePage, Memory.gcmaGetPage, Memory.setPage, Memory.deletePageFromLru]
        using stands.areaId
    · exact stands.listed
    · simpa [Memory.isolatePage, Memory.gcmaGetPage, Memory.setPage, Memory.deletePageFromLru]
        using stands.flag
    · exact stands.out
    · simp [Memory.isolatePage, Memory.deletePageFromLru, Memory.gcmaGetPage, Memory.setPage,
        owned.lruNodup.not_mem_erase]
    · exact fun _ => cached
    · intro free
      rw [free] at cached
      exact cached.elim
    · intro ino offset isCached
      obtain ⟨mapping, index, count⟩ := stands.fields ino offset isCached
      simp [Memory.isolatePage, Memory.gcmaGetPage, Memory.setPage, Memory.deletePageFromLru, mapping,
        index, count, count_eq_zero_of_not_mem loose]
  · intro other isOther
    refine ⟨⟨?_, fun _ => Iff.rfl, ?_, rfl, ?_⟩, rfl⟩
    · simp [Memory.isolatePage, Memory.gcmaGetPage, Memory.setPage, Memory.deletePageFromLru, isOther]
    · exact mem_erase_of_ne isOther
    · simp [count_append, isOther.symm]
  · simpa using owned.isolatedNodup.concat loose
  · have counted := owned.cachedPage
    have := length_pos_of_mem on
    simp only [Memory.isolatePage, Memory.deletePageFromLru, Memory.gcmaGetPage, Memory.setPage,
      length_erase_of_mem on, length_append, length_singleton]
    omega

lemma Owned.rotated (pfn : Nat) : Owned (memory.rotateLruPage pfn) isolated carried standing := by
  rw [rotateLruPage]
  split
  next on =>
    have perm := (perm_cons_erase on).symm
    refine ⟨fun other => (owned.stands other).of_sameAt rfl
      ⟨rfl, fun _ => Iff.rfl, perm.mem_iff, rfl, rfl⟩ rfl, owned.disjoint, owned.freeNodup,
      perm.nodup_iff.mpr owned.lruNodup, owned.isolatedNodup, ?_⟩
    rw [owned.cachedPage, perm.length_eq]
  next => exact owned

/-- Nothing that is known of the pages looks at their contents. -/
lemma Owned.copied (pfn : Nat) (data : δ) :
    Owned (memory.copyPage pfn data) isolated carried standing := by
  have stands := owned.stands pfn
  refine owned.stay pfn (by rfl) ?_ ?_ owned.freeNodup owned.lruNodup owned.isolatedNodup
    owned.cachedPage
  · constructor
    · exact stands.area
    · simpa [copyPage, setPage] using stands.areaId
    · exact stands.listed
    · simpa [copyPage, setPage] using stands.flag
    · exact stands.out
    · exact stands.lru
    · exact stands.held
    · simpa [copyPage, setPage] using stands.reset
    · simpa [copyPage, setPage] using stands.fields
  · intro other isOther
    refine ⟨⟨?_, fun _ => Iff.rfl, Iff.rfl, rfl, rfl⟩, rfl⟩
    simp [copyPage, setPage, isOther]

end

end GsKernel.Gcma
