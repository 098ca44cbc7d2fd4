import GsKernel.Gcma.Invalidation

/-!
# Ranges that are handed out and come back

`gcma_alloc_range` takes the pages of a range from the free lists and from the cache; for a page
handed out already it tries again forever. `gcma_free_range` relies on its caller to give back
only pages that were handed out, and asserts only that they are in an area and not free.
-/

namespace GsKernel.Gcma

open Function Cache Memory List Option

variable {κ δ : Type*} {cache : Cache κ δ} {memory : Memory δ} {carried : Nat → Nat}
  {standing : Nat → Standing} {expected : Nat → κ → Nat → Option δ} {pfn : Nat}

lemma Cache.discardPage_free (isFree : (cache.memory.pages pfn).gcmaFree = true) :
    cache.discardPage pfn = some { cache with memory := cache.memory.handOutFree pfn } := by
  simp [discardPage, isFree, setPage, setFreePages, handOutFree]

lemma Cache.discardPage_cached {ino offset : Nat}
    (notFree : ¬ (cache.memory.pages pfn).gcmaFree = true)
    (count : (cache.memory.pages pfn).count = 1)
    (mapping : (cache.memory.pages pfn).mapping = some ino)
    (index : (cache.memory.pages pfn).index = offset)
    (loaded : cache.index.xaLoad ino offset = some pfn) :
    cache.discardPage pfn = some
        { memory := cache.memory.handOutCached pfn
          index := (cache.index.xaErase ino offset).putGcmaInode ino } := by
  simp [discardPage, notFree, count, mapping, index, loaded, setPage,
    deletePageFromLru, resetGcmaPage, handOutCached]

section

variable (valid : Valid cache [] carried (fun _ => 0) standing expected)
include valid

variable {next : Cache κ δ}

/-- The contents of the pages that stay in the cache. -/
lemma Valid.coherent_update {owner : Standing} (gone : ¬ owner.IsCached)
    (names : next.index.name = cache.index.name)
    (same : ∀ other, other ≠ pfn → next.memory.pages other = cache.memory.pages other)
    (other ino offset : Nat) (cached : update standing pfn owner other = .cached ino offset) :
    expected (next.index.name ino).1 (next.index.name ino).2 offset =
      some (next.memory.pages other).data := by
  have isOther : other ≠ pfn := by
    rintro rfl
    rw [update_self] at cached
    exact gone (by simp [cached, Standing.IsCached])
  rw [update_of_ne isOther] at cached
  rw [names, same other isOther]
  exact valid.coherent other ino offset cached

/-- One page of `__gcma_discard_range`. -/
lemma Valid.discardPage (inside : standing pfn ≠ .outside) (kept : standing pfn ≠ .handedOut) :
    ∃ next, cache.discardPage pfn = some next ∧
      Valid next [] carried (fun _ => 0) (update standing pfn .handedOut) expected := by
  have stands := valid.owned.stands pfn
  have flag := stands.flag inside
  cases owner : standing pfn with
  | outside => exact absurd owner inside
  | handedOut => exact absurd owner kept
  | free =>
    refine ⟨_, discardPage_free (flag.mpr owner), valid.owned.handOutFree owner, ?_,
      valid.coherent_update id rfl ?_⟩
    · refine valid.indexed.restand fun other ino offset => ?_
      by_cases isOther : other = pfn
      · simp [isOther, owner]
      · rw [update_of_ne isOther]
    · intro other isOther
      simp [handOutFree, isOther]
  | cached ino offset =>
    have notFree : ¬ (cache.memory.pages pfn).gcmaFree = true := by simp [flag, owner]
    obtain ⟨mapping, index, count⟩ := stands.fields ino offset owner
    rw [count_nil, add_zero] at count
    have loaded := valid.indexed.xaLoad_eq_some.mpr owner
    have erased : Indexed _ _ (update standing pfn .handedOut) :=
      valid.indexed.xaErase owner id
    have held : update (fun _ => 0) ino (0 + 1) ino ≠ 0 := by simp
    refine ⟨_, discardPage_cached notFree count mapping index loaded,
      valid.owned.handOutCached owner, ?_, valid.coherent_update id ?_ ?_⟩
    · simpa using erased.putGcmaInode held
    · simp
    · intro other isOther
      simp [handOutCached, isOther]

/-- A page that is handed out cannot be taken again. -/
lemma Valid.discardPage_handedOut (out : standing pfn = .handedOut) :
    cache.discardPage pfn = none := by
  have stands := valid.owned.stands pfn
  have notFree : ¬ (cache.memory.pages pfn).gcmaFree = true := by
    simp [stands.flag (by simp [out]), out]
  simp only [Cache.discardPage, if_neg notFree]
  split
  next =>
    cases (cache.memory.pages pfn).mapping with
    | none => rfl
    | some ino =>
      rw [bind_some, if_neg]
      rw [valid.indexed.xaLoad_eq_some, out]
      simp
  next => rfl

variable {pages : List Nat}

/-- `gcma_alloc_range` over pages that are in the areas. -/
lemma Valid.discardPages (inside : ∀ pfn ∈ pages, standing pfn ≠ .outside)
    (ran : pages.foldlM Cache.discardPage cache = some next) : Quiet next carried expected := by
  induction pages generalizing cache standing with
  | nil =>
    obtain rfl : cache = next := by simpa using ran
    exact ⟨standing, valid⟩
  | cons pfn pages ih =>
    rw [forall_mem_cons] at inside
    rw [foldlM_cons] at ran
    obtain ⟨middle, discarded, rest⟩ := bind_eq_some_iff.mp ran
    have kept : standing pfn ≠ .handedOut := by
      intro out
      rw [valid.discardPage_handedOut out] at discarded
      simp at discarded
    obtain ⟨other, same, middleValid⟩ := valid.discardPage inside.1 kept
    obtain rfl : middle = other := some.inj (discarded.symm.trans same)
    refine ih middleValid (fun page mem => ?_) rest
    by_cases isPage : page = pfn
    · simp [isPage]
    · rw [update_of_ne isPage]
      exact inside.2 page mem

/-- It ends when none of them is handed out. -/
lemma Valid.discardPages_total (nodup : pages.Nodup)
    (inside : ∀ pfn ∈ pages, standing pfn ≠ .outside ∧ standing pfn ≠ .handedOut) :
    ∃ next, pages.foldlM Cache.discardPage cache = some next := by
  induction pages generalizing cache standing with
  | nil => exact ⟨cache, rfl⟩
  | cons pfn pages ih =>
    rw [nodup_cons] at nodup
    rw [forall_mem_cons] at inside
    obtain ⟨middle, discarded, middleValid⟩ := valid.discardPage inside.1.1 inside.1.2
    obtain ⟨next, rest⟩ := ih middleValid nodup.2 fun page mem => by
      rw [update_of_ne (ne_of_mem_of_not_mem mem nodup.1)]
      exact inside.2 page mem
    exact ⟨next, by rw [foldlM_cons, discarded]; exact rest⟩

end

variable {startPfn endPfn : Nat}

lemma Area.mem_clip {area : Area} : pfn ∈ area.clip startPfn endPfn ↔
      startPfn ≤ pfn ∧ pfn ≤ endPfn ∧ area.startPfn ≤ pfn ∧ pfn ≤ area.endPfn := by
  rw [Area.clip]
  split
  next apart =>
    simp only [not_mem_nil, false_iff]
    omega
  next =>
    rw [mem_range'_1]
    omega

lemma holds_of_getElem? {areas : List Area} {id : Nat} {area : Area} (found : areas[id]? = some area) :
    holds areas id pfn = true ↔ area.startPfn ≤ pfn ∧ pfn ≤ area.endPfn := by
  simp [holds, found]

/-- The pages of a range are those in the areas. -/
lemma Memory.mem_rangePages : pfn ∈ memory.rangePages startPfn endPfn ↔
      startPfn ≤ pfn ∧ pfn ≤ endPfn ∧ ∃ id, holds memory.areas id pfn = true := by
  simp only [rangePages, mem_flatMap, Area.mem_clip]
  constructor
  · rintro ⟨area, mem, low, high, inside⟩
    obtain ⟨id, found⟩ := mem_iff_getElem?.mp mem
    exact ⟨low, high, id, (holds_of_getElem? found).mpr inside⟩
  · rintro ⟨low, high, id, held⟩
    obtain ⟨area, found, inside⟩ := (any_eq_true _ _).mp held
    exact ⟨area, mem_of_getElem? found, low, high, by simpa using inside⟩

lemma Owned.rangePages_nodup (owned : Owned memory [] carried standing) (startPfn endPfn : Nat) :
    (memory.rangePages startPfn endPfn).Nodup := by
  rw [rangePages, nodup_flatMap]
  constructor
  · intro area _
    rw [Area.clip]
    split
    · exact nodup_nil
    · exact nodup_range'
  · rw [pairwise_iff_getElem]
    intro first second firstLt secondLt before pfn inFirst inSecond
    have heldFirst := (holds_of_getElem? (getElem?_eq_getElem firstLt)).mpr
      (Area.mem_clip.mp inFirst).2.2
    have heldSecond := (holds_of_getElem? (getElem?_eq_getElem secondLt)).mpr
      (Area.mem_clip.mp inSecond).2.2
    exact before.ne (owned.disjoint first second pfn heldFirst heldSecond)

lemma Quiet.gcmaAllocRange (quiet : Quiet cache carried expected)
    {next : Cache κ δ} (ran : cache.gcmaAllocRange startPfn endPfn = some next) :
    Quiet next carried expected := by
  obtain ⟨standing, valid⟩ := quiet
  refine valid.discardPages (fun pfn mem => ?_) ran
  exact (valid.owned.stands pfn).area.mp (mem_rangePages.mp mem).2.2

lemma Quiet.gcmaAllocRange_total (quiet : Quiet cache carried expected)
    (kept : ∀ pfn, startPfn ≤ pfn → pfn ≤ endPfn → cache.memory.handedOut pfn = false) :
    ∃ next, cache.gcmaAllocRange startPfn endPfn = some next := by
  obtain ⟨standing, valid⟩ := quiet
  refine valid.discardPages_total (valid.owned.rangePages_nodup _ _) fun pfn mem => ?_
  obtain ⟨low, high, held⟩ := mem_rangePages.mp mem
  refine ⟨(valid.owned.stands pfn).area.mp held, fun out => ?_⟩
  rw [← (valid.owned.stands pfn).out, kept pfn low high] at out
  simp at out

lemma Memory.lookupAreaId_eq_some {id startId : Nat}
    (found : memory.lookupAreaId pfn startId = some id) : holds memory.areas id pfn = true := by
  rw [lookupAreaId] at found
  split at found
  next held =>
    cases found
    exact held
  next => exact find?_some (p := fun id => holds memory.areas id pfn) found

variable {result : Memory δ × Nat}

/-- What `gcma_free_range` does to one page. -/
lemma Memory.freeRangePage_eq {startId : Nat}
    (freed : Memory.freeRangePage (memory, startId) pfn = some result) :
    (memory.pages pfn).gcmaFree = false ∧ holds memory.areas result.2 pfn = true ∧
      result.1 = memory.handedBack result.2 pfn := by
  rw [freeRangePage] at freed
  split at freed
  next => simp at freed
  next notFree =>
    obtain ⟨id, found, same⟩ := map_eq_some_iff.mp freed
    rw [← same]
    refine ⟨by simpa using notFree, lookupAreaId_eq_some found, ?_⟩
    simp [freePage, resetGcmaPage, setPage, setFreePages, handedBack]

lemma Memory.lookupAreaId_isSome {id : Nat} (held : holds memory.areas id pfn = true)
    (startId : Nat) : (memory.lookupAreaId pfn startId).isSome = true := by
  rw [lookupAreaId]
  split
  next => rfl
  next =>
    obtain ⟨area, found, -⟩ := (any_eq_true _ _).mp held
    have bound : id < memory.areas.length := (List.getElem?_eq_some_iff.mp found).1
    rw [find?_isSome]
    exact ⟨id, mem_range.mpr bound, held⟩

/-- A page that was handed out can be given back. -/
lemma Owned.freeRangePage_total (owned : Owned memory [] carried standing)
    (out : standing pfn = .handedOut) (startId : Nat) :
    ∃ result, Memory.freeRangePage (memory, startId) pfn = some result := by
  have stands := owned.stands pfn
  have notFree : (memory.pages pfn).gcmaFree ≠ true := by
    simp [stands.flag (by simp [out]), out]
  obtain ⟨id, held⟩ := stands.area.mpr (by simp [out])
  obtain ⟨area, found⟩ := isSome_iff_exists.mp (lookupAreaId_isSome held startId)
  exact ⟨_, by rw [freeRangePage, if_neg notFree, found, map_some]⟩

variable {pages : List Nat}

/-- It ends when all of them were handed out. -/
lemma Owned.freeRangePages_total (owned : Owned memory [] carried standing)
    (nodup : pages.Nodup) (out : ∀ pfn ∈ pages, standing pfn = .handedOut) (startId : Nat) :
    ∃ result, pages.foldlM Memory.freeRangePage (memory, startId) = some result := by
  induction pages generalizing memory standing carried startId with
  | nil => exact ⟨_, rfl⟩
  | cons pfn pages ih =>
    rw [nodup_cons] at nodup
    rw [forall_mem_cons] at out
    obtain ⟨⟨middle, id⟩, freed⟩ := owned.freeRangePage_total out.1 startId
    obtain ⟨-, held, back⟩ := freeRangePage_eq freed
    have middleOwned := owned.handedBack out.1 held
    rw [← back] at middleOwned
    obtain ⟨result, rest⟩ := ih middleOwned nodup.2 (fun other mem => by
      rw [update_of_ne (ne_of_mem_of_not_mem mem nodup.1)]
      exact out.2 other mem) id
    exact ⟨result, by rw [foldlM_cons, freed]; exact rest⟩

/-- The reference counts with which pages come back. -/
def carryFrom (memory : Memory δ) (pages : List Nat) (carried : Nat → Nat) : Nat → Nat :=
  fun pfn => if pfn ∈ pages then (memory.pages pfn).count else carried pfn

/-- `gcma_free_range` over pages that are not cached. -/
lemma Valid.freeRangePages (valid : Valid cache [] carried (fun _ => 0) standing expected)
    (nodup : pages.Nodup) (uncached : ∀ pfn ∈ pages, ¬ (standing pfn).IsCached) {startId : Nat}
    (ran : pages.foldlM Memory.freeRangePage (cache.memory, startId) = some result) :
    Quiet { cache with memory := result.1 } (carryFrom cache.memory pages carried) expected := by
  induction pages generalizing cache standing carried startId with
  | nil =>
    obtain rfl : (cache.memory, startId) = result := by simpa using ran
    have same : carryFrom cache.memory [] carried = carried := by
      funext pfn
      simp [carryFrom]
    rw [same]
    exact ⟨standing, valid⟩
  | cons pfn pages ih =>
    rw [nodup_cons] at nodup
    rw [forall_mem_cons] at uncached
    rw [foldlM_cons] at ran
    obtain ⟨⟨middle, id⟩, freed, rest⟩ := bind_eq_some_iff.mp ran
    obtain ⟨notFree, held, back⟩ := freeRangePage_eq freed
    simp only at held back
    have stands := valid.owned.stands pfn
    have inside := stands.area.mp ⟨id, held⟩
    have out : standing pfn = .handedOut := by
      cases owner : standing pfn with
      | outside => exact absurd owner inside
      | free => simp [(stands.flag inside).mpr owner] at notFree
      | handedOut => rfl
      | cached ino offset => simp [owner, Standing.IsCached] at uncached
    have middleValid : Valid { cache with memory := middle } []
        (update carried pfn (cache.memory.pages pfn).count) (fun _ => 0)
        (update standing pfn .free) expected := by
      rw [back]
      refine ⟨valid.owned.handedBack out held, ?_, valid.coherent_update not_false rfl ?_⟩
      · refine valid.indexed.restand fun other ino offset => ?_
        by_cases isOther : other = pfn
        · simp [isOther, out]
        · rw [update_of_ne isOther]
      · intro other isOther
        simp [handedBack, isOther]
    have carriedSame : carryFrom middle pages (update carried pfn (cache.memory.pages pfn).count) =
        carryFrom cache.memory (pfn :: pages) carried := by
      funext other
      by_cases isPage : other = pfn
      · simp [carryFrom, isPage, nodup.1]
      · simp [carryFrom, isPage, back, handedBack]
    rw [← carriedSame]
    refine ih middleValid nodup.2 (fun other mem => ?_) rest
    rw [update_of_ne (ne_of_mem_of_not_mem mem nodup.1)]
    exact uncached.2 other mem

lemma Quiet.gcmaFreeRange (quiet : Quiet cache carried expected)
    (uncached : ∀ pfn, startPfn ≤ pfn → pfn ≤ endPfn → ∀ ino offset,
      (offset, pfn) ∉ (cache.index.inodes ino).pages)
    {next : Memory δ} (ran : cache.memory.gcmaFreeRange startPfn endPfn = some next) :
    Quiet { cache with memory := next }
      (fun pfn => if startPfn ≤ pfn ∧ pfn ≤ endPfn then (cache.memory.pages pfn).count
        else carried pfn) expected := by
  obtain ⟨standing, valid⟩ := quiet
  obtain ⟨result, folded, rfl⟩ := map_eq_some_iff.mp ran
  have listed : ∀ pfn, pfn ∈ range' startPfn (endPfn + 1 - startPfn) ↔
      startPfn ≤ pfn ∧ pfn ≤ endPfn := by
    intro pfn
    rw [mem_range'_1]
    omega
  have freed := valid.freeRangePages nodup_range' (fun pfn mem => ?_) folded
  · unfold carryFrom at freed
    simpa only [listed] using freed
  · obtain ⟨low, high⟩ := (listed pfn).mp mem
    intro cached
    cases owner : standing pfn with
    | outside | free | handedOut => simp [owner, Standing.IsCached] at cached
    | cached ino offset =>
      exact uncached pfn low high ino offset ((valid.indexed.entries ino offset pfn).mpr owner)

lemma Quiet.gcmaFreeRange_total (quiet : Quiet cache carried expected)
    (out : ∀ pfn, startPfn ≤ pfn → pfn ≤ endPfn → cache.memory.handedOut pfn = true) :
    ∃ next, cache.memory.gcmaFreeRange startPfn endPfn = some next := by
  obtain ⟨standing, valid⟩ := quiet
  obtain ⟨result, ran⟩ := valid.owned.freeRangePages_total
    (nodup_range' (s := startPfn) (n := endPfn + 1 - startPfn)) (fun pfn mem => by
      rw [mem_range'_1] at mem
      exact (valid.owned.stands pfn).out.mp (out pfn mem.1 (by omega))) 0
  exact ⟨result.1, by rw [Memory.gcmaFreeRange, ran, map_some]⟩

end GsKernel.Gcma
