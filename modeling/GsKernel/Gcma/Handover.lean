import GsKernel.Gcma.Ownership

/-!
# Pages that leave the cache and come to it

`register_gcma_area` brings the pages of an area, `__gcma_discard_range` hands pages out and
`gcma_free_range` takes them back. A page keeps the reference count with which it comes
until the cache uses it.
-/

namespace GsKernel.Gcma

open Function List

variable {δ : Type*} {memory : Memory δ} {isolated : List Nat} {carried : Nat → Nat}
  {standing : Nat → Standing} {pfn : Nat}

/-- A free page that is handed out. -/
def Memory.handOutFree (memory : Memory δ) (pfn : Nat) : Memory δ :=
  { memory with
    freePages := update memory.freePages (memory.pages pfn).areaId
      ((memory.freePages (memory.pages pfn).areaId).erase pfn)
    pages := update memory.pages pfn { memory.pages pfn with gcmaFree := false }
    handedOut := update memory.handedOut pfn true }

section

variable (owned : Owned memory isolated carried standing)
include owned

lemma Owned.handOutFree (free : standing pfn = .free) :
    Owned (memory.handOutFree pfn) isolated carried (update standing pfn .handedOut) := by
  have stands := owned.stands pfn
  have areaId := owned.holds_areaId pfn (by simp [free]) (by simp [free])
  have taken := owned.not_mem_update_erase fun area => (areaId area).mp
  rw [free] at stands
  rw [Memory.handOutFree]
  refine owned.move (by rfl) _ ?_ ?_ (owned.nodup_update _ ((owned.freeNodup _).erase pfn))
    owned.lruNodup owned.isolatedNodup owned.cachedPage
  · constructor
    · simpa using stands.area
    · simp
    · simpa using taken
    · simp
    · simp
    · simpa [Standing.IsCached] using stands.lru
    · exact stands.held
    · simp
    · simp
  · intro other isOther
    refine ⟨⟨?_, mem_update_iff ?_, Iff.rfl, ?_, rfl⟩, rfl⟩
    · simp [isOther]
    · simp [mem_erase_of_ne isOther]
    · simp [isOther]

/-- A cached page that is handed out. -/
def Memory.handOutCached (memory : Memory δ) (pfn : Nat) : Memory δ :=
  { memory with
    pages := update memory.pages pfn
      { memory.pages pfn with mapping := none, index := 0, count := 0 }
    lru := memory.lru.erase pfn
    cachedPage := memory.cachedPage - 1
    handedOut := update memory.handedOut pfn true }

/-- A cached page is handed out. -/
lemma Owned.handOutCached {ino offset : Nat} (cached : standing pfn = .cached ino offset) :
    Owned (memory.handOutCached pfn) (isolated.erase pfn) carried
      (update standing pfn .handedOut) := by
  have stands := owned.stands pfn
  have counted := owned.length_erase pfn (by simp [cached, Standing.IsCached])
  rw [cached] at stands
  rw [Memory.handOutCached]
  refine owned.move (by rfl) _ ?_ ?_ owned.freeNodup (owned.lruNodup.erase pfn)
    (owned.isolatedNodup.erase pfn) counted
  · constructor
    · simpa using stands.area
    · simp
    · simpa using stands.listed
    · simpa using stands.flag
    · simp
    · simp [Standing.IsCached, owned.lruNodup.not_mem_erase]
    · exact fun still => absurd still owned.isolatedNodup.not_mem_erase
    · simp
    · simp
  · intro other isOther
    refine ⟨⟨?_, fun _ => Iff.rfl, ?_, ?_, count_erase_of_ne isOther⟩, rfl⟩
    · simp [isOther]
    · simp [mem_erase_of_ne isOther]
    · simp [isOther]

/-- A page that was handed out comes back, with the reference count that it has. -/
def Memory.handedBack (memory : Memory δ) (id pfn : Nat) : Memory δ :=
  { memory with
    freePages := update memory.freePages id (pfn :: memory.freePages id)
    pages := update memory.pages pfn
      { memory.pages pfn with areaId := id, mapping := none, index := 0, gcmaFree := true }
    handedOut := update memory.handedOut pfn false }

/-- A page that was handed out is free again. -/
lemma Owned.handedBack {id : Nat}
    (out : standing pfn = .handedOut) (held : holds memory.areas id pfn = true) :
    Owned (memory.handedBack id pfn) isolated (update carried pfn (memory.pages pfn).count)
      (update standing pfn .free) := by
  have stands := owned.stands pfn
  rw [out] at stands
  have unlisted : ∀ area, pfn ∉ memory.freePages area := by simp [stands.listed]
  have only : ∀ area, holds memory.areas area pfn = true ↔ id = area :=
    fun area => ⟨owned.disjoint _ _ _ held, fun same => same ▸ held⟩
  rw [Memory.handedBack]
  refine owned.move (by rfl) _ ?_ ?_ (owned.nodup_update _ ?_) owned.lruNodup owned.isolatedNodup
    owned.cachedPage
  · constructor
    · simpa using stands.area
    · simpa using fun area => (only area).mp
    · simpa using mem_update_cons unlisted only
    · simp
    · simp
    · simpa [Standing.IsCached] using stands.lru
    · exact stands.held
    · simp
    · simp
  · intro other isOther
    refine ⟨⟨?_, mem_update_iff ?_, Iff.rfl, ?_, rfl⟩, ?_⟩
    · simp [isOther]
    · simp [isOther]
    · simp [isOther]
    · simp [isOther]
  · exact nodup_cons.mpr ⟨unlisted id, owned.freeNodup id⟩

/-- The user of a page may change what the allocator does not look at. -/
lemma Owned.used (out : standing pfn = .handedOut) (page : Page δ) :
    Owned (memory.setPage pfn fun _ => { page with gcmaFree := false }) isolated carried
      standing := by
  have stands := owned.stands pfn
  refine owned.stay pfn (by rfl) ?_ ?_ owned.freeNodup owned.lruNodup owned.isolatedNodup
    owned.cachedPage
  · rw [out] at stands ⊢
    constructor
    · exact stands.area
    · simp
    · exact stands.listed
    · simp [Memory.setPage]
    · exact stands.out
    · exact stands.lru
    · exact stands.held
    · simp
    · simp
  · intro other isOther
    refine ⟨⟨?_, fun _ => Iff.rfl, Iff.rfl, rfl, rfl⟩, rfl⟩
    simp [Memory.setPage, isOther]

end

variable {startPfn pageCount : Nat}

lemma holds_append {areas : List Area} (nonempty : 0 < pageCount) (id pfn : Nat) :
    holds (areas ++ [⟨startPfn, startPfn + pageCount - 1⟩]) id pfn = true ↔
      holds areas id pfn = true ∨ (id = areas.length ∧ InRange startPfn pageCount pfn) := by
  rcases Nat.lt_trichotomy id areas.length with old | isNew | beyond
  · simp [holds, getElem?_append_left old, old.ne]
  · subst isNew
    simp only [holds, InRange, getElem?_concat_length, Option.any_some, decide_eq_true_eq,
      getElem?_eq_none le_rfl, Option.any_none, Bool.false_eq_true, false_or, true_and]
    omega
  · have short : (areas ++ [(⟨startPfn, startPfn + pageCount - 1⟩ : Area)]).length ≤ id := by
      simpa using beyond
    simp [holds, getElem?_eq_none short, getElem?_eq_none beyond.le, beyond.ne']

/-- The pages of a new area are free. -/
lemma Owned.registered (owned : Owned memory isolated carried standing) (nonempty : 0 < pageCount)
    (apart : ∀ pfn, InRange startPfn pageCount pfn → ∀ id, holds memory.areas id pfn = false)
    (room : memory.areas.length < Memory.maxGcmaAreas) :
    Owned (memory.registerGcmaArea startPfn pageCount) isolated
      (fun pfn => if InRange startPfn pageCount pfn then (memory.pages pfn).count else carried pfn)
      (fun pfn => if InRange startPfn pageCount pfn then .free else standing pfn) := by
  rw [Memory.registerGcmaArea, if_neg (by omega)]
  have outside : ∀ pfn, InRange startPfn pageCount pfn → standing pfn = .outside := by
    intro pfn inRange
    by_contra inside
    obtain ⟨id, held⟩ := (owned.stands pfn).area.mpr inside
    simp [apart pfn inRange id] at held
  have listedNew : ∀ pfn, pfn ∈ (range' startPfn pageCount).reverse ↔
      InRange startPfn pageCount pfn := by
    simp [InRange]
  refine ⟨fun pfn => ?_, ?_, ?_, owned.lruNodup, owned.isolatedNodup, owned.cachedPage⟩
  · have stands := owned.stands pfn
    by_cases inRange : InRange startPfn pageCount pfn
    · rw [outside pfn inRange] at stands
      simp only [if_pos inRange]
      have only : ∀ id, holds (memory.areas ++ [⟨startPfn, startPfn + pageCount - 1⟩]) id pfn = true ↔
          id = memory.areas.length := by
        simp [holds_append nonempty, apart pfn inRange, inRange]
      have none : ∀ area, pfn ∉ memory.freePages area := by simp [stands.listed]
      constructor
      · simp [only]
      · simp [only, inRange]
      · intro id
        rw [only]
        by_cases isNew : id = memory.areas.length
        · simp [isNew, listedNew, inRange]
        · simp [isNew, none]
      · simp [inRange]
      · simpa using stands.out
      · simpa [Standing.IsCached] using stands.lru
      · exact stands.held
      · simp [inRange]
      · simp
    · simp only [if_neg inRange]
      have same : ∀ id, holds (memory.areas ++ [⟨startPfn, startPfn + pageCount - 1⟩]) id pfn = true ↔
          holds memory.areas id pfn = true := by
        simp [holds_append nonempty, inRange]
      constructor
      · simpa [same] using stands.area
      · simpa [same, inRange] using stands.areaId
      · intro id
        rw [same, ← stands.listed]
        by_cases isNew : id = memory.areas.length
        · have unlisted : pfn ∉ memory.freePages id := by simp [stands.listed, isNew, holds]
          simp [isNew, listedNew, inRange, isNew ▸ unlisted]
        · simp [isNew]
      · simpa [inRange] using stands.flag
      · exact stands.out
      · exact stands.lru
      · exact stands.held
      · simpa [inRange] using stands.reset
      · simpa [inRange] using stands.fields
  · intro first second pfn
    simp only [holds_append nonempty]
    rintro (old | ⟨rfl, inRange⟩) (other | ⟨rfl, other⟩)
    · exact owned.disjoint _ _ _ old other
    · simp [apart pfn other] at old
    · simp [apart pfn inRange] at other
    · rfl
  · exact owned.nodup_update _ (nodup_reverse.mpr nodup_range')

end GsKernel.Gcma
