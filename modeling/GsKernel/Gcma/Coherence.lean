import GsKernel.Gcma.InodeHash
import GsKernel.Gcma.Handover

/-!
# The cache holds what was last stored

`Valid` joins what is known of the pages and of the inodes with the contents: what a page caches
is what `expected` gives for its file system, key and offset. Each lemma here says how the page
that a part of an operation works on changes its standing.
-/

namespace GsKernel.Gcma

open Function Cache Memory List

variable {κ δ : Type*}

structure Valid (cache : Cache κ δ) (isolated : List Nat) (carried extra : Nat → Nat)
    (standing : Nat → Standing) (expected : Nat → κ → Nat → Option δ) : Prop where
  owned : Owned cache.memory isolated carried standing
  indexed : Indexed cache.index extra standing
  coherent : ∀ pfn ino offset, standing pfn = .cached ino offset →
    expected (cache.index.name ino).1 (cache.index.name ino).2 offset =
      some (cache.memory.pages pfn).data

variable {cache : Cache κ δ} {isolated : List Nat} {carried extra : Nat → Nat}
  {standing : Nat → Standing} {expected expectedNext : Nat → κ → Nat → Option δ}
  {ino offset pfn fs : Nat} {key : κ}

section

variable (valid : Valid cache isolated carried extra standing expected)
include valid

/-- What is expected where nothing is cached does not matter. -/
lemma Valid.expecting (same : ∀ pfn ino offset, standing pfn = .cached ino offset →
      expectedNext (cache.index.name ino).1 (cache.index.name ino).2 offset =
        expected (cache.index.name ino).1 (cache.index.name ino).2 offset) :
    Valid cache isolated carried extra standing expectedNext :=
  ⟨valid.owned, valid.indexed, fun pfn ino offset cached => by
    rw [same pfn ino offset cached, valid.coherent pfn ino offset cached]⟩

lemma Valid.getInode (live : (cache.index.inodes ino).refCount ≠ 0) :
    Valid (cache.getInode ino) isolated carried (update extra ino (extra ino + 1)) standing
      expected :=
  ⟨valid.owned, valid.indexed.getGcmaInode live, by simpa [Cache.getInode] using valid.coherent⟩

lemma Valid.putInode (held : extra ino ≠ 0) :
    Valid (cache.putInode ino) isolated carried (update extra ino (extra ino - 1)) standing
      expected :=
  ⟨valid.owned, valid.indexed.putGcmaInode held, by simpa [Cache.putInode] using valid.coherent⟩

end

/-- The last reference to a page that an inode holds. -/
lemma Cache.gcmaPutPage_mapped (ino : Nat) (last : (cache.memory.pages pfn).count = 1)
    (mapping : (cache.memory.pages pfn).mapping = some ino) :
    cache.gcmaPutPage pfn =
      { memory := cache.memory.dropped pfn, index := cache.index.putGcmaInode ino } := by
  simp [gcmaPutPage, setPage, last, mapping, dropped]

lemma Cache.gcmaPutPage_unmapped (last : (cache.memory.pages pfn).count = 1)
    (mapping : (cache.memory.pages pfn).mapping = none) :
    cache.gcmaPutPage pfn = { cache with memory := cache.memory.dropped pfn } := by
  simp [gcmaPutPage, setPage, last, mapping, dropped]

lemma Cache.gcmaPutPage_shared (shared : 1 < (cache.memory.pages pfn).count) :
    cache.gcmaPutPage pfn =
      { cache with
        memory := cache.memory.setPage pfn fun page => { page with count := page.count - 1 } } := by
  have left : (cache.memory.pages pfn).count - 1 ≠ 0 := by omega
  simp [gcmaPutPage, setPage, left]

@[simp] lemma Cache.name_gcmaPutPage : (cache.gcmaPutPage pfn).index.name = cache.index.name := by
  simp only [gcmaPutPage]
  split
  next =>
    cases (cache.memory.pages pfn).mapping with
    | none => rfl
    | some ino => exact Index.name_putGcmaInode
  next => rfl

@[simp] lemma Cache.name_gcmaErasePage :
    (cache.gcmaErasePage ino offset pfn).index.name = cache.index.name := by
  simp [gcmaErasePage]

lemma Memory.dropped_setPage {memory : Memory δ} :
    (memory.setPage pfn fun page => { page with count := page.count - 1 }).dropped pfn =
      memory.dropped pfn := by
  simp [dropped, setPage]

lemma Memory.dropped_data {memory : Memory δ} (other : Nat) :
    ((memory.dropped pfn).pages other).data = (memory.pages other).data := by
  rw [dropped_eq]
  by_cases isPage : other = pfn <;> simp [isPage]

section

variable (valid : Valid cache isolated carried extra standing expected)
include valid

/-- A cached page goes back to the free list, and its inode loses a reference. -/
lemma Valid.released (cached : standing pfn = .cached ino offset) : Valid
      { memory := cache.memory.dropped pfn
        index := (cache.index.xaErase ino offset).putGcmaInode ino }
      (isolated.erase pfn) carried extra (update standing pfn .free) expected := by
  refine ⟨valid.owned.dropped cached, ?_, ?_⟩
  · have erased : Indexed _ _ (update standing pfn .free) :=
      valid.indexed.xaErase cached id
    have held : update extra ino (extra ino + 1) ino ≠ 0 := by simp
    simpa using erased.putGcmaInode held
  · intro other inode position isCached
    by_cases isPage : other = pfn
    · simp [isPage] at isCached
    · rw [update_of_ne isPage] at isCached
      simpa [dropped_data] using valid.coherent other inode position isCached

lemma Valid.gcmaErasePage (cached : standing pfn = .cached ino offset) (loose : pfn ∉ isolated) :
    Valid (cache.gcmaErasePage ino offset pfn) isolated carried extra
      (update standing pfn .free) expected := by
  obtain ⟨mapping, -, count⟩ := (valid.owned.stands pfn).fields ino offset cached
  rw [count_eq_zero_of_not_mem loose] at count
  have released := valid.released cached
  rw [erase_of_not_mem loose] at released
  rw [Cache.gcmaErasePage, Cache.gcmaPutPage_mapped ino]
  · exact released
  · exact count
  · exact mapping

/-- The eviction of an isolated page: its erasure leaves the reference of the eviction. -/
lemma Valid.evictPage (held : pfn ∈ isolated) : ∃ next, cache.evictPage pfn = some next ∧
      Valid next (isolated.erase pfn) carried extra (update standing pfn .free) expected := by
  have stands := valid.owned.stands pfn
  cases cached : standing pfn with
  | outside | free | handedOut =>
    have isCached := stands.held held
    rw [cached] at isCached
    exact isCached.elim
  | cached ino offset =>
    obtain ⟨mapping, index, count⟩ := stands.fields ino offset cached
    rw [count_eq_one_of_mem valid.owned.isolatedNodup held] at count
    have loaded := valid.indexed.xaLoad_eq_some.mpr cached
    have released := valid.released cached
    refine ⟨_, ?_, released⟩
    have erased : cache.gcmaErasePage ino offset pfn =
        { memory := cache.memory.setPage pfn fun page => { page with count := page.count - 1 }
          index := cache.index.xaErase ino offset } :=
      gcmaPutPage_shared (by simp [count])
    rw [Cache.evictPage, mapping, Option.map_some, index, if_pos loaded, erased,
      gcmaPutPage_mapped ino]
    · rw [Memory.dropped_setPage]
    · simp [Memory.setPage, count]
    · simpa [Memory.setPage] using mapping

lemma Valid.isolatePages (batch : List Nat) (nodup : batch.Nodup)
    (listed : ∀ pfn ∈ batch, pfn ∈ cache.memory.lru) :
    Valid { cache with memory := batch.foldl Memory.isolatePage cache.memory } (isolated ++ batch)
      carried extra standing expected := by
  induction batch generalizing cache isolated with
  | nil => simpa using valid
  | cons pfn batch ih =>
    rw [nodup_cons] at nodup
    rw [forall_mem_cons] at listed
    have kept : ∀ other, ((cache.memory.isolatePage pfn).pages other).data =
        (cache.memory.pages other).data := by
      intro other
      by_cases isPage : other = pfn <;>
        simp [isolatePage, gcmaGetPage, setPage, deletePageFromLru, isPage]
    have once : Valid { cache with memory := cache.memory.isolatePage pfn } (isolated ++ [pfn])
        carried extra standing expected :=
      ⟨valid.owned.isolatePage listed.1, valid.indexed, fun other ino offset cached => by
        rw [kept]
        exact valid.coherent other ino offset cached⟩
    have apart : ∀ other ∈ batch, other ∈ cache.memory.lru.erase pfn := by
      intro other mem
      have different : other ≠ pfn := by
        rintro rfl
        exact nodup.1 mem
      exact (mem_erase_of_ne different).mpr (listed.2 other mem)
    simpa using ih once nodup.2 apart

lemma Valid.evictPages : ∃ next standingNext, isolated.foldlM Cache.evictPage cache = some next ∧
      Valid next [] carried extra standingNext expected := by
  induction isolated generalizing cache standing with
  | nil => exact ⟨cache, standing, rfl, valid⟩
  | cons pfn rest ih =>
    obtain ⟨next, evicted, nextValid⟩ := valid.evictPage mem_cons_self
    rw [erase_cons_head] at nextValid
    obtain ⟨final, standingFinal, ran, finalValid⟩ := ih nextValid
    refine ⟨final, standingFinal, ?_, finalValid⟩
    rw [foldlM_cons, evicted]
    exact ran

end

lemma Memory.isolate_sublist (pages : Nat → Page δ) (lru : List Nat) (request count : Nat) :
    (isolate pages lru request count).1.Sublist lru := by
  fun_induction isolate pages lru request count with
  | case1 => exact Sublist.refl []
  | case2 => exact nil_sublist _
  | case3 pfn rest request count _ _ ih => exact ih.cons pfn
  | case4 pfn rest request count _ _ batch left isBatch ih =>
    rw [isBatch] at ih
    exact ih.cons_cons pfn

lemma Memory.isolate_left_le (pages : Nat → Page δ) (lru : List Nat) (request count : Nat) :
    (isolate pages lru request count).2 ≤ request := by
  fun_induction isolate pages lru request count with
  | case1 => exact le_rfl
  | case2 => exact le_rfl
  | case3 pfn rest request count _ _ ih => omega
  | case4 pfn rest request count _ _ batch left isBatch ih =>
    simp only [isBatch] at ih
    omega

/-- A round takes at least one page off the request. -/
lemma Memory.isolate_left_lt (pages : Nat → Page δ) {lru : List Nat} {request : Nat}
    (listed : lru ≠ []) (requested : request ≠ 0) : (isolate pages lru request 0).2 < request := by
  cases lru with
  | nil => exact absurd rfl listed
  | cons pfn rest =>
    have skipped := isolate_left_le pages rest (request - 1) 0
    have taken := isolate_left_le pages rest (request - 1) 1
    rw [isolate, if_neg (by simp [requested, maxEvictBatch])]
    split
    next => omega
    next => exact lt_of_le_of_lt taken (by omega)

/-- The rounds allowed are as many as the loop can need. -/
lemma Cache.evictRounds_enough {rounds more request : Nat} (enough : request ≤ rounds)
    (alsoEnough : request ≤ more) :
    evictRounds rounds request cache = evictRounds more request cache := by
  induction rounds generalizing more request cache with
  | zero =>
    obtain rfl : request = 0 := by omega
    cases more <;> simp [evictRounds]
  | succ rounds ih =>
    cases more with
    | zero =>
      obtain rfl : request = 0 := by omega
      simp [evictRounds]
    | succ more =>
      rw [evictRounds, evictRounds]
      split
      next => rfl
      next going =>
        rw [not_or] at going
        have fewer := isolate_left_lt cache.memory.pages
          (reverse_ne_nil_iff.mpr going.2) going.1
        generalize isolate cache.memory.pages cache.memory.lru.reverse request 0 = result at fewer ⊢
        simp only at fewer ⊢
        exact Option.bind_congr fun next _ => ih (by omega) (by omega)

lemma Valid.evictRounds (valid : Valid cache [] carried extra standing expected)
    (rounds request : Nat) :
    ∃ next standingNext, Cache.evictRounds rounds request cache = some next ∧
      Valid next [] carried extra standingNext expected := by
  induction rounds generalizing cache standing request with
  | zero => exact ⟨cache, standing, rfl, valid⟩
  | succ rounds ih =>
    rw [evictRounds]
    split
    next => exact ⟨cache, standing, rfl, valid⟩
    next =>
      have sublist := isolate_sublist cache.memory.pages cache.memory.lru.reverse request 0
      generalize isolate cache.memory.pages cache.memory.lru.reverse request 0 = result at sublist ⊢
      obtain ⟨batch, left⟩ := result
      have nodup : batch.Nodup := (nodup_reverse.mpr valid.owned.lruNodup).sublist sublist
      have listed : ∀ pfn ∈ batch, pfn ∈ cache.memory.lru := fun pfn mem =>
        mem_reverse.mp (sublist.subset mem)
      obtain ⟨next, standingNext, evicted, nextValid⟩ :=
        (valid.isolatePages batch nodup listed).evictPages
      rw [nil_append] at evicted
      simp only [evictBatch, evicted, Option.bind_some]
      exact ih nextValid left

end GsKernel.Gcma
