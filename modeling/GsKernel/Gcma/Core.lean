import GsKernel.Lib.Runs

/-!
# The guaranteed contiguous memory allocator

Pages of reserved areas cache the contents of files until a contiguous range of them is needed. A
page moves between the free list of its area, the page array of an inode together with the LRU
list, and the users of `gcma_alloc_range`. `Memory` is what is known of the pages, `Index` the
file systems and their inodes.

The operations are atomic. Where the code tries again until another operation has finished, or
asserts something that does not hold, the model has no next state.
-/

namespace GsKernel.Gcma

open Function

/-- A reserved range of page frames. -/
structure Area where
  startPfn : Nat
  endPfn : Nat
deriving DecidableEq

/-- The page frames of a range that are in the area. -/
def Area.clip (area : Area) (startPfn endPfn : Nat) : List Nat :=
  if area.endPfn < startPfn ∨ endPfn < area.startPfn then []
  else
    let first := max startPfn area.startPfn
    let last := min endPfn area.endPfn
    List.range' first (last + 1 - first)

/-- A page frame is in an area. -/
def holds (areas : List Area) (id pfn : Nat) : Bool :=
  areas[id]?.any fun area => decide (area.startPfn ≤ pfn ∧ pfn ≤ area.endPfn)

def InRange (startPfn pageCount pfn : Nat) : Prop := startPfn ≤ pfn ∧ pfn < startPfn + pageCount

instance instDecidableInRange (startPfn pageCount pfn : Nat) :
    Decidable (InRange startPfn pageCount pfn) :=
  inferInstanceAs (Decidable (_ ∧ _))

/-- What the allocator uses of `struct page`: the area in `page_type`, the inode in
`mapping`, the offset in `index`, the flag `GCMAFree`, the reference count, and the
contents. -/
structure Page (δ : Type*) where
  areaId : Nat
  mapping : Option Nat
  index : Nat
  gcmaFree : Bool
  count : Nat
  data : δ

/-- `struct gcma_inode`, with its page array as a list of offsets and pages. -/
structure Inode (κ : Type*) where
  key : κ
  refCount : Nat
  pages : List (Nat × Nat)
  gcmaFs : Nat

/-- The pages, with the lists they are on. `handedOut` records beside the state of the code
which pages `gcma_alloc_range` has handed out. -/
structure Memory (δ : Type*) where
  areas : List Area
  freePages : Nat → List Nat
  pages : Nat → Page δ
  lru : List Nat
  cachedPage : Int
  handedOut : Nat → Bool

/-- The file systems with their inode hashes, and the inodes. -/
structure Index (κ : Type*) where
  inodes : Nat → Inode κ
  nextInode : Nat
  inodeHash : Nat → Option (List Nat)

structure Cache (κ δ : Type*) where
  memory : Memory δ
  index : Index κ

namespace Memory

variable {δ : Type*} (memory : Memory δ)

def setPage (pfn : Nat) (change : Page δ → Page δ) : Memory δ :=
  { memory with pages := update memory.pages pfn (change (memory.pages pfn)) }

def setFreePages (id : Nat) (change : List Nat → List Nat) : Memory δ :=
  { memory with freePages := update memory.freePages id (change (memory.freePages id)) }

def lookupAreaId (pfn startId : Nat) : Option Nat :=
  if holds memory.areas startId pfn then some startId
  else (List.range memory.areas.length).find? fun id => holds memory.areas id pfn

def addPageToLru (pfn : Nat) : Memory δ := { memory with lru := pfn :: memory.lru }

def rotateLruPage (pfn : Nat) : Memory δ :=
  if pfn ∈ memory.lru then { memory with lru := pfn :: memory.lru.erase pfn } else memory

def deletePageFromLru (pfn : Nat) : Memory δ := { memory with lru := memory.lru.erase pfn }

def resetGcmaPage (pfn : Nat) : Memory δ :=
  memory.setPage pfn fun page => { page with mapping := none, index := 0 }

def maxGcmaAreas : Nat := 64

/-- `register_gcma_area`, for an area that is not empty. -/
def registerGcmaArea (startPfn pageCount : Nat) : Memory δ :=
  let id := memory.areas.length
  if maxGcmaAreas ≤ id then memory
  else
    { memory with
      areas := memory.areas ++ [⟨startPfn, startPfn + pageCount - 1⟩]
      freePages := update memory.freePages id (List.range' startPfn pageCount).reverse
      pages := fun pfn =>
        if InRange startPfn pageCount pfn then
          { memory.pages pfn with areaId := id, mapping := none, index := 0, gcmaFree := true }
        else memory.pages pfn }

/-- `gcma_alloc_page`: the last free page of the first area that has one. -/
def gcmaAllocPage : Option (Nat × Memory δ) :=
  (List.range memory.areas.length).findSome? fun id =>
    (memory.freePages id).getLast?.map fun pfn =>
      (pfn, { (memory.setFreePages id fun free => free.erase pfn).setPage pfn fun page =>
          { page with gcmaFree := false, count := 1 } with
        cachedPage := memory.cachedPage + 1 })

/-- `__gcma_free_page` -/
def freePage (pfn : Nat) : Memory δ :=
  let reset := memory.resetGcmaPage pfn
  (reset.setFreePages (memory.pages pfn).areaId fun free => pfn :: free).setPage pfn
    fun page => { page with gcmaFree := true }

def gcmaFreePage (pfn : Nat) : Memory δ :=
  let freed := memory.freePage pfn
  { freed with cachedPage := freed.cachedPage - 1 }

def gcmaGetPage (pfn : Nat) : Memory δ :=
  memory.setPage pfn fun page => { page with count := page.count + 1 }

/-- The copy into a cached page. -/
def copyPage (pfn : Nat) (data : δ) : Memory δ :=
  memory.setPage pfn fun page => { page with data := data }

/-- One page of `gcma_free_range`, with the area that the search starts from. -/
def freeRangePage (state : Memory δ × Nat) (pfn : Nat) : Option (Memory δ × Nat) :=
  if (state.1.pages pfn).gcmaFree then none
  else
    (state.1.lookupAreaId pfn state.2).map fun id =>
      let owned := state.1.setPage pfn fun page => { page with areaId := id }
      ({ owned.freePage pfn with handedOut := update state.1.handedOut pfn false }, id)

def gcmaFreeRange (startPfn endPfn : Nat) : Option (Memory δ) :=
  ((List.range' startPfn (endPfn + 1 - startPfn)).foldlM freeRangePage (memory, 0)).map Prod.fst

/-- The page frames of a range that belong to areas, area by area. -/
def rangePages (startPfn endPfn : Nat) : List Nat :=
  memory.areas.flatMap fun area => area.clip startPfn endPfn

def maxEvictBatch : Nat := 64

/-- The pages that a round of `evict_gcma_lru_pages` isolates, from the end of the LRU list,
and what is left of the request. -/
def isolate (pages : Nat → Page δ) : List Nat → Nat → Nat → List Nat × Nat
  | [], request, _ => ([], request)
  | pfn :: rest, request, isolated =>
    if isolated = maxEvictBatch ∨ request = 0 then ([], request)
    else if (pages pfn).count = 0 then isolate pages rest (request - 1) isolated
    else
      let (batch, left) := isolate pages rest (request - 1) (isolated + 1)
      (pfn :: batch, left)

/-- An isolated page has one more reference and is off the LRU list. -/
def isolatePage (pfn : Nat) : Memory δ := (memory.gcmaGetPage pfn).deletePageFromLru pfn

end Memory

namespace Index

variable {κ : Type*} (index : Index κ)

def setInode (ino : Nat) (change : Inode κ → Inode κ) : Index κ :=
  { index with inodes := update index.inodes ino (change (index.inodes ino)) }

/-- `__put_gcma_inode` -/
def unhashInode (ino : Nat) : Index κ :=
  let fs := (index.inodes ino).gcmaFs
  { index with
    inodeHash := update index.inodeHash fs ((index.inodeHash fs).map fun hash => hash.erase ino) }

def getGcmaInode (ino : Nat) : Index κ :=
  index.setInode ino fun inode => { inode with refCount := inode.refCount + 1 }

def putGcmaInode (ino : Nat) : Index κ :=
  let put := index.setInode ino fun inode => { inode with refCount := inode.refCount - 1 }
  if (put.inodes ino).refCount = 0 then put.unhashInode ino else put

/-- The inode to which `find_and_get_gcma_inode` takes a reference. -/
def findGcmaInode [DecidableEq κ] (fs : Nat) (key : κ) : Option Nat :=
  ((index.inodeHash fs).getD []).find? fun ino =>
    decide ((index.inodes ino).key = key) && decide ((index.inodes ino).refCount ≠ 0)

/-- `add_gcma_inode`, when the inode can be allocated; that none with the key is there has
been checked. -/
def addGcmaInode (fs : Nat) (key : κ) : Index κ :=
  { index with
    inodes := update index.inodes index.nextInode ⟨key, 1, [], fs⟩
    nextInode := index.nextInode + 1
    inodeHash := update index.inodeHash fs
      ((index.inodeHash fs).map fun hash => index.nextInode :: hash) }

def xaLoad (ino offset : Nat) : Option Nat := (index.inodes ino).pages.lookup offset

def xaErase (ino offset : Nat) : Index κ :=
  index.setInode ino fun inode =>
    { inode with pages := inode.pages.filter fun entry => entry.1 ≠ offset }

def xaStore (ino offset pfn : Nat) : Index κ :=
  index.setInode ino fun inode =>
    { inode with pages := (offset, pfn) :: inode.pages.filter fun entry => entry.1 ≠ offset }

/-- `gcma_cc_init_fs`, with the number that `idr_alloc` finds, if it succeeds; it never is
one in use. -/
def ccInitFs (hashId : Option Nat) : Option (Index κ) :=
  match hashId with
  | none => some index
  | some fs =>
    if index.inodeHash fs = none then
      some { index with inodeHash := update index.inodeHash fs (some []) }
    else none

end Index

namespace Cache

variable {κ δ : Type*} (cache : Cache κ δ)

def gcmaPutPage (pfn : Nat) : Cache κ δ :=
  let put := cache.memory.setPage pfn fun page => { page with count := page.count - 1 }
  if (put.pages pfn).count = 0 then
    { memory := (put.deletePageFromLru pfn).gcmaFreePage pfn
      index :=
        match (cache.memory.pages pfn).mapping with
        | none => cache.index
        | some ino => cache.index.putGcmaInode ino }
  else { cache with memory := put }

/-- `gcma_store_page`, when the page array can take the page. -/
def gcmaStorePage (ino offset pfn : Nat) : Cache κ δ :=
  { memory := (cache.memory.gcmaGetPage pfn).setPage pfn fun page =>
      { page with mapping := some ino, index := offset }
    index := (cache.index.xaStore ino offset pfn).getGcmaInode ino }

def gcmaErasePage (ino offset pfn : Nat) : Cache κ δ :=
  { cache with index := cache.index.xaErase ino offset }.gcmaPutPage pfn

/-- `gcma_cc_store_page` between `load_page` and `out_unlock`. `stores` is whether the page
array can take one more page. -/
def storeInInode (ino offset : Nat) (data : δ) (workingset stores : Bool) : Cache κ δ :=
  match cache.index.xaLoad ino offset with
  | some pfn =>
    if workingset then
      { cache with memory := (cache.memory.copyPage pfn data).rotateLruPage pfn }
    else cache.gcmaErasePage ino offset pfn
  | none =>
    if workingset then
      match cache.memory.gcmaAllocPage with
      | none => cache
      | some (pfn, memory) =>
        let allocated : Cache κ δ := { cache with memory := memory }
        if stores then
          let stored := (allocated.gcmaStorePage ino offset pfn).gcmaPutPage pfn
          { stored with memory := (stored.memory.copyPage pfn data).addPageToLru pfn }
        else allocated.gcmaPutPage pfn
    else cache

/-- A call that ends by dropping the reference to the inode. -/
def putInode (ino : Nat) : Cache κ δ := { cache with index := cache.index.putGcmaInode ino }

def getInode (ino : Nat) : Cache κ δ := { cache with index := cache.index.getGcmaInode ino }

variable [DecidableEq κ]

/-- `gcma_cc_store_page`. `workingset` is what the filter says of the page, and `allocates`
whether an inode can be allocated. -/
def ccStorePage (fs : Nat) (key : κ) (offset : Nat) (data : δ)
    (workingset allocates stores : Bool) : Cache κ δ :=
  if cache.index.inodeHash fs = none then cache
  else
    match cache.index.findGcmaInode fs key with
    | some ino => ((cache.getInode ino).storeInInode ino offset data workingset stores).putInode ino
    | none =>
      if workingset && allocates then
        let ino := cache.index.nextInode
        let added : Cache κ δ := { cache with index := cache.index.addGcmaInode fs key }
        (added.storeInInode ino offset data workingset stores).putInode ino
      else cache

/-- `gcma_cc_load_page`, with the contents when it returns 0. -/
def ccLoadPage (fs : Nat) (key : κ) (offset : Nat) : Option δ × Cache κ δ :=
  match cache.index.findGcmaInode fs key with
  | none => (none, cache)
  | some ino =>
    let got := cache.getInode ino
    match got.index.xaLoad ino offset with
    | none => (none, got.putInode ino)
    | some pfn =>
      (some (got.memory.pages pfn).data,
        { got with memory := got.memory.rotateLruPage pfn }.putInode ino)

def ccInvalidatePage (fs : Nat) (key : κ) (offset : Nat) : Cache κ δ :=
  match cache.index.findGcmaInode fs key with
  | none => cache
  | some ino =>
    let got := cache.getInode ino
    match got.index.xaLoad ino offset with
    | none => got.putInode ino
    | some pfn => (got.gcmaErasePage ino offset pfn).putInode ino

/-- The loop of `try_empty_inode`, in the order of the offsets. -/
def emptyInode (ino : Nat) : Cache κ δ :=
  ((cache.index.inodes ino).pages.insertionSort fun first second => first.1 ≤ second.1).foldl
    (fun cache entry => cache.gcmaErasePage ino entry.1 entry.2) cache

/-- `gcma_cc_invalidate_inode`. The retry, while others hold the inode, does not end. -/
def ccInvalidateInode (fs : Nat) (key : κ) : Option (Cache κ δ) :=
  match cache.index.findGcmaInode fs key with
  | none => some cache
  | some ino =>
    let emptied := (cache.getInode ino).emptyInode ino
    if (emptied.index.inodes ino).refCount = 1 then
      let dead := emptied.index.setInode ino fun inode => { inode with refCount := 0 }
      some { emptied with index := dead.unhashInode ino }
    else none

/-- `gcma_cc_invalidate_fs`, which asserts that no inode is left. -/
def ccInvalidateFs (fs : Nat) : Option (Cache κ δ) :=
  match cache.index.inodeHash fs with
  | none => some cache
  | some hash => do
    let emptied ← hash.foldlM (fun cache ino => cache.ccInvalidateInode fs (cache.index.inodes ino).key)
      cache
    if emptied.index.inodeHash fs = some [] then
      let removed := update emptied.index.inodeHash fs none
      some { emptied with index := { emptied.index with inodeHash := removed } }
    else none

omit [DecidableEq κ]

/-- One page of `__gcma_discard_range`. -/
def discardPage (pfn : Nat) : Option (Cache κ δ) :=
  let page := cache.memory.pages pfn
  let handedOut := update cache.memory.handedOut pfn true
  if page.gcmaFree then
    let isolated := (cache.memory.setPage pfn fun page => { page with gcmaFree := false }).setFreePages
      page.areaId fun free => free.erase pfn
    some { cache with memory := { isolated with handedOut := handedOut } }
  else if page.count = 1 then
    page.mapping.bind fun ino =>
      if cache.index.xaLoad ino page.index = some pfn then
        let frozen := cache.memory.setPage pfn fun page => { page with count := 0 }
        let isolated := (frozen.deletePageFromLru pfn).resetGcmaPage pfn
        some
          { memory :=
              { isolated with cachedPage := isolated.cachedPage - 1, handedOut := handedOut }
            index := (cache.index.xaErase ino page.index).putGcmaInode ino }
      else none
  else none

def gcmaAllocRange (startPfn endPfn : Nat) : Option (Cache κ δ) :=
  (cache.memory.rangePages startPfn endPfn).foldlM discardPage cache

/-- The end of a round of `evict_gcma_lru_pages` for one page, whose inode it uses. -/
def evictPage (pfn : Nat) : Option (Cache κ δ) :=
  let page := cache.memory.pages pfn
  page.mapping.map fun ino =>
    let erased :=
      if cache.index.xaLoad ino page.index = some pfn then cache.gcmaErasePage ino page.index pfn
      else cache
    erased.gcmaPutPage pfn

def evictBatch (batch : List Nat) : Option (Cache κ δ) :=
  batch.foldlM evictPage { cache with memory := batch.foldl Memory.isolatePage cache.memory }

/-- The loop of `evict_gcma_lru_pages`; each round lowers the request. -/
def evictRounds : Nat → Nat → Cache κ δ → Option (Cache κ δ)
  | 0, _, cache => some cache
  | rounds + 1, request, cache =>
    if request = 0 ∨ cache.memory.lru = [] then some cache
    else
      let (batch, left) := Memory.isolate cache.memory.pages cache.memory.lru.reverse request 0
      (cache.evictBatch batch).bind (evictRounds rounds left)

def evictGcmaLruPages (request : Nat) : Option (Cache κ δ) := evictRounds request request cache

end Cache

/-- The operations, and what users do to the pages handed out to them. -/
inductive Event (κ δ : Type*) where
  | register (startPfn pageCount : Nat)
  | initFs (hashId : Option Nat)
  | store (fs : Nat) (key : κ) (offset : Nat) (data : δ) (workingset allocates stores : Bool)
  | load (fs : Nat) (key : κ) (offset : Nat)
  | invalidatePage (fs : Nat) (key : κ) (offset : Nat)
  | invalidateInode (fs : Nat) (key : κ)
  | invalidateFs (fs : Nat)
  | evict (request : Nat)
  | allocRange (startPfn endPfn : Nat)
  | freeRange (startPfn endPfn : Nat)
  | use (pfn : Nat) (page : Page δ)

variable {κ δ : Type*} [DecidableEq κ]

def Cache.step (cache : Cache κ δ) : Event κ δ → Option (Cache κ δ)
  | .register startPfn pageCount =>
    some { cache with memory := cache.memory.registerGcmaArea startPfn pageCount }
  | .initFs hashId =>
    if cache.memory.areas = [] then some cache
    else (cache.index.ccInitFs hashId).map fun index => { cache with index := index }
  | .store fs key offset data workingset allocates stores =>
    some (cache.ccStorePage fs key offset data workingset allocates stores)
  | .load fs key offset => some (cache.ccLoadPage fs key offset).2
  | .invalidatePage fs key offset => some (cache.ccInvalidatePage fs key offset)
  | .invalidateInode fs key => cache.ccInvalidateInode fs key
  | .invalidateFs fs => cache.ccInvalidateFs fs
  | .evict request => cache.evictGcmaLruPages request
  | .allocRange startPfn endPfn => cache.gcmaAllocRange startPfn endPfn
  | .freeRange startPfn endPfn =>
    (cache.memory.gcmaFreeRange startPfn endPfn).map fun memory => { cache with memory := memory }
  | .use pfn page =>
    -- everything but the flag may have changed when the page comes back
    if cache.memory.handedOut pfn then
      some { cache with memory := cache.memory.setPage pfn fun _ => { page with gcmaFree := false } }
    else none

/-- Before any area is registered: the pages may have any fields. -/
def Cache.initial (pages : Nat → Page δ) (inodes : Nat → Inode κ) : Cache κ δ where
  memory := ⟨[], fun _ => [], pages, [], 0, fun _ => false⟩
  index := ⟨fun ino => { inodes ino with refCount := 0, pages := [] }, 0, fun _ => none⟩

end GsKernel.Gcma
