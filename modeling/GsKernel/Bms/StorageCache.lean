import GsKernel.Bms.StorageProviders

/-!
# The tag cache of the battery storage

A read or write of a tag asks the providers in the order of the table until one answers other
than `-ENOENT`, and remembers it for the tag in a cache whose entries come from a pool. The
address in an entry is never used, since the lookup does not return it, and is left out.
-/

namespace GsKernel.Bms

open Lib.Strings

/-- The buffer a caller passes: whether there is one, its bytes and the count asked for. -/
structure Request where
  hasData : Bool
  bytes : List UInt8
  count : Nat
deriving DecidableEq

/-- What a call returns and the bytes it leaves in the caller's buffer. -/
structure Answer where
  ret : Int
  bytes : List UInt8
deriving DecidableEq

/-- The read and write callbacks of the providers, over the state of their devices. -/
structure StorageOps (δ σ : Type) where
  read : δ → UInt32 → Request → σ → Answer × σ
  write : δ → UInt32 → Request → σ → Answer × σ

/-- The storage with its cache, if it has a pool for one: the slot remembered for a tag. -/
structure CachedStorage (δ σ : Type) where
  storage : Storage δ
  pool : Bool
  cache : List (UInt32 × Fin providersMax)
  devices : σ

/-- What an access answered, the state it left and the slots whose provider it called. -/
structure Served (δ σ : Type) where
  answer : Answer
  state : CachedStorage δ σ
  asked : List (Fin providersMax)

/-- How the loop over the providers ended: with which answer and devices, whether it passed a
slot without a descriptor, which providers it called, and the one to remember. -/
structure LoopEnd (σ : Type) where
  answer : Answer
  devices : σ
  lateInits : Bool
  asked : List (Fin providersMax)
  found : Option (Fin providersMax)

section Model

variable {δ σ : Type}

/-- The loop over the providers of `gbms_storage_read` and `gbms_storage_write`. Only the
latter passes over providers that are offline. -/
def Storage.accessLoop (storage : Storage δ) (skipOffline : Bool)
    (access : δ → σ → Answer × σ) : List (Fin providersMax) → σ → Bool → LoopEnd σ
  | [], devices, lateInits => ⟨⟨-ENOENT, []⟩, devices, lateInits, [], none⟩
  | index :: rest, devices, lateInits =>
    if skipOffline && (storage.providers index).offline then
      storage.accessLoop skipOffline access rest devices lateInits
    else
      match (storage.providers index).dsc with
      | none => storage.accessLoop skipOffline access rest devices true
      | some dsc =>
        let (answer, next) := access dsc devices
        if answer.ret = -ENOENT then
          let last := storage.accessLoop skipOffline access rest next lateInits
          { last with asked := index :: last.asked }
        else ⟨answer, next, lateInits, [index], if 0 ≤ answer.ret then some index else none⟩

/-- The slots in use, in order. -/
def Storage.slots (storage : Storage δ) : List (Fin providersMax) :=
  (List.finRange providersMax).filter (·.val < storage.count)

/-- The part of an access behind a cache miss, with `gbms_cache_add`: the pool may have no
room for the entry. -/
def CachedStorage.accessProviders (state : CachedStorage δ σ) (skipOffline : Bool)
    (access : δ → σ → Answer × σ) (tag : UInt32) (allocated : Bool) : Served δ σ :=
  let last := state.storage.accessLoop skipOffline access state.storage.slots state.devices false
  let cache := match last.found with
    | some index => if state.pool && allocated then (tag, index) :: state.cache else state.cache
    | none => state.cache
  let answer : Answer :=
    if last.lateInits ∧ last.answer.ret = -ENOENT then ⟨-EPROBE_DEFER, []⟩ else last.answer
  ⟨answer, { state with cache, devices := last.devices }, last.asked⟩

/-- An access by tag: `gbms_cache_read` or `gbms_cache_write` first, then the providers. A
slot in the cache has a descriptor; the answer for one without it is that of a descriptor
without the callback. -/
def CachedStorage.access (state : CachedStorage δ σ) (skipOffline : Bool)
    (access : δ → σ → Answer × σ) (tag : UInt32) (request : Request) (allocated : Bool) :
    Served δ σ :=
  if !state.storage.initDone then ⟨⟨-EPROBE_DEFER, []⟩, state, []⟩
  else if !request.hasData ∧ request.count ≠ 0 then ⟨⟨-EINVAL, []⟩, state, []⟩
  else
    match state.cache.find? (·.1 == tag) with
    | none => state.accessProviders skipOffline access tag allocated
    | some (_, index) =>
      if (state.storage.providers index).offline then ⟨⟨-ENODEV, []⟩, state, []⟩
      else
        match (state.storage.providers index).dsc with
        | none => ⟨⟨-EACCES, []⟩, state, []⟩
        | some dsc =>
          let (answer, devices) := access dsc state.devices
          if answer.ret = -ENOENT then
            let served := { state with devices }.accessProviders skipOffline access tag allocated
            { served with asked := index :: served.asked }
          else ⟨answer, { state with devices }, [index]⟩

/-- `gbms_storage_read`. -/
def CachedStorage.read (ops : StorageOps δ σ) (state : CachedStorage δ σ) (tag : UInt32)
    (request : Request) (allocated : Bool) : Served δ σ :=
  state.access false (fun dsc => ops.read dsc tag request) tag request allocated

/-- `gbms_storage_write`. -/
def CachedStorage.write (ops : StorageOps δ σ) (state : CachedStorage δ σ) (tag : UInt32)
    (request : Request) (allocated : Bool) : Served δ σ :=
  state.access true (fun dsc => ops.write dsc tag request) tag request allocated

/-- A call: a read or a write, with whether the pool has room, `gbms_storage_offline`, or a
change of an offline flag from elsewhere. -/
inductive CacheCall (δ : Type) where
  | read (tag : UInt32) (request : Request) (allocated : Bool)
  | write (tag : UInt32) (request : Request) (allocated : Bool)
  | offline (name : CString) (flush : Bool) (reply : δ → Option Int)
  | setOffline (index : Fin providersMax) (offline : Bool)

/-- The offline flag of a slot changes. -/
def Storage.setOffline (storage : Storage δ) (index : Fin providersMax) (offline : Bool) :
    Storage δ :=
  { storage with
    providers := Function.update storage.providers index
      { storage.providers index with offline } }

/-- One call. -/
def CachedStorage.call (ops : StorageOps δ σ) (state : CachedStorage δ σ) : CacheCall δ → Served δ σ
  | .read tag request allocated => state.read ops tag request allocated
  | .write tag request allocated => state.write ops tag request allocated
  | .offline name flush reply =>
    let (storage, ret) := state.storage.offline name flush reply
    ⟨⟨ret, []⟩, { state with storage }, []⟩
  | .setOffline index offline =>
    ⟨⟨0, []⟩, { state with storage := state.storage.setOffline index offline }, []⟩

/-- One call, for the state it leaves. -/
def CachedStorage.step (ops : StorageOps δ σ) (state : CachedStorage δ σ) (call : CacheCall δ) :
    CachedStorage δ σ :=
  (state.call ops call).state

/-- The same storage without a cache. -/
def CachedStorage.uncached (state : CachedStorage δ σ) : CachedStorage δ σ :=
  { state with pool := false, cache := [] }

end Model

end GsKernel.Bms
