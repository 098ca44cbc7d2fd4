import GsKernel.Lib.Runs
import GsKernel.Lib.Strings
import GsKernel.Lib.Errno

/-!
# Battery storage providers

Storage providers are registered under a name in a table of six slots. A slot that has a
name and no descriptor is a reference to a provider that is expected to register later.
-/

namespace GsKernel.Bms

open Lib.Strings

/-- `GBMS_PROVIDER_NAME_MAX`. -/
def providerNameMax : Nat := 32

/-- `GBMS_PROVIDERS_MAX`. -/
def providersMax : Nat := 6

/-- `struct gbms_storage_provider`, over the descriptors with their private pointers. -/
structure StorageProvider (δ : Type) where
  name : CString
  dsc : Option δ
  offline : Bool
deriving DecidableEq

/-- The table of providers and the number of slots in use. -/
structure Storage (δ : Type) where
  initDone : Bool
  count : Nat
  providers : Fin providersMax → StorageProvider δ
  count_le : count ≤ providersMax

lemma noName_terminated : ∀ byte ∈ ([] : List UInt8), byte ≠ 0 := by simp

/-- The name of a slot that was never used. -/
def noName : CString := ⟨[], noName_terminated⟩

/-- The table after its initialization, before anything registers. -/
def Storage.initial (δ : Type) : Storage δ :=
  ⟨true, 0, fun _ => ⟨noName, none, false⟩, Nat.zero_le _⟩

section Model

variable {δ : Type}

/-- The comparison of `gbms_storage_find_slot`: over the length of the slot's own name. -/
def StorageProvider.isNamed (slot : StorageProvider δ) (name : CString) : Bool :=
  strncmp slot.name name slot.name.chars.length == 0

/-- `gbms_storage_find_slot`. -/
def Storage.findSlot (storage : Storage δ) (name : CString) : Except Int (Fin providersMax) :=
  match (List.finRange providersMax).find? fun index =>
      decide (index.val < storage.count) && (storage.providers index).isNamed name with
  | some index => if (storage.providers index).dsc.isNone then .ok index else .error (-EBUSY)
  | none =>
    if free : storage.count < providersMax then .ok ⟨storage.count, free⟩
    else .error (-ENOMEM)

/-- A slot takes a name and a descriptor, and is counted when it is the next one. -/
def Storage.bind (storage : Storage δ) (index : Fin providersMax) (name : CString)
    (desc : Option δ) : Storage δ where
  initDone := storage.initDone
  count := if index.val = storage.count then storage.count + 1 else storage.count
  providers := Function.update storage.providers index
    { storage.providers index with name, dsc := desc }
  count_le := by
    have le := storage.count_le
    split <;> omega

/-- `gbms_storage_register_internal`; a reference has no descriptor. -/
def Storage.registerInternal (storage : Storage δ) (desc : Option δ) (name : CString) :
    Storage δ × Int :=
  if name.chars.length ≥ providerNameMax then (storage, -EINVAL)
  else
    match storage.findSlot name with
    | .error error => (storage, error)
    | .ok index => (storage.bind index name desc, 0)

/-- `gbms_storage_register`. -/
def Storage.register (storage : Storage δ) (desc : δ) (name : CString) : Storage δ × Int :=
  if !storage.initDone then (storage, -EPROBE_DEFER)
  else storage.registerInternal (some desc) name

/-- `gbms_storage_flush_provider`, given what the flush callback of a descriptor returns when
it has one. -/
def StorageProvider.flush (slot : StorageProvider δ) (reply : δ → Option Int) : Int :=
  if slot.offline then 0 else (slot.dsc.bind reply).getD 0

/-- A slot is marked offline. -/
def Storage.markOffline (storage : Storage δ) (index : Fin providersMax) : Storage δ :=
  { storage with
    providers := Function.update storage.providers index
      { storage.providers index with offline := true } }

/-- `gbms_storage_offline`. -/
def Storage.offline (storage : Storage δ) (name : CString) (flush : Bool)
    (reply : δ → Option Int) : Storage δ × Int :=
  if !storage.initDone then (storage, -EPROBE_DEFER)
  else
    match storage.findSlot name with
    | .error error => (storage, error)
    | .ok index =>
      let ret := if flush then (storage.providers index).flush reply else 0
      (if ret = 0 then storage.markOffline index else storage, ret)

/-- A call on the table. -/
inductive StorageCall (δ : Type) where
  | register (desc : δ) (name : CString)
  | reference (name : CString)
  | offline (name : CString) (flush : Bool) (reply : δ → Option Int)

/-- One call and what it returns. -/
def Storage.call (storage : Storage δ) : StorageCall δ → Storage δ × Int
  | .register desc name => storage.register desc name
  | .reference name => storage.registerInternal none name
  | .offline name flush reply => storage.offline name flush reply

/-- The name a call is about. -/
def StorageCall.name : StorageCall δ → CString
  | .register _ name => name
  | .reference name => name
  | .offline name _ _ => name

end Model

end GsKernel.Bms
