import GsKernel.Bms.StorageTransparency
import GsKernel.Bms.Eeprom

/-!
# Sequences of reads and writes with the tag cache

Every call keeps the cache sound, so a run with the cache simulates the run without it for as
long as the owners of the tags in use are online.
-/

namespace GsKernel.Bms

open CachedStorage

variable {δ σ : Type}

/-- The owner of the tag that a call reads or writes is online. -/
def CachedStorage.OwnerOnline (owner : UInt32 → Option (Fin providersMax))
    (state : CachedStorage δ σ) : CacheCall δ → Prop
  | .read tag _ _ => ∀ index, owner tag = some index →
    (state.storage.providers index).offline = false
  | .write tag _ _ => ∀ index, owner tag = some index →
    (state.storage.providers index).offline = false
  | _ => True

/-- What a sequence of calls answers. -/
def CachedStorage.answers (ops : StorageOps δ σ) : CachedStorage δ σ → List (CacheCall δ) →
    List Answer
  | _, [] => []
  | state, call :: calls =>
    (state.call ops call).answer :: (state.step ops call).answers ops calls

section Runs

variable {ops : StorageOps δ σ} {owner : UInt32 → Option (Fin providersMax)}
  {state : CachedStorage δ σ}

section

variable (sound : state.Sound ops owner)
include sound

lemma CachedStorage.Sound.step (call : CacheCall δ) : (state.step ops call).Sound ops owner := by
  cases call with
  | read tag request allocated =>
    exact access_sound sound (sound.contract.reads tag request) false request allocated
  | write tag request allocated =>
    exact access_sound sound (sound.contract.writes tag request) true request allocated
  | offline name flush reply =>
    exact ⟨sound.contract.sameTable (.offline state.storage name flush reply), sound.entries,
      sound.nodup⟩
  | setOffline index offline =>
    exact ⟨sound.contract.sameTable (.setOffline state.storage index offline), sound.entries,
      sound.nodup⟩

/-- While the owner of its tag is online, a call has the answer and the effect it has without
the cache. -/
lemma call_transparent (call : CacheCall δ) (online : state.OwnerOnline owner call) :
    (state.call ops call).answer = (state.uncached.call ops call).answer ∧
      (state.step ops call).uncached = state.uncached.step ops call := by
  cases call with
  | read tag request allocated =>
    exact access_transparent sound (sound.contract.reads tag request) false request allocated online
  | write tag request allocated =>
    exact access_transparent sound (sound.contract.writes tag request) true request allocated online
  | offline name flush reply => exact ⟨rfl, rfl⟩
  | setOffline index offline => exact ⟨rfl, rfl⟩

/-- A sequence of calls whose tags have their owner online answers as without the cache. -/
lemma answers_transparent (calls : List (CacheCall δ))
    (along : Lib.Runs.Along (step ops) (OwnerOnline owner) state calls) :
    state.answers ops calls = state.uncached.answers ops calls ∧
      (calls.foldl (step ops) state).uncached = calls.foldl (step ops) state.uncached := by
  induction calls generalizing state with
  | nil => exact ⟨rfl, rfl⟩
  | cons call calls ih =>
    obtain ⟨sameAnswer, sameState⟩ := call_transparent sound call along.1
    obtain ⟨sameAnswers, sameEnd⟩ := ih (sound.step call) along.2
    rw [sameState] at sameAnswers sameEnd
    exact ⟨by rw [answers, answers, sameAnswer, sameAnswers], sameEnd⟩

end

end Runs

/-- For providers that keep their contract, any allocation failures of the pool and offline
flags that change at any time. In every state that calls reach there is at most one entry for
a tag; a read or write of a tag whose owner is online, or that nobody owns, has the answer and
the effect it has without the cache; of a tag in the cache it calls the owner first, others only
behind the owner's `-ENOENT`, and nobody when the owner is offline, which it answers with
`-ENODEV`; and a write never calls an offline provider. A sequence of reads and writes of tags
whose owner is online at the time answers as without the cache. -/
theorem storage_cache_transparent (ops : StorageOps δ σ) (storage : Storage δ)
    (owner : UInt32 → Option (Fin providersMax)) (contract : ops.Contract storage owner)
    (pool : Bool) (devices : σ) (calls : List (CacheCall δ)) (state : CachedStorage δ σ)
    (reached : state = calls.foldl (step ops) ⟨storage, pool, [], devices⟩) :
    (state.cache.map Prod.fst).Nodup ∧ (∀ call, state.OwnerOnline owner call →
        (state.call ops call).answer = (state.uncached.call ops call).answer ∧
          (state.step ops call).uncached = state.uncached.step ops call) ∧
      (∀ tag ∈ state.cache.map Prod.fst, ∀ request allocated,
        state.OwnerFirst (owner tag) (fun dsc => ops.read dsc tag request)
          (state.read ops tag request allocated).asked ∧
        state.OwnerFirst (owner tag) (fun dsc => ops.write dsc tag request)
          (state.write ops tag request allocated).asked ∧
        (∀ index, owner tag = some index → (state.storage.providers index).offline = true →
          state.storage.initDone = true → ¬ (!request.hasData ∧ request.count ≠ 0) →
          state.read ops tag request allocated = ⟨⟨-ENODEV, []⟩, state, []⟩ ∧
            state.write ops tag request allocated = ⟨⟨-ENODEV, []⟩, state, []⟩)) ∧
      (∀ tag request allocated, ∀ index ∈ (state.write ops tag request allocated).asked,
        (state.storage.providers index).offline = false) ∧
      (Lib.Runs.Along (step ops) (OwnerOnline owner) ⟨storage, pool, [], devices⟩ calls →
        (⟨storage, pool, [], devices⟩ : CachedStorage δ σ).answers ops calls =
            (⟨storage, false, [], devices⟩ : CachedStorage δ σ).answers ops calls ∧
          state.uncached = calls.foldl (step ops) ⟨storage, false, [], devices⟩) := by
  have start : (⟨storage, pool, [], devices⟩ : CachedStorage δ σ).Sound ops owner :=
    ⟨contract, by simp, by simp⟩
  have sound : state.Sound ops owner := by
    rw [reached]
    exact List.foldlRecOn calls _ start fun _ sound call _ => sound.step call
  refine ⟨sound.nodup, fun call online => call_transparent sound call online,
    fun tag cached request allocated =>
      ⟨access_ownerFirst sound (sound.contract.reads tag request) false request allocated cached,
        access_ownerFirst sound (sound.contract.writes tag request) true request allocated cached,
        ?_⟩,
    fun tag request allocated =>
      access_asked_online sound (sound.contract.writes tag request) request allocated,
    fun along => ?_⟩
  · intro index isOwner offline ready valid
    cases found : state.cache.find? (·.1 == tag) with
    | none =>
      obtain ⟨entry, isEntry, same⟩ := List.mem_map.mp cached
      exact absurd (by simp [same]) (List.find?_eq_none.mp found entry isEntry)
    | some entry =>
      obtain rfl : entry.2 = index := Option.some.inj ((sound.find found).symm.trans isOwner)
      exact ⟨access_of_offline false ready valid found offline,
        access_of_offline true ready valid found offline⟩
  · rw [reached]
    exact answers_transparent start calls along

/-- The battery EEPROM, or a device that holds one byte for each tag that the EEPROM does not
know. -/
inductive Device where
  | eeprom (layout : Layout)
  | bytes

section Devices

variable (tagOf : UInt32 → GbmsTag)

/-- The callbacks of the two devices, for what the tags stand for. -/
def deviceOps : StorageOps Device (Lib.ByteSpans.Memory × (UInt32 → UInt8)) where
  read
    | .eeprom layout, tag, request, devices =>
      let result := gbeeStorageRead layout (tagOf tag) request.count devices.1
      (⟨result.ret, result.bytes⟩, devices)
    | .bytes, tag, _, devices =>
      if tagOf tag = .other then (⟨1, [devices.2 tag]⟩, devices) else (⟨-ENOENT, []⟩, devices)
  write
    | .eeprom layout, tag, request, devices =>
      let result := gbeeStorageWrite layout (tagOf tag) (request.bytes.getD · 0) request.count
        devices.1
      (⟨result.ret, []⟩, result.nvmem, devices.2)
    | .bytes, tag, request, devices =>
      if tagOf tag = .other then
        (⟨1, []⟩, devices.1, Function.update devices.2 tag (request.bytes.headD 0))
      else (⟨-ENOENT, []⟩, devices)

/-- The EEPROM in the first slot and the other device in the second. -/
def devicesTable (layout : Layout) : Storage Device where
  initDone := true
  count := 2
  providers := fun index => ⟨noName, [.eeprom layout, .bytes][index.val]?, false⟩
  count_le := by decide

/-- Who of the two answers the reads of a tag. -/
def deviceOwner (layout : Layout) (tag : UInt32) : Option (Fin providersMax) :=
  if tagOf tag = .other then some ⟨1, by decide⟩
  else if tagOf tag = .brid ∨ (layout.info (tagOf tag)).isSome then some ⟨0, by decide⟩
  else none

variable {tagOf} {layout : Layout} {tag : UInt32}

lemma devicesTable_dsc {index : Fin providersMax} {dsc : Device}
    (isDsc : ((devicesTable layout).providers index).dsc = some dsc) :
    index = ⟨0, by decide⟩ ∧ dsc = .eeprom layout ∨ index = ⟨1, by decide⟩ ∧ dsc = .bytes := by
  revert isDsc
  fin_cases index <;> simp [devicesTable] <;> exact Eq.symm

/-- The EEPROM's `-ENOENT` to a read leaves the buffer as it was. -/
lemma gbeeStorageRead_refused {tag : GbmsTag} {size : Nat} {nvmem : Lib.ByteSpans.Memory}
    (refused : (gbeeStorageRead layout tag size nvmem).ret = -ENOENT) :
    gbeeStorageRead layout tag size nvmem = ⟨-ENOENT, []⟩ := by
  unfold gbeeStorageRead at refused ⊢
  split_ifs at refused ⊢ with brid short
  · simp [ENOMEM, ENOENT] at refused
  · simp [ENOENT] at refused
  · split at refused
    · rfl
    · split_ifs at refused ⊢ <;> simp [ENOMEM, ENOENT] at refused ⊢

/-- The EEPROM's `-ENOENT` to a write, also of a tag that it only reads, leaves the memory. -/
lemma gbeeStorageWrite_refused {tag : GbmsTag} {buffer : Nat → UInt8} {size : Nat}
    {nvmem : Lib.ByteSpans.Memory}
    (refused : (gbeeStorageWrite layout tag buffer size nvmem).ret = -ENOENT) :
    (gbeeStorageWrite layout tag buffer size nvmem).nvmem = nvmem := by
  unfold gbeeStorageWrite at refused ⊢
  split_ifs at refused ⊢ with writable
  · rfl
  · split at refused
    · rfl
    · split_ifs at refused ⊢ <;> simp [ENOMEM, ENOENT] at refused ⊢

/-- A tag of the other device, or of neither, is none of the EEPROM's. -/
lemma deviceOwner_of_ne (other : deviceOwner tagOf layout tag ≠ some ⟨0, by decide⟩) :
    tagOf tag ≠ .brid ∧ layout.info (tagOf tag) = none := by
  unfold deviceOwner at other
  split_ifs at other with unknown known
  · rw [unknown]
    cases layout <;> exact ⟨nofun, rfl⟩
  · exact absurd rfl other
  · simpa using known

lemma deviceOwner_bytes :
    deviceOwner tagOf layout tag = some ⟨1, by decide⟩ ↔ tagOf tag = .other := by
  unfold deviceOwner
  split_ifs with unknown <;> simp [unknown]

/-- The two devices keep the contract of the storage. -/
lemma deviceOps_contract (layout : Layout) :
    (deviceOps tagOf).Contract (devicesTable layout) (deviceOwner tagOf layout) := by
  refine ⟨fun tag index isOwner => ?_, fun tag request => ⟨?_, ?_⟩, fun tag request => ⟨?_, ?_⟩⟩
  · unfold deviceOwner at isOwner
    split_ifs at isOwner <;> cases isOwner <;> exact ⟨by simp [devicesTable], rfl⟩
  all_goals intro index dsc devices isDsc
  all_goals obtain ⟨rfl, rfl⟩ | ⟨rfl, rfl⟩ := devicesTable_dsc isDsc
  · intro other
    obtain ⟨brid, unknown⟩ := deviceOwner_of_ne other
    simp [deviceOps, gbeeStorageRead, brid, unknown]
  · intro other
    exact if_neg fun unknown => other (deviceOwner_bytes.mpr unknown)
  · intro _ refused
    exact Prod.ext (by simp [deviceOps, gbeeStorageRead_refused refused]) rfl
  · intro own refused
    simp [deviceOps, deviceOwner_bytes.mp own, ENOENT] at refused
  · intro other
    obtain ⟨-, unknown⟩ := deviceOwner_of_ne other
    simp [deviceOps, gbeeStorageWrite, unknown]
  · intro other
    exact if_neg fun unknown => other (deviceOwner_bytes.mpr unknown)
  · intro _ refused
    exact Prod.ext (congrArg (Answer.mk · []) refused)
      (Prod.ext (gbeeStorageWrite_refused refused) rfl)
  · intro own refused
    simp [deviceOps, deviceOwner_bytes.mp own, ENOENT] at refused

end Devices

/-- A request for one byte. -/
def oneByte (byte : UInt8) : Request := ⟨true, [byte], 1⟩

/-- `GBMS_TAG_SNUM`, which is only read, and `GBMS_TAG_SELC`. -/
def serialOrSelector (tag : UInt32) : GbmsTag :=
  if tag = 0x534e554d then .snum else if tag = 0x53454C43 then .selc else .other

/-- The serial number is read and a write of it refused, the selector written and read back, with
and without the cache. -/
theorem storage_cache_transparent_eeprom :
    let calls : List (CacheCall Device) := [.read 0x534e554d ⟨true, [], 10⟩ true,
      .write 0x534e554d (oneByte 7) true, .write 0x53454C43 (oneByte 7) true,
      .read 0x53454C43 (oneByte 0) true]
    let start (pool : Bool) : CachedStorage Device _ :=
      ⟨devicesTable .storage, pool, [], fun _ => 0, fun _ => 0⟩
    (start true).answers (deviceOps serialOrSelector) calls =
      (start false).answers (deviceOps serialOrSelector) calls := by
  intro calls start
  exact ((storage_cache_transparent (deviceOps serialOrSelector) (devicesTable .storage)
    (deviceOwner serialOrSelector .storage) (deviceOps_contract _) true (fun _ => 0, fun _ => 0)
    calls _ rfl).2.2.2.2
      ⟨fun _ _ => rfl, fun _ _ => rfl, fun _ _ => rfl, fun _ _ => rfl, trivial⟩).1

/-- The first read of a tag of the second provider also calls the first one. Once the tag is
cached and its owner offline, a read is refused, where without the cache the offline owner is
called, and a write is refused with another error than without the cache. A write of a cached tag
that the EEPROM only reads calls the other provider as well. -/
theorem storage_cache_visible :
    let ops := deviceOps serialOrSelector
    let start : CachedStorage Device _ :=
      ⟨devicesTable .storage, true, [], fun _ => 0, fun _ => 0⟩
    let calls : List (CacheCall Device) :=
      [.read 2 (oneByte 0) true, .setOffline ⟨1, by decide⟩ true]
    let state := calls.foldl (step ops) start
    let plain := calls.foldl (step ops) start.uncached
    (start.read ops 2 (oneByte 0) true).asked = [⟨0, by decide⟩, ⟨1, by decide⟩] ∧
      (state.read ops 2 (oneByte 0) true).answer = ⟨-ENODEV, []⟩ ∧
      (plain.read ops 2 (oneByte 0) true).answer = ⟨1, [0]⟩ ∧
      (plain.read ops 2 (oneByte 0) true).asked = [⟨0, by decide⟩, ⟨1, by decide⟩] ∧
      (state.write ops 2 (oneByte 0) true).answer = ⟨-ENODEV, []⟩ ∧
      (plain.write ops 2 (oneByte 0) true).answer = ⟨-ENOENT, []⟩ ∧
      ((start.step ops (.read 0x534e554d ⟨true, [], 10⟩ true)).write ops 0x534e554d (oneByte 7)
        true).asked = [⟨0, by decide⟩, ⟨0, by decide⟩, ⟨1, by decide⟩] := by
  decide +kernel

end GsKernel.Bms
