import GsKernel.Bms.StorageCache

/-!
# The tag cache is transparent

The providers have disjoint sets of tags, and answer `-ENOENT` without an effect for the tags of
others, and perhaps for their own, as the EEPROM does when a tag that it only reads is written.
Then a tag whose owner is online is answered the same with and without the cache.
-/

namespace GsKernel.Bms

open CachedStorage Storage List

variable {δ σ : Type}

/-- How the providers of a table answer an access to a tag with the given owner: whoever answers
`-ENOENT` has done nothing. -/
structure Storage.Answers (storage : Storage δ) (owner : Option (Fin providersMax))
    (access : δ → σ → Answer × σ) : Prop where
  foreign : ∀ index dsc devices, (storage.providers index).dsc = some dsc →
    owner ≠ some index → access dsc devices = (⟨-ENOENT, []⟩, devices)
  own : ∀ index dsc devices, (storage.providers index).dsc = some dsc →
    owner = some index → (access dsc devices).1.ret = -ENOENT →
      access dsc devices = (⟨-ENOENT, []⟩, devices)

/-- The providers of a table own the tags between them: the owner of a tag is a slot in use
that has a descriptor. -/
structure StorageOps.Contract (ops : StorageOps δ σ) (storage : Storage δ)
    (owner : UInt32 → Option (Fin providersMax)) : Prop where
  bound : ∀ tag index, owner tag = some index →
    index.val < storage.count ∧ (storage.providers index).dsc.isSome
  reads : ∀ tag request, storage.Answers (owner tag) fun dsc => ops.read dsc tag request
  writes : ∀ tag request, storage.Answers (owner tag) fun dsc => ops.write dsc tag request

/-- Two tables that differ in their offline flags only. -/
structure Storage.SameTable (storage next : Storage δ) : Prop where
  count : next.count = storage.count
  dsc : ∀ index, (next.providers index).dsc = (storage.providers index).dsc

lemma Storage.SameTable.setOffline (storage : Storage δ) (index : Fin providersMax)
    (offline : Bool) : storage.SameTable (storage.setOffline index offline) := by
  refine ⟨rfl, fun other => ?_⟩
  by_cases same : other = index
  · subst same
    simp [Storage.setOffline]
  · simp [Storage.setOffline, same]

lemma Storage.SameTable.offline (storage : Storage δ) (name : Lib.Strings.CString)
    (flush : Bool) (reply : δ → Option Int) :
    storage.SameTable (storage.offline name flush reply).1 := by
  unfold Storage.offline
  split
  · exact ⟨rfl, fun _ => rfl⟩
  split
  · exact ⟨rfl, fun _ => rfl⟩
  rename_i index _
  by_cases flushed : (if flush then (storage.providers index).flush reply else 0) = 0
  · simp only [if_pos flushed]
    exact Storage.SameTable.setOffline storage index true
  · simp only [if_neg flushed]
    exact ⟨rfl, fun _ => rfl⟩

lemma StorageOps.Contract.sameTable {ops : StorageOps δ σ} {storage next : Storage δ}
    {owner : UInt32 → Option (Fin providersMax)} (contract : ops.Contract storage owner)
    (same : storage.SameTable next) : ops.Contract next owner := by
  have answers : ∀ tag (access : δ → σ → Answer × σ), storage.Answers (owner tag) access →
      next.Answers (owner tag) access := fun tag access answers =>
    ⟨fun index dsc devices isDsc => answers.foreign index dsc devices (same.dsc index ▸ isDsc),
      fun index dsc devices isDsc => answers.own index dsc devices (same.dsc index ▸ isDsc)⟩
  refine ⟨fun tag index isOwner => ?_, fun tag request => answers tag _ (contract.reads tag request),
    fun tag request => answers tag _ (contract.writes tag request)⟩
  rw [same.count, same.dsc]
  exact contract.bound tag index isOwner

/-! ## The loop over the providers -/

section Loop

variable {storage : Storage δ} {owner : Option (Fin providersMax)} {access : δ → σ → Answer × σ}
  {skipOffline : Bool}

section

variable (answers : storage.Answers owner access)
include answers

variable {index : Fin providersMax}

/-- The loop that reaches an owner who does not answer `-ENOENT` ends with the owner's answer. -/
lemma accessLoop_of_owner
    (isOwner : owner = some index) {dsc : δ} (isDsc : (storage.providers index).dsc = some dsc)
    (online : (skipOffline && (storage.providers index).offline) = false)
    (list : List (Fin providersMax)) (mem : index ∈ list) {devices : σ}
    (answered : (access dsc devices).1.ret ≠ -ENOENT) (lateInits : Bool) :
    let last := storage.accessLoop skipOffline access list devices lateInits
    last.answer = (access dsc devices).1 ∧ last.devices = (access dsc devices).2 ∧
      last.found = if 0 ≤ (access dsc devices).1.ret then some index else none := by
  induction list generalizing lateInits with
  | nil => contradiction
  | cons first rest ih =>
    unfold accessLoop
    by_cases same : first = index
    · subst same
      simp [online, isDsc, answered]
    have later := ih ((mem_cons.mp mem).resolve_left (Ne.symm same))
    split
    · exact later lateInits
    split
    · exact later true
    rename_i other isOther
    have foreign : owner ≠ some first := by
      rw [isOwner]
      exact fun equal => same (Option.some.inj equal).symm
    rw [answers.foreign first other devices isOther foreign]
    exact later lateInits

/-- The loop finds nobody when the owner answers `-ENOENT` as well. -/
lemma accessLoop_refused (isOwner : owner = some index) {dsc : δ}
    (isDsc : (storage.providers index).dsc = some dsc) {devices : σ}
    (refused : (access dsc devices).1.ret = -ENOENT) (list : List (Fin providersMax))
    (lateInits : Bool) :
    (storage.accessLoop skipOffline access list devices lateInits).found = none := by
  induction list generalizing lateInits with
  | nil => rfl
  | cons first rest ih =>
    unfold accessLoop
    split
    · exact ih lateInits
    split
    · exact ih true
    rename_i other isOther
    have same : access other devices = (⟨-ENOENT, []⟩, devices) := by
      by_cases equal : first = index
      · subst equal
        cases isDsc.symm.trans isOther
        exact answers.own first dsc devices isDsc isOwner refused
      · refine answers.foreign first other devices isOther fun owned => equal ?_
        exact Option.some.inj (owned.symm.trans isOwner)
    rw [same]
    exact ih lateInits

/-- The loop that remembers a provider has found the owner. -/
lemma accessLoop_found (list : List (Fin providersMax)) (devices : σ) (lateInits : Bool)
    (found : (storage.accessLoop skipOffline access list devices lateInits).found =
      some index) : owner = some index := by
  induction list generalizing devices lateInits with
  | nil => simp [accessLoop] at found
  | cons first rest ih =>
    unfold accessLoop at found
    split at found
    · exact ih devices lateInits found
    split at found
    · exact ih devices true found
    rename_i dsc isDsc
    dsimp only at found
    split at found
    · exact ih _ lateInits found
    rename_i answered
    dsimp only at found
    split at found
    · by_contra notOwner
      have isFirst : first = index := Option.some.inj found
      rw [answers.foreign first dsc devices isDsc (isFirst ▸ notOwner)] at answered
      exact answered rfl
    · contradiction

end

/-- The loop that passes over offline providers does not call one. -/
lemma accessLoop_asked (list : List (Fin providersMax)) (devices : σ) (lateInits : Bool) :
    ∀ index ∈ (storage.accessLoop true access list devices lateInits).asked,
      (storage.providers index).offline = false := by
  induction list generalizing devices lateInits with
  | nil => simp [accessLoop]
  | cons first rest ih =>
    unfold accessLoop
    split
    · exact ih devices lateInits
    rename_i online
    have isOnline : (storage.providers first).offline = false := by simpa using online
    split
    · exact ih devices true
    dsimp only
    split
    · intro index mem
      rcases mem_cons.mp mem with rfl | mem
      · exact isOnline
      · exact ih _ lateInits index mem
    · intro index mem
      obtain rfl := mem_singleton.mp mem
      exact isOnline

end Loop

/-! ## One access -/

/-- The providers keep their contract, and the cache remembers owners, each tag once. -/
structure CachedStorage.Sound (ops : StorageOps δ σ)
    (owner : UInt32 → Option (Fin providersMax)) (state : CachedStorage δ σ) : Prop where
  contract : ops.Contract state.storage owner
  entries : ∀ entry ∈ state.cache, owner entry.1 = some entry.2
  nodup : (state.cache.map Prod.fst).Nodup

/-- The provider called first owns the tag, and others are called only behind its `-ENOENT`. -/
def CachedStorage.OwnerFirst (owner : Option (Fin providersMax)) (access : δ → σ → Answer × σ)
    (state : CachedStorage δ σ) (asked : List (Fin providersMax)) : Prop :=
  ∀ first rest, asked = first :: rest → owner = some first ∧
    (rest = [] ∨ ∃ dsc, (state.storage.providers first).dsc = some dsc ∧
      (access dsc state.devices).1.ret = -ENOENT)

section Access

variable {ops : StorageOps δ σ} {owner : UInt32 → Option (Fin providersMax)}
  {state : CachedStorage δ σ} {access : δ → σ → Answer × σ} {tag : UInt32}

variable {entry : UInt32 × Fin providersMax}

/-- The slot the cache has for a tag is the owner. -/
lemma CachedStorage.Sound.find (sound : state.Sound ops owner)
    (found : state.cache.find? (·.1 == tag) = some entry) : owner tag = some entry.2 := by
  have same : entry.1 = tag := by simpa using find?_some found
  rw [← same]
  exact sound.entries entry (mem_of_find?_eq_some found)

variable {request : Request} {allocated : Bool}

section Cached

variable (skipOffline : Bool) (ready : state.storage.initDone = true)
  (valid : ¬ (!request.hasData ∧ request.count ≠ 0))
  (found : state.cache.find? (·.1 == tag) = some entry)
  (online : (state.storage.providers entry.2).offline = false) {dsc : δ}
  (isDsc : (state.storage.providers entry.2).dsc = some dsc)
include ready valid found online isDsc

/-- An access to a tag that is in the cache while its owner is online is one call of the owner,
if that does not answer `-ENOENT`. -/
lemma access_of_cached (answered : (access dsc state.devices).1.ret ≠ -ENOENT) :
    state.access skipOffline access tag request allocated =
      ⟨(access dsc state.devices).1, { state with devices := (access dsc state.devices).2 },
        [entry.2]⟩ := by
  simp only [CachedStorage.access, ready, Bool.not_true, Bool.false_eq_true, if_false,
    if_neg valid, found, online, isDsc, if_neg answered]

/-- Behind the owner's `-ENOENT` the access is that of a tag that is not in the cache. -/
lemma access_of_refused
    (refused : access dsc state.devices = (⟨-ENOENT, []⟩, state.devices)) :
    state.access skipOffline access tag request allocated =
      { state.accessProviders skipOffline access tag allocated with
        asked := entry.2 :: (state.accessProviders skipOffline access tag allocated).asked } := by
  simp only [CachedStorage.access, ready, Bool.not_true, Bool.false_eq_true, if_false,
    if_neg valid, found, online, isDsc, refused, if_true]

end Cached

/-- An access to a tag that is not in the cache asks the providers. -/
lemma access_of_missed (skipOffline : Bool) (ready : state.storage.initDone = true)
    (valid : ¬ (!request.hasData ∧ request.count ≠ 0))
    (missed : state.cache.find? (·.1 == tag) = none) :
    state.access skipOffline access tag request allocated =
      state.accessProviders skipOffline access tag allocated := by
  simp only [CachedStorage.access, ready, Bool.not_true, Bool.false_eq_true, if_false,
    if_neg valid, missed]

/-- An access to a tag that is in the cache while its owner is offline calls nobody. -/
lemma access_of_offline (skipOffline : Bool) (ready : state.storage.initDone = true)
    (valid : ¬ (!request.hasData ∧ request.count ≠ 0))
    (found : state.cache.find? (·.1 == tag) = some entry)
    (offline : (state.storage.providers entry.2).offline = true) :
    state.access skipOffline access tag request allocated = ⟨⟨-ENODEV, []⟩, state, []⟩ := by
  simp only [CachedStorage.access, ready, Bool.not_true, Bool.false_eq_true, if_false,
    if_neg valid, found, offline, if_true]

/-- The owner of a tag, when it is online, answers the loop over the providers. -/
lemma accessProviders_of_owner (sound : state.Sound ops owner)
    (answers : state.storage.Answers (owner tag) access) (skipOffline : Bool) (allocated : Bool)
    {index : Fin providersMax} (isOwner : owner tag = some index)
    (online : (state.storage.providers index).offline = false) {dsc : δ}
    (isDsc : (state.storage.providers index).dsc = some dsc)
    (answered : (access dsc state.devices).1.ret ≠ -ENOENT) :
    (state.accessProviders skipOffline access tag allocated).answer = (access dsc state.devices).1 ∧
      (state.accessProviders skipOffline access tag allocated).state.devices =
        (access dsc state.devices).2 := by
  have inUse : index ∈ state.storage.slots := by
    simp [slots, (sound.contract.bound tag index isOwner).1]
  obtain ⟨answer, devices, -⟩ := accessLoop_of_owner answers isOwner isDsc
    (by simp [online] : (skipOffline && (state.storage.providers index).offline) = false)
    state.storage.slots inUse answered false
  simp [accessProviders, answer, devices, answered]

lemma CachedStorage.Sound.uncached (sound : state.Sound ops owner) :
    state.uncached.Sound ops owner :=
  ⟨sound.contract, by simp [CachedStorage.uncached], by simp [CachedStorage.uncached]⟩

/-- Without a pool nothing is remembered. -/
lemma accessProviders_uncached (skipOffline allocated : Bool) :
    (state.uncached.accessProviders skipOffline access tag allocated).state =
      { state.uncached with
        devices := (state.accessProviders skipOffline access tag allocated).state.devices } := by
  have cache : (state.uncached.accessProviders skipOffline access tag allocated).state.cache =
      [] := by
    simp only [accessProviders, uncached]
    split <;> simp
  have eta : ∀ next : CachedStorage δ σ, next.cache = [] → next.storage = state.storage →
      next.pool = false → next = { state.uncached with devices := next.devices } := by
    rintro ⟨storage, pool, entries, devices⟩ rfl rfl rfl
    rfl
  exact eta _ cache rfl rfl

section

variable (sound : state.Sound ops owner)
include sound

section

variable (answers : state.storage.Answers (owner tag) access)
include answers

/-- While the owner of its tag is online, an access has the answer and the effect it has
without the cache. -/
lemma access_transparent (skipOffline : Bool)
    (request : Request) (allocated : Bool) (online : ∀ index, owner tag = some index →
      (state.storage.providers index).offline = false) :
    (state.access skipOffline access tag request allocated).answer =
        (state.uncached.access skipOffline access tag request allocated).answer ∧
      (state.access skipOffline access tag request allocated).state.uncached =
        (state.uncached.access skipOffline access tag request allocated).state := by
  by_cases ready : state.storage.initDone = true
  swap
  · have notReady : (!state.storage.initDone) = true := by simpa using ready
    simp only [CachedStorage.access, notReady, if_true]
    simp [uncached, notReady]
  by_cases valid : !request.hasData ∧ request.count ≠ 0
  · simp only [CachedStorage.access, if_pos valid]
    simp [uncached, ready]
  rw [access_of_missed skipOffline (show state.uncached.storage.initDone = true from ready)
    valid rfl, accessProviders_uncached]
  cases found : state.cache.find? (·.1 == tag) with
  | none =>
    rw [access_of_missed skipOffline ready valid found]
    exact ⟨rfl, rfl⟩
  | some entry =>
    have isOwner := sound.find found
    have isOnline := online entry.2 isOwner
    obtain ⟨dsc, isDsc⟩ := Option.isSome_iff_exists.mp (sound.contract.bound tag _ isOwner).2
    by_cases refused : (access dsc state.devices).1.ret = -ENOENT
    · rw [access_of_refused skipOffline ready valid found isOnline isDsc
        (answers.own entry.2 dsc state.devices isDsc isOwner refused)]
      exact ⟨rfl, rfl⟩
    rw [access_of_cached skipOffline ready valid found isOnline isDsc refused]
    obtain ⟨answer, -⟩ := accessProviders_of_owner sound.uncached answers skipOffline allocated
      isOwner isOnline isDsc refused
    obtain ⟨-, devices⟩ := accessProviders_of_owner sound answers skipOffline allocated
      isOwner isOnline isDsc refused
    exact ⟨answer.symm, by rw [devices]; rfl⟩

/-- An access calls nobody, asks the providers, or calls the owner that the cache has, and behind
its `-ENOENT` the providers, without remembering one. -/
lemma access_cases (skipOffline : Bool) (request : Request) (allocated : Bool) :
    let served := state.access skipOffline access tag request allocated
    let asking := state.accessProviders skipOffline access tag allocated
    (served.state = state ∧ served.asked = []) ∨
    (state.cache.find? (·.1 == tag) = none ∧ served = asking) ∨
    ∃ index dsc, owner tag = some index ∧ (state.storage.providers index).offline = false ∧
      (state.storage.providers index).dsc = some dsc ∧
      ((∃ answer devices, served = ⟨answer, { state with devices }, [index]⟩) ∨
        (access dsc state.devices).1.ret = -ENOENT ∧ asking.state.cache = state.cache ∧
          served = { asking with asked := index :: asking.asked }) := by
  dsimp only
  by_cases ready : state.storage.initDone = true
  swap
  · exact .inl (by simp [CachedStorage.access, ready])
  by_cases valid : !request.hasData ∧ request.count ≠ 0
  · exact .inl (by simp [CachedStorage.access, ready, valid])
  cases found : state.cache.find? (·.1 == tag) with
  | none => exact .inr (.inl ⟨rfl, access_of_missed skipOffline ready valid found⟩)
  | some entry =>
    have isOwner := sound.find found
    obtain ⟨dsc, isDsc⟩ := Option.isSome_iff_exists.mp (sound.contract.bound tag _ isOwner).2
    by_cases online : (state.storage.providers entry.2).offline = false
    · refine .inr (.inr ⟨entry.2, dsc, isOwner, online, isDsc, ?_⟩)
      by_cases refused : (access dsc state.devices).1.ret = -ENOENT
      · refine .inr ⟨refused, ?_, access_of_refused skipOffline ready valid found online isDsc
          (answers.own entry.2 dsc state.devices isDsc isOwner refused)⟩
        simp only [accessProviders, accessLoop_refused answers isOwner isDsc refused]
      · exact .inl ⟨_, _, access_of_cached skipOffline ready valid found online isDsc refused⟩
    · rw [access_of_offline skipOffline ready valid found (by simpa using online)]
      exact .inl ⟨rfl, rfl⟩

/-- What an access leaves of the storage and of the cache. -/
lemma access_sound (skipOffline : Bool) (request : Request) (allocated : Bool) :
    (state.access skipOffline access tag request allocated).state.Sound ops owner := by
  obtain ⟨same, -⟩ | ⟨missed, asks⟩ |
      ⟨index, dsc, -, -, -, ⟨answer, devices, calls⟩ | ⟨-, same, calls⟩⟩ :=
    access_cases sound answers skipOffline request allocated
  · rw [same]
    exact sound
  · have fresh : tag ∉ state.cache.map Prod.fst := by
      intro mem
      obtain ⟨entry, isEntry, same⟩ := mem_map.mp mem
      exact find?_eq_none.mp missed entry isEntry (by simp [same])
    rw [asks]
    unfold accessProviders
    refine ⟨sound.contract, ?_, ?_⟩
    · dsimp only
      split
      · rename_i index isFound
        split
        · intro entry mem
          rcases mem_cons.mp mem with rfl | mem
          · exact accessLoop_found answers _ _ _ isFound
          · exact sound.entries entry mem
        · exact sound.entries
      · exact sound.entries
    · dsimp only
      split
      · split
        · exact nodup_cons.mpr ⟨fresh, sound.nodup⟩
        · exact sound.nodup
      · exact sound.nodup
  · rw [calls]
    exact ⟨sound.contract, sound.entries, sound.nodup⟩
  · rw [calls]
    exact ⟨sound.contract, same ▸ sound.entries, same ▸ sound.nodup⟩

/-- An access to a tag in the cache calls the owner first. -/
lemma access_ownerFirst (skipOffline : Bool)
    (request : Request) (allocated : Bool) (cached : tag ∈ state.cache.map Prod.fst) :
    state.OwnerFirst (owner tag) access
      (state.access skipOffline access tag request allocated).asked := by
  intro first rest asked
  obtain ⟨-, none⟩ | ⟨missed, -⟩ |
      ⟨index, dsc, isOwner, -, isDsc, ⟨answer, devices, calls⟩ | ⟨refused, -, calls⟩⟩ :=
    access_cases sound answers skipOffline request allocated
  · simp [none] at asked
  · obtain ⟨entry, isEntry, same⟩ := mem_map.mp cached
    exact absurd (by simp [same]) (find?_eq_none.mp missed entry isEntry)
  · rw [calls] at asked
    obtain ⟨rfl, rfl⟩ := cons.inj asked
    exact ⟨isOwner, .inl rfl⟩
  · rw [calls] at asked
    obtain ⟨rfl, -⟩ := cons.inj asked
    exact ⟨isOwner, .inr ⟨dsc, isDsc, refused⟩⟩

/-- A write calls no provider that is offline. -/
lemma access_asked_online (request : Request) (allocated : Bool) :
    ∀ index ∈ (state.access true access tag request allocated).asked,
      (state.storage.providers index).offline = false := by
  obtain ⟨-, none⟩ | ⟨-, asks⟩ |
      ⟨index, dsc, -, online, -, ⟨answer, devices, calls⟩ | ⟨-, -, calls⟩⟩ :=
    access_cases sound answers true request allocated
  · simp [none]
  · rw [asks]
    exact accessLoop_asked _ _ _
  · rw [calls]
    exact forall_mem_singleton.mpr online
  · rw [calls]
    exact forall_mem_cons.mpr ⟨online, accessLoop_asked _ _ _⟩

end

end

end Access

end GsKernel.Bms
