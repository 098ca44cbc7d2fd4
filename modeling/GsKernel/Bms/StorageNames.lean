import GsKernel.Bms.StorageProviders

/-!
# Providers and their names

`gbms_storage_find_slot` takes a slot whose name is the *beginning* of the name it looks for.
While no registered name is the beginning of another, registering binds the slot of the exact
name. `gbms_storage_offline` finds references and free slots but never a registered provider.
-/

namespace GsKernel.Bms

open Lib.Strings Storage List

variable {δ : Type}

/-- The slot registered under a name. -/
def Storage.IsSlot (storage : Storage δ) (name : CString) (index : Fin providersMax) : Prop :=
  index.val < storage.count ∧ (storage.providers index).name = name

/-- The name is registered, as a provider or as a reference. -/
def Storage.Registered (storage : Storage δ) (name : CString) : Prop :=
  ∃ index, storage.IsSlot name index

/-- Registering under a name as its callers expect: a name that is bound is refused and
nothing changes; any other name's own slot is bound, or the next free one. -/
structure Storage.Registers (storage : Storage δ) (desc : Option δ) (name : CString)
    (result : Storage δ × Int) : Prop where
  refused : ∀ index, storage.IsSlot name index → (storage.providers index).dsc.isSome →
    result = (storage, -EBUSY)
  bound : (∀ index, storage.IsSlot name index → (storage.providers index).dsc = none) →
    ∃ index, (storage.IsSlot name index ∨ ¬ storage.Registered name ∧ index.val = storage.count) ∧
      result = (storage.bind index name desc, 0)

/-- Taking a provider offline as its callers expect: exactly the slot of the name is marked,
and a name that is not registered is an error that changes nothing. -/
structure Storage.TakesOffline (storage : Storage δ) (name : CString)
    (result : Storage δ × Int) : Prop where
  marked : ∀ index, storage.IsSlot name index → result = (storage.markOffline index, 0)
  unknown : ¬ storage.Registered name → result.1 = storage ∧ result.2 < 0

/-- A call does what its callers expect. -/
def Storage.Conforms (storage : Storage δ) (call : StorageCall δ) : Prop :=
  match call with
  | .register desc name => storage.Registers (some desc) name (storage.call call)
  | .reference name => storage.Registers none name (storage.call call)
  | .offline name _ _ => storage.TakesOffline name (storage.call call)

/-- No other registered name is the beginning of this one. -/
def Storage.Precise (storage : Storage δ) (name : CString) : Prop :=
  ∀ index : Fin providersMax, index.val < storage.count →
    (storage.providers index).name.chars <+: name.chars → (storage.providers index).name = name

/-- What a call must meet: no other registered name is the beginning of its name; and a name
that is taken offline is a reference that has no descriptor, or is not registered while the
table is full. -/
def Storage.Admissible (storage : Storage δ) (call : StorageCall δ) : Prop :=
  storage.Precise call.name ∧ match call with
    | .offline name _ _ =>
      (∀ index, storage.IsSlot name index → (storage.providers index).dsc = none) ∧
        (¬ storage.Registered name → storage.count = providersMax)
    | _ => True

/-- The names of the slots in use are different, and among those given. -/
structure Storage.Named (names : List CString) (storage : Storage δ) : Prop where
  initDone : storage.initDone = true
  distinct : ∀ first second name, storage.IsSlot name first → storage.IsSlot name second →
    first = second
  among : ∀ index : Fin providersMax, index.val < storage.count →
    (storage.providers index).name ∈ names

section Slots

variable {storage : Storage δ} {name : CString}

lemma isNamed_iff (slot : StorageProvider δ) (name : CString) :
    slot.isNamed name = true ↔ slot.name.chars <+: name.chars := by
  rw [StorageProvider.isNamed, beq_iff_eq, strncmp_length]

section

variable (precise : storage.Precise name)
include precise

/-- A slot that the lookup stops at is the slot of the name. -/
lemma isSlot_of_find {index : Fin providersMax} (found : (finRange providersMax).find? (fun index =>
      decide (index.val < storage.count) && (storage.providers index).isNamed name) = some index) :
    storage.IsSlot name index := by
  have hit := find?_some found
  rw [Bool.and_eq_true, decide_eq_true_iff, isNamed_iff] at hit
  exact ⟨hit.1, precise index hit.1 hit.2⟩

/-- The lookup of a registered name finds its slot. -/
lemma findSlot_of_isSlot {index : Fin providersMax}
    (only : ∀ other, storage.IsSlot name other → other = index)
    (isSlot : storage.IsSlot name index) :
    storage.findSlot name =
      if (storage.providers index).dsc.isNone then .ok index else .error (-EBUSY) := by
  unfold findSlot
  cases found : (finRange providersMax).find? fun index =>
      decide (index.val < storage.count) && (storage.providers index).isNamed name with
  | none =>
    refine absurd ?_ (find?_eq_none.mp found index (mem_finRange index))
    rw [Bool.and_eq_true, decide_eq_true_iff, isNamed_iff]
    exact ⟨isSlot.1, isSlot.2 ▸ prefix_rfl⟩
  | some other => rw [only other (isSlot_of_find precise found)]

/-- The lookup of a name that is not registered finds the next free slot. -/
lemma findSlot_of_not_registered (absent : ¬ storage.Registered name) : storage.findSlot name =
      if free : storage.count < providersMax then .ok ⟨storage.count, free⟩
      else .error (-ENOMEM) := by
  unfold findSlot
  cases found : (finRange providersMax).find? fun index =>
      decide (index.val < storage.count) && (storage.providers index).isNamed name with
  | none => rfl
  | some other => exact absurd ⟨other, isSlot_of_find precise found⟩ absent

end

end Slots

/-! ## One call -/

section Calls

variable {names : List CString} {storage : Storage δ}

section

variable (named : storage.Named names)
include named

variable {name : CString}

/-- There is room for a name that is not registered yet. -/
lemma Storage.Named.room (few : names.length ≤ providersMax)
    (isName : name ∈ names) (absent : ¬ storage.Registered name) :
    storage.count < providersMax := by
  by_contra full
  have count : storage.count = providersMax := le_antisymm storage.count_le (Nat.not_lt.mp full)
  have used : ∀ index : Fin providersMax, index.val < storage.count := fun index => by
    rw [count]
    exact index.isLt
  have injective : Function.Injective fun index => (storage.providers index).name :=
    fun first second same =>
      named.distinct first second _ ⟨used first, rfl⟩ ⟨used second, same.symm⟩
  have nodup : (name :: (finRange providersMax).map
      fun index => (storage.providers index).name).Nodup := by
    refine nodup_cons.mpr ⟨fun mem => ?_, (nodup_finRange _).map injective⟩
    obtain ⟨index, -, same⟩ := mem_map.mp mem
    exact absent ⟨index, used index, same⟩
  have subset : (name :: (finRange providersMax).map
      fun index => (storage.providers index).name) ⊆ names := by
    intro other mem
    rcases mem_cons.mp mem with rfl | mem
    · exact isName
    · obtain ⟨index, -, rfl⟩ := mem_map.mp mem
      exact named.among index (used index)
  have longer := (nodup.subperm subset).length_le
  simp only [length_cons, length_map, length_finRange] at longer
  omega

/-- Registering does what its callers expect. -/
lemma Storage.Named.registers (few : names.length ≤ providersMax) (isName : name ∈ names)
    (short : name.chars.length < providerNameMax) (precise : storage.Precise name)
    (desc : Option δ) : storage.Registers desc name (storage.registerInternal desc name) := by
  have fits : ¬ name.chars.length ≥ providerNameMax := Nat.not_le.mpr short
  constructor
  · intro index isSlot isSome
    have found := findSlot_of_isSlot precise
      (fun other isOther => named.distinct other index name isOther isSlot) isSlot
    rw [if_neg (by simpa using Option.isSome_iff_ne_none.mp isSome)] at found
    simp only [registerInternal, if_neg fits, found]
  · intro unbound
    by_cases registered : storage.Registered name
    · obtain ⟨index, isSlot⟩ := registered
      have found := findSlot_of_isSlot precise
        (fun other isOther => named.distinct other index name isOther isSlot) isSlot
      rw [if_pos (by simpa using unbound index isSlot)] at found
      exact ⟨index, .inl isSlot, by simp only [registerInternal, if_neg fits, found]⟩
    · have free := named.room few isName registered
      have found := findSlot_of_not_registered precise registered
      rw [dif_pos free] at found
      exact ⟨⟨storage.count, free⟩, .inr ⟨registered, rfl⟩, by
        simp only [registerInternal, if_neg fits, found]⟩

/-- Taking a reference offline, or asking for a name that a full table does not have. -/
lemma Storage.Named.takesOffline {flush : Bool} {reply : δ → Option Int}
    (admissible : storage.Admissible (.offline name flush reply)) :
    storage.TakesOffline name (storage.offline name flush reply) := by
  have precise : storage.Precise name := admissible.1
  obtain ⟨unbound, full⟩ := admissible.2
  constructor
  · intro index isSlot
    have found := findSlot_of_isSlot precise
      (fun other isOther => named.distinct other index name isOther isSlot) isSlot
    have noDsc := unbound index isSlot
    rw [if_pos (by simpa using noDsc)] at found
    simp [offline, named.initDone, found, StorageProvider.flush, noDsc]
  · intro absent
    have found := findSlot_of_not_registered precise absent
    rw [dif_neg (by rw [full absent]; exact lt_irrefl _)] at found
    simp [offline, named.initDone, found, ENOMEM]

/-- Binding the slot of a name, or the next free one, keeps the names apart. -/
lemma Storage.Named.bind (isName : name ∈ names) (desc : Option δ) {index : Fin providersMax}
    (isIndex : storage.IsSlot name index ∨ ¬ storage.Registered name ∧ index.val = storage.count) :
    (storage.bind index name desc).Named names := by
  have slots : ∀ other known, (storage.bind index name desc).IsSlot known other →
      other = index ∧ known = name ∨ other ≠ index ∧ storage.IsSlot known other := by
    rintro other known ⟨used, isNamed⟩
    by_cases same : other = index
    · subst same
      simp only [Storage.bind, Function.update_self] at isNamed
      exact .inl ⟨rfl, isNamed.symm⟩
    · simp only [Storage.bind, Function.update_of_ne same] at isNamed
      refine .inr ⟨same, ?_, isNamed⟩
      have within : other.val < if index.val = storage.count then storage.count + 1
        else storage.count := used
      split at within <;> omega
  have others : ∀ other, other ≠ index → ¬ storage.IsSlot name other := by
    intro other ne isSlot
    rcases isIndex with isIndex | ⟨absent, -⟩
    · exact ne (named.distinct other index name isSlot isIndex)
    · exact absent ⟨other, isSlot⟩
  refine ⟨named.initDone, fun first second known isFirst isSecond => ?_, fun other used => ?_⟩
  · rcases slots first known isFirst with ⟨rfl, rfl⟩ | ⟨ne, isFirst⟩
    · rcases slots second known isSecond with ⟨rfl, -⟩ | ⟨ne, isSecond⟩
      · rfl
      · exact absurd isSecond (others second ne)
    · rcases slots second known isSecond with ⟨-, isName⟩ | ⟨-, isSecond⟩
      · exact absurd (isName ▸ isFirst) (others first ne)
      · exact named.distinct first second known isFirst isSecond
  · rcases slots other _ ⟨used, rfl⟩ with ⟨-, isKnown⟩ | ⟨-, isSlot⟩
    · rwa [isKnown]
    · rw [← isSlot.2]
      exact named.among other isSlot.1

lemma Storage.Named.markOffline (index : Fin providersMax) :
    (storage.markOffline index).Named names := by
  have same : ∀ other, ((storage.markOffline index).providers other).name =
      (storage.providers other).name := by
    intro other
    by_cases isIndex : other = index
    · subst isIndex
      simp [Storage.markOffline]
    · simp [Storage.markOffline, isIndex]
  have slots : ∀ other known, (storage.markOffline index).IsSlot known other ↔
      storage.IsSlot known other := fun other known => by
    simp only [IsSlot, same]
    rfl
  refine ⟨named.initDone, fun first second known isFirst isSecond => ?_, fun other used => ?_⟩
  · exact named.distinct first second known ((slots first known).mp isFirst)
      ((slots second known).mp isSecond)
  · rw [same]
    exact named.among other used

end

end Calls

/-! ## Sequences of calls -/

/-- The calls use names that fit and register only names of a list. -/
def StorageCall.Among (names : List CString) : StorageCall δ → Prop
  | .register _ name => name ∈ names ∧ name.chars.length < providerNameMax
  | .reference name => name ∈ names ∧ name.chars.length < providerNameMax
  | .offline _ _ _ => True

/-- A call that meets its condition does what its callers expect. -/
lemma Storage.Named.conforms {names : List CString} {storage : Storage δ}
    (named : storage.Named names) (few : names.length ≤ providersMax) {call : StorageCall δ}
    (among : call.Among names) (admissible : storage.Admissible call) : storage.Conforms call := by
  cases call with
  | register desc name =>
    have registers := named.registers few among.1 among.2 admissible.1 (some desc)
    simpa [Conforms, call, register, named.initDone] using registers
  | reference name => exact named.registers few among.1 among.2 admissible.1 none
  | offline name flush reply => exact named.takesOffline admissible

/-- A call that does what its callers expect keeps the names apart. -/
lemma Storage.Named.call {names : List CString} {storage : Storage δ}
    (named : storage.Named names) (few : names.length ≤ providersMax) {call : StorageCall δ}
    (among : call.Among names) (admissible : storage.Admissible call) :
    (storage.call call).1.Named names := by
  have registered : ∀ desc name, name ∈ names → ∀ result : Storage δ × Int,
      storage.Registers desc name result → result.1.Named names := by
    intro desc name isName result registers
    by_cases unbound : ∀ index, storage.IsSlot name index → (storage.providers index).dsc = none
    · obtain ⟨index, isIndex, rfl⟩ := registers.bound unbound
      exact named.bind isName desc isIndex
    · simp only [not_forall] at unbound
      obtain ⟨index, isSlot, isSome⟩ := unbound
      rw [registers.refused index isSlot (Option.isSome_iff_ne_none.mpr isSome)]
      exact named
  have conforms := named.conforms few among admissible
  cases call with
  | register desc name => exact registered (some desc) name among.1 _ conforms
  | reference name => exact registered none name among.1 _ conforms
  | offline name flush reply =>
    by_cases isRegistered : storage.Registered name
    · obtain ⟨index, isSlot⟩ := isRegistered
      rw [TakesOffline.marked conforms index isSlot]
      exact named.markOffline index
    · rw [(TakesOffline.unknown conforms isRegistered).1]
      exact named

/-- One call, for the table it leaves. -/
def Storage.step (storage : Storage δ) (call : StorageCall δ) : Storage δ :=
  (storage.call call).1

/-- In every sequence of calls over at most `providersMax` names, none too long, whose calls
meet their conditions, every call does what its callers expect. -/
theorem storage_providers_named (names : List CString) (few : names.length ≤ providersMax)
    (calls : List (StorageCall δ)) (along : Lib.Runs.Along step
      (fun storage call => call.Among names ∧ storage.Admissible call) (initial δ) calls)
    (call : StorageCall δ) (among : call.Among names)
    (admissible : (calls.foldl step (initial δ)).Admissible call) :
    (calls.foldl step (initial δ)).Conforms call := by
  have start : (initial δ).Named names :=
    ⟨rfl, fun first _ _ isFirst => absurd isFirst.1 (Nat.not_lt_zero _),
      fun index used => absurd used (Nat.not_lt_zero _)⟩
  have named := Lib.Runs.foldl_invariant_along (Named names) step
    (fun storage call => call.Among names ∧ storage.Admissible call)
    (fun storage call named meets => named.call few meets.1 meets.2) calls start along
  exact named.conforms few among admissible

/-- The name "a". -/
def nameA : CString := ⟨[97], by simp⟩

/-- The name "ab". -/
def nameAb : CString := ⟨[97, 98], by simp⟩

/-- Registering "ab" and then "a", of which neither is the beginning of the other at the
time, binds both. -/
theorem storage_providers_named_two :
    ((initial Nat).step (.register 1 nameAb)).Conforms (.register 2 nameA) := by
  have first : (initial Nat).Admissible (.register 1 nameAb) :=
    ⟨fun index used => absurd used (Nat.not_lt_zero _), trivial⟩
  refine storage_providers_named [nameAb, nameA] (by decide) [.register 1 nameAb]
    ⟨⟨⟨by simp, by decide⟩, first⟩, trivial⟩ _
    ⟨by simp, by decide⟩ ⟨?_, trivial⟩
  unfold Precise
  decide +kernel

/-- A provider that has registered cannot be taken offline; a name that never registered can,
which marks a free slot; and a provider whose name begins with another's is refused. -/
theorem storage_names_confused :
    (((initial Nat).step (.register 1 nameA)).call (.offline nameA false fun _ => none)).2 =
        -EBUSY ∧
      ((initial Nat).call (.offline nameA false fun _ => none)).2 = 0 ∧
      (((initial Nat).call (.offline nameA false fun _ => none)).1.providers
        ⟨0, by decide⟩).offline = true ∧
      (((initial Nat).step (.register 1 nameA)).call (.register 2 nameAb)).2 = -EBUSY := by
  decide +kernel

end GsKernel.Bms
