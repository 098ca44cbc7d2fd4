import GsKernel.Gcma.Operations

/-!
# The invalidation of inodes and file systems

`gcma_cc_invalidate_inode` erases the pages of an inode one by one and then drops the inode, which
no other call holds. `gcma_cc_invalidate_fs` does this for every inode of a file system, after
which the hash is empty, as the code asserts.
-/

namespace GsKernel.Gcma

open Function Index List Option

variable {κ δ : Type*} {cache : Cache κ δ} {carried extra : Nat → Nat}
  {standing : Nat → Standing} {expected : Nat → κ → Nat → Option δ} {ino fs : Nat} {key : κ}

/-- What the invalidations leave of the index: names and file systems. -/
structure SameNames (index next : Index κ) : Prop where
  name : next.name = index.name
  mounted : ∀ fs, (next.inodeHash fs).isSome = (index.inodeHash fs).isSome

lemma SameNames.refl (index : Index κ) : SameNames index index := ⟨rfl, fun _ => rfl⟩

lemma SameNames.trans {first second third : Index κ} (before : SameNames first second)
    (after : SameNames second third) : SameNames first third :=
  ⟨after.name.trans before.name, fun fs => (after.mounted fs).trans (before.mounted fs)⟩

lemma Index.sameNames_unhashInode (index : Index κ) (ino : Nat) :
    SameNames index (index.unhashInode ino) := by
  refine ⟨name_unhashInode, fun fs => ?_⟩
  by_cases isFs : fs = (index.inodes ino).gcmaFs <;> simp [unhashInode, isFs]

lemma Index.sameNames_dead (index : Index κ) (ino : Nat) : SameNames index
      ((index.setInode ino fun inode => { inode with refCount := 0 }).unhashInode ino) := by
  have dead : SameNames index (index.setInode ino fun inode => { inode with refCount := 0 }) :=
    ⟨name_setInode fun _ => ⟨rfl, rfl⟩, fun _ => rfl⟩
  exact dead.trans (sameNames_unhashInode _ ino)

lemma Index.sameNames_putGcmaInode (index : Index κ) (ino : Nat) :
    SameNames index (index.putGcmaInode ino) := by
  refine ⟨name_putGcmaInode, fun fs => ?_⟩
  rw [putGcmaInode]
  split
  next => exact (sameNames_unhashInode _ ino).mounted fs
  next => rfl

lemma Cache.sameNames_gcmaErasePage (cache : Cache κ δ) (ino offset pfn : Nat) :
    SameNames cache.index (cache.gcmaErasePage ino offset pfn).index := by
  refine ⟨Cache.name_gcmaErasePage, fun fs => ?_⟩
  simp only [Cache.gcmaErasePage, Cache.gcmaPutPage]
  split
  next =>
    cases (cache.memory.pages pfn).mapping with
    | none => rfl
    | some ino => exact (sameNames_putGcmaInode _ ino).mounted fs
  next => rfl

/-- The loop of `try_empty_inode` erases the pages that it goes through. -/
lemma Valid.erasePages (valid : Valid cache [] carried extra standing expected)
    (entries : List (Nat × Nat)) (nodup : entries.Nodup)
    (stored : ∀ entry ∈ entries, standing entry.2 = .cached ino entry.1) :
    ∃ next standingNext,
      entries.foldl (fun cache entry => cache.gcmaErasePage ino entry.1 entry.2) cache = next ∧
      Valid next [] carried extra standingNext expected ∧ SameNames cache.index next.index ∧
      ∀ pfn inode offset, standingNext pfn = .cached inode offset →
        standing pfn = .cached inode offset ∧ ¬ (inode = ino ∧ (offset, pfn) ∈ entries) := by
  induction entries generalizing cache standing with
  | nil => exact ⟨cache, standing, rfl, valid, SameNames.refl _, by simp⟩
  | cons entry entries ih =>
    obtain ⟨offset, pfn⟩ := entry
    rw [nodup_cons] at nodup
    rw [forall_mem_cons] at stored
    have erased := valid.gcmaErasePage stored.1 not_mem_nil
    have storedLeft : ∀ entry ∈ entries,
        update standing pfn .free entry.2 = .cached ino entry.1 := by
      rintro ⟨position, other⟩ mem
      have isOther : other ≠ pfn := by
        rintro rfl
        have same := (stored.2 _ mem).symm.trans stored.1
        obtain rfl : position = offset := (Standing.cached.injEq .. ▸ same).2
        exact nodup.1 mem
      rw [update_of_ne isOther]
      exact stored.2 _ mem
    obtain ⟨next, standingNext, ran, nextValid, sameNames, left⟩ :=
      ih erased nodup.2 storedLeft
    refine ⟨next, standingNext, ran, nextValid,
      (cache.sameNames_gcmaErasePage ino offset pfn).trans sameNames, ?_⟩
    intro other inode position cached
    obtain ⟨before, unlisted⟩ := left other inode position cached
    have isOther : other ≠ pfn := by
      rintro rfl
      simp at before
    rw [update_of_ne isOther] at before
    refine ⟨before, ?_⟩
    rintro ⟨isInode, mem⟩
    rcases mem_cons.mp mem with same | rest
    · exact isOther (Prod.mk.inj same).2
    · exact unlisted ⟨isInode, rest⟩

lemma Valid.emptyInode (valid : Valid cache [] carried extra standing expected) (ino : Nat) :
    ∃ standingNext, Valid (cache.emptyInode ino) [] carried extra standingNext expected ∧
      SameNames cache.index (cache.emptyInode ino).index ∧
      ∀ pfn inode offset, standingNext pfn = .cached inode offset →
        standing pfn = .cached inode offset ∧ inode ≠ ino := by
  have perm := perm_insertionSort (fun first second : Nat × Nat => first.1 ≤ second.1)
    (cache.index.inodes ino).pages
  obtain ⟨next, standingNext, ran, nextValid, sameNames, left⟩ :=
    valid.erasePages _ (perm.nodup_iff.mpr (valid.indexed.pagesNodup ino)) fun entry mem =>
      (valid.indexed.entries ino entry.1 entry.2).mp (perm.mem_iff.mp mem)
  rw [Cache.emptyInode, ran]
  refine ⟨standingNext, nextValid, sameNames, fun pfn inode offset cached => ?_⟩
  obtain ⟨before, unlisted⟩ := left pfn inode offset cached
  refine ⟨before, ?_⟩
  rintro rfl
  exact unlisted ⟨rfl, perm.mem_iff.mpr ((valid.indexed.entries _ _ _).mpr before)⟩

variable [DecidableEq κ]

/-- The invalidation of an inode leaves nothing cached under its name. -/
lemma Valid.ccInvalidateInode (valid : Valid cache [] carried (fun _ => 0) standing expected)
    (fs : Nat) (key : κ) :
    ∃ next standingNext, cache.ccInvalidateInode fs key = some next ∧
      Valid next [] carried (fun _ => 0) standingNext expected ∧
      SameNames cache.index next.index ∧
      ∀ pfn inode offset, standingNext pfn = .cached inode offset →
        standing pfn = .cached inode offset ∧ cache.index.name inode ≠ (fs, key) := by
  rw [Cache.ccInvalidateInode]
  cases found : cache.index.findGcmaInode fs key with
  | none =>
    refine ⟨cache, standing, rfl, valid, SameNames.refl _, fun pfn inode offset cached => ?_⟩
    exact ⟨cached, valid.indexed.findGcmaInode_eq_none found inode
      (valid.indexed.live_of_cached cached)⟩
  | some ino =>
    obtain ⟨live, named⟩ := valid.indexed.findGcmaInode_eq_some found
    obtain ⟨standingNext, emptied, sameNames, left⟩ := (valid.getInode live).emptyInode ino
    have empty : (((cache.getInode ino).emptyInode ino).index.inodes ino).pages = [] := by
      rw [eq_nil_iff_forall_not_mem]
      rintro ⟨offset, pfn⟩ mem
      exact (left pfn ino offset ((emptied.indexed.entries ino offset pfn).mp mem)).2 rfl
    have counted : (((cache.getInode ino).emptyInode ino).index.inodes ino).refCount = 1 := by
      simp [emptied.indexed.refs ino, empty]
    have dropped := emptied.indexed.unhash counted (by simp)
    have deadNames := sameNames_dead ((cache.getInode ino).emptyInode ino).index ino
    have gotNames : SameNames cache.index (cache.getInode ino).index :=
      ⟨name_getGcmaInode, fun _ => rfl⟩
    refine ⟨_, standingNext, if_pos counted, ⟨emptied.owned, by simpa using dropped, ?_⟩,
      (gotNames.trans sameNames).trans deadNames, fun pfn inode offset cached => ?_⟩
    · rw [deadNames.name]
      exact emptied.coherent
    · obtain ⟨before, isOther⟩ := left pfn inode offset cached
      refine ⟨before, fun sameName => isOther ?_⟩
      exact valid.indexed.unique inode ino (valid.indexed.live_of_cached before) live
        (sameName.trans named.symm)

/-- Nothing is expected under the name of an inode. -/
def expectInode (expected : Nat → κ → Nat → Option δ) (fs : Nat) (key : κ) :
    Nat → κ → Nat → Option δ :=
  fun fs' key' offset => if fs' = fs ∧ key' = key then none else expected fs' key' offset

lemma Quiet.ccInvalidateInode (quiet : Quiet cache carried expected) (fs : Nat) (key : κ) :
    ∃ next, cache.ccInvalidateInode fs key = some next ∧
      Quiet next carried (expectInode expected fs key) := by
  obtain ⟨standing, valid⟩ := quiet
  obtain ⟨next, standingNext, ran, nextValid, sameNames, left⟩ := valid.ccInvalidateInode fs key
  refine ⟨next, ran, standingNext, nextValid.expecting fun pfn ino offset cached => ?_⟩
  rw [expectInode, if_neg]
  rintro ⟨sameFs, sameKey⟩
  rw [sameNames.name] at sameFs sameKey
  exact (left pfn ino offset cached).2 (Prod.ext sameFs sameKey)

/-- The loop of `gcma_cc_invalidate_fs`. -/
lemma Valid.invalidateInodes (valid : Valid cache [] carried (fun _ => 0) standing expected)
    (fs : Nat) (inodes : List Nat) :
    ∃ next standingNext,
      inodes.foldlM (fun cache ino => cache.ccInvalidateInode fs (cache.index.inodes ino).key) cache =
        some next ∧
      Valid next [] carried (fun _ => 0) standingNext expected ∧
      SameNames cache.index next.index ∧
      ∀ pfn inode offset, standingNext pfn = .cached inode offset →
        standing pfn = .cached inode offset ∧ ((cache.index.name inode).1 = fs → inode ∉ inodes) := by
  induction inodes generalizing cache standing with
  | nil => exact ⟨cache, standing, rfl, valid, SameNames.refl _, by simp⟩
  | cons ino inodes ih =>
    obtain ⟨middle, standingMiddle, first, middleValid, firstNames, firstLeft⟩ :=
      valid.ccInvalidateInode fs (cache.index.inodes ino).key
    obtain ⟨next, standingNext, rest, nextValid, restNames, restLeft⟩ :=
      ih middleValid
    refine ⟨next, standingNext, ?_, nextValid, firstNames.trans restNames, ?_⟩
    · rw [foldlM_cons, first]
      exact rest
    · intro pfn inode offset cached
      obtain ⟨between, notRest⟩ := restLeft pfn inode offset cached
      obtain ⟨before, notFirst⟩ := firstLeft pfn inode offset between
      refine ⟨before, fun inFs mem => ?_⟩
      rcases mem_cons.mp mem with rfl | inRest
      · exact notFirst (Prod.ext inFs rfl)
      · exact notRest (firstNames.name ▸ inFs) inRest

/-- Nothing is expected in a file system. -/
def expectFs (expected : Nat → κ → Nat → Option δ) (fs : Nat) : Nat → κ → Nat → Option δ :=
  fun fs' key offset => if fs' = fs then none else expected fs' key offset

lemma Quiet.ccInvalidateFs (quiet : Quiet cache carried expected) (fs : Nat) :
    ∃ next, cache.ccInvalidateFs fs = some next ∧ Quiet next carried (expectFs expected fs) := by
  obtain ⟨standing, valid⟩ := quiet
  rw [Cache.ccInvalidateFs]
  cases isHash : cache.index.inodeHash fs with
  | none =>
    refine ⟨cache, rfl, standing, valid.expecting fun pfn ino offset cached => ?_⟩
    have mounted := valid.indexed.mounted ino (valid.indexed.live_of_cached cached)
    rw [expectFs, if_neg]
    rintro rfl
    exact mounted isHash
  | some hash =>
    obtain ⟨next, standingNext, ran, nextValid, sameNames, left⟩ :=
      valid.invalidateInodes fs hash
    -- no page of the file system is left
    have gone : ∀ pfn ino offset, standingNext pfn = .cached ino offset →
        (next.index.name ino).1 ≠ fs := by
      intro pfn ino offset cached inFs
      rw [sameNames.name] at inFs
      obtain ⟨before, unlisted⟩ := left pfn ino offset cached
      exact unlisted inFs ((valid.indexed.hashed fs hash isHash ino).mpr
        ⟨inFs, valid.indexed.live_of_cached before⟩)
    have empty : next.index.inodeHash fs = some [] := by
      have mounted := sameNames.mounted fs
      rw [isHash, isSome_some, isSome_iff_exists] at mounted
      obtain ⟨rest, isRest⟩ := mounted
      rw [isRest, some.injEq, eq_nil_iff_forall_not_mem]
      intro ino mem
      obtain ⟨inFs, live⟩ := (nextValid.indexed.hashed fs rest isRest ino).mp mem
      have counted := nextValid.indexed.refs ino
      obtain ⟨⟨offset, pfn⟩, stored⟩ := exists_mem_of_length_pos
        (l := (next.index.inodes ino).pages) (by omega)
      exact gone pfn ino offset ((nextValid.indexed.entries ino offset pfn).mp stored) inFs
    refine ⟨⟨next.memory, { next.index with
      inodeHash := update next.index.inodeHash fs none }⟩, ?_, standingNext,
      ⟨nextValid.owned, nextValid.indexed.unmount empty, fun pfn ino offset cached => ?_⟩⟩
    · simp only [ran, bind_eq_bind, bind_some, if_pos empty]
    · rw [expectFs, if_neg]
      · exact nextValid.coherent pfn ino offset cached
      · exact gone pfn ino offset cached

end GsKernel.Gcma
