import GsKernel.Gcma.Ownership

/-!
# The inodes and their reference counts

An inode has a reference for each page cached in it and one for each running call that
holds it; `extra` counts the latter. The hash of a file system has exactly its inodes with
references, and at most one of them has a given key.
-/

namespace GsKernel.Gcma

open Function Index Option

variable {κ : Type*}

/-- The file system and the key of an inode. -/
def Index.name (index : Index κ) (ino : Nat) : Nat × κ :=
  ((index.inodes ino).gcmaFs, (index.inodes ino).key)

structure Indexed (index : Index κ) (extra : Nat → Nat) (standing : Nat → Standing) : Prop where
  entries : ∀ ino offset pfn,
    (offset, pfn) ∈ (index.inodes ino).pages ↔ standing pfn = .cached ino offset
  offsets : ∀ ino, ((index.inodes ino).pages.map Prod.fst).Nodup
  refs : ∀ ino, (index.inodes ino).refCount = (index.inodes ino).pages.length + extra ino
  hashNodup : ∀ fs hash, index.inodeHash fs = some hash → hash.Nodup
  hashed : ∀ fs hash, index.inodeHash fs = some hash → ∀ ino,
    ino ∈ hash ↔ (index.inodes ino).gcmaFs = fs ∧ (index.inodes ino).refCount ≠ 0
  mounted : ∀ ino, (index.inodes ino).refCount ≠ 0 →
    index.inodeHash (index.inodes ino).gcmaFs ≠ none
  unique : ∀ first second, (index.inodes first).refCount ≠ 0 → (index.inodes second).refCount ≠ 0 →
    index.name first = index.name second → first = second
  fresh : ∀ ino, index.nextInode ≤ ino → (index.inodes ino).refCount = 0

variable {index : Index κ} {extra extraNext : Nat → Nat} {standing standingNext : Nat → Standing}
  {ino offset pfn fs : Nat} {key : κ}

lemma Indexed.xaLoad_eq_some (indexed : Indexed index extra standing) :
    index.xaLoad ino offset = some pfn ↔ standing pfn = .cached ino offset := by
  rw [← indexed.entries]
  constructor
  · intro loaded
    obtain ⟨before, after, split, -⟩ := List.lookup_eq_some_iff.mp loaded
    simp [split]
  · intro stored
    cases loaded : index.xaLoad ino offset with
    | none =>
      have absent := List.lookup_eq_none_iff.mp loaded (offset, pfn) stored
      simp at absent
    | some other =>
      obtain ⟨before, after, split, -⟩ := List.lookup_eq_some_iff.mp loaded
      have found : (offset, other) ∈ (index.inodes ino).pages := by simp [split]
      have same := List.inj_on_of_nodup_map (indexed.offsets ino) found stored rfl
      rw [(Prod.mk.inj same).2]

/-- An inode with a page or a running call is in use. -/
lemma Indexed.live_of_cached (indexed : Indexed index extra standing)
    (cached : standing pfn = .cached ino offset) : (index.inodes ino).refCount ≠ 0 := by
  have stored := List.length_pos_of_mem ((indexed.entries ino offset pfn).mpr cached)
  have counted := indexed.refs ino
  omega

section Find

variable [DecidableEq κ]

lemma Indexed.findGcmaInode_eq_some (indexed : Indexed index extra standing)
    (found : index.findGcmaInode fs key = some ino) :
    (index.inodes ino).refCount ≠ 0 ∧ index.name ino = (fs, key) := by
  have matching : (index.inodes ino).key = key ∧ (index.inodes ino).refCount ≠ 0 := by
    simpa using List.find?_some found
  have listed := List.mem_of_find?_eq_some found
  cases present : index.inodeHash fs with
  | none => simp [present] at listed
  | some hash =>
    rw [present, getD_some, indexed.hashed fs hash present] at listed
    exact ⟨matching.2, Prod.ext listed.1 matching.1⟩

lemma Indexed.findGcmaInode_eq_none (indexed : Indexed index extra standing)
    (absent : index.findGcmaInode fs key = none) (ino : Nat)
    (live : (index.inodes ino).refCount ≠ 0) : index.name ino ≠ (fs, key) := by
  intro named
  obtain ⟨sameFs, sameKey⟩ := Prod.mk.inj named
  have present := indexed.mounted ino live
  rw [sameFs] at present
  obtain ⟨hash, isHash⟩ := ne_none_iff_exists'.mp present
  have listed := (indexed.hashed fs hash isHash ino).mpr ⟨sameFs, live⟩
  rw [findGcmaInode, isHash, getD_some, List.find?_eq_none] at absent
  exact absent ino listed (by simp [sameKey, live])

end Find

section

variable (indexed : Indexed index extra standing)
include indexed

namespace Indexed

/-- An inode in use that stays in use. -/
lemma change {inode : Inode κ} (live : (index.inodes ino).refCount ≠ 0) (kept : inode.refCount ≠ 0)
    (sameKey : inode.key = (index.inodes ino).key)
    (sameFs : inode.gcmaFs = (index.inodes ino).gcmaFs) (offsets : (inode.pages.map Prod.fst).Nodup)
    (refs : inode.refCount = inode.pages.length + extraNext ino)
    (others : ∀ other, other ≠ ino → extraNext other = extra other)
    (entries : ∀ offset pfn, (offset, pfn) ∈ inode.pages ↔ standingNext pfn = .cached ino offset)
    (otherEntries : ∀ other offset pfn, other ≠ ino →
      (standingNext pfn = .cached other offset ↔ standing pfn = .cached other offset)) :
    Indexed { index with inodes := update index.inodes ino inode } extraNext standingNext := by
  have fields : ∀ other, (update index.inodes ino inode other).key = (index.inodes other).key ∧
      (update index.inodes ino inode other).gcmaFs = (index.inodes other).gcmaFs ∧
      ((update index.inodes ino inode other).refCount ≠ 0 ↔ (index.inodes other).refCount ≠ 0) := by
    intro other
    by_cases isInode : other = ino
    · subst isInode
      simp [sameKey, sameFs, live, kept]
    · simp [isInode]
  constructor
  · intro other offset pfn
    by_cases isInode : other = ino
    · subst isInode
      simpa using entries offset pfn
    · simpa [isInode, otherEntries other offset pfn isInode] using indexed.entries other offset pfn
  · intro other
    by_cases isInode : other = ino
    · subst isInode
      simpa using offsets
    · simpa [isInode] using indexed.offsets other
  · intro other
    by_cases isInode : other = ino
    · subst isInode
      simpa using refs
    · simpa [isInode, others other isInode] using indexed.refs other
  · exact indexed.hashNodup
  · simp only [(fields _).2.1, (fields _).2.2]
    exact indexed.hashed
  · simp only [(fields _).2.1, (fields _).2.2]
    exact indexed.mounted
  · simp only [name, (fields _).1, (fields _).2.1, (fields _).2.2]
    exact indexed.unique
  · intro other unused
    by_contra used
    exact ((fields other).2.2.mp used) (indexed.fresh other unused)

lemma getGcmaInode (live : (index.inodes ino).refCount ≠ 0) :
    Indexed (index.getGcmaInode ino) (update extra ino (extra ino + 1)) standing := by
  refine indexed.change live (Nat.succ_ne_zero _) rfl rfl (indexed.offsets ino) ?_ ?_
    (indexed.entries ino) (fun _ _ _ _ => Iff.rfl)
  · have counted := indexed.refs ino
    simp only [update_self]
    omega
  · intro other isOther
    rw [update_of_ne isOther]

/-- The last reference to an inode takes it out of the hash. -/
lemma unhash (last : (index.inodes ino).refCount = 1) (held : extra ino = 1) : Indexed
      ((index.setInode ino fun inode => { inode with refCount := 0 }).unhashInode ino)
      (update extra ino 0) standing := by
  have empty : (index.inodes ino).pages = [] := by
    have counted := indexed.refs ino
    exact List.eq_nil_of_length_eq_zero (by omega)
  generalize isNext : (index.setInode ino _).unhashInode ino = next
  have inodes : next.inodes = update index.inodes ino { index.inodes ino with refCount := 0 } := by
    rw [← isNext]
    rfl
  have hash : next.inodeHash = update index.inodeHash (index.inodes ino).gcmaFs
      ((index.inodeHash (index.inodes ino).gcmaFs).map fun hash => hash.erase ino) := by
    simp [← isNext, unhashInode, setInode]
  have key : ∀ other, (next.inodes other).key = (index.inodes other).key := by
    intro other
    by_cases isInode : other = ino <;> simp [inodes, isInode]
  have gcmaFs : ∀ other, (next.inodes other).gcmaFs = (index.inodes other).gcmaFs := by
    intro other
    by_cases isInode : other = ino <;> simp [inodes, isInode]
  have pages : ∀ other, (next.inodes other).pages = (index.inodes other).pages := by
    intro other
    by_cases isInode : other = ino <;> simp [inodes, isInode]
  have live : ∀ other, (next.inodes other).refCount ≠ 0 ↔
      other ≠ ino ∧ (index.inodes other).refCount ≠ 0 := by
    intro other
    by_cases isInode : other = ino <;> simp [inodes, isInode]
  constructor
  · simpa only [pages] using indexed.entries
  · simpa only [pages] using indexed.offsets
  · intro other
    by_cases isInode : other = ino
    · simp [inodes, isInode, empty]
    · simpa [inodes, isInode] using indexed.refs other
  · intro fs list isHash
    rw [hash] at isHash
    by_cases isFs : fs = (index.inodes ino).gcmaFs
    · rw [isFs, update_self] at isHash
      obtain ⟨old, wasHash, rfl⟩ := map_eq_some_iff.mp isHash
      exact (indexed.hashNodup _ old wasHash).erase ino
    · rw [update_of_ne isFs] at isHash
      exact indexed.hashNodup fs list isHash
  · intro fs list isHash other
    rw [hash] at isHash
    rw [gcmaFs, live]
    by_cases isFs : fs = (index.inodes ino).gcmaFs
    · rw [isFs, update_self] at isHash
      obtain ⟨old, wasHash, rfl⟩ := map_eq_some_iff.mp isHash
      rw [(indexed.hashNodup _ old wasHash).mem_erase_iff, indexed.hashed _ old wasHash, isFs]
      tauto
    · rw [update_of_ne isFs] at isHash
      rw [indexed.hashed fs list isHash]
      refine ⟨fun here => ⟨here.1, fun isInode => isFs ?_, here.2⟩, fun here => ⟨here.1, here.2.2⟩⟩
      rw [← here.1, isInode]
  · intro other used
    have present := indexed.mounted other ((live other).mp used).2
    rw [gcmaFs, hash]
    by_cases isFs : (index.inodes other).gcmaFs = (index.inodes ino).gcmaFs
    · rw [isFs] at present ⊢
      simpa using present
    · rwa [update_of_ne isFs]
  · simp only [live, name, key, gcmaFs]
    exact fun first second usedFirst usedSecond =>
      indexed.unique first second usedFirst.2 usedSecond.2
  · intro other unused
    by_contra used
    have same : next.nextInode = index.nextInode := by rw [← isNext]; rfl
    exact ((live other).mp used).2 (indexed.fresh other (same ▸ unused))

lemma putGcmaInode (held : extra ino ≠ 0) :
    Indexed (index.putGcmaInode ino) (update extra ino (extra ino - 1)) standing := by
  have counted := indexed.refs ino
  simp only [Index.putGcmaInode, Index.setInode, update_self]
  split
  next zero =>
    have last : (index.inodes ino).refCount = 1 := by omega
    have only : extra ino = 1 := by omega
    simpa [setInode, last, only] using indexed.unhash last only
  next others =>
    refine indexed.change (by omega) others rfl rfl (indexed.offsets ino) ?_ ?_
      (indexed.entries ino) (fun _ _ _ _ => Iff.rfl)
    · simp only [update_self]
      omega
    · intro other isOther
      rw [update_of_ne isOther]

lemma pagesNodup (ino : Nat) : (index.inodes ino).pages.Nodup :=
  (indexed.offsets ino).of_map Prod.fst

lemma filter_eq_erase (stored : (offset, pfn) ∈ (index.inodes ino).pages) :
    ((index.inodes ino).pages.filter fun entry => entry.1 ≠ offset) =
      (index.inodes ino).pages.erase (offset, pfn) := by
  rw [(indexed.pagesNodup ino).erase_eq_filter]
  refine List.filter_congr fun entry mem => ?_
  have same : entry.1 = offset ↔ entry = (offset, pfn) :=
    ⟨fun here => List.inj_on_of_nodup_map (indexed.offsets ino) mem stored here,
      fun here => by rw [here]⟩
  simp only [ne_eq, same, decide_not, bne, beq_eq_decide]

/-- A page leaves an inode, whose reference for it is still to be dropped. -/
lemma xaErase (cached : standing pfn = .cached ino offset) {owner : Standing}
    (gone : ¬ owner.IsCached) :
    Indexed (index.xaErase ino offset) (update extra ino (extra ino + 1))
      (update standing pfn owner) := by
  have stored := (indexed.entries ino offset pfn).mpr cached
  have counted := indexed.refs ino
  have erased := indexed.filter_eq_erase stored
  have uncached : ∀ other offset, owner ≠ .cached other offset := by
    rintro other offset rfl
    exact gone trivial
  refine indexed.change (indexed.live_of_cached cached) (indexed.live_of_cached cached) rfl rfl ?_ ?_
    ?_ ?_ ?_
  · exact (indexed.offsets ino).sublist (List.filter_sublist.map Prod.fst)
  · have := List.length_pos_of_mem stored
    simp only [erased, List.length_erase_of_mem stored, update_self]
    omega
  · intro other isOther
    rw [update_of_ne isOther]
  · intro position other
    simp only [erased, (indexed.pagesNodup ino).mem_erase_iff, indexed.entries]
    by_cases isPage : other = pfn
    · subst isPage
      simp only [update_self, uncached, iff_false, not_and]
      intro different isCached
      rw [cached, Standing.cached.injEq] at isCached
      exact different (by rw [isCached.2])
    · rw [update_of_ne isPage]
      simp [isPage]
  · intro other position page isOther
    by_cases isPage : page = pfn
    · subst isPage
      simp [uncached, cached, isOther.symm]
    · rw [update_of_ne isPage]

/-- The inode of a stored page gets a reference for it. -/
lemma xaStore (free : ¬ (standing pfn).IsCached) (absent : index.xaLoad ino offset = none)
    (live : (index.inodes ino).refCount ≠ 0) :
    Indexed ((index.xaStore ino offset pfn).getGcmaInode ino) extra
      (update standing pfn (.cached ino offset)) := by
  have counted := indexed.refs ino
  have fresh : ∀ entry ∈ (index.inodes ino).pages, entry.1 ≠ offset := by
    intro entry mem same
    have different := List.lookup_eq_none_iff.mp absent entry mem
    simp [same] at different
  have unchanged : ((index.inodes ino).pages.filter fun entry => entry.1 ≠ offset) =
      (index.inodes ino).pages := by
    simpa using fresh
  simp only [Index.xaStore, Index.getGcmaInode, Index.setInode, update_self, update_idem, unchanged]
  refine indexed.change live (Nat.succ_ne_zero _) rfl rfl ?_ ?_ (fun _ _ => rfl) ?_ ?_
  · simpa using ⟨fun page mem => fresh (offset, page) mem rfl, indexed.offsets ino⟩
  · simp only [List.length_cons]
    omega
  · intro position page
    by_cases isPage : page = pfn
    · subst isPage
      have unstored : (position, page) ∉ (index.inodes ino).pages := by
        rw [indexed.entries]
        exact fun isCached => free (by simp [isCached, Standing.IsCached])
      simp [unstored, eq_comm]
    · simpa [isPage] using indexed.entries ino position page
  · intro other position page isOther
    by_cases isPage : page = pfn
    · subst isPage
      have uncached : standing page ≠ .cached other position :=
        fun isCached => free (by simp [isCached, Standing.IsCached])
      simp [uncached, isOther.symm]
    · rw [update_of_ne isPage]

/-- A new inode is held once, by the call that adds it. -/
lemma addGcmaInode (mounted : index.inodeHash fs ≠ none)
    (absent : ∀ ino, (index.inodes ino).refCount ≠ 0 → index.name ino ≠ (fs, key)) :
    Indexed (index.addGcmaInode fs key) (update extra index.nextInode 1) standing := by
  have unused := indexed.fresh index.nextInode le_rfl
  have empty : (index.inodes index.nextInode).pages = [] := by
    have counted := indexed.refs index.nextInode
    exact List.eq_nil_of_length_eq_zero (by omega)
  generalize isNext : index.addGcmaInode fs key = next
  have inodes : next.inodes = update index.inodes index.nextInode ⟨key, 1, [], fs⟩ := by
    rw [← isNext]
    rfl
  have hash : next.inodeHash = update index.inodeHash fs
      ((index.inodeHash fs).map fun hash => index.nextInode :: hash) := by
    rw [← isNext]
    rfl
  have old : ∀ other, other ≠ index.nextInode → next.inodes other = index.inodes other := by
    intro other isOther
    rw [inodes, update_of_ne isOther]
  have pages : ∀ other, (next.inodes other).pages = (index.inodes other).pages := by
    intro other
    by_cases isNew : other = index.nextInode <;> simp [inodes, isNew, empty]
  constructor
  · simpa only [pages] using indexed.entries
  · simpa only [pages] using indexed.offsets
  · intro other
    by_cases isNew : other = index.nextInode
    · simp [inodes, isNew]
    · simpa [inodes, isNew] using indexed.refs other
  · intro other list isHash
    rw [hash] at isHash
    by_cases isFs : other = fs
    · rw [isFs, update_self] at isHash
      obtain ⟨before, wasHash, rfl⟩ := map_eq_some_iff.mp isHash
      refine List.nodup_cons.mpr ⟨?_, indexed.hashNodup fs before wasHash⟩
      simp [indexed.hashed fs before wasHash, unused]
    · rw [update_of_ne isFs] at isHash
      exact indexed.hashNodup other list isHash
  · intro other list isHash ino
    rw [hash] at isHash
    by_cases isNew : ino = index.nextInode
    · subst isNew
      have absentNew : ∀ fs list, index.inodeHash fs = some list → index.nextInode ∉ list := by
        intro fs list isList mem
        exact ((indexed.hashed fs list isList _).mp mem).2 unused
      by_cases isFs : other = fs
      · rw [isFs, update_self] at isHash
        obtain ⟨before, -, rfl⟩ := map_eq_some_iff.mp isHash
        simp [inodes, isFs]
      · rw [update_of_ne isFs] at isHash
        simp [inodes, absentNew other list isHash, Ne.symm isFs]
    · rw [old ino isNew]
      by_cases isFs : other = fs
      · rw [isFs, update_self] at isHash
        obtain ⟨before, wasHash, rfl⟩ := map_eq_some_iff.mp isHash
        rw [List.mem_cons, indexed.hashed fs before wasHash, isFs]
        simp [isNew]
      · rw [update_of_ne isFs] at isHash
        exact indexed.hashed other list isHash ino
  · intro ino used
    have present : index.inodeHash (next.inodes ino).gcmaFs ≠ none := by
      by_cases isNew : ino = index.nextInode
      · simpa [inodes, isNew] using mounted
      · rw [old ino isNew] at used ⊢
        exact indexed.mounted ino used
    rw [hash]
    by_cases isFs : (next.inodes ino).gcmaFs = fs
    · simpa [isFs] using mounted
    · rwa [update_of_ne isFs]
  · have nameNew : next.name index.nextInode = (fs, key) := by simp [name, inodes]
    have nameOld : ∀ other, other ≠ index.nextInode → next.name other = index.name other := by
      intro other isOther
      rw [name, old other isOther, name]
    intro first second usedFirst usedSecond same
    by_cases isFirst : first = index.nextInode <;> by_cases isSecond : second = index.nextInode
    · rw [isFirst, isSecond]
    · rw [isFirst, nameNew, nameOld second isSecond] at same
      rw [old second isSecond] at usedSecond
      exact absurd same.symm (absent second usedSecond)
    · rw [isSecond, nameNew, nameOld first isFirst] at same
      rw [old first isFirst] at usedFirst
      exact absurd same (absent first usedFirst)
    · rw [nameOld first isFirst, nameOld second isSecond] at same
      rw [old first isFirst] at usedFirst
      rw [old second isSecond] at usedSecond
      exact indexed.unique first second usedFirst usedSecond same
  · intro other beyond
    have same : next.nextInode = index.nextInode + 1 := by rw [← isNext]; rfl
    rw [same] at beyond
    rw [old other (by omega)]
    exact indexed.fresh other (by omega)

lemma restand (same : ∀ pfn ino offset, standingNext pfn = .cached ino offset ↔
      standing pfn = .cached ino offset) : Indexed index extra standingNext :=
  { indexed with entries := fun ino offset pfn => by rw [indexed.entries, same] }

/-- A new file system has no inodes. -/
lemma mount (unused : index.inodeHash fs = none) :
    Indexed { index with inodeHash := update index.inodeHash fs (some []) } extra standing := by
  refine { indexed with hashNodup := ?_, hashed := ?_, mounted := ?_ }
  · intro other hash isHash
    by_cases isFs : other = fs
    · obtain rfl : [] = hash := by simpa [isFs] using isHash
      exact List.nodup_nil
    · exact indexed.hashNodup other hash (by simpa [isFs] using isHash)
  · intro other hash isHash ino
    by_cases isFs : other = fs
    · obtain rfl : [] = hash := by simpa [isFs] using isHash
      refine ⟨fun mem => absurd mem List.not_mem_nil, fun used => ?_⟩
      exact absurd unused (isFs ▸ used.1 ▸ indexed.mounted ino used.2)
    · exact indexed.hashed other hash (by simpa [isFs] using isHash) ino
  · intro ino used
    by_cases isFs : (index.inodes ino).gcmaFs = fs
    · simp [isFs]
    · simpa [isFs] using indexed.mounted ino used

/-- A file system without inodes goes. -/
lemma unmount (empty : index.inodeHash fs = some []) :
    Indexed { index with inodeHash := update index.inodeHash fs none } extra standing := by
  refine { indexed with hashNodup := ?_, hashed := ?_, mounted := ?_ }
  · intro other hash isHash
    by_cases isFs : other = fs
    · simp [isFs] at isHash
    · exact indexed.hashNodup other hash (by simpa [isFs] using isHash)
  · intro other hash isHash
    by_cases isFs : other = fs
    · simp [isFs] at isHash
    · exact indexed.hashed other hash (by simpa [isFs] using isHash)
  · intro ino used
    by_cases isFs : (index.inodes ino).gcmaFs = fs
    · exact absurd ((indexed.hashed fs [] empty ino).mpr ⟨isFs, used⟩) List.not_mem_nil
    · simpa [isFs] using indexed.mounted ino used

end Indexed

end

lemma Index.name_setInode {change : Inode κ → Inode κ}
    (keeps : ∀ inode, (change inode).gcmaFs = inode.gcmaFs ∧ (change inode).key = inode.key) :
    (index.setInode ino change).name = index.name := by
  funext other
  by_cases isInode : other = ino
  · subst isInode
    simp [name, setInode, keeps]
  · simp [name, setInode, isInode]

@[simp] lemma Index.name_getGcmaInode : (index.getGcmaInode ino).name = index.name :=
  name_setInode fun _ => ⟨rfl, rfl⟩

@[simp] lemma Index.name_xaErase : (index.xaErase ino offset).name = index.name :=
  name_setInode fun _ => ⟨rfl, rfl⟩

@[simp] lemma Index.name_xaStore : (index.xaStore ino offset pfn).name = index.name :=
  name_setInode fun _ => ⟨rfl, rfl⟩

@[simp] lemma Index.name_unhashInode : (index.unhashInode ino).name = index.name := rfl

lemma Index.name_addGcmaInode :
    (index.addGcmaInode fs key).name = update index.name index.nextInode (fs, key) := by
  funext other
  by_cases isNew : other = index.nextInode <;> simp [name, addGcmaInode, isNew]

@[simp] lemma Index.name_putGcmaInode : (index.putGcmaInode ino).name = index.name := by
  have put : (index.setInode ino fun inode => { inode with refCount := inode.refCount - 1 }).name =
      index.name := name_setInode fun _ => ⟨rfl, rfl⟩
  rw [putGcmaInode]
  split
  next => rw [name_unhashInode, put]
  next => exact put

end GsKernel.Gcma
