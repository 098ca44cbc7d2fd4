import GsKernel.S2mpu.Device

/-!
# What the driver does to a device's registers

The L1 entries after a resume, a suspend and an update, and the registers every other write stays
away from. A device in the state `Follows` enforces what the host table encodes
(`Follows.enforced_eq`), and an update of the host table keeps it (`applyRange_follows`).
-/

namespace GsKernel.S2mpu

open Lib.RegionStore List Nat

variable (cfg : Config) (ops : ModOps)

lemma writel_covers (val : BitVec 32) (off reg : Nat) :
    (writel val off).covers reg = true ↔ reg = off := by
  simp [writel]

lemma Regs.write_append (regs : Regs) (first second : List (Write Nat (BitVec 32))) :
    regs.write (first ++ second) = (regs.write first).write second := foldl_append

variable {writes : List (Write Nat (BitVec 32))}

/-- Registers a sequence of writes does not name keep their value. -/
lemma Regs.write_other (regs : Regs) {reg : Nat}
    (other : ∀ write ∈ writes, ¬ write.covers reg = true) : regs.write writes reg = regs reg :=
  Write.foldl_apply_of_uncovered regs writes fun write mem =>
    Bool.eq_false_iff.mpr (other write mem)

lemma mem_gbsAndVids {gb vid : Nat} : (gb, vid) ∈ gbsAndVids ↔ WritableGb gb ∧ vid < NR_VIDS := by
  simp only [gbsAndVids, mem_flatMap, mem_map, mem_range, mem_allGbs, Prod.mk.injEq]
  constructor
  · rintro ⟨vid, bounded, gb, writable, rfl, rfl⟩
    exact ⟨writable, bounded⟩
  · rintro ⟨writable, bounded⟩
    exact ⟨vid, bounded, gb, writable, rfl, rfl⟩

variable {vid gb vid' gb' : Nat}

/-- The L1 entry registers of different gigabytes and VIDs are different. -/
lemma l1entryAttr_inj (inside : gb < NR_GIGABYTES) (inside' : gb' < NR_GIGABYTES)
    (same : REG_NS_L1ENTRY_ATTR vid gb = REG_NS_L1ENTRY_ATTR vid' gb') : vid = vid' ∧ gb = gb' := by
  simp only [REG_NS_L1ENTRY_ATTR, NR_GIGABYTES] at *
  omega

lemma l1entryL2tableAddr_inj (inside : gb < NR_GIGABYTES) (inside' : gb' < NR_GIGABYTES)
    (same : REG_NS_L1ENTRY_L2TABLE_ADDR vid gb = REG_NS_L1ENTRY_L2TABLE_ADDR vid' gb') :
    vid = vid' ∧ gb = gb' := by
  simp only [REG_NS_L1ENTRY_L2TABLE_ADDR, NR_GIGABYTES] at *
  omega

lemma l1entryAttr_ne (vid gb vid' gb' : Nat) :
    REG_NS_L1ENTRY_ATTR vid gb ≠ REG_NS_L1ENTRY_L2TABLE_ADDR vid' gb' := by
  simp only [REG_NS_L1ENTRY_ATTR, REG_NS_L1ENTRY_L2TABLE_ADDR]
  omega

/-- Writes confined to the offsets `lo ≤ reg < hi`. -/
def WritesIn (lo hi : Nat) (writes : List (Write Nat (BitVec 32))) : Prop :=
  ∀ write ∈ writes, ∀ reg, write.covers reg = true → lo ≤ reg ∧ reg < hi

lemma WritesIn.write_eq {lo hi reg : Nat}
    (inside : WritesIn lo hi writes) (regs : Regs) (outside : reg < lo ∨ hi ≤ reg) :
    regs.write writes reg = regs reg := by
  refine regs.write_other fun write mem covers => ?_
  have bounds := inside write mem reg covers
  omega

/-- The SYNC commands of a barrier. -/
lemma writesIn_barrier (dev : Device) (retries : Nat) :
    WritesIn 0x1000 0x4000 (invalidationBarrierInit dev) ∧
      WritesIn 0x1000 0x4000 (invalidationBarrierComplete dev retries) := by
  have command : ∀ reg, syncCmdStart.covers reg = true → 0x1000 ≤ reg ∧ reg < 0x4000 := by
    intro reg covers
    rw [syncCmdStart, writel_covers] at covers
    subst covers
    decide
  constructor
  · intro write mem
    simp only [invalidationBarrierInit] at mem
    split_ifs at mem
    · rw [mem_singleton.mp mem]
      exact command
    · simp at mem
  · intro write mem
    simp only [invalidationBarrierComplete] at mem
    split_ifs at mem
    · rw [eq_of_mem_replicate mem]
      exact command
    · simp at mem

lemma writesIn_allInvalidation (dev : Device) (retries : Nat) :
    WritesIn 0x1000 0x4000 (allInvalidation dev retries) := by
  intro write mem reg covers
  obtain ⟨start, complete⟩ := writesIn_barrier dev retries
  rcases mem_cons.mp mem with rfl | mem
  · rw [writel_covers] at covers
    subst covers
    decide
  · rcases mem_append.mp mem with mem | mem
    · exact start write mem reg covers
    · exact complete write mem reg covers

lemma writesIn_rangeInvalidationInit (dev : Device) (firstByte lastByte : Nat) :
    WritesIn 0x1000 0x4000 (rangeInvalidationInit dev firstByte lastByte) := by
  intro write mem reg covers
  rcases mem_append.mp mem with mem | mem
  · simp only [mem_cons, not_mem_nil, or_false] at mem
    rcases mem with rfl | rfl | rfl <;> rw [writel_covers] at covers <;> subst covers <;> decide
  · exact (writesIn_barrier dev 0).1 write mem reg covers

lemma writesIn_setControlRegs (dev : Device) : WritesIn 0 0x1000 (setControlRegs cfg dev) := by
  intro write mem reg covers
  cases version : cfg.version <;>
    simp only [setControlRegs, version, setControlRegsV1, setControlRegsV9, mem_cons,
      not_mem_nil, or_false] at mem
  · rcases mem with rfl | rfl | rfl | rfl <;> rw [writel_covers] at covers <;> subst covers <;>
      decide
  · rcases mem with rfl | rfl | rfl | rfl | rfl <;> rw [writel_covers] at covers <;>
      subst covers <;> decide

/-- The L1 entry writes of one `for_each` pass lie above all other registers. -/
lemma writesIn_l1entries
    (entries : ∀ write ∈ writes, ∃ val vid gb, vid < NR_VIDS ∧ gb < NR_GIGABYTES ∧
      (write = writel val (REG_NS_L1ENTRY_ATTR vid gb) ∨
        write = writel val (REG_NS_L1ENTRY_L2TABLE_ADDR vid gb))) :
    WritesIn 0x4000 0x5000 writes := by
  intro write mem reg covers
  obtain ⟨val, vid, gb, vidBound, gbBound, rfl | rfl⟩ := entries write mem <;>
    rw [writel_covers] at covers <;>
    simp only [REG_NS_L1ENTRY_ATTR, REG_NS_L1ENTRY_L2TABLE_ADDR, NR_VIDS, NR_GIGABYTES] at * <;>
    omega

/-- The control registers turn the checks on for every VID. -/
lemma protEnabled_setControlRegs (regs : Regs) (dev : Device) {vid : Nat}
    (bounded : vid < NR_VIDS) :
    protEnabled cfg (regs.write (setControlRegs cfg dev)) vid = true := by
  have bits : ∀ vid < NR_VIDS, ALL_VIDS_BITMAP.getLsbD vid = true := by decide
  cases version : cfg.version
  · have last : regs.write (setControlRegsV1 dev) REG_NS_CTRL0 = CTRL0_ENABLE |||
        CTRL0_INTERRUPT_ENABLE ||| (if dev.version &&& VERSION_CHECK_MASK = S2MPU_VERSION_2 then
          CTRL0_FAULT_RESP_TYPE_DECERR else CTRL0_FAULT_RESP_TYPE_SLVERR) := rfl
    simp only [protEnabled, setControlRegs, version, last]
    split_ifs <;> decide
  · have last : regs.write setControlRegsV9 REG_NS_V9_CTRL_PROT_EN_PER_VID_SET =
        ALL_VIDS_BITMAP := rfl
    simp only [protEnabled, setControlRegs, version, last]
    exact bits vid bounded

variable {regs regs' : Regs}

lemma protEnabled_congr (vid : Nat) (same : ∀ reg < 0x1000, regs' reg = regs reg) :
    protEnabled cfg regs' vid = protEnabled cfg regs vid := by
  rw [protEnabled, protEnabled, same REG_NS_CTRL0 (by decide),
    same REG_NS_V9_CTRL_PROT_EN_PER_VID_SET (by decide)]

variable {vid gb : Nat}

/-- `init_with_mpt` programs every L1 entry from its `fmpt`. -/
lemma write_initWithMpt (regs : Regs) (fmpt : Nat → Fmpt)
    (bounded : vid < NR_VIDS) (writable : WritableGb gb) :
    regs.write (initWithMpt cfg ops fmpt) (REG_NS_L1ENTRY_ATTR vid gb) = l1entryAttr cfg (fmpt gb) ∧
      regs.write (initWithMpt cfg ops fmpt) (REG_NS_L1ENTRY_L2TABLE_ADDR vid gb) =
        l1entryL2tableAddr (ops.hypPa (fmpt gb).smpt) := by
  have entry := mem_gbsAndVids.mpr ⟨writable, bounded⟩
  constructor
  · refine Write.foldl_apply_of_agree regs _ ?_ ?_
    · exact ⟨_, mem_flatMap.mpr ⟨_, entry, mem_cons_of_mem _ (mem_singleton_self _)⟩,
        (writel_covers ..).mpr rfl⟩
    · intro write mem covers
      obtain ⟨⟨gb', vid'⟩, entry', mem⟩ := mem_flatMap.mp mem
      have writable' := (mem_gbsAndVids.mp entry').1
      simp only [mem_cons, not_mem_nil, or_false] at mem
      rcases mem with rfl | rfl <;> rw [writel_covers] at covers
      · exact absurd covers (l1entryAttr_ne vid gb vid' gb')
      · rw [(l1entryAttr_inj writable.1 writable'.1 covers).2]
        rfl
  · refine Write.foldl_apply_of_agree regs _ ?_ ?_
    · exact ⟨_, mem_flatMap.mpr ⟨_, entry, mem_cons_self ..⟩, (writel_covers ..).mpr rfl⟩
    · intro write mem covers
      obtain ⟨⟨gb', vid'⟩, entry', mem⟩ := mem_flatMap.mp mem
      have writable' := (mem_gbsAndVids.mp entry').1
      simp only [mem_cons, not_mem_nil, or_false] at mem
      rcases mem with rfl | rfl <;> rw [writel_covers] at covers
      · rw [(l1entryL2tableAddr_inj writable.1 writable'.1 covers).2]
        rfl
      · exact absurd covers.symm (l1entryAttr_ne vid' gb' vid gb)

/-- `init_with_prot` programs every L1 entry with the same permission. -/
lemma write_initWithProt (regs : Regs) (prot : MptProt)
    (bounded : vid < NR_VIDS) (writable : WritableGb gb) :
    regs.write (initWithProt prot) (REG_NS_L1ENTRY_ATTR vid gb) = l1entryAttr1g prot := by
  refine Write.foldl_apply_of_agree regs _ ?_ ?_
  · exact ⟨_, mem_map.mpr ⟨_, mem_gbsAndVids.mpr ⟨writable, bounded⟩, rfl⟩,
      (writel_covers ..).mpr rfl⟩
  · intro write mem _
    obtain ⟨_, _, rfl⟩ := mem_map.mp mem
    rfl

/-- `apply_range` rewrites the L1 entries whose update flags ask for it. -/
lemma write_applyRange (regs : Regs) (fmpt : Nat → Fmpt) (firstGb lastGb : Nat)
    (bounded : vid < NR_VIDS) (inside : gb < NR_GIGABYTES) :
    regs.write (applyRange cfg fmpt firstGb lastGb) (REG_NS_L1ENTRY_ATTR vid gb) =
      if gb ∈ gbsInRange firstGb lastGb ∧ (fmpt gb).flags.l1 = true then l1entryAttr cfg (fmpt gb)
      else regs (REG_NS_L1ENTRY_ATTR vid gb) := by
  have written : ∀ write ∈ applyRange cfg fmpt firstGb lastGb,
      write.covers (REG_NS_L1ENTRY_ATTR vid gb) = true →
        gb ∈ gbsInRange firstGb lastGb ∧ (fmpt gb).flags.l1 = true ∧
          write.value = l1entryAttr cfg (fmpt gb) := by
    intro write mem covers
    obtain ⟨gb', visited, mem⟩ := mem_flatMap.mp mem
    split_ifs at mem with flagged
    · obtain ⟨vid', -, rfl⟩ := mem_map.mp mem
      rw [writel_covers] at covers
      obtain ⟨-, rfl⟩ := l1entryAttr_inj inside (mem_gbsInRange.mp visited).2.2.1 covers
      exact ⟨visited, flagged, rfl⟩
    · simp at mem
  split_ifs with updated
  · refine Write.foldl_apply_of_agree regs _ ?_ fun write mem covers =>
      (written write mem covers).2.2
    refine ⟨writel (l1entryAttr cfg (fmpt gb)) (REG_NS_L1ENTRY_ATTR vid gb),
      mem_flatMap.mpr ⟨gb, updated.1, ?_⟩, (writel_covers ..).mpr rfl⟩
    rw [if_pos updated.2]
    exact mem_map.mpr ⟨vid, mem_range.mpr bounded, rfl⟩
  · refine regs.write_other fun write mem covers => updated ?_
    obtain ⟨visited, flagged, -⟩ := written write mem covers
    exact ⟨visited, flagged⟩

/-- A device whose checks are on and whose L1 entries are those of a host table. -/
def Follows (fmpt : Nat → Fmpt) (regs : Regs) : Prop :=
  ∀ vid < NR_VIDS, protEnabled cfg regs vid = true ∧ ∀ gb, WritableGb gb →
    regs (REG_NS_L1ENTRY_ATTR vid gb) = l1entryAttr cfg (fmpt gb) ∧
    regs (REG_NS_L1ENTRY_L2TABLE_ADDR vid gb) = l1entryL2tableAddr (ops.hypPa (fmpt gb).smpt)

/-- A device that blocks all traffic to the writable gigabytes. -/
def Blocks (regs : Regs) : Prop :=
  ∀ mem vid addr, vid < NR_VIDS → WritableGb (addr / SZ_1G) → enforced cfg mem regs vid addr = 0

variable {dev : Device}

/-- An initialization that fails leaves the registers alone. -/
lemma initS2mpu_regs (failed : (initS2mpu cfg dev).1 ≠ 0) :
    (initS2mpu cfg dev).2.regs = dev.regs := by
  have context : ∀ dev : Device, (initializeCtx dev).1 ≠ 0 →
      (initializeCtx dev).2.regs = dev.regs := by
    intro dev failed
    simp only [initializeCtx] at failed ⊢
    split_ifs at failed ⊢
    · rfl
    · exact absurd rfl failed
  revert failed
  cases version : cfg.version <;> simp only [initS2mpu, version]
  · simp only [initializeV1]
    split_ifs <;> intro failed <;> first | rfl | exact context _ failed
  · exact context dev

variable {retries : Nat} {entries : List (Write Nat (BitVec 32))}

/-- A successful initialization programs the L1 entries and turns the checks on. -/
lemma initializeWith_regs (success : (initializeWith cfg entries retries dev).1 = 0) :
    ∃ regs : Regs, (∀ reg, 0x4000 ≤ reg →
        (initializeWith cfg entries retries dev).2.regs reg = regs.write entries reg) ∧
      ∀ vid < NR_VIDS,
        protEnabled cfg (initializeWith cfg entries retries dev).2.regs vid = true := by
  simp only [initializeWith] at success ⊢
  split_ifs at success ⊢ with failed
  · exact absurd success failed
  refine ⟨(initS2mpu cfg dev).2.regs, ?_, ?_⟩
  · intro reg high
    simp only [Regs.write_append]
    rw [(writesIn_setControlRegs cfg _).write_eq _ (by omega),
      (writesIn_allInvalidation _ retries).write_eq _ (.inr high)]
  · intro vid bounded
    simp only [Regs.write_append]
    exact protEnabled_setControlRegs cfg _ _ bounded

/-- A failed initialization changes no register. -/
lemma initializeWith_regs_of_failed (failed : (initializeWith cfg entries retries dev).1 ≠ 0) :
    (initializeWith cfg entries retries dev).2.regs = dev.regs := by
  simp only [initializeWith] at failed ⊢
  split_ifs at failed ⊢ with start
  · exact initS2mpu_regs cfg start
  · exact absurd rfl failed

lemma attr_high (vid gb : Nat) : 0x4000 ≤ REG_NS_L1ENTRY_ATTR vid gb := by
  simp only [REG_NS_L1ENTRY_ATTR]
  omega

lemma l2tableAddr_high (vid gb : Nat) : 0x4000 ≤ REG_NS_L1ENTRY_L2TABLE_ADDR vid gb := by
  simp only [REG_NS_L1ENTRY_L2TABLE_ADDR]
  omega

variable {fmpt : Nat → Fmpt}

lemma initializeWithMpt_follows (success : (initializeWithMpt cfg ops fmpt retries dev).1 = 0) :
    Follows cfg ops fmpt (initializeWithMpt cfg ops fmpt retries dev).2.regs := by
  obtain ⟨regs, entries, enabled⟩ := initializeWith_regs cfg success
  intro vid bounded
  refine ⟨enabled vid bounded, fun gb writable => ?_⟩
  obtain ⟨attr, l2tableAddr⟩ := write_initWithMpt cfg ops regs fmpt bounded writable
  exact ⟨(entries _ (attr_high vid gb)).trans attr,
    (entries _ (l2tableAddr_high vid gb)).trans l2tableAddr⟩

/-- How a device reads a 1G entry. -/
lemma l1entryAttr1g_get (prot : MptProt) :
    (l1entryAttr1g prot).getLsbD 0 = false ∧ (l1entryAttr1g prot).extractLsb' 1 2 = prot.bits := by
  cases prot <;> decide

/-- How a device reads an entry with a second-level table. -/
lemma l1entryAttrL2_get :
    (l1entryAttrL2 cfg).getLsbD 0 = true ∧ attrGran cfg (l1entryAttrL2 cfg) = cfg.smptGran := by
  obtain ⟨version, pageSize⟩ := cfg
  cases version <;> cases pageSize <;> decide

lemma initializeWithProt_blocks (success : (initializeWithProt cfg .none retries dev).1 = 0) :
    Blocks cfg (initializeWithProt cfg .none retries dev).2.regs := by
  obtain ⟨regs, entries, enabled⟩ := initializeWith_regs cfg success
  intro mem vid addr bounded writable
  have attr : (initializeWithProt cfg .none retries dev).2.regs
      (REG_NS_L1ENTRY_ATTR vid (addr / SZ_1G)) = l1entryAttr1g .none :=
    (entries _ (attr_high vid _)).trans (write_initWithProt regs .none bounded writable)
  have on : protEnabled cfg (initializeWithProt cfg .none retries dev).2.regs vid = true :=
    enabled vid bounded
  obtain ⟨block, prot⟩ := l1entryAttr1g_get .none
  simp only [enforced, on, attr, block, prot, if_true, Bool.false_eq_true, if_false]
  rfl

/-- SMPT buffers the 32-bit table address register can name. -/
def Placed (fmpt : Nat → Fmpt) : Prop :=
  ∀ gb, WritableGb gb → ops.hypPa (fmpt gb).smpt % cfg.smptSize = 0 ∧
    ops.hypPa (fmpt gb).smpt + cfg.smptSize ≤ PA_MAX

lemma Placed.of_smpt {fmpt fmpt' : Nat → Fmpt} (placed : Placed cfg ops fmpt)
    (same : ∀ gb, (fmpt' gb).smpt = (fmpt gb).smpt) : Placed cfg ops fmpt' := by
  intro gb writable
  rw [same gb]
  exact placed gb writable

/-- The table address register names the word the hypervisor writes to. -/
lemma Placed.table {gb : Nat} (placed : Placed cfg ops fmpt) (writable : WritableGb gb) :
    (l1entryL2tableAddr (ops.hypPa (fmpt gb).smpt)).toNat <<< L1ENTRY_L2TABLE_ADDR_SHIFT / 4 =
      ops.smptWord (fmpt gb).smpt := by
  obtain ⟨aligned, memory⟩ := placed gb writable
  have size : 16 ∣ cfg.smptSize ∧ 0 < cfg.smptSize := by
    obtain ⟨version, pageSize⟩ := cfg
    cases version <;> cases pageSize <;> decide
  have small : ops.hypPa (fmpt gb).smpt / 16 < 2 ^ 32 := by
    have limit : PA_MAX = 2 ^ 32 * 16 := by decide
    rw [div_lt_iff_lt_mul (by decide), ← limit]
    omega
  have whole := dvd_trans size.1 (dvd_of_mod_eq_zero aligned)
  simp only [l1entryL2tableAddr, L1ENTRY_L2TABLE_ADDR_SHIFT, BitVec.toNat_ofNat,
    shiftRight_eq_div_pow, shiftLeft_eq]
  rw [Nat.mod_eq_of_lt small, Nat.div_mul_cancel whole, ModOps.smptWord]

/-- A device that follows a host table enforces what the table encodes. -/
lemma Follows.enforced_eq {host : HostState} {regs : Regs}
    (follows : Follows cfg ops host.fmpt regs) (placed : Placed cfg ops host.fmpt) {vid : Nat}
    (bounded : vid < NR_VIDS) {page : Nat} (writable : WritableGb (page / cfg.smptNumElems)) :
    enforced cfg host.mem regs vid (page * cfg.smptGran) =
      (host.fmpt (page / cfg.smptNumElems)).pageProt cfg ops host.mem
        (page % cfg.smptNumElems) := by
  have gran := smptGran_pos cfg
  obtain ⟨enabled, entries⟩ := follows vid bounded
  obtain ⟨attr, l2tableAddr⟩ := entries _ writable
  simp only [enforced, enabled, if_true, ← numElems_gran cfg, Nat.mul_div_mul_right _ _ gran,
    Nat.mul_mod_mul_right, attr, l2tableAddr, placed.table cfg ops writable, l1entryAttr,
    Fmpt.pageProt]
  by_cases block : (host.fmpt (page / cfg.smptNumElems)).gran1g = true
  · obtain ⟨noTable, prot⟩ := l1entryAttr1g_get (host.fmpt (page / cfg.smptNumElems)).prot
    simp only [block, if_true, noTable, prot, Bool.false_eq_true, if_false]
  · obtain ⟨table, granule⟩ := l1entryAttrL2_get cfg
    simp only [block, Bool.false_eq_true, if_false, table, if_true, granule,
      Nat.mul_div_cancel _ gran]

/-- Following is about the first-level entries and the enable bits only. -/
lemma Follows.congr (follows : Follows cfg ops fmpt regs)
    (low : ∀ reg < 0x1000, regs' reg = regs reg)
    (high : ∀ reg, 0x4000 ≤ reg → regs' reg = regs reg) : Follows cfg ops fmpt regs' := by
  intro vid bounded
  obtain ⟨enabled, entries⟩ := follows vid bounded
  refine ⟨(protEnabled_congr cfg vid low).trans enabled, fun gb writable => ?_⟩
  rw [high _ (attr_high vid gb), high _ (l2tableAddr_high vid gb)]
  exact entries gb writable

lemma idmapComplete_follows (retries : Nat) (follows : Follows cfg ops fmpt dev.regs) :
    Follows cfg ops fmpt (idmapComplete retries dev).regs := by
  rw [idmapComplete]
  split_ifs
  · exact follows
  · have quiet := (writesIn_barrier dev retries).2
    exact follows.congr cfg ops (fun _ low => quiet.write_eq _ (.inl low))
      (fun _ high => quiet.write_eq _ (.inr high))

/-- The L1 attribute depends only on what the L1 update flag guards. -/
lemma Fmpt.SameL1.l1entryAttr_eq {left right : Fmpt} (same : left.SameL1 right) :
    l1entryAttr cfg left = l1entryAttr cfg right := by
  simp only [l1entryAttr, ← same.1]
  split_ifs with block
  · rw [same.2 block]
  · rfl

lemma writesIn_applyRange (fmpt : Nat → Fmpt) (firstGb lastGb : Nat) :
    WritesIn 0x4000 0x5000 (applyRange cfg fmpt firstGb lastGb) := by
  refine writesIn_l1entries fun write mem => ?_
  obtain ⟨gb, visited, mem⟩ := mem_flatMap.mp mem
  split_ifs at mem
  · obtain ⟨vid, bounded, rfl⟩ := mem_map.mp mem
    exact ⟨_, vid, gb, mem_range.mp bounded, (mem_gbsInRange.mp visited).2.2.1, .inl rfl⟩
  · simp at mem

/-- `apply_range` never writes a table address register. -/
lemma write_applyRange_l2tableAddr (regs : Regs) (fmpt : Nat → Fmpt) (firstGb lastGb vid gb : Nat) :
    regs.write (applyRange cfg fmpt firstGb lastGb) (REG_NS_L1ENTRY_L2TABLE_ADDR vid gb) =
      regs (REG_NS_L1ENTRY_L2TABLE_ADDR vid gb) := by
  refine regs.write_other fun write mem covers => ?_
  obtain ⟨gb', -, mem⟩ := mem_flatMap.mp mem
  split_ifs at mem
  · obtain ⟨vid', -, rfl⟩ := mem_map.mp mem
    rw [writel_covers] at covers
    exact l1entryAttr_ne vid' gb' vid gb covers.symm
  · simp at mem

/-- After a table update, applying it to a device that followed the old table
makes the device follow the new one. -/
lemma applyRange_follows {gbs : List Nat} {lo hi : Nat → Nat} {prot : MptProt}
    {host host' : HostState} {regs : Regs} {firstGb lastGb : Nat}
    (visited : gbs = gbsInRange firstGb lastGb)
    (update : RangeUpdate cfg ops gbs lo hi prot host host')
    (follows : Follows cfg ops host.fmpt regs) :
    Follows cfg ops host'.fmpt (regs.write (applyRange cfg host'.fmpt firstGb lastGb)) := by
  intro vid bounded
  obtain ⟨enabled, entries⟩ := follows vid bounded
  refine ⟨?_, fun gb writable => ⟨?_, ?_⟩⟩
  · rw [protEnabled_congr cfg vid fun reg low =>
      (writesIn_applyRange cfg _ _ _).write_eq regs (.inl (by omega))]
    exact enabled
  · rw [write_applyRange cfg regs _ _ _ bounded writable.1, (entries gb writable).1, ← visited]
    split_ifs with rewritten
    · rfl
    · by_cases mem : gb ∈ gbs
      · have unset : (host'.fmpt gb).flags.l1 = false :=
          Bool.eq_false_iff.mpr fun set => rewritten ⟨mem, set⟩
        exact ((update.flags gb mem unset).l1entryAttr_eq cfg).symm
      · rw [update.others gb mem]
  · rw [write_applyRange_l2tableAddr, (entries gb writable).2, update.smpt gb]

/-- A device that denies everything ignores updates. -/
lemma idmapApply_denied (fmpt : Nat → Fmpt) (call : IdmapCall)
    (denied : dev.denyAll = true) : idmapApply cfg fmpt call dev = dev := by
  rw [idmapApply]
  split
  · rfl
  · rw [if_pos denied]

variable {call : IdmapCall}

/-- `apply` on an empty range does nothing. -/
lemma idmapApply_empty (fmpt : Nat → Fmpt) (dev : Device)
    (empty : call.endPage cfg ≤ call.firstPage cfg) : idmapApply cfg fmpt call dev = dev := by
  rw [idmapApply, toValidRange_eq, if_pos empty]

/-- `apply` on a range that is not empty, in granules. -/
lemma idmapApply_eq
    (nonempty : call.firstPage cfg < call.endPage cfg) (allowed : ¬ dev.denyAll = true) :
    (idmapApply cfg fmpt call dev).regs =
      (dev.regs.write (applyRange cfg fmpt (call.firstPage cfg / cfg.smptNumElems)
        ((call.endPage cfg - 1) / cfg.smptNumElems))).write
        (rangeInvalidationInit dev (call.firstPage cfg * cfg.smptGran)
          (call.endPage cfg * cfg.smptGran - 1)) := by
  have final : call.endPage cfg = call.endPage cfg - 1 + 1 := by omega
  have lastGb : (call.endPage cfg * cfg.smptGran - 1) / SZ_1G =
      (call.endPage cfg - 1) / cfg.smptNumElems := by
    rw [final, lastByte_gb, Nat.add_sub_cancel]
  rw [idmapApply, toValidRange_eq]
  simp only [if_neg (Nat.not_le_of_lt nonempty), if_neg allowed, Regs.write_append, firstByte_gb,
    lastGb]

end GsKernel.S2mpu
