import GsKernel.S2mpu.Permissions

/-!
# S2MPU devices

The register traffic of `hyp/s2mpu.c` and of the device half of `io-mpt-s2mpu.c`. A function that
only programs a device is the list of its `writel` calls; registers keep the last value written.
The number of SYNC commands a barrier issues is a parameter, bounded by `SYNC_MAX_RETRIES`.
SysMMU_SYNC child devices are left out.
-/

namespace GsKernel.S2mpu

open Lib.RegionStore

/-- A register file, by offset into the MMIO window. -/
abbrev Regs := Nat → BitVec 32

/-- `writel(val, dev->va + off)`. -/
def writel (val : BitVec 32) (off : Nat) : Write Nat (BitVec 32) := ⟨fun reg => reg == off, val⟩

/-- A register file after a sequence of writes. -/
def Regs.write (regs : Regs) (writes : List (Write Nat (BitVec 32))) : Regs :=
  writes.foldl Write.apply regs

def REG_NS_CTRL0 : Nat := 0x0
def REG_NS_CTRL1 : Nat := 0x4
def REG_NS_CFG : Nat := 0x10
def REG_NS_V9_CFG_MPTW_ATTRIBUTE : Nat := 0x10
def REG_NS_INTERRUPT_ENABLE_PER_VID_SET : Nat := 0x20
def REG_NS_V9_CTRL_PROT_EN_PER_VID_SET : Nat := 0x50
def REG_NS_VERSION : Nat := 0x60
def REG_NS_V9_CTRL_ERR_RESP_T_PER_VID_SET : Nat := 0x70
def REG_NS_NUM_CONTEXT : Nat := 0x100
def REG_NS_CONTEXT_CFG_VALID_VID : Nat := 0x104
def REG_NS_ALL_INVALIDATION : Nat := 0x1000
def REG_NS_RANGE_INVALIDATION : Nat := 0x1020
def REG_NS_RANGE_INVALIDATION_START_PPN : Nat := 0x1024
def REG_NS_RANGE_INVALIDATION_END_PPN : Nat := 0x1028
def REG_NS_V9_SYNC_DEV_OFFSET : Nat := 0x102C
def REG_NS_SYNC_CMD : Nat := 0x0
def REG_NS_L1ENTRY_L2TABLE_ADDR (vid gb : Nat) : Nat := 0x4000 + vid * 0x200 + gb * 0x8
def REG_NS_L1ENTRY_ATTR (vid gb : Nat) : Nat := 0x4004 + vid * 0x200 + gb * 0x8

def ALL_VIDS_BITMAP : BitVec 32 := 0xff
def NUM_CONTEXT_MASK : BitVec 32 := 0xf
def NR_CTX_IDS : Nat := 8
def VERSION_CHECK_MASK : BitVec 32 := 0xffff0000
def S2MPU_VERSION_1 : BitVec 32 := 0x11000000
def S2MPU_VERSION_2 : BitVec 32 := 0x20000000
def CTRL0_ENABLE : BitVec 32 := 1 <<< 0
def CTRL0_INTERRUPT_ENABLE : BitVec 32 := 1 <<< 1
def CTRL0_FAULT_RESP_TYPE_SLVERR : BitVec 32 := 1 <<< 2
def CTRL0_FAULT_RESP_TYPE_DECERR : BitVec 32 := 1 <<< 2
def INVALIDATION_INVALIDATE : BitVec 32 := 1 <<< 0
def SYNC_CMD_SYNC : BitVec 32 := 1 <<< 0
def SYNC_MAX_RETRIES : Nat := 5
def RANGE_INVALIDATION_PPN_SHIFT : Nat := 12
def L1ENTRY_L2TABLE_ADDR_SHIFT : Nat := 4
def L1ENTRY_ATTR_L2TABLE_EN : BitVec 32 := 1 <<< 0

/-- `struct pkvm_iommu` with the driver's `struct s2mpu_drv_data`; `powered` is
set while the device is resumed. -/
structure Device where
  regs : Regs
  hasSync : Bool
  denyAll : Bool
  version : BitVec 32
  contextCfgValidVid : BitVec 32
  powered : Bool

variable (cfg : Config) (ops : ModOps)

/-- `L1ENTRY_ATTR_1G`. -/
def l1entryAttr1g (prot : MptProt) : BitVec 32 := (prot.val <<< 1) &&& 0x6

/-- `L1ENTRY_ATTR_GRAN_MASK`. -/
def l1entryAttrGranMask : BitVec 32 :=
  match cfg.version with
  | .v1 => 0x30
  | .v9 => 0x8

/-- Position of the lowest bit of `L1ENTRY_ATTR_GRAN_MASK`. -/
def l1entryAttrGranShift : Nat :=
  match cfg.version with
  | .v1 => 4
  | .v9 => 3

/-- `L1ENTRY_ATTR_GRAN(SMPT_GRAN_ATTR, L1ENTRY_ATTR_GRAN_MASK) | L1ENTRY_ATTR_L2TABLE_EN`. -/
def l1entryAttrL2 : BitVec 32 :=
  ((BitVec.ofNat 32 cfg.smptGranAttr <<< l1entryAttrGranShift cfg) &&& l1entryAttrGranMask cfg) |||
    L1ENTRY_ATTR_L2TABLE_EN

/-- The value `__set_l1entry_attr_with_fmpt` writes. -/
def l1entryAttr (fmpt : Fmpt) : BitVec 32 :=
  if fmpt.gran1g = true then l1entryAttr1g fmpt.prot else l1entryAttrL2 cfg

/-- `L1ENTRY_L2TABLE_ADDR`, as the 32-bit register value. -/
def l1entryL2tableAddr (pa : Nat) : BitVec 32 := BitVec.ofNat 32 (pa >>> L1ENTRY_L2TABLE_ADDR_SHIFT)

/-- `for_each_gb_and_vid`. -/
def gbsAndVids : List (Nat × Nat) :=
  (List.range NR_VIDS).flatMap fun vid => (gbsInRange 0 (NR_GIGABYTES - 1)).map fun gb => (gb, vid)

/-- `init_with_prot`. -/
def initWithProt (prot : MptProt) : List (Write Nat (BitVec 32)) :=
  gbsAndVids.map fun (gb, vid) => writel (l1entryAttr1g prot) (REG_NS_L1ENTRY_ATTR vid gb)

/-- `init_with_mpt`. -/
def initWithMpt (fmpt : Nat → Fmpt) : List (Write Nat (BitVec 32)) :=
  gbsAndVids.flatMap fun (gb, vid) =>
    [writel (l1entryL2tableAddr (ops.hypPa (fmpt gb).smpt)) (REG_NS_L1ENTRY_L2TABLE_ADDR vid gb),
      writel (l1entryAttr cfg (fmpt gb)) (REG_NS_L1ENTRY_ATTR vid gb)]

/-- `apply_range`. -/
def applyRange (fmpt : Nat → Fmpt) (firstGb lastGb : Nat) : List (Write Nat (BitVec 32)) :=
  (gbsInRange firstGb lastGb).flatMap fun gb =>
    if (fmpt gb).flags.l1 = true then
      (List.range NR_VIDS).map fun vid =>
        writel (l1entryAttr cfg (fmpt gb)) (REG_NS_L1ENTRY_ATTR vid gb)
    else []

/-- `__sync_cmd_start` on the built-in SYNC device. -/
def syncCmdStart : Write Nat (BitVec 32) :=
  writel SYNC_CMD_SYNC (REG_NS_V9_SYNC_DEV_OFFSET + REG_NS_SYNC_CMD)

/-- `__invalidation_barrier_init`. -/
def invalidationBarrierInit (dev : Device) : List (Write Nat (BitVec 32)) :=
  if dev.hasSync = true then [syncCmdStart] else []

/-- `__invalidation_barrier_complete`; the device needs `retries` more SYNC
commands and the driver gives up after `SYNC_MAX_RETRIES`. -/
def invalidationBarrierComplete (dev : Device) (retries : Nat) : List (Write Nat (BitVec 32)) :=
  if dev.hasSync = true then List.replicate (min retries SYNC_MAX_RETRIES) syncCmdStart else []

/-- `__all_invalidation`. -/
def allInvalidation (dev : Device) (retries : Nat) : List (Write Nat (BitVec 32)) :=
  writel INVALIDATION_INVALIDATE REG_NS_ALL_INVALIDATION ::
    (invalidationBarrierInit dev ++ invalidationBarrierComplete dev retries)

/-- `__range_invalidation_init`. -/
def rangeInvalidationInit (dev : Device) (firstByte lastByte : Nat) :
    List (Write Nat (BitVec 32)) :=
  [writel (BitVec.ofNat 32 (firstByte >>> RANGE_INVALIDATION_PPN_SHIFT))
      REG_NS_RANGE_INVALIDATION_START_PPN,
    writel (BitVec.ofNat 32 (lastByte >>> RANGE_INVALIDATION_PPN_SHIFT))
      REG_NS_RANGE_INVALIDATION_END_PPN,
    writel INVALIDATION_INVALIDATE REG_NS_RANGE_INVALIDATION] ++
  invalidationBarrierInit dev

/-- `CTX_CFG_ENTRY`: the VID of a context and, for an allocated one, its valid bit. -/
def ctxCfgEntry (ctxid nrCtx vid : Nat) : BitVec 32 :=
  ((BitVec.ofNat 32 vid <<< (4 * ctxid)) &&& (0x7#32 <<< (4 * ctxid))) |||
    (if ctxid < nrCtx then 1#32 <<< (4 * ctxid + 3) else 0)

/-- `__context_cfg_valid_vid`: contexts go to the lowest VIDs of the bitmap, as
many as the hardware has. The result is computed once. -/
def contextCfgValidVid (dev : Device) (vidBmap : BitVec 32) : BitVec 32 :=
  if dev.contextCfgValidVid ≠ 0 then dev.contextCfgValidVid
  else
    let numCtx := (dev.regs REG_NS_NUM_CONTEXT &&& NUM_CONTEXT_MASK).toNat
    let ctxVid := ((List.range 32).filter vidBmap.getLsbD).take numCtx
    (List.range NR_CTX_IDS).foldl
      (fun res ctxid => res ||| ctxCfgEntry ctxid ctxVid.length (ctxVid.getD ctxid 0)) 0

/-- `__initialize_ctx`: return code and device. -/
def initializeCtx (dev : Device) : Int × Device :=
  let ctxCfg := contextCfgValidVid dev ALL_VIDS_BITMAP
  let dev := { dev with contextCfgValidVid := ctxCfg }
  if ctxCfg = 0 then (-EINVAL, dev)
  else (0, { dev with regs := dev.regs.write [writel ctxCfg REG_NS_CONTEXT_CFG_VALID_VID] })

/-- `__initialize` of the V1 and V2 build. -/
def initializeV1 (dev : Device) : Int × Device :=
  let dev := if dev.version = 0 then { dev with version := dev.regs REG_NS_VERSION } else dev
  if dev.version &&& VERSION_CHECK_MASK = S2MPU_VERSION_1 then (0, dev)
  else if dev.version &&& VERSION_CHECK_MASK = S2MPU_VERSION_2 then initializeCtx dev
  else (-EINVAL, dev)

/-- `INIT_S2MPU`. -/
def initS2mpu (dev : Device) : Int × Device :=
  match cfg.version with
  | .v1 => initializeV1 dev
  | .v9 => initializeCtx dev

/-- `__set_control_regs` of the V1 and V2 build. -/
def setControlRegsV1 (dev : Device) : List (Write Nat (BitVec 32)) :=
  let ctrl0 := CTRL0_ENABLE ||| CTRL0_INTERRUPT_ENABLE |||
    (if dev.version &&& VERSION_CHECK_MASK = S2MPU_VERSION_2 then CTRL0_FAULT_RESP_TYPE_DECERR
      else CTRL0_FAULT_RESP_TYPE_SLVERR)
  [writel ALL_VIDS_BITMAP REG_NS_INTERRUPT_ENABLE_PER_VID_SET, writel 0 REG_NS_CFG,
    writel 0 REG_NS_CTRL1, writel ctrl0 REG_NS_CTRL0]

/-- `__set_control_regs_v9`. -/
def setControlRegsV9 : List (Write Nat (BitVec 32)) :=
  [writel ALL_VIDS_BITMAP REG_NS_V9_CTRL_ERR_RESP_T_PER_VID_SET,
    writel ALL_VIDS_BITMAP REG_NS_INTERRUPT_ENABLE_PER_VID_SET, writel 0 REG_NS_CTRL0,
    writel ALL_VIDS_BITMAP REG_NS_V9_CTRL_PROT_EN_PER_VID_SET,
    writel 0 REG_NS_V9_CFG_MPTW_ATTRIBUTE]

/-- `SET_CONTROL_REGS`. -/
def setControlRegs (dev : Device) : List (Write Nat (BitVec 32)) :=
  match cfg.version with
  | .v1 => setControlRegsV1 dev
  | .v9 => setControlRegsV9

/-- The common body of `initialize_with_prot` and `initialize_with_mpt`: both
differ only in how they write the L1 entries. -/
def initializeWith (entries : List (Write Nat (BitVec 32))) (retries : Nat) (dev : Device) :
    Int × Device :=
  let started := initS2mpu cfg dev
  if started.1 ≠ 0 then started
  else (0, { started.2 with
    regs := started.2.regs.write
      (entries ++ allInvalidation started.2 retries ++ setControlRegs cfg started.2) })

/-- `initialize_with_prot`. -/
def initializeWithProt (prot : MptProt) (retries : Nat) (dev : Device) : Int × Device :=
  initializeWith cfg (initWithProt prot) retries dev

/-- `initialize_with_mpt`. -/
def initializeWithMpt (fmpt : Nat → Fmpt) (retries : Nat) (dev : Device) : Int × Device :=
  initializeWith cfg (initWithMpt cfg ops fmpt) retries dev

/-- `s2mpu_resume`. -/
def s2mpuResume (fmpt : Nat → Fmpt) (retries : Nat) (dev : Device) : Int × Device :=
  if dev.denyAll = true then (0, dev) else initializeWithMpt cfg ops fmpt retries dev

/-- `s2mpu_suspend`. -/
def s2mpuSuspend (retries : Nat) (dev : Device) : Int × Device :=
  initializeWithProt cfg .none retries dev

/-- `s2mpu_host_stage2_idmap_apply`. -/
def idmapApply (fmpt : Nat → Fmpt) (call : IdmapCall) (dev : Device) : Device :=
  match toValidRange cfg call.first call.last with
  | none => dev
  | some (first, last) =>
    if dev.denyAll = true then dev
    else { dev with
      regs := dev.regs.write (applyRange cfg fmpt (first / SZ_1G) ((last - 1) / SZ_1G) ++
        rangeInvalidationInit dev first (last - 1)) }

/-- `s2mpu_host_stage2_idmap_complete`. -/
def idmapComplete (retries : Nat) (dev : Device) : Device :=
  if dev.denyAll = true then dev
  else { dev with regs := dev.regs.write (invalidationBarrierComplete dev retries) }

/-- Whether a device checks the traffic of a VID; it lets everything through
otherwise. -/
def protEnabled (regs : Regs) (vid : Nat) : Bool :=
  match cfg.version with
  | .v1 => (regs REG_NS_CTRL0).getLsbD 0
  | .v9 => (regs REG_NS_V9_CTRL_PROT_EN_PER_VID_SET).getLsbD vid

/-- The granule an L1 attribute selects for the second-level table. -/
def attrGran (attr : BitVec 32) : Nat :=
  match ((attr &&& l1entryAttrGranMask cfg) >>> l1entryAttrGranShift cfg).toNat with
  | 0 => SZ_4K
  | 1 => SZ_64K
  | _ => 0x200000

/-- The access a device grants a VID at an address: the L1 entry of the
gigabyte, and the second-level table its registers point to. -/
def enforced (mem : Mem) (regs : Regs) (vid addr : Nat) : BitVec 2 :=
  if protEnabled cfg regs vid = true then
    let attr := regs (REG_NS_L1ENTRY_ATTR vid (addr / SZ_1G))
    if attr.getLsbD 0 = true then
      let table := (regs (REG_NS_L1ENTRY_L2TABLE_ADDR vid (addr / SZ_1G))).toNat <<<
        L1ENTRY_L2TABLE_ADDR_SHIFT
      access cfg mem (table / 4) (addr % SZ_1G / attrGran cfg attr)
    else attr.extractLsb' 1 2
  else MptProt.rw.bits

end GsKernel.S2mpu
