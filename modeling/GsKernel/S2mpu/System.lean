import GsKernel.S2mpu.DeviceRegs

/-!
# Any number of devices on one host table

The host table and a family of S2MPUs that are resumed, suspended and, while suspended, may lose
their registers to the reset state. An identity-map update prepares the table, then applies and
completes the update on every resumed device. By `System.Inv` resumed devices enforce the table
and all others block.
-/

namespace GsKernel.S2mpu

open Lib.Runs

variable {ι : Type}

/-- The host table and its devices. -/
structure System (ι : Type) where
  host : HostState
  dev : ι → Device

/-- What pKVM, and the power management of the SoC, can do next. -/
inductive Event (ι : Type) where
  | update (call : IdmapCall) (retries : ι → Nat)
  | suspend (i : ι) (retries : Nat)
  | resume (i : ι) (retries : Nat)
  | reset (i : ι) (regs : Regs)

variable (cfg : Config) (ops : ModOps)

/-- `powered` follows a suspend or resume call that succeeded. -/
def Device.setPowered (result : Int × Device) (powered : Bool) : Device :=
  if result.1 = 0 then { result.2 with powered := powered } else result.2

namespace System

/-- One event. Only a suspended device can be powered down and come back reset. -/
def step [DecidableEq ι] (sys : System ι) : Event ι → Except Fault (System ι)
  | .update call retries => do
    let host ← idmapPrepare cfg ops sys.host call
    .ok ⟨host, fun i =>
      if (sys.dev i).powered = true then
        idmapComplete (retries i) (idmapApply cfg host.fmpt call (sys.dev i))
      else sys.dev i⟩
  | .suspend i retries =>
    .ok { sys with
      dev := Function.update sys.dev i (.setPowered (s2mpuSuspend cfg retries (sys.dev i)) false) }
  | .resume i retries =>
    .ok { sys with
      dev := Function.update sys.dev i
        (.setPowered (s2mpuResume cfg ops sys.host.fmpt retries (sys.dev i)) true) }
  | .reset i regs =>
    .ok { sys with
      dev := Function.update sys.dev i
        (if (sys.dev i).powered = true then sys.dev i else { sys.dev i with regs := regs }) }

end System

/-- Updates start in a writable gigabyte; the reset state blocks all traffic. -/
def Event.Admissible : Event ι → Prop
  | .update call _ => WritableGb (call.first / SZ_1G)
  | .reset _ regs => Blocks cfg regs
  | _ => True

/-- A device that is suspended or denies everything blocks, any other follows the
host table. -/
structure Device.Inv (fmpt : Nat → Fmpt) (dev : Device) : Prop where
  blocks : dev.powered = false ∨ dev.denyAll = true → Blocks cfg dev.regs
  follows : dev.powered = true → dev.denyAll = false → Follows cfg ops fmpt dev.regs

structure System.Inv (sys : System ι) : Prop where
  buffers : Buffers cfg ops sys.host.fmpt
  placed : Placed cfg ops sys.host.fmpt
  device : ∀ i, (sys.dev i).Inv cfg ops sys.host.fmpt

lemma initializeWith_fixed (entries : List (Lib.RegionStore.Write Nat (BitVec 32)))
    (retries : Nat) (dev : Device) :
    (initializeWith cfg entries retries dev).2.denyAll = dev.denyAll ∧
      (initializeWith cfg entries retries dev).2.powered = dev.powered := by
  have context : ∀ dev : Device, (initializeCtx dev).2.denyAll = dev.denyAll ∧
      (initializeCtx dev).2.powered = dev.powered := by
    intro dev
    simp only [initializeCtx]
    split_ifs <;> exact ⟨rfl, rfl⟩
  have start : (initS2mpu cfg dev).2.denyAll = dev.denyAll ∧
      (initS2mpu cfg dev).2.powered = dev.powered := by
    cases version : cfg.version <;> simp only [initS2mpu, version]
    · simp only [initializeV1]
      split_ifs <;> first | exact ⟨rfl, rfl⟩ | exact context _
    · exact context dev
  simp only [initializeWith]
  split_ifs <;> exact start

lemma idmapApply_fixed (fmpt : Nat → Fmpt) (call : IdmapCall) (dev : Device) :
    (idmapApply cfg fmpt call dev).denyAll = dev.denyAll ∧
      (idmapApply cfg fmpt call dev).powered = dev.powered := by
  rw [idmapApply]
  split
  · exact ⟨rfl, rfl⟩
  · split_ifs <;> exact ⟨rfl, rfl⟩

lemma idmapComplete_fixed (retries : Nat) (dev : Device) :
    (idmapComplete retries dev).denyAll = dev.denyAll ∧
      (idmapComplete retries dev).powered = dev.powered := by
  rw [idmapComplete]
  split_ifs <;> exact ⟨rfl, rfl⟩

variable {fmpt : Nat → Fmpt}

/-- The invariant reads the registers and two flags. -/
lemma Device.Inv.congr {dev dev' : Device} (inv : dev.Inv cfg ops fmpt)
    (regs : dev'.regs = dev.regs) (denyAll : dev'.denyAll = dev.denyAll)
    (powered : dev'.powered = dev.powered) : dev'.Inv cfg ops fmpt := by
  constructor
  · rw [regs, denyAll, powered]
    exact inv.blocks
  · rw [regs, denyAll, powered]
    exact inv.follows

variable {dev : Device}

/-- A failed initialization keeps the invariant. -/
lemma Device.Inv.failed (inv : dev.Inv cfg ops fmpt)
    {entries : List (Lib.RegionStore.Write Nat (BitVec 32))} {retries : Nat}
    (failed : (initializeWith cfg entries retries dev).1 ≠ 0) :
    (initializeWith cfg entries retries dev).2.Inv cfg ops fmpt := by
  obtain ⟨denyAll, powered⟩ := initializeWith_fixed cfg entries retries dev
  exact inv.congr cfg ops (initializeWith_regs_of_failed cfg failed) denyAll powered

/-- Suspending leaves a device blocked, or as it was when it fails. -/
lemma Device.Inv.suspend (inv : dev.Inv cfg ops fmpt) (retries : Nat) :
    (Device.setPowered (s2mpuSuspend cfg retries dev) false).Inv cfg ops fmpt := by
  by_cases success : (s2mpuSuspend cfg retries dev).1 = 0
  · rw [Device.setPowered, if_pos success]
    exact ⟨fun _ => initializeWithProt_blocks cfg success, fun off => (by cases off)⟩
  · rw [Device.setPowered, if_neg success]
    exact inv.failed cfg ops success

/-- Resuming makes a device follow the host table, unless it denies everything. -/
lemma Device.Inv.resume (inv : dev.Inv cfg ops fmpt) (retries : Nat) :
    (Device.setPowered (s2mpuResume cfg ops fmpt retries dev) true).Inv cfg ops fmpt := by
  by_cases denied : dev.denyAll = true
  · rw [s2mpuResume, if_pos denied, Device.setPowered, if_pos rfl]
    exact ⟨fun _ => inv.blocks (.inr denied), fun _ allowed => (by cases denied.symm.trans allowed)⟩
  rw [s2mpuResume, if_neg denied]
  by_cases success : (initializeWithMpt cfg ops fmpt retries dev).1 = 0
  · have allowed : (initializeWithMpt cfg ops fmpt retries dev).2.denyAll = dev.denyAll :=
      (initializeWith_fixed cfg _ retries dev).1
    rw [Device.setPowered, if_pos success]
    refine ⟨fun stopped => ?_, fun _ _ => initializeWithMpt_follows cfg ops success⟩
    rcases stopped with off | deny
    · cases off
    · exact absurd (allowed.symm.trans deny) denied
  · rw [Device.setPowered, if_neg success]
    exact inv.failed cfg ops success

variable {host host' : HostState} {call : IdmapCall}

/-- A device that followed the table before an update follows it after `apply`. -/
lemma idmapApply_follows
    (allowed : ¬ dev.denyAll = true) (follows : Follows cfg ops host.fmpt dev.regs)
    (buffers : Buffers cfg ops host.fmpt) (start : WritableGb (call.first / SZ_1G))
    (prepared : idmapPrepare cfg ops host call = .ok host') :
    Follows cfg ops host'.fmpt (idmapApply cfg host'.fmpt call dev).regs := by
  by_cases nonempty : call.firstPage cfg < call.endPage cfg
  · obtain ⟨host'', ran, update⟩ := idmapPrepare_update cfg ops buffers start nonempty
    cases prepared.symm.trans ran
    have quiet := writesIn_rangeInvalidationInit dev (call.firstPage cfg * cfg.smptGran)
      (call.endPage cfg * cfg.smptGran - 1)
    rw [idmapApply_eq cfg nonempty allowed]
    exact (applyRange_follows cfg ops rfl update follows).congr cfg ops
      (fun _ low => quiet.write_eq _ (.inl low)) (fun _ high => quiet.write_eq _ (.inr high))
  · have empty := Nat.le_of_not_lt nonempty
    cases prepared.symm.trans (idmapPrepare_empty cfg ops host empty)
    rw [idmapApply_empty cfg _ _ empty]
    exact follows

/-- Applying a table update and completing it keeps a resumed device in step. -/
lemma Device.Inv.apply
    (inv : dev.Inv cfg ops host.fmpt) (retries : Nat) (powered : dev.powered = true)
    (buffers : Buffers cfg ops host.fmpt) (start : WritableGb (call.first / SZ_1G))
    (prepared : idmapPrepare cfg ops host call = .ok host') :
    (idmapComplete retries (idmapApply cfg host'.fmpt call dev)).Inv cfg ops host'.fmpt := by
  by_cases denied : dev.denyAll = true
  · rw [idmapApply_denied cfg _ _ denied, idmapComplete, if_pos denied]
    exact ⟨inv.blocks, fun _ allowed => (by cases denied.symm.trans allowed)⟩
  have follows := inv.follows powered (Bool.eq_false_iff.mpr denied)
  have applied := idmapApply_follows cfg ops denied follows buffers start prepared
  obtain ⟨denyAll, power⟩ := idmapApply_fixed cfg host'.fmpt call dev
  obtain ⟨denyAll', power'⟩ :=
    idmapComplete_fixed retries (idmapApply cfg host'.fmpt call dev)
  refine ⟨fun stopped => ?_, fun _ _ => idmapComplete_follows cfg ops retries applied⟩
  rw [denyAll', denyAll, power', power] at stopped
  rcases stopped with off | deny
  · cases powered.symm.trans off
  · exact absurd deny denied

/-- A suspended device does not see the host table. -/
lemma Device.Inv.suspended {fmpt fmpt' : Nat → Fmpt}
    (inv : dev.Inv cfg ops fmpt) (off : ¬ dev.powered = true) : dev.Inv cfg ops fmpt' :=
  ⟨inv.blocks, fun on => absurd on off⟩

/-- Replacing one device by another in the invariant keeps the system in it. -/
lemma System.Inv.setDev [DecidableEq ι] {sys : System ι} (inv : sys.Inv cfg ops) (i : ι)
    (device : dev.Inv cfg ops sys.host.fmpt) :
    System.Inv cfg ops { sys with dev := Function.update sys.dev i dev } := by
  refine ⟨inv.buffers, inv.placed, fun j => ?_⟩
  by_cases same : j = i
  · subst same
    simpa using device
  · simpa [Function.update_of_ne same] using inv.device j

/-- Every admissible event succeeds and keeps the invariant. -/
lemma System.step_inv [DecidableEq ι] (sys : System ι) (event : Event ι) (inv : sys.Inv cfg ops)
    (admissible : event.Admissible cfg) :
    ∃ sys', sys.step cfg ops event = .ok sys' ∧ sys'.Inv cfg ops := by
  cases event with
  | update call retries =>
    have prepared : ∃ host, idmapPrepare cfg ops sys.host call = .ok host ∧
        ∀ gb, (host.fmpt gb).smpt = (sys.host.fmpt gb).smpt := by
      by_cases nonempty : call.firstPage cfg < call.endPage cfg
      · obtain ⟨host, ran, update⟩ :=
          idmapPrepare_update cfg ops inv.buffers admissible nonempty
        exact ⟨host, ran, update.smpt⟩
      · exact ⟨_, idmapPrepare_empty cfg ops _ (Nat.le_of_not_lt nonempty), fun _ => rfl⟩
    obtain ⟨host, ran, smpt⟩ := prepared
    refine ⟨_, by rw [step, ran]; rfl, inv.buffers.of_smpt cfg ops smpt,
      inv.placed.of_smpt cfg ops smpt, fun i => ?_⟩
    simp only
    split_ifs with on
    · exact (inv.device i).apply cfg ops (retries i) on inv.buffers admissible ran
    · exact (inv.device i).suspended cfg ops on
  | suspend i retries =>
    exact ⟨_, rfl, inv.setDev cfg ops i ((inv.device i).suspend cfg ops retries)⟩
  | resume i retries =>
    exact ⟨_, rfl, inv.setDev cfg ops i ((inv.device i).resume cfg ops retries)⟩
  | reset i regs =>
    refine ⟨_, rfl, inv.setDev cfg ops i ?_⟩
    split_ifs with on
    · exact inv.device i
    · exact ⟨fun _ => admissible, fun powered => absurd powered on⟩

/-- What pKVM starts from: a ready table, all devices suspended in a reset state
that blocks. -/
lemma System.inv_start (ready : Ready cfg ops fmpt) (mem : Mem)
    {dev : ι → Device} (reset : ∀ i, (dev i).powered = false ∧ Blocks cfg (dev i).regs) :
    System.Inv cfg ops ⟨⟨mem, fmpt⟩, dev⟩ := by
  refine ⟨ready.buffers, fun gb writable => ⟨ready.aligned gb writable, ready.memory gb writable⟩,
    fun i => ⟨fun _ => (reset i).2, fun on => (by cases (reset i).1.symm.trans on)⟩⟩

/-- Devices follow the shared table: along every run, a resumed device enforces
what the table encodes, a suspended or denying device enforces no access. -/
theorem enforced_foldlM_step [DecidableEq ι] (lawful : ops.Lawful cfg) {data : Nat → Nat}
    {size : Nat} {owners : Owners} (allocated : smptNrPages cfg = 0 → HostAllocated cfg ops data)
    (success : (s2mpuInit cfg ops data size owners).ret = 0) (mem : Mem) (dev : ι → Device)
    (reset : ∀ i, (dev i).powered = false ∧ Blocks cfg (dev i).regs) (events : List (Event ι))
    (admissible : ∀ event ∈ events, event.Admissible cfg) :
    ∃ sys, events.foldlM (System.step cfg ops)
        ⟨⟨mem, (s2mpuInit cfg ops data size owners).fmpt⟩, dev⟩ = .ok sys ∧
      ∀ i vid page, vid < NR_VIDS → WritableGb (page * cfg.smptGran / SZ_1G) →
        ((sys.dev i).powered = true → (sys.dev i).denyAll = false →
          (enforced cfg sys.host.mem (sys.dev i).regs vid (page * cfg.smptGran)).setWidth 32 =
            encodedProt cfg ops sys.host (page * cfg.smptGran)) ∧
        ((sys.dev i).powered = false ∨ (sys.dev i).denyAll = true →
          enforced cfg sys.host.mem (sys.dev i).regs vid (page * cfg.smptGran) =
            MptProt.none.bits) := by
  have ready := s2mpuInit_ready cfg ops lawful allocated success
  obtain ⟨sys, ran, inv⟩ := foldlM_invariant (System.Inv cfg ops) _ _ (System.step_inv cfg ops)
    events (System.inv_start cfg ops ready mem reset) admissible
  refine ⟨sys, ran, fun i vid page bounded writable => ⟨fun on allowed => ?_, fun stopped => ?_⟩⟩
  · have entry := writable
    rw [firstByte_gb] at entry
    have follows := (inv.device i).follows on allowed
    rw [follows.enforced_eq cfg ops inv.placed bounded entry, encodedProt_page]
  · exact (inv.device i).blocks stopped sys.host.mem vid _ bounded writable

/-- A V9 register file as it comes out of reset: checks on, no access anywhere,
eight contexts. -/
def resetRegs : Regs := fun reg =>
  if reg = REG_NS_V9_CTRL_PROT_EN_PER_VID_SET then ALL_VIDS_BITMAP
  else if reg = REG_NS_NUM_CONTEXT then 8
  else 0

lemma resetRegs_blocks : Blocks exampleConfig resetRegs := by
  intro mem vid addr bounded _
  have enabled : protEnabled exampleConfig resetRegs vid = true := by
    revert bounded
    simp only [protEnabled, exampleConfig, resetRegs, if_true]
    revert vid
    decide
  have entry : resetRegs (REG_NS_L1ENTRY_ATTR vid (addr / SZ_1G)) = 0 := by
    have high := attr_high vid (addr / SZ_1G)
    have apart : ¬ REG_NS_L1ENTRY_ATTR vid (addr / SZ_1G) = REG_NS_V9_CTRL_PROT_EN_PER_VID_SET ∧
        ¬ REG_NS_L1ENTRY_ATTR vid (addr / SZ_1G) = REG_NS_NUM_CONTEXT := by
      simp only [REG_NS_V9_CTRL_PROT_EN_PER_VID_SET, REG_NS_NUM_CONTEXT]
      omega
    rw [resetRegs, if_neg apart.1, if_neg apart.2]
  simp only [enforced, enabled, entry, if_true]
  rfl

/-- One device is resumed, then read access to the first gigabyte is set. The
device enforces it, a second device that stays suspended blocks. -/
theorem enforced_resume_update :
    let events : List (Event Bool) := [.resume true 0, .update ⟨0, SZ_1G, 4⟩ fun _ => 0]
    ∃ sys, events.foldlM (System.step exampleConfig exampleOps)
        ⟨⟨fun _ => 0, exampleInit.fmpt⟩, fun _ => ⟨resetRegs, true, false, 0, 0, false⟩⟩ = .ok sys ∧
      (enforced exampleConfig sys.host.mem (sys.dev true).regs 7 (5 * SZ_4K)).setWidth 32 =
        encodedProt exampleConfig exampleOps sys.host (5 * SZ_4K) ∧
      enforced exampleConfig sys.host.mem (sys.dev false).regs 7 (5 * SZ_4K) =
        MptProt.none.bits := by
  intro events
  obtain ⟨sys, ran, devices⟩ := enforced_foldlM_step exampleConfig exampleOps exampleOps_lawful
    (fun none => absurd none (by decide)) exampleInit_ret (fun _ => 0)
    (fun _ => ⟨resetRegs, true, false, 0, 0, false⟩) (fun _ => ⟨rfl, resetRegs_blocks⟩) events
    (by simp [events, Event.Admissible]; decide)
  have flags : (events.foldlM (System.step exampleConfig exampleOps)
      ⟨⟨fun _ => 0, exampleInit.fmpt⟩, fun _ => ⟨resetRegs, true, false, 0, 0, false⟩⟩).toOption.map
      (fun sys => ((sys.dev true).powered, (sys.dev true).denyAll, (sys.dev false).powered)) =
        some (true, false, false) := by
    decide +kernel
  have same := ran.symm ▸ flags
  simp only [Except.toOption, Option.map_some, Option.some.injEq, Prod.mk.injEq] at same
  refine ⟨sys, ran, ?_, ?_⟩
  · exact (devices true 7 5 (by decide) (by decide)).1 same.1 same.2.1
  · exact (devices false 7 5 (by decide) (by decide)).2 (.inl same.2.2)

end GsKernel.S2mpu
