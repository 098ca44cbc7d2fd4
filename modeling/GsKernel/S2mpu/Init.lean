import GsKernel.S2mpu.RangeUpdate
import GsKernel.Lib.Errno

/-!
# Taking over the SMPT buffers

`s2mpu_init` copies the buffer pointers the host prepared, takes ownership of the pages behind
them and starts every writable gigabyte as a 1G mapping with read and write access.
`ModOps.Lawful` is what it relies on of pKVM. With 64K pages a buffer is smaller than a page and
no ownership is taken, so there `HostAllocated` has to come from the host.
-/

namespace GsKernel.S2mpu

open List Nat

/-- `sizeof(struct mpt)`: a pointer, a `bool` and two enumerations per gigabyte. -/
def sizeofMpt : Nat := NR_GIGABYTES * 24

variable (cfg : Config) (ops : ModOps)

/-- `smpt_nr_pages`. -/
def smptNrPages : Nat := cfg.smptSize / 2 ^ cfg.pageShift

/-- Page frame number of a physical address. -/
def pfn (pa : Nat) : Nat := pa / 2 ^ cfg.pageShift

/-- The entry `s2mpu_init` stores for a gigabyte. -/
def readyFmpt (smpt : Nat) : Fmpt := ⟨smpt, true, .rw, ⟨false, false⟩⟩

/-- What `s2mpu_init` returns and leaves in `host_mpt`. -/
structure InitResult where
  ret : Int
  owners : Owners
  fmpt : Nat → Fmpt

/-- The loop of `s2mpu_init` that takes the buffers over; `data` holds the
`smpt` pointers of the host's `struct mpt`. -/
def takeSmpts (data : Nat → Nat) : List Nat → Owners → (Nat → Fmpt) → InitResult
  | [], owners, fmpt => ⟨0, owners, fmpt⟩
  | gb :: gbs, owners, fmpt =>
    let smpt := ops.kernHypVa (data gb)
    let pa := ops.hypPa smpt
    if pa % cfg.smptSize ≠ 0 then ⟨-EINVAL, owners, fmpt⟩
    else
      let donated := ops.hostDonateHyp owners (pfn cfg pa) (smptNrPages cfg)
      if donated.1 ≠ 0 then ⟨donated.1, donated.2, fmpt⟩
      else takeSmpts data gbs donated.2 (Function.update fmpt gb (readyFmpt smpt))

/-- The loop of `s2mpu_init` that returns buffers after an error. -/
def returnSmpts : List Nat → Owners → (Nat → Fmpt) → Owners
  | [], owners, _ => owners
  | gb :: gbs, owners, fmpt =>
    if (fmpt gb).smpt = 0 then owners
    else
      let returned := ops.hypDonateHost owners (pfn cfg (ops.hypPa (fmpt gb).smpt))
        (smptNrPages cfg)
      returnSmpts gbs returned.2 fmpt

/-- `s2mpu_init` on the zeroed `host_mpt` of a fresh module. -/
def s2mpuInit (data : Nat → Nat) (size : Nat) (owners : Owners) : InitResult :=
  if size ≠ sizeofMpt then ⟨-EINVAL, owners, fun _ => Fmpt.zero⟩
  else
    let gbs := gbsInRange 0 (NR_GIGABYTES - 1)
    let taken := takeSmpts cfg ops data gbs owners fun _ => Fmpt.zero
    if taken.ret ≠ 0 then
      ⟨taken.ret, returnSmpts cfg ops gbs taken.owners taken.fmpt, fun _ => Fmpt.zero⟩
    else taken

/-- What the driver relies on of `pkvm_module_ops`: hypervisor addresses are not
NULL, and a donation succeeds only on host pages of the physical memory, which
it makes hypervisor pages. -/
structure ModOps.Lawful : Prop where
  kernHypVa_ne : ∀ va, ops.kernHypVa va ≠ 0
  host : ∀ owners first count, (ops.hostDonateHyp owners first count).1 = 0 →
    ∀ page, first ≤ page → page < first + count → owners page = false
  hyp : ∀ owners first count, (ops.hostDonateHyp owners first count).1 = 0 →
    ∀ page, (ops.hostDonateHyp owners first count).2 page =
      (decide (first ≤ page ∧ page < first + count) || owners page)
  memory : ∀ owners first count, (ops.hostDonateHyp owners first count).1 = 0 → 0 < count →
    (first + count) * 2 ^ cfg.pageShift ≤ PA_MAX

/-- Physical address of the buffer the host passes for a gigabyte. -/
def bufferPa (data : Nat → Nat) (gb : Nat) : Nat := ops.hypPa (ops.kernHypVa (data gb))

/-- Buffers as the host driver allocates them: distinct, in physical memory. -/
structure HostAllocated (data : Nat → Nat) : Prop where
  distinct : ∀ gb other, WritableGb gb → WritableGb other →
    bufferPa ops data gb = bufferPa ops data other → gb = other
  memory : ∀ gb, WritableGb gb → bufferPa ops data gb + cfg.smptSize ≤ PA_MAX

/-- The table a successful `s2mpu_init` leaves. -/
structure Ready (fmpt : Nat → Fmpt) : Prop where
  buffers : Buffers cfg ops fmpt
  aligned : ∀ gb, WritableGb gb → ops.hypPa (fmpt gb).smpt % cfg.smptSize = 0
  memory : ∀ gb, WritableGb gb → ops.hypPa (fmpt gb).smpt + cfg.smptSize ≤ PA_MAX
  block : ∀ gb, WritableGb gb → (fmpt gb).gran1g = true ∧ (fmpt gb).prot = .rw
  hole : ∀ gb, ¬ WritableGb gb → fmpt gb = Fmpt.zero

/-- What the loop has established for the gigabytes it has passed. -/
structure Taken (data : Nat → Nat) (gbs : List Nat) (owners : Owners)
    (fmpt fmpt' : Nat → Fmpt) : Prop where
  entry : ∀ gb ∈ gbs, fmpt' gb = readyFmpt (ops.kernHypVa (data gb))
  others : ∀ gb, gb ∉ gbs → fmpt' gb = fmpt gb
  aligned : ∀ gb ∈ gbs, bufferPa ops data gb % cfg.smptSize = 0
  fresh : 0 < smptNrPages cfg → ∀ gb ∈ gbs, owners (pfn cfg (bufferPa ops data gb)) = false
  distinct : 0 < smptNrPages cfg → (gbs.map (bufferPa ops data)).Nodup
  memory : 0 < smptNrPages cfg → ∀ gb ∈ gbs,
    (pfn cfg (bufferPa ops data gb) + smptNrPages cfg) * 2 ^ cfg.pageShift ≤ PA_MAX

variable {owners : Owners}

lemma takeSmpts_taken (lawful : ops.Lawful cfg) (data : Nat → Nat) {gbs : List Nat}
    {fmpt : Nat → Fmpt} (nodup : gbs.Nodup)
    (success : (takeSmpts cfg ops data gbs owners fmpt).ret = 0) :
    Taken cfg ops data gbs owners fmpt (takeSmpts cfg ops data gbs owners fmpt).fmpt := by
  induction gbs generalizing owners fmpt with
  | nil => constructor <;> simp [takeSmpts]
  | cons gb gbs ih =>
    rw [takeSmpts] at success ⊢
    simp only at success ⊢
    split_ifs at success ⊢ with misaligned refused
    · exact absurd success (by simp [EINVAL])
    · exact absurd success refused
    · simp only [ne_eq, not_not] at misaligned refused
      obtain ⟨missing, nodup⟩ := nodup_cons.mp nodup
      obtain ⟨entry, others, aligned, fresh, distinct, memory⟩ :=
        ih nodup success
      have grown := lawful.hyp _ _ _ refused
      refine ⟨?_, ?_, ?_, ?_, ?_, ?_⟩
      · refine forall_mem_cons.mpr ⟨?_, entry⟩
        rw [others gb missing, Function.update_self]
      · intro other absent
        rw [mem_cons, not_or] at absent
        rw [others other absent.2, Function.update_of_ne absent.1]
      · exact forall_mem_cons.mpr ⟨misaligned, aligned⟩
      · intro pages
        refine forall_mem_cons.mpr ⟨?_, fun other mem => ?_⟩
        · exact lawful.host _ _ _ refused _ (Nat.le_refl _) (Nat.lt_add_of_pos_right pages)
        · have free := fresh pages other mem
          rw [grown, Bool.or_eq_false_iff] at free
          exact free.2
      · intro pages
        refine nodup_cons.mpr ⟨fun again => ?_, distinct pages⟩
        obtain ⟨other, mem, same⟩ := mem_map.mp again
        have free := fresh pages other mem
        rw [grown, same, Bool.or_eq_false_iff] at free
        have own : pfn cfg (bufferPa ops data gb) ≤ pfn cfg (bufferPa ops data gb) ∧
            pfn cfg (bufferPa ops data gb) < pfn cfg (bufferPa ops data gb) + smptNrPages cfg :=
          ⟨Nat.le_refl _, Nat.lt_add_of_pos_right pages⟩
        exact of_decide_eq_false free.1 own
      · intro pages
        exact forall_mem_cons.mpr ⟨lawful.memory _ _ _ refused pages, memory pages⟩

lemma mem_allGbs {gb : Nat} : gb ∈ gbsInRange 0 (NR_GIGABYTES - 1) ↔ WritableGb gb := by
  rw [mem_gbsInRange]
  simp only [WritableGb, NR_GIGABYTES, RO_GIGABYTES_FIRST, RO_GIGABYTES_LAST]
  omega

/-- A buffer is a whole number of pages, or smaller than one. -/
lemma smptNrPages_mul (pages : 0 < smptNrPages cfg) :
    smptNrPages cfg * 2 ^ cfg.pageShift = cfg.smptSize := by
  revert pages
  obtain ⟨version, pageSize⟩ := cfg
  cases version <;> cases pageSize <;> decide

lemma page_dvd_smptSize (pages : 0 < smptNrPages cfg) : 2 ^ cfg.pageShift ∣ cfg.smptSize :=
  Dvd.intro_left _ (smptNrPages_mul cfg pages)

/-- Taken buffers are what the host driver allocates, even when a compromised
host passes others: a page can only be donated once. -/
lemma Taken.allocated {data : Nat → Nat} {fmpt fmpt' : Nat → Fmpt}
    (taken : Taken cfg ops data (gbsInRange 0 (NR_GIGABYTES - 1)) owners fmpt fmpt')
    (pages : 0 < smptNrPages cfg) : HostAllocated cfg ops data := by
  constructor
  · intro gb other writable writableOther same
    exact inj_on_of_nodup_map (taken.distinct pages) (mem_allGbs.mpr writable)
      (mem_allGbs.mpr writableOther) same
  · intro gb writable
    have mem := mem_allGbs.mpr writable
    have bound := taken.memory pages gb mem
    have multiple := dvd_trans (page_dvd_smptSize cfg pages)
      (dvd_of_mod_eq_zero (taken.aligned gb mem))
    rw [Nat.add_mul, smptNrPages_mul cfg pages, pfn, Nat.div_mul_cancel multiple] at bound
    exact bound

/-- Equally sized, aligned tables share a word only when they are the same. -/
lemma tables_eq {left right : Fmpt} {addr : Nat}
    (inLeft : left.Table cfg ops addr) (inRight : right.Table cfg ops addr)
    (leftAligned : ops.hypPa left.smpt % cfg.smptSize = 0)
    (rightAligned : ops.hypPa right.smpt % cfg.smptSize = 0) :
    ops.hypPa left.smpt = ops.hypPa right.smpt := by
  have size : cfg.smptSize = 4 * cfg.smptNumWords := by
    obtain ⟨-, -, -, -, -, size, -⟩ := cfg.layout_cases
    exact size
  obtain ⟨k, leftEq⟩ := dvd_of_mod_eq_zero leftAligned
  obtain ⟨l, rightEq⟩ := dvd_of_mod_eq_zero rightAligned
  have quotient : ∀ {k : Nat}, cfg.smptSize * k / 4 = cfg.smptNumWords * k := by
    intro k
    rw [size, Nat.mul_assoc, Nat.mul_div_cancel_left _ (by decide)]
  simp only [Fmpt.Table, ModOps.smptWord, leftEq, rightEq, quotient, ← mul_succ]
    at inLeft inRight
  have same : k = l := by
    have := lt_of_mul_lt_mul_left (lt_of_le_of_lt inLeft.1 inRight.2)
    have := lt_of_mul_lt_mul_left (lt_of_le_of_lt inRight.1 inLeft.2)
    omega
  rw [leftEq, rightEq, same]

/-- A successful `s2mpu_init` leaves the writable gigabytes ready. -/
lemma s2mpuInit_ready (lawful : ops.Lawful cfg) {data : Nat → Nat} {size : Nat}
    (allocated : smptNrPages cfg = 0 → HostAllocated cfg ops data)
    (success : (s2mpuInit cfg ops data size owners).ret = 0) :
    Ready cfg ops (s2mpuInit cfg ops data size owners).fmpt := by
  rw [s2mpuInit] at success ⊢
  simp only at success ⊢
  split_ifs at success ⊢ with badSize failed
  · exact absurd success (by simp [EINVAL])
  · exact absurd success failed
  · have taken := takeSmpts_taken cfg ops lawful data
      (nodup_gbsFrom (NR_GIGABYTES - 1) NR_GIGABYTES 0).1 success
    have allocated : HostAllocated cfg ops data := by
      rcases Nat.eq_zero_or_pos (smptNrPages cfg) with none | pages
      · exact allocated none
      · exact Taken.allocated cfg ops taken pages
    have entry : ∀ gb, WritableGb gb → (takeSmpts cfg ops data (gbsInRange 0 (NR_GIGABYTES - 1))
        owners fun _ => Fmpt.zero).fmpt gb = readyFmpt (ops.kernHypVa (data gb)) :=
      fun gb writable => taken.entry gb (mem_allGbs.mpr writable)
    have aligned : ∀ gb, WritableGb gb → bufferPa ops data gb % cfg.smptSize = 0 :=
      fun gb writable => taken.aligned gb (mem_allGbs.mpr writable)
    refine ⟨⟨?_, ?_⟩, ?_, ?_, ?_, ?_⟩
    · intro gb writable
      rw [entry gb writable]
      exact lawful.kernHypVa_ne (data gb)
    · intro gb other writable writableOther ne addr inside insideOther
      rw [entry gb writable] at inside
      rw [entry other writableOther] at insideOther
      exact ne (allocated.distinct gb other writable writableOther
        (tables_eq cfg ops inside insideOther (aligned gb writable) (aligned other writableOther)))
    · intro gb writable
      rw [entry gb writable]
      exact aligned gb writable
    · intro gb writable
      rw [entry gb writable]
      exact allocated.memory gb writable
    · intro gb writable
      rw [entry gb writable]
      exact ⟨rfl, rfl⟩
    · intro gb hole
      exact taken.others gb fun mem => hole (mem_allGbs.mp mem)

/-- Whether pages are free host pages of the physical memory. -/
def donatable (owners : Owners) (first count : Nat) : Bool :=
  (range' first count).all (fun page => !owners page) &&
    decide ((first + count) * 2 ^ cfg.pageShift ≤ PA_MAX)

/-- A pKVM whose hypervisor maps physical memory linearly, from `offset` on, and
grants every donation it may grant. -/
def ModOps.linear (offset : Nat) : ModOps where
  kernHypVa va := va + offset
  hypPa va := va - offset
  hostDonateHyp owners first count :=
    if donatable cfg owners first count then
      (0, fun page => decide (first ≤ page ∧ page < first + count) || owners page)
    else (-EINVAL, owners)
  hypDonateHost owners first count :=
    (0, fun page => !decide (first ≤ page ∧ page < first + count) && owners page)

lemma ModOps.linear_lawful {offset : Nat} (positive : 0 < offset) :
    (ModOps.linear cfg offset).Lawful cfg := by
  have granted : ∀ owners first count,
      ((ModOps.linear cfg offset).hostDonateHyp owners first count).1 = 0 →
        donatable cfg owners first count = true := by
    intro owners first count success
    by_contra refused
    simp [linear, refused, EINVAL] at success
  constructor
  · intro va
    simp only [linear]
    omega
  · intro owners first count success page lower upper
    have free := granted owners first count success
    rw [donatable, Bool.and_eq_true, all_eq_true] at free
    simpa using free.1 page (mem_range'_1.mpr ⟨lower, upper⟩)
  · intro owners first count success page
    simp only [linear, granted owners first count success, if_true]
  · intro owners first count success _
    have free := granted owners first count success
    rw [donatable, Bool.and_eq_true] at free
    exact of_decide_eq_true free.2

/-- Buffers one after the other from 2 GiB on. -/
def consecutiveBuffers (gb : Nat) : Nat := 2 * SZ_1G + gb * cfg.smptSize

/-- A V9 build with 4K pages, where everything goes well. -/
def exampleConfig : Config := ⟨.v9, .sz4K⟩

def exampleOps : ModOps := .linear exampleConfig SZ_1G

def exampleInit : InitResult :=
  s2mpuInit exampleConfig exampleOps (consecutiveBuffers exampleConfig) sizeofMpt fun _ => false

lemma exampleOps_lawful : exampleOps.Lawful exampleConfig :=
  ModOps.linear_lawful exampleConfig (by decide)

lemma exampleInit_ret : exampleInit.ret = 0 := by
  decide +kernel

lemma exampleInit_ready : Ready exampleConfig exampleOps exampleInit.fmpt :=
  s2mpuInit_ready exampleConfig exampleOps exampleOps_lawful (fun none => absurd none (by decide))
    exampleInit_ret

end GsKernel.S2mpu
