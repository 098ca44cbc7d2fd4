import GsKernel.S2mpu.Smpt

/-!
# The host permission table

`host_mpt` and the functions that edit it for an identity-map update:
`__set_fmpt_range`, `prepare_range`, `to_valid_range` and
`s2mpu_host_stage2_idmap_prepare`. A dereference of a NULL `smpt` pointer is
the fault `nullSmpt`; every other behaviour is total.

`mem_gbsInRange` says which gigabytes the iteration macro visits.
-/

namespace GsKernel.S2mpu

/-- The increment of `for_each_gb_in_range`: gigabyte 3 is followed by 34. -/
def nextGb (i : Nat) : Nat := (if i + 1 = RO_GIGABYTES_FIRST then RO_GIGABYTES_LAST else i) + 1

/-- At most `fuel` gigabytes of `for_each_gb_in_range`, from `i`. -/
def gbsFrom (last : Nat) : Nat → Nat → List Nat
  | 0, _ => []
  | fuel + 1, i =>
    if i ≤ last ∧ i < NR_GIGABYTES then i :: gbsFrom last fuel (nextGb i) else []

/-- The gigabytes `for_each_gb_in_range(i, first, last)` visits. -/
def gbsInRange (first last : Nat) : List Nat := gbsFrom last NR_GIGABYTES first

/-- The gigabytes whose registers can be modified. -/
def WritableGb (gb : Nat) : Prop :=
  gb < NR_GIGABYTES ∧ ¬ (RO_GIGABYTES_FIRST ≤ gb ∧ gb ≤ RO_GIGABYTES_LAST)

instance (gb : Nat) : Decidable (WritableGb gb) := inferInstanceAs (Decidable (_ ∧ _))

/-- `enum mpt_update_flags`, a set of two bits. -/
structure MptUpdateFlags where
  l1 : Bool
  l2 : Bool
deriving DecidableEq

/-- `struct fmpt`; `smpt` is a hypervisor address and 0 is NULL. -/
structure Fmpt where
  smpt : Nat
  gran1g : Bool
  prot : MptProt
  flags : MptUpdateFlags
deriving DecidableEq

/-- A zeroed `struct fmpt`. -/
def Fmpt.zero : Fmpt := ⟨0, false, .none, ⟨false, false⟩⟩

/-- Page ownership, by page frame number: `true` for the hypervisor. -/
abbrev Owners := Nat → Bool

/-- The `pkvm_module_ops` the driver calls. Donations return an error code. -/
structure ModOps where
  kernHypVa : Nat → Nat
  hypPa : Nat → Nat
  hostDonateHyp : Owners → Nat → Nat → Int × Owners
  hypDonateHost : Owners → Nat → Nat → Int × Owners

/-- `host_mpt` and the memory its SMPT pointers lead to. -/
structure HostState where
  mem : Mem
  fmpt : Nat → Fmpt

/-- The state after an update of one entry that left memory as `mem`. -/
def HostState.setFmpt (st : HostState) (gb : Nat) (fmpt : Fmpt) (mem : Mem) : HostState :=
  { mem := mem, fmpt := Function.update st.fmpt gb fmpt }

/-- What stops the hypervisor. -/
inductive Fault where
  | nullSmpt
deriving DecidableEq

/-- Word address of the table behind a hypervisor address. -/
def ModOps.smptWord (ops : ModOps) (smpt : Nat) : Nat := ops.hypPa smpt / 4

variable (cfg : Config) (ops : ModOps)

/-- `__set_smpt_range` through a pointer: the table is touched only when the
range is not empty. -/
def setSmptRangeAt (smpt : Nat) (prot : MptProt) (startGbByte endGbByte : Nat) (mem : Mem) :
    Except Fault Mem :=
  if startGbByte ≥ endGbByte then .ok mem
  else if smpt = 0 then .error .nullSmpt
  else .ok (setSmptRange cfg (ops.smptWord smpt) prot startGbByte endGbByte mem)

/-- `__is_smpt_uniform` through a pointer. -/
def isSmptUniformAt (smpt : Nat) (prot : MptProt) (mem : Mem) : Except Fault Bool :=
  if smpt = 0 then .error .nullSmpt
  else .ok (isSmptUniform cfg (ops.smptWord smpt) prot mem)

/-- `__set_fmpt_range`. -/
def setFmptRange (fmpt : Fmpt) (startGbByte endGbByte : Nat) (prot : MptProt) (mem : Mem) :
    Except Fault (Fmpt × Mem) :=
  if startGbByte = 0 ∧ endGbByte ≥ SZ_1G then
    if fmpt.gran1g = true ∧ fmpt.prot = prot then
      .ok ({ fmpt with flags := ⟨false, false⟩ }, mem)
    else
      .ok ({ fmpt with gran1g := true, prot := prot, flags := ⟨true, false⟩ }, mem)
  else if fmpt.gran1g = true then
    if fmpt.prot = prot then
      .ok ({ fmpt with flags := ⟨false, false⟩ }, mem)
    else do
      let mem ← setSmptRangeAt cfg ops fmpt.smpt fmpt.prot 0 startGbByte mem
      let mem ← setSmptRangeAt cfg ops fmpt.smpt prot startGbByte endGbByte mem
      let mem ← setSmptRangeAt cfg ops fmpt.smpt fmpt.prot endGbByte SZ_1G mem
      .ok ({ fmpt with gran1g := false, flags := ⟨true, true⟩ }, mem)
  else do
    let mem ← setSmptRangeAt cfg ops fmpt.smpt prot startGbByte endGbByte mem
    let uniform ← isSmptUniformAt cfg ops fmpt.smpt prot mem
    if uniform = false then
      .ok ({ fmpt with flags := ⟨false, true⟩ }, mem)
    else
      .ok ({ fmpt with gran1g := true, prot := prot, flags := ⟨true, false⟩ }, mem)

/-- One turn of the loop of `prepare_range`. The cache flush it ends with does
not change what memory holds. -/
def prepareGb (firstByte lastByte : Nat) (prot : MptProt) (st : HostState) (gb : Nat) :
    Except Fault HostState := do
  let startGbByte := if gb = firstByte / SZ_1G then firstByte % SZ_1G else 0
  let endGbByte := if gb = lastByte / SZ_1G then lastByte % SZ_1G + 1 else SZ_1G
  let (fmpt, mem) ← setFmptRange cfg ops (st.fmpt gb) startGbByte endGbByte prot st.mem
  .ok (st.setFmpt gb fmpt mem)

/-- `prepare_range`. -/
def prepareRange (firstByte lastByte : Nat) (prot : MptProt) (st : HostState) :
    Except Fault HostState :=
  (gbsInRange (firstByte / SZ_1G) (lastByte / SZ_1G)).foldlM
    (prepareGb cfg ops firstByte lastByte prot) st

/-- `to_valid_range`: the range cut at `PA_MAX` and rounded to whole granules. -/
def toValidRange (first last : Nat) : Option (Nat × Nat) :=
  let newEnd := if last > PA_MAX then PA_MAX else last
  let newStart := alignDown first cfg.smptGran
  let newEnd := align newEnd cfg.smptGran
  if newStart ≥ newEnd then none else some (newStart, newEnd)

/-- `KVM_PGTABLE_PROT_W` and `KVM_PGTABLE_PROT_R`. -/
def KVM_PGTABLE_PROT_W : BitVec 64 := 1 <<< 1
def KVM_PGTABLE_PROT_R : BitVec 64 := 1 <<< 2

/-- `prot_to_mpt`. -/
def protToMpt (prot : BitVec 64) : MptProt :=
  if prot &&& KVM_PGTABLE_PROT_R ≠ 0 then
    if prot &&& KVM_PGTABLE_PROT_W ≠ 0 then .rw else .r
  else if prot &&& KVM_PGTABLE_PROT_W ≠ 0 then .w else .none

/-- The arguments of one `s2mpu_host_stage2_idmap_prepare` call. -/
structure IdmapCall where
  first : Nat
  last : Nat
  prot : BitVec 64
deriving DecidableEq

/-- `s2mpu_host_stage2_idmap_prepare`. -/
def idmapPrepare (st : HostState) (call : IdmapCall) : Except Fault HostState :=
  match toValidRange cfg call.first call.last with
  | none => .ok st
  | some (first, last) => prepareRange cfg ops first (last - 1) (protToMpt call.prot) st

/-- The permission the table encodes for the page at `addr`: `fmpt.prot` for a
1G mapping, else the access bits `prot_from_addr_smpt` reads. -/
def encodedProt (st : HostState) (addr : Nat) : BitVec 32 :=
  let fmpt := st.fmpt (addr / SZ_1G)
  if fmpt.gran1g = true then fmpt.prot.val
  else protFromAddrSmpt cfg st.mem (ops.smptWord fmpt.smpt) (addr % SZ_1G)

@[simp]
lemma HostState.setFmpt_mem (st : HostState) (gb : Nat) (fmpt : Fmpt) (mem : Mem) :
    (st.setFmpt gb fmpt mem).mem = mem := rfl

@[simp]
lemma HostState.setFmpt_self (st : HostState) (gb : Nat) (fmpt : Fmpt) (mem : Mem) :
    (st.setFmpt gb fmpt mem).fmpt gb = fmpt := Function.update_self ..

lemma HostState.setFmpt_of_ne (st : HostState) {gb other : Nat} (fmpt : Fmpt) (mem : Mem)
    (ne : other ≠ gb) : (st.setFmpt gb fmpt mem).fmpt other = st.fmpt other :=
  Function.update_of_ne ne ..

lemma nextGb_cases (i : Nat) : i = 3 ∧ nextGb i = 34 ∨ i ≠ 3 ∧ nextGb i = i + 1 := by
  unfold nextGb
  by_cases edge : i + 1 = RO_GIGABYTES_FIRST
  · rw [if_pos edge]
    exact .inl ⟨Nat.succ.inj edge, rfl⟩
  · rw [if_neg edge]
    exact .inr ⟨fun three => edge (congrArg Nat.succ three), rfl⟩

/-- The loop visits the gigabytes of its range; it steps over the read-only ones
only when it comes from below them. -/
lemma mem_gbsFrom {last fuel i gb : Nat} (enough : NR_GIGABYTES ≤ i + fuel) :
    gb ∈ gbsFrom last fuel i ↔ i ≤ gb ∧ gb ≤ last ∧ gb < NR_GIGABYTES ∧
      (i < RO_GIGABYTES_FIRST → ¬ (RO_GIGABYTES_FIRST ≤ gb ∧ gb ≤ RO_GIGABYTES_LAST)) := by
  induction fuel generalizing i with
  | zero =>
    simp only [gbsFrom, List.not_mem_nil, false_iff]
    omega
  | succ fuel ih =>
    have step := nextGb_cases i
    by_cases inside : i ≤ last ∧ i < NR_GIGABYTES
    · rw [gbsFrom, if_pos inside, List.mem_cons, ih (by omega : NR_GIGABYTES ≤ nextGb i + fuel)]
      simp only [NR_GIGABYTES, RO_GIGABYTES_FIRST, RO_GIGABYTES_LAST] at *
      omega
    · rw [gbsFrom, if_neg inside]
      simp only [List.not_mem_nil, false_iff]
      omega

lemma mem_gbsInRange {first last gb : Nat} :
    gb ∈ gbsInRange first last ↔ first ≤ gb ∧ gb ≤ last ∧ gb < NR_GIGABYTES ∧
      (first < RO_GIGABYTES_FIRST → ¬ (RO_GIGABYTES_FIRST ≤ gb ∧ gb ≤ RO_GIGABYTES_LAST)) :=
  mem_gbsFrom (by omega)

lemma nodup_gbsFrom (last fuel i : Nat) :
    (gbsFrom last fuel i).Nodup ∧ ∀ gb ∈ gbsFrom last fuel i, i ≤ gb := by
  induction fuel generalizing i with
  | zero => simp [gbsFrom]
  | succ fuel ih =>
    have step := nextGb_cases i
    obtain ⟨nodup, above⟩ := ih (nextGb i)
    rw [gbsFrom]
    split_ifs
    · refine ⟨List.nodup_cons.mpr ⟨fun again => ?_, nodup⟩, ?_⟩
      · have := above i again
        omega
      · intro gb mem
        rcases List.mem_cons.mp mem with rfl | later
        · exact Nat.le_refl _
        · have := above gb later
          omega
    · simp

/-- A loop that is entered visits its first gigabyte first, and only once. -/
lemma gbsInRange_eq_cons {first last : Nat} (ordered : first ≤ last)
    (inside : first < NR_GIGABYTES) :
    ∃ gbs, gbsInRange first last = first :: gbs ∧ first ∉ gbs := by
  have unrolled : gbsInRange first last =
      first :: gbsFrom last (NR_GIGABYTES - 1) (nextGb first) := if_pos ⟨ordered, inside⟩
  have nodup := (nodup_gbsFrom last NR_GIGABYTES first).1
  rw [← gbsInRange, unrolled, List.nodup_cons] at nodup
  exact ⟨_, unrolled, nodup.1⟩

/-- A loop that starts at a writable gigabyte visits only writable ones. -/
lemma writable_of_mem_gbsInRange {first last gb : Nat} (start : WritableGb first)
    (mem : gb ∈ gbsInRange first last) : WritableGb gb := by
  rw [mem_gbsInRange] at mem
  unfold WritableGb at *
  omega

end GsKernel.S2mpu
