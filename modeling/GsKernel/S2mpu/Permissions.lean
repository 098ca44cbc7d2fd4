import GsKernel.Lib.RegionStore
import GsKernel.Lib.Runs
import GsKernel.S2mpu.Init

/-!
# The host table as a permission map

One permission for every granule of physical memory; `s2mpu_host_stage2_idmap_prepare` writes one
over the granules of its rounded range. `Encodes` relates a host table to such a map, and
`idmapPrepare_encodes` is the simulation step.
-/

namespace GsKernel.S2mpu

open Lib.RegionStore Lib.Runs

/-- One permission for each granule of physical memory. -/
abbrev Permissions := Nat → MptProt

variable (cfg : Config) (ops : ModOps)

namespace IdmapCall

variable (call : IdmapCall)

/-- The granules of `[ALIGN_DOWN(start), ALIGN(min(end, PA_MAX)))`. -/
def covers (page : Nat) : Bool :=
  decide (alignDown call.first cfg.smptGran ≤ page * cfg.smptGran ∧
    page * cfg.smptGran < align (min call.last PA_MAX) cfg.smptGran)

/-- A call as a write to the permission map. -/
def write : Write Nat MptProt := ⟨call.covers cfg, protToMpt call.prot⟩

/-- First granule of the rounded range. -/
def firstPage : Nat := call.first / cfg.smptGran

/-- First granule after the rounded range. -/
def endPage : Nat := (min call.last PA_MAX + (cfg.smptGran - 1)) / cfg.smptGran

lemma alignDown_first :
    alignDown call.first cfg.smptGran = call.firstPage cfg * cfg.smptGran := rfl

lemma align_last :
    align (min call.last PA_MAX) cfg.smptGran = call.endPage cfg * cfg.smptGran := rfl

lemma covers_iff (page : Nat) :
    call.covers cfg page = true ↔ call.firstPage cfg ≤ page ∧ page < call.endPage cfg := by
  have gran := smptGran_pos cfg
  rw [covers, decide_eq_true_eq, alignDown_first, align_last, Nat.mul_le_mul_right_iff gran,
    Nat.mul_lt_mul_right gran]

lemma firstPage_gb : call.firstPage cfg / cfg.smptNumElems = call.first / SZ_1G := by
  rw [firstPage, Nat.div_div_eq_div_mul, Nat.mul_comm, numElems_gran]

/-- The rounded range ends inside the table. -/
lemma endPage_le : call.endPage cfg ≤ NR_GIGABYTES * cfg.smptNumElems := by
  have gran := smptGran_pos cfg
  have limit : PA_MAX = NR_GIGABYTES * cfg.smptNumElems * cfg.smptGran := by
    rw [Nat.mul_assoc, numElems_gran, Nat.mul_comm]
    rfl
  rw [← Nat.lt_succ_iff, endPage, Nat.div_lt_iff_lt_mul gran, Nat.succ_mul, ← limit]
  omega

end IdmapCall

/-- `to_valid_range` counted in granules. -/
lemma toValidRange_eq (call : IdmapCall) : toValidRange cfg call.first call.last =
      if call.endPage cfg ≤ call.firstPage cfg then none
      else some (call.firstPage cfg * cfg.smptGran, call.endPage cfg * cfg.smptGran) := by
  have cut : (if call.last > PA_MAX then PA_MAX else call.last) = min call.last PA_MAX := by
    split_ifs <;> omega
  simp only [toValidRange, cut, call.alignDown_first, call.align_last, ge_iff_le,
    Nat.mul_le_mul_right_iff (smptGran_pos cfg)]

/-- What one `s2mpu_host_stage2_idmap_prepare` call does, from a writable gigabyte. -/
lemma idmapPrepare_update {st : HostState} {call : IdmapCall}
    (buffers : Buffers cfg ops st.fmpt) (start : WritableGb (call.first / SZ_1G))
    (nonempty : call.firstPage cfg < call.endPage cfg) :
    ∃ st', idmapPrepare cfg ops st call = .ok st' ∧ RangeUpdate cfg ops
        (gbsInRange (call.firstPage cfg / cfg.smptNumElems)
          ((call.endPage cfg - 1) / cfg.smptNumElems))
        (loPage cfg (call.firstPage cfg)) (hiPage cfg (call.endPage cfg - 1))
        (protToMpt call.prot) st st' := by
  rw [← call.firstPage_gb cfg] at start
  have final : call.endPage cfg = call.endPage cfg - 1 + 1 := by omega
  rw [idmapPrepare, toValidRange_eq, if_neg (Nat.not_le_of_lt nonempty)]
  nth_rewrite 1 [final]
  exact prepareRange_update cfg ops (protToMpt call.prot) buffers start (by omega)

/-- A call with an empty rounded range changes nothing. -/
lemma idmapPrepare_empty (st : HostState) {call : IdmapCall}
    (empty : call.endPage cfg ≤ call.firstPage cfg) : idmapPrepare cfg ops st call = .ok st := by
  rw [idmapPrepare, toValidRange_eq, if_pos empty]

/-- A host table that encodes a permission map in its writable gigabytes and
has never been touched in the others. -/
structure Encodes (st : HostState) (perms : Permissions) : Prop where
  buffers : Buffers cfg ops st.fmpt
  hole : ∀ gb, ¬ WritableGb gb → st.fmpt gb = Fmpt.zero
  pages : ∀ gb, WritableGb gb → ∀ page < cfg.smptNumElems,
    (st.fmpt gb).pageProt cfg ops st.mem page = (perms (gb * cfg.smptNumElems + page)).bits

/-- One call keeps the table an encoding of the map it writes to. -/
lemma idmapPrepare_encodes (st : HostState) (perms : Permissions) (call : IdmapCall)
    (encodes : Encodes cfg ops st perms) (start : WritableGb (call.first / SZ_1G)) :
    ∃ st', idmapPrepare cfg ops st call = .ok st' ∧
      Encodes cfg ops st' ((call.write cfg).apply perms) := by
  by_cases nonempty : call.firstPage cfg < call.endPage cfg
  · obtain ⟨st', ran, update⟩ := idmapPrepare_update cfg ops encodes.buffers start nonempty
    refine ⟨st', ran, encodes.buffers.of_smpt cfg ops update.smpt, ?_, ?_⟩
    · intro gb hole
      rw [update.others gb fun mem => hole (writable_of_mem_gbsInRange ?_ mem),
        encodes.hole gb hole]
      rwa [call.firstPage_gb cfg]
    · intro gb writable page inside
      have covered : call.covers cfg (gb * cfg.smptNumElems + page) = true ↔ _ :=
        call.covers_iff cfg _
      rw [update.pages gb writable page inside, encodes.pages gb writable page inside]
      simp only [mem_parts_iff cfg writable inside, Write.apply, IdmapCall.write, covered]
      split_ifs <;> first | rfl | omega
  · refine ⟨st, idmapPrepare_empty cfg ops st (Nat.le_of_not_lt nonempty), encodes.buffers,
      encodes.hole, ?_⟩
    intro gb writable page inside
    have uncovered : call.covers cfg (gb * cfg.smptNumElems + page) = false := by
      rw [Bool.eq_false_iff, ne_eq, call.covers_iff cfg]
      omega
    simp only [Write.apply, IdmapCall.write, uncovered]
    exact encodes.pages gb writable page inside

/-- A ready table encodes read and write access everywhere. -/
lemma Ready.encodes {fmpt : Nat → Fmpt} (ready : Ready cfg ops fmpt) (mem : Mem) :
    Encodes cfg ops ⟨mem, fmpt⟩ fun _ => .rw := by
  refine ⟨ready.buffers, ready.hole, ?_⟩
  intro gb writable page _
  obtain ⟨block, prot⟩ := ready.block gb writable
  simp only [Fmpt.pageProt, block, prot, if_true]

/-- The permission of a granule is what the source's reader functions compute. -/
lemma encodedProt_page (st : HostState) (page : Nat) :
    encodedProt cfg ops st (page * cfg.smptGran) =
      ((st.fmpt (page / cfg.smptNumElems)).pageProt cfg ops st.mem
        (page % cfg.smptNumElems)).setWidth 32 := by
  have gran := smptGran_pos cfg
  have index := byteToSmptIndex_page cfg (page % cfg.smptNumElems)
  rw [byteToSmptIndex] at index
  simp only [encodedProt, ← numElems_gran cfg, Nat.mul_div_mul_right _ _ gran,
    Nat.mul_mod_mul_right, protFromAddrSmpt_eq, index, Nat.mul_div_cancel _ gran, Fmpt.pageProt,
    access, MptProt.val]
  split_ifs <;> rfl

/-- Permission of the last call whose rounded range contains a granule, read and
write access if there is none. -/
def lastProt (calls : List IdmapCall) (page : Nat) : MptProt :=
  (Write.last (calls.map (IdmapCall.write cfg)) page).getD .rw

/-- Runs of calls from writable gigabytes refine runs of writes to the map. -/
lemma foldlM_idmapPrepare_encodes {st : HostState} (perms : Permissions)
    (encodes : Encodes cfg ops st perms) (calls : List IdmapCall)
    (starts : ∀ call ∈ calls, WritableGb (call.first / SZ_1G)) :
    ∃ st', calls.foldlM (idmapPrepare cfg ops) st = .ok st' ∧
      Encodes cfg ops st' ((calls.map (IdmapCall.write cfg)).foldl Write.apply perms) := by
  rw [List.foldl_map]
  exact foldlM_simulates (Encodes cfg ops) _ _ _
    (fun st perms call => idmapPrepare_encodes cfg ops st perms call) calls perms encodes starts

/-- After any run of calls the table encodes for every granule the permission of
the last call that covers it. -/
theorem encodedProt_foldlM_idmapPrepare (lawful : ops.Lawful cfg) {data : Nat → Nat} {size : Nat}
    {owners : Owners} (allocated : smptNrPages cfg = 0 → HostAllocated cfg ops data)
    (success : (s2mpuInit cfg ops data size owners).ret = 0) (mem : Mem) (calls : List IdmapCall)
    (starts : ∀ call ∈ calls, WritableGb (call.first / SZ_1G)) :
    ∃ st, calls.foldlM (idmapPrepare cfg ops)
        ⟨mem, (s2mpuInit cfg ops data size owners).fmpt⟩ = .ok st ∧
      ∀ page, WritableGb (page * cfg.smptGran / SZ_1G) →
        encodedProt cfg ops st (page * cfg.smptGran) = (lastProt cfg calls page).val := by
  have ready := s2mpuInit_ready cfg ops lawful allocated success
  obtain ⟨st, ran, encodes⟩ :=
    foldlM_idmapPrepare_encodes cfg ops _ (ready.encodes cfg ops mem) calls starts
  refine ⟨st, ran, fun page writable => ?_⟩
  rw [firstByte_gb] at writable
  rw [encodedProt_page, encodes.pages _ writable _ (Nat.mod_lt _ (numElems_pos cfg)),
    Nat.div_add_mod', Write.foldl_apply]
  rfl

/-- Two overlapping calls on a V9 build: a page map inside the first gigabyte,
then read access across the read-only hole. -/
theorem encodedProt_two_calls :
    let calls : List IdmapCall := [⟨0x3000, 0x9000, 0⟩, ⟨0x8000, 35 * SZ_1G, 4⟩]
    ∃ st, calls.foldlM (idmapPrepare exampleConfig exampleOps) ⟨fun _ => 0, exampleInit.fmpt⟩ =
        .ok st ∧
      encodedProt exampleConfig exampleOps st (7 * SZ_4K) = MptProt.none.val ∧
      encodedProt exampleConfig exampleOps st (8 * SZ_4K) = MptProt.r.val ∧
      encodedProt exampleConfig exampleOps st (2 * SZ_4K) = MptProt.rw.val := by
  intro calls
  obtain ⟨st, ran, encoded⟩ := encodedProt_foldlM_idmapPrepare exampleConfig exampleOps
    exampleOps_lawful (fun none => absurd none (by decide)) exampleInit_ret (fun _ => 0) calls
    (by decide)
  refine ⟨st, ran, ?_, ?_, ?_⟩
  · exact (encoded 7 (by decide)).trans (by decide)
  · exact (encoded 8 (by decide)).trans (by decide)
  · exact (encoded 2 (by decide)).trans (by decide)

lemma bits_injective : Function.Injective MptProt.bits := by
  intro left right
  cases left <;> cases right <;> decide

/-- `__set_fmpt_range` leaves page entries only where `__is_smpt_uniform` refuses them for every
permission. It asks about the new one only, which the pages of its range have. -/
theorem setFmptRange_joins {fmpt : Fmpt} {first last : Nat} (prot : MptProt) (mem : Mem)
    (nonnull : fmpt.smpt ≠ 0) (nonempty : first < last) (bounded : last ≤ cfg.smptNumElems) :
    ∃ fmpt' mem', setFmptRange cfg ops fmpt (first * cfg.smptGran) (last * cfg.smptGran) prot mem =
        .ok (fmpt', mem') ∧ (fmpt'.gran1g = false → ∀ other,
          isSmptUniform cfg (ops.smptWord fmpt'.smpt) other mem' = false) := by
  obtain ⟨fmpt', mem', ran, done⟩ := setFmptRange_update cfg ops prot mem nonnull nonempty bounded
  refine ⟨fmpt', mem', ran, fun table other => ?_⟩
  by_contra accepted
  rw [Bool.not_eq_false] at accepted
  have uniform : ∀ page < cfg.smptNumElems, (if first ≤ page ∧ page < last then prot.bits
      else fmpt.pageProt cfg ops mem page) = other.bits := by
    intro page inside
    rw [← done.pages page inside, Fmpt.pageProt, if_neg (by simp [table]),
      access_of_isSmptUniform cfg accepted inside]
  obtain rfl : prot = other := by
    have start := uniform first (by omega)
    rw [if_pos ⟨le_rfl, nonempty⟩] at start
    exact bits_injective start
  unfold setFmptRange at ran
  simp only [setSmptRangeAt_eq cfg ops nonnull, isSmptUniformAt, if_neg nonnull, Bind.bind,
    Except.bind] at ran
  split_ifs at ran with whole same block same <;> cases ran
  · simp [same] at table
  · cases table
  · simp [block] at table
  -- A page outside the range still has the permission of the 1G mapping.
  · obtain ⟨page, inside, outside⟩ :
        ∃ page < cfg.smptNumElems, ¬ (first ≤ page ∧ page < last) := by
      by_contra every
      push Not at every
      have start := every 0 (by omega)
      have stop := every (cfg.smptNumElems - 1) (by omega)
      refine whole ⟨by simp [Nat.le_zero.mp start.1], ?_⟩
      rw [← numElems_gran cfg]
      exact Nat.mul_le_mul_right _ (by omega)
    have kept := uniform page inside
    rw [if_neg outside, Fmpt.pageProt, if_pos block] at kept
    exact same (bits_injective kept)
  · simp_all
  · cases table

theorem setFmptRange_joins_one :
    ∃ fmpt' mem', setFmptRange exampleConfig exampleOps ⟨1, true, .rw, ⟨false, false⟩⟩
        (3 * SZ_4K) (9 * SZ_4K) .r (fun _ => 0) = .ok (fmpt', mem') ∧
      (fmpt'.gran1g = false → ∀ other,
        isSmptUniform exampleConfig (exampleOps.smptWord fmpt'.smpt) other mem' = false) :=
  setFmptRange_joins exampleConfig _ .r _ (by decide) (by decide) (by decide)

end GsKernel.S2mpu
