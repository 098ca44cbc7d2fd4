import GsKernel.S2mpu.DeviceRegs

/-!
# What an update may touch

The read-only gigabytes 4 to 33 have no SMPT buffer and read-only registers.
`for_each_gb_in_range` steps over them in its increment only, so a range that starts among them
edits an entry of the hole or dereferences its NULL pointer. `confined_iff` says for which ranges
the frame property holds.
-/

namespace GsKernel.S2mpu

open Lib.RegionStore Lib.Runs List Nat

variable (cfg : Config) (ops : ModOps)

/-- Some granule of the rounded range lies in the gigabyte. -/
def IdmapCall.Meets (call : IdmapCall) (gb : Nat) : Prop :=
  ∃ page, call.covers cfg page = true ∧ page * cfg.smptGran / SZ_1G = gb

/-- Preparing an update and applying it to a device changes only `fmpt` entries,
SMPT words and L1 registers of writable gigabytes that the range meets. -/
def Confined (st : HostState) (call : IdmapCall) (dev : Device) : Prop :=
  ∃ st', idmapPrepare cfg ops st call = .ok st' ∧
    (∀ gb, st'.fmpt gb ≠ st.fmpt gb → WritableGb gb ∧ call.Meets cfg gb) ∧
    (∀ addr, st'.mem addr ≠ st.mem addr →
      ∃ gb, WritableGb gb ∧ call.Meets cfg gb ∧ (st.fmpt gb).Table cfg ops addr) ∧
    ∀ vid gb, vid < NR_VIDS → gb < NR_GIGABYTES →
      (idmapApply cfg st'.fmpt call dev).regs (REG_NS_L1ENTRY_ATTR vid gb) ≠
          dev.regs (REG_NS_L1ENTRY_ATTR vid gb) ∨
        (idmapApply cfg st'.fmpt call dev).regs (REG_NS_L1ENTRY_L2TABLE_ADDR vid gb) ≠
          dev.regs (REG_NS_L1ENTRY_L2TABLE_ADDR vid gb) →
      WritableGb gb ∧ call.Meets cfg gb

/-- Ranges the iteration macro handles: empty after rounding, or starting in a
writable gigabyte. -/
def IdmapCall.Safe (call : IdmapCall) : Prop :=
  align (min call.last PA_MAX) cfg.smptGran ≤ alignDown call.first cfg.smptGran ∨
    WritableGb (call.first / SZ_1G)

lemma IdmapCall.safe_iff (call : IdmapCall) :
    call.Safe cfg ↔ call.endPage cfg ≤ call.firstPage cfg ∨ WritableGb (call.first / SZ_1G) := by
  rw [Safe, call.align_last, call.alignDown_first, Nat.mul_le_mul_right_iff (smptGran_pos cfg)]

variable {call : IdmapCall}

/-- A range meets every gigabyte the loop visits for it. -/
lemma meets_of_visited {gb : Nat}
    (nonempty : call.firstPage cfg < call.endPage cfg) (writable : WritableGb gb)
    (visited : gb ∈ gbsInRange (call.firstPage cfg / cfg.smptNumElems)
      ((call.endPage cfg - 1) / cfg.smptNumElems)) : call.Meets cfg gb := by
  have ordered : call.firstPage cfg ≤ call.endPage cfg - 1 := by omega
  obtain ⟨part, bounded⟩ := loPage_lt_hiPage cfg gb ordered
  have inside : loPage cfg (call.firstPage cfg) gb < cfg.smptNumElems := by omega
  have covered := (mem_parts_iff cfg writable inside).mp ⟨visited, le_refl _, part⟩
  refine ⟨gb * cfg.smptNumElems + loPage cfg (call.firstPage cfg) gb, ?_, ?_⟩
  · rw [call.covers_iff cfg]
    omega
  · rw [firstByte_gb, add_comm, add_mul_div_right _ _ (numElems_pos cfg), div_eq_of_lt inside, zero_add]

variable {st : HostState}

/-- Updates that start in a writable gigabyte stay in the writable gigabytes. -/
lemma confined_of_writable (dev : Device)
    (buffers : Buffers cfg ops st.fmpt) (start : WritableGb (call.first / SZ_1G))
    (nonempty : call.firstPage cfg < call.endPage cfg) : Confined cfg ops st call dev := by
  obtain ⟨st', ran, update⟩ := idmapPrepare_update cfg ops buffers start nonempty
  rw [← call.firstPage_gb cfg] at start
  have touched : ∀ gb, gb ∈ gbsInRange (call.firstPage cfg / cfg.smptNumElems)
      ((call.endPage cfg - 1) / cfg.smptNumElems) → WritableGb gb ∧ call.Meets cfg gb :=
    fun gb visited =>
      have writable := writable_of_mem_gbsInRange start visited
      ⟨writable, meets_of_visited cfg nonempty writable visited⟩
  refine ⟨st', ran, ?_, ?_, ?_⟩
  · intro gb changed
    by_contra untouched
    exact changed (update.others gb fun visited => untouched (touched gb visited))
  · intro addr changed
    by_contra untouched
    refine changed (update.frame addr fun gb visited table => untouched ⟨gb, ?_⟩)
    exact ⟨(touched gb visited).1, (touched gb visited).2, table⟩
  · intro vid gb bounded inside changed
    by_contra untouched
    have missing := fun visited => untouched (touched gb visited)
    by_cases denied : dev.denyAll = true
    · simp [idmapApply_denied cfg _ call denied] at changed
    have quiet := writesIn_rangeInvalidationInit dev (call.firstPage cfg * cfg.smptGran)
      (call.endPage cfg * cfg.smptGran - 1)
    rw [idmapApply_eq cfg nonempty denied, quiet.write_eq _ (.inr (attr_high vid gb)),
      quiet.write_eq _ (.inr (l2tableAddr_high vid gb)), write_applyRange_l2tableAddr,
      write_applyRange cfg _ _ _ _ bounded inside, if_neg fun updated => missing updated.1]
      at changed
    simp at changed

/-- An update with an empty rounded range changes nothing at all. -/
lemma confined_of_empty (st : HostState) (dev : Device)
    (empty : call.endPage cfg ≤ call.firstPage cfg) : Confined cfg ops st call dev := by
  refine ⟨st, idmapPrepare_empty cfg ops st empty, fun _ changed => absurd rfl changed,
    fun _ changed => absurd rfl changed, fun _ _ _ _ changed => ?_⟩
  rw [idmapApply_empty cfg _ _ empty] at changed
  simp at changed

/-- The loop leaves the entries it does not visit alone, wherever it starts. -/
lemma foldlM_prepareGb_others {firstByte lastByte : Nat} {prot : MptProt} {gbs : List Nat}
    {st st' : HostState} {gb : Nat} (missing : gb ∉ gbs)
    (ran : gbs.foldlM (prepareGb cfg ops firstByte lastByte prot) st = .ok st') :
    st'.fmpt gb = st.fmpt gb := by
  induction gbs generalizing st with
  | nil =>
    cases ran
    rfl
  | cons head gbs ih =>
    rw [mem_cons, not_or] at missing
    rw [foldlM_cons] at ran
    cases turn : prepareGb cfg ops firstByte lastByte prot st head with
    | error fault =>
      rw [turn] at ran
      cases ran
    | ok next =>
      rw [turn] at ran
      have kept := ih missing.2 ran
      simp only [prepareGb, Bind.bind, Except.bind] at turn
      split at turn
      · cases turn
      · cases turn
        rw [kept, st.setFmpt_of_ne _ _ missing.1]

/-- An entry of the hole either faults or is turned into a 1G mapping. -/
lemma setFmptRange_zero {startGbByte endGbByte : Nat} (nonempty : startGbByte < endGbByte)
    (prot : MptProt) (mem : Mem) :
    setFmptRange cfg ops Fmpt.zero startGbByte endGbByte prot mem =
      if startGbByte = 0 ∧ endGbByte ≥ SZ_1G then
        .ok ({ Fmpt.zero with gran1g := true, prot := prot, flags := ⟨true, false⟩ }, mem)
      else .error .nullSmpt := by
  have table : ¬ Fmpt.zero.gran1g = true := by decide
  have null : setSmptRangeAt cfg ops Fmpt.zero.smpt prot startGbByte endGbByte mem =
      .error .nullSmpt := by
    rw [setSmptRangeAt, if_neg (Nat.not_le_of_lt nonempty), if_pos (by decide)]
  rw [setFmptRange]
  by_cases whole : startGbByte = 0 ∧ endGbByte ≥ SZ_1G
  · rw [if_pos whole, if_pos whole, if_neg fun same => table same.1]
  · rw [if_neg whole, if_neg whole, if_neg table, null]
    rfl

/-- A turn of the loop at an entry of the hole does not leave it zeroed. -/
lemma prepareGb_zero {first final gb : Nat} {prot : MptProt} {st st' : HostState}
    (ordered : first ≤ final) (hole : st.fmpt gb = Fmpt.zero)
    (turn : prepareGb cfg ops (first * cfg.smptGran) ((final + 1) * cfg.smptGran - 1) prot st gb =
      .ok st') : (st'.fmpt gb).gran1g = true := by
  have bytes := mul_lt_mul_of_pos_right (loPage_lt_hiPage cfg gb ordered).1 (smptGran_pos cfg)
  rw [prepareGb, startGbByte_page, endGbByte_page, hole, setFmptRange_zero cfg ops bytes] at turn
  split_ifs at turn
  · cases turn
    rw [st.setFmpt_self]
  · cases turn

/-- A range that starts in the hole leaves the frame. -/
lemma not_confined_of_hole (dev : Device) (hole : st.fmpt (call.first / SZ_1G) = Fmpt.zero)
    (readOnly : ¬ WritableGb (call.first / SZ_1G))
    (nonempty : call.firstPage cfg < call.endPage cfg) : ¬ Confined cfg ops st call dev := by
  rintro ⟨st', ran, entries, -, -⟩
  have ordered : call.firstPage cfg ≤ call.endPage cfg - 1 := by omega
  have final : call.endPage cfg = call.endPage cfg - 1 + 1 := by omega
  have inside : call.first / SZ_1G < NR_GIGABYTES := by
    rw [← call.firstPage_gb cfg, Nat.div_lt_iff_lt_mul (numElems_pos cfg)]
    exact Nat.lt_of_lt_of_le nonempty (call.endPage_le cfg)
  rw [← call.firstPage_gb cfg] at hole readOnly inside
  obtain ⟨gbs, visited, fresh⟩ := gbsInRange_eq_cons (Nat.div_le_div_right ordered) inside
  rw [idmapPrepare, toValidRange_eq, if_neg (Nat.not_le_of_lt nonempty), final] at ran
  simp only [prepareRange, firstByte_gb, lastByte_gb, visited, foldlM_cons] at ran
  -- the first turn is at an entry of the hole, and no later turn comes back to it
  cases turn : prepareGb cfg ops (call.firstPage cfg * cfg.smptGran)
      ((call.endPage cfg - 1 + 1) * cfg.smptGran - 1) (protToMpt call.prot) st
      (call.firstPage cfg / cfg.smptNumElems) with
  | error fault =>
    rw [turn] at ran
    cases ran
  | ok next =>
    rw [turn] at ran
    have block := prepareGb_zero cfg ops ordered hole turn
    rw [← foldlM_prepareGb_others cfg ops fresh ran] at block
    refine readOnly (entries _ fun same => ?_).1
    rw [same, hole] at block
    exact absurd block (by decide)

/-- The frame property of an update holds for the safe ranges and no others. -/
lemma confined_iff_safe {perms : Permissions}
    (encodes : Encodes cfg ops st perms) (call : IdmapCall) (dev : Device) :
    Confined cfg ops st call dev ↔ call.Safe cfg := by
  rw [call.safe_iff]
  by_cases empty : call.endPage cfg ≤ call.firstPage cfg
  · exact ⟨fun _ => .inl empty, fun _ => confined_of_empty cfg ops st dev empty⟩
  have nonempty := Nat.lt_of_not_le empty
  constructor
  · intro confined
    by_contra unsafeRange
    rw [not_or] at unsafeRange
    exact not_confined_of_hole cfg ops dev (encodes.hole _ unsafeRange.2) unsafeRange.2 nonempty
      confined
  · intro safe
    exact confined_of_writable cfg ops dev encodes.buffers (safe.resolve_left empty) nonempty

/-- Safe calls keep the table an encoding of some permission map. -/
lemma idmapPrepare_safe (st : HostState) (call : IdmapCall)
    (encodes : ∃ perms, Encodes cfg ops st perms) (safe : call.Safe cfg) :
    ∃ st', idmapPrepare cfg ops st call = .ok st' ∧ ∃ perms, Encodes cfg ops st' perms := by
  obtain ⟨perms, encodes⟩ := encodes
  rcases (call.safe_iff cfg).mp safe with empty | start
  · exact ⟨st, idmapPrepare_empty cfg ops st empty, perms, encodes⟩
  · obtain ⟨st', ran, kept⟩ := idmapPrepare_encodes cfg ops st perms call encodes start
    exact ⟨st', ran, _, kept⟩

/-- After any run of safe calls, the next call touches only writable gigabytes it
meets exactly when it is safe too. -/
theorem confined_after_safe_calls (lawful : ops.Lawful cfg) {data : Nat → Nat} {size : Nat}
    {owners : Owners} (allocated : smptNrPages cfg = 0 → HostAllocated cfg ops data)
    (success : (s2mpuInit cfg ops data size owners).ret = 0) (mem : Mem) (calls : List IdmapCall)
    (safe : ∀ call ∈ calls, call.Safe cfg) :
    ∃ st, calls.foldlM (idmapPrepare cfg ops)
        ⟨mem, (s2mpuInit cfg ops data size owners).fmpt⟩ = .ok st ∧
      ∀ call dev, Confined cfg ops st call dev ↔ call.Safe cfg := by
  have ready := s2mpuInit_ready cfg ops lawful allocated success
  obtain ⟨st, ran, perms, encodes⟩ := foldlM_invariant
    (fun st => ∃ perms, Encodes cfg ops st perms) _ _ (idmapPrepare_safe cfg ops) calls
    ⟨_, ready.encodes cfg ops mem⟩ safe
  exact ⟨st, ran, fun call dev => confined_iff_safe cfg ops encodes call dev⟩

/-- The state after a call that crosses the hole from below. -/
theorem confined_after_one_call :
    let calls : List IdmapCall := [⟨0x3000, 35 * SZ_1G, 4⟩]
    ∃ st, calls.foldlM (idmapPrepare exampleConfig exampleOps) ⟨fun _ => 0, exampleInit.fmpt⟩ =
        .ok st ∧
      ∀ call dev, Confined exampleConfig exampleOps st call dev ↔ call.Safe exampleConfig := by
  intro calls
  exact confined_after_safe_calls exampleConfig exampleOps exampleOps_lawful
    (fun none => absurd none (by decide)) exampleInit_ret (fun _ => 0) calls
    (forall_mem_singleton.mpr (.inr (by decide)))

/-- A page of a zeroed gigabyte 4, and the whole of it. -/
lemma idmapPrepare_gigabyte_four (mem : Mem) (fmpt : Nat → Fmpt) (hole : fmpt 4 = Fmpt.zero) :
    idmapPrepare exampleConfig ops ⟨mem, fmpt⟩ ⟨4 * SZ_1G, 4 * SZ_1G + SZ_4K, 4⟩ =
        .error .nullSmpt ∧
      (idmapPrepare exampleConfig ops ⟨mem, fmpt⟩ ⟨4 * SZ_1G, 5 * SZ_1G, 4⟩).toOption.map
        (·.fmpt 4) = some ⟨0, true, .r, ⟨true, false⟩⟩ := by
  have page : toValidRange exampleConfig (4 * SZ_1G) (4 * SZ_1G + SZ_4K) =
      some (4 * SZ_1G, 4 * SZ_1G + SZ_4K) := by decide
  have whole : toValidRange exampleConfig (4 * SZ_1G) (5 * SZ_1G) =
      some (4 * SZ_1G, 5 * SZ_1G) := by decide
  have pageGbs : gbsInRange (4 * SZ_1G / SZ_1G) ((4 * SZ_1G + SZ_4K - 1) / SZ_1G) = [4] := by
    decide
  have wholeGbs : gbsInRange (4 * SZ_1G / SZ_1G) ((5 * SZ_1G - 1) / SZ_1G) = [4] := by decide
  have read : protToMpt 4 = .r := by decide
  constructor
  · rw [idmapPrepare, page]
    simp only [prepareRange, pageGbs, foldlM_cons, prepareGb, hole]
    rw [setFmptRange_zero _ ops (by decide), if_neg (by decide)]
    rfl
  · rw [idmapPrepare, whole]
    simp only [prepareRange, wholeGbs, foldlM_cons, prepareGb, hole]
    rw [setFmptRange_zero _ ops (by decide), if_pos (by decide)]
    simp only [Bind.bind, Except.bind, foldlM_nil, Pure.pure, Except.pure, Except.toOption,
      Option.map_some, HostState.setFmpt_self, read, Fmpt.zero]

/-- Right after `s2mpu_init`, a page of gigabyte 4 makes `prepare` dereference NULL,
and the whole of gigabyte 4 makes it rewrite an entry of the hole. -/
theorem prepare_inside_hole :
    let st : HostState := ⟨fun _ => 0, exampleInit.fmpt⟩
    exampleInit.ret = 0 ∧ ¬ WritableGb 4 ∧ exampleInit.fmpt 4 = Fmpt.zero ∧
      idmapPrepare exampleConfig exampleOps st ⟨4 * SZ_1G, 4 * SZ_1G + SZ_4K, 4⟩ =
        .error .nullSmpt ∧
      (idmapPrepare exampleConfig exampleOps st ⟨4 * SZ_1G, 5 * SZ_1G, 4⟩).toOption.map
        (·.fmpt 4) = some ⟨0, true, .r, ⟨true, false⟩⟩ := by
  have readOnly : ¬ WritableGb 4 := by decide
  have hole := exampleInit_ready.hole 4 readOnly
  exact ⟨exampleInit_ret, readOnly, hole,
    idmapPrepare_gigabyte_four exampleOps (fun _ => 0) exampleInit.fmpt hole⟩

end GsKernel.S2mpu
