import GsKernel.S2mpu.HostMpt

/-!
# What an update of the host table does

`FmptUpdate` and `RangeUpdate` say what an update of one gigabyte and of a range does to the
permissions, the pointers and memory, for ranges that start in a writable gigabyte. A range of
granules `first … final` has the part `loPage first gb ≤ page < hiPage final gb` in gigabyte `gb`.
-/

namespace GsKernel.S2mpu

open Fmpt List Nat

variable (cfg : Config) (ops : ModOps)

lemma numElems_gran : cfg.smptNumElems * cfg.smptGran = SZ_1G := by
  obtain ⟨-, -, -, gigabyte, -⟩ := cfg.layout_cases
  exact gigabyte

lemma numElems_pos : 0 < cfg.smptNumElems := by
  refine pos_of_ne_zero fun zero => ?_
  have gigabyte := numElems_gran cfg
  rw [zero, zero_mul] at gigabyte
  exact absurd gigabyte (by decide)

namespace Fmpt

/-- The access bits an entry encodes for a page of its gigabyte. -/
def pageProt (fmpt : Fmpt) (mem : Mem) (page : Nat) : BitVec 2 :=
  if fmpt.gran1g = true then fmpt.prot.bits
  else access cfg mem (ops.smptWord fmpt.smpt) page

/-- The words of the table an entry points to. -/
def Table (fmpt : Fmpt) (addr : Nat) : Prop :=
  ops.smptWord fmpt.smpt ≤ addr ∧ addr < ops.smptWord fmpt.smpt + cfg.smptNumWords

/-- What a device's L1 attribute register is computed from. -/
def SameL1 (left right : Fmpt) : Prop :=
  left.gran1g = right.gran1g ∧ (left.gran1g = true → left.prot = right.prot)

end Fmpt

/-- What setting the pages `first ≤ page < last` of a gigabyte to `prot` does to
its entry and to memory. -/
structure FmptUpdate (first last : Nat) (prot : MptProt) (fmpt : Fmpt) (mem : Mem)
    (fmpt' : Fmpt) (mem' : Mem) : Prop where
  smpt : fmpt'.smpt = fmpt.smpt
  frame : ∀ addr, ¬ fmpt.Table cfg ops addr → mem' addr = mem addr
  pages : ∀ page < cfg.smptNumElems, fmpt'.pageProt cfg ops mem' page =
    if first ≤ page ∧ page < last then prot.bits else fmpt.pageProt cfg ops mem page
  flags : fmpt'.flags.l1 = false → fmpt'.SameL1 fmpt

lemma setSmptRangeAt_eq {smpt : Nat} (nonnull : smpt ≠ 0) (prot : MptProt)
    (startGbByte endGbByte : Nat) (mem : Mem) :
    setSmptRangeAt cfg ops smpt prot startGbByte endGbByte mem =
      .ok (setSmptRange cfg (ops.smptWord smpt) prot startGbByte endGbByte mem) := by
  unfold setSmptRangeAt
  split_ifs with empty
  · rw [setSmptRange, if_pos empty]
  · rfl

variable {fmpt : Fmpt}

lemma Table_frame {addr : Nat} (outside : ¬ fmpt.Table cfg ops addr) :
    addr < ops.smptWord fmpt.smpt ∨ ops.smptWord fmpt.smpt + cfg.smptNumWords ≤ addr := by
  unfold Table at outside
  omega

variable {first last : Nat}

/-- Converting a 1G mapping to pages: the old permission around the range, the
new one inside. -/
lemma fmptUpdate_split (prot : MptProt) (mem : Mem)
    (block : fmpt.gran1g = true) (nonempty : first < last) (bounded : last ≤ cfg.smptNumElems) :
    FmptUpdate cfg ops first last prot fmpt mem
      { fmpt with gran1g := false, flags := ⟨true, true⟩ }
      (setSmptRange cfg (ops.smptWord fmpt.smpt) fmpt.prot (last * cfg.smptGran) SZ_1G
        (setSmptRange cfg (ops.smptWord fmpt.smpt) prot (first * cfg.smptGran) (last * cfg.smptGran)
          (setSmptRange cfg (ops.smptWord fmpt.smpt) fmpt.prot 0 (first * cfg.smptGran) mem))) := by
  rw [← numElems_gran cfg, ← zero_mul cfg.smptGran]
  refine ⟨rfl, ?_, ?_, fun unset => (by cases unset)⟩
  · intro addr outside
    have away := Table_frame cfg ops outside
    rw [setSmptRange_frame cfg _ _ _ _ _ _ (le_refl _) away,
      setSmptRange_frame cfg _ _ _ _ _ _ bounded away,
      setSmptRange_frame cfg _ _ _ _ _ _ (by omega) away]
  · intro page inside
    simp only [pageProt, block, if_true, Bool.false_eq_true, if_false, access_setSmptRange]
    split_ifs <;> first | rfl | omega

/-- Editing the pages of a gigabyte that already has a table. -/
lemma fmptUpdate_edit (first : Nat) {last : Nat} (prot : MptProt) (mem : Mem)
    (table : fmpt.gran1g = false) (bounded : last ≤ cfg.smptNumElems) :
    FmptUpdate cfg ops first last prot fmpt mem { fmpt with flags := ⟨false, true⟩ }
      (setSmptRange cfg (ops.smptWord fmpt.smpt) prot (first * cfg.smptGran)
        (last * cfg.smptGran) mem) := by
  refine ⟨rfl, ?_, ?_, fun _ => ⟨rfl, fun _ => rfl⟩⟩
  · intro addr outside
    exact setSmptRange_frame cfg _ _ _ _ _ _ bounded (Table_frame cfg ops outside)
  · intro page inside
    simp only [pageProt, table, Bool.false_eq_true, if_false, access_setSmptRange]

variable {prot : MptProt}

/-- Collapsing a table that `__is_smpt_uniform` accepts keeps what it encodes. -/
lemma FmptUpdate.collapse {fmpt fmpt' : Fmpt}
    {mem mem' : Mem} (update : FmptUpdate cfg ops first last prot fmpt mem fmpt' mem')
    (table : fmpt'.gran1g = false)
    (uniform : isSmptUniform cfg (ops.smptWord fmpt'.smpt) prot mem' = true) :
    FmptUpdate cfg ops first last prot fmpt mem
      { fmpt' with gran1g := true, prot := prot, flags := ⟨true, false⟩ } mem' := by
  refine ⟨update.smpt, update.frame, ?_, fun unset => (by cases unset)⟩
  intro page inside
  rw [← update.pages page inside]
  simp only [pageProt, table, if_true, Bool.false_eq_true, if_false]
  exact (access_of_isSmptUniform cfg uniform inside).symm

/-- `__set_fmpt_range` on whole pages of a gigabyte with an SMPT buffer. -/
lemma setFmptRange_update (prot : MptProt) (mem : Mem)
    (nonnull : fmpt.smpt ≠ 0) (nonempty : first < last) (bounded : last ≤ cfg.smptNumElems) :
    ∃ fmpt' mem', setFmptRange cfg ops fmpt (first * cfg.smptGran) (last * cfg.smptGran) prot mem =
        .ok (fmpt', mem') ∧ FmptUpdate cfg ops first last prot fmpt mem fmpt' mem' := by
  have whole : (first * cfg.smptGran = 0 ∧ last * cfg.smptGran ≥ SZ_1G) →
      first = 0 ∧ last = cfg.smptNumElems := by
    rintro ⟨start, stop⟩
    rw [← numElems_gran cfg] at stop
    have covered := le_of_mul_le_mul_right stop (smptGran_pos cfg)
    rcases Nat.mul_eq_zero.mp start with zero | zero
    · omega
    · exact absurd zero (ne_of_gt (smptGran_pos cfg))
  unfold setFmptRange
  simp only [setSmptRangeAt_eq cfg ops nonnull, isSmptUniformAt, if_neg nonnull]
  split_ifs with all same block same
  · refine ⟨_, _, rfl, rfl, fun _ _ => rfl, ?_, fun _ => ⟨rfl, fun _ => rfl⟩⟩
    intro page inside
    simp [pageProt, same.1, same.2]
  · refine ⟨_, _, rfl, rfl, fun _ _ => rfl, ?_, fun unset => (by cases unset)⟩
    intro page inside
    have covered : first ≤ page ∧ page < last := by
      have := whole all
      omega
    simp [pageProt, covered]
  · refine ⟨_, _, rfl, rfl, fun _ _ => rfl, ?_, fun _ => ⟨rfl, fun _ => rfl⟩⟩
    intro page inside
    simp [pageProt, block, same]
  · exact ⟨_, _, rfl, fmptUpdate_split cfg ops prot mem block nonempty bounded⟩
  · have table := Bool.eq_false_iff.mpr block
    have edited := fmptUpdate_edit cfg ops first prot mem table bounded
    cases uniform : isSmptUniform cfg (ops.smptWord fmpt.smpt) prot
        (setSmptRange cfg (ops.smptWord fmpt.smpt) prot (first * cfg.smptGran)
          (last * cfg.smptGran) mem) with
    | false => exact ⟨_, _, by simp only [Bind.bind, Except.bind, uniform, if_true], edited⟩
    | true =>
      refine ⟨_, _, ?_, edited.collapse cfg ops table uniform⟩
      simp only [Bind.bind, Except.bind, uniform, Bool.true_eq_false, if_false]

/-- The SMPT buffers of the writable gigabytes: present, and pairwise disjoint
in physical memory. -/
structure Buffers (fmpt : Nat → Fmpt) : Prop where
  nonnull : ∀ gb, WritableGb gb → (fmpt gb).smpt ≠ 0
  apart : ∀ gb other, WritableGb gb → WritableGb other → gb ≠ other →
    ∀ addr, (fmpt gb).Table cfg ops addr → ¬ (fmpt other).Table cfg ops addr

lemma Buffers.of_smpt {fmpt fmpt' : Nat → Fmpt} (buffers : Buffers cfg ops fmpt)
    (same : ∀ gb, (fmpt' gb).smpt = (fmpt gb).smpt) : Buffers cfg ops fmpt' := by
  constructor
  · intro gb writable
    rw [same gb]
    exact buffers.nonnull gb writable
  · intro gb other writable writableOther ne addr
    simpa only [Table, same] using buffers.apart gb other writable writableOther ne addr

/-- An entry encodes the same permissions as long as its own table is unchanged. -/
lemma Fmpt.pageProt_congr (fmpt : Fmpt) {mem mem' : Mem} {page : Nat}
    (inside : page < cfg.smptNumElems)
    (same : ∀ addr, fmpt.Table cfg ops addr → mem' addr = mem addr) :
    fmpt.pageProt cfg ops mem' page = fmpt.pageProt cfg ops mem page := by
  have word : page / cfg.smptElemsPerWord < cfg.smptNumWords := by
    obtain ⟨-, -, -, -, words, -⟩ := cfg.layout_cases
    rw [← words, mul_comm] at inside
    exact Nat.div_lt_of_lt_mul inside
  have same := same (ops.smptWord fmpt.smpt + page / cfg.smptElemsPerWord)
    ⟨Nat.le_add_right _ _, Nat.add_lt_add_left word _⟩
  simp only [pageProt, access, same]

/-- What setting the pages `lo gb ≤ page < hi gb` of the gigabytes `gbs` does to
the host table. -/
structure RangeUpdate (gbs : List Nat) (lo hi : Nat → Nat) (prot : MptProt)
    (st st' : HostState) : Prop where
  smpt : ∀ gb, (st'.fmpt gb).smpt = (st.fmpt gb).smpt
  others : ∀ gb, gb ∉ gbs → st'.fmpt gb = st.fmpt gb
  frame : ∀ addr, (∀ gb ∈ gbs, ¬ (st.fmpt gb).Table cfg ops addr) → st'.mem addr = st.mem addr
  pages : ∀ gb, WritableGb gb → ∀ page < cfg.smptNumElems,
    (st'.fmpt gb).pageProt cfg ops st'.mem page =
      if gb ∈ gbs ∧ lo gb ≤ page ∧ page < hi gb then prot.bits
      else (st.fmpt gb).pageProt cfg ops st.mem page
  flags : ∀ gb ∈ gbs, (st'.fmpt gb).flags.l1 = false → (st'.fmpt gb).SameL1 (st.fmpt gb)

variable {st : HostState}

/-- Storing an updated entry keeps every pointer of the table. -/
lemma FmptUpdate.setFmpt_smpt {gb first last : Nat} {mem : Mem}
    (update : FmptUpdate cfg ops first last prot (st.fmpt gb) st.mem fmpt mem) (other : Nat) :
    ((st.setFmpt gb fmpt mem).fmpt other).smpt = (st.fmpt other).smpt := by
  by_cases same : other = gb
  · subst same
    rw [HostState.setFmpt_self]
    exact update.smpt
  · rw [st.setFmpt_of_ne fmpt mem same]

variable {lo hi : Nat → Nat}

/-- Updating one gigabyte and then others is updating all of them. -/
lemma RangeUpdate.cons {gb : Nat} {gbs : List Nat}
    {st st' : HostState} {mem : Mem} (buffers : Buffers cfg ops st.fmpt)
    (writable : WritableGb gb) (fresh : gb ∉ gbs)
    (head : FmptUpdate cfg ops (lo gb) (hi gb) prot (st.fmpt gb) st.mem fmpt mem)
    (tail : RangeUpdate cfg ops gbs lo hi prot (st.setFmpt gb fmpt mem) st') :
    RangeUpdate cfg ops (gb :: gbs) lo hi prot st st' := by
  have pointer := head.setFmpt_smpt cfg ops
  refine ⟨?_, ?_, ?_, ?_, ?_⟩
  · intro other
    rw [tail.smpt other, pointer]
  · intro other missing
    rw [mem_cons, not_or] at missing
    rw [tail.others other missing.2, st.setFmpt_of_ne fmpt mem missing.1]
  · intro addr outside
    rw [tail.frame addr, st.setFmpt_mem, head.frame addr (outside gb (mem_cons_self ..))]
    intro other member
    simpa only [Table, pointer] using outside other (mem_cons_of_mem _ member)
  · intro other writableOther page inside
    rw [tail.pages other writableOther page inside, st.setFmpt_mem]
    by_cases same : other = gb
    · subst same
      simp only [st.setFmpt_self, fresh, false_and, if_false, mem_cons, true_or, true_and]
      exact head.pages page inside
    · have kept : (st.fmpt other).pageProt cfg ops mem page =
          (st.fmpt other).pageProt cfg ops st.mem page :=
        (st.fmpt other).pageProt_congr cfg ops inside fun addr table =>
          head.frame addr (buffers.apart other gb writableOther writable same addr table)
      simp only [st.setFmpt_of_ne fmpt mem same, kept, mem_cons, same, false_or]
  · intro other member unset
    by_cases same : other = gb
    · subst same
      rw [tail.others other fresh, st.setFmpt_self] at unset ⊢
      exact head.flags unset
    · have later : other ∈ gbs := (mem_cons.mp member).resolve_left same
      have result := tail.flags other later unset
      rwa [st.setFmpt_of_ne fmpt mem same] at result

/-- The loop of `prepare_range` over writable gigabytes never faults. -/
lemma foldlM_prepareGb_update {gbs : List Nat} {firstByte lastByte : Nat}
    (prot : MptProt) (buffers : Buffers cfg ops st.fmpt)
    (writable : ∀ gb ∈ gbs, WritableGb gb) (nodup : gbs.Nodup)
    (nonempty : ∀ gb ∈ gbs, lo gb < hi gb) (bounded : ∀ gb ∈ gbs, hi gb ≤ cfg.smptNumElems)
    (startGbByte : ∀ gb, (if gb = firstByte / SZ_1G then firstByte % SZ_1G else 0) =
      lo gb * cfg.smptGran)
    (endGbByte : ∀ gb, (if gb = lastByte / SZ_1G then lastByte % SZ_1G + 1 else SZ_1G) =
      hi gb * cfg.smptGran) :
    ∃ st', gbs.foldlM (prepareGb cfg ops firstByte lastByte prot) st = .ok st' ∧
      RangeUpdate cfg ops gbs lo hi prot st st' := by
  induction gbs generalizing st with
  | nil =>
    refine ⟨st, rfl, fun _ => rfl, fun _ _ => rfl, fun _ _ => rfl, ?_, ?_⟩
    · intro gb _ page _
      simp
    · intro gb member
      simp at member
  | cons gb gbs ih =>
    simp only [forall_mem_cons, nodup_cons] at writable nodup nonempty bounded
    obtain ⟨fmpt, mem, computed, head⟩ := setFmptRange_update cfg ops prot st.mem
      (buffers.nonnull gb writable.1) nonempty.1 bounded.1
    have moved := buffers.of_smpt cfg ops (head.setFmpt_smpt cfg ops)
    obtain ⟨st', ran, tail⟩ :=
      ih moved writable.2 nodup.2 nonempty.2 bounded.2
    refine ⟨st', ?_, tail.cons cfg ops buffers writable.1 nodup.1 head⟩
    rw [foldlM_cons, prepareGb, startGbByte, endGbByte, computed]
    exact ran

/-- Numbers in base `size` are ordered like their pairs of digits. -/
lemma digits_le {size low low' : Nat} (high high' : Nat) (inside : low < size) (inside' : low' < size) :
    high * size + low ≤ high' * size + low' ↔ high < high' ∨ high = high' ∧ low ≤ low' := by
  rcases lt_trichotomy high high' with less | rfl | greater
  · have step := mul_le_mul_right size less
    rw [succ_mul] at step
    omega
  · omega
  · have step := mul_le_mul_right size greater
    rw [succ_mul] at step
    omega

/-- First page of gigabyte `gb` in a range that starts at page `first`. -/
def loPage (first gb : Nat) : Nat :=
  if gb = first / cfg.smptNumElems then first % cfg.smptNumElems else 0

/-- End of the pages of gigabyte `gb` in a range whose last page is `final`. -/
def hiPage (final gb : Nat) : Nat :=
  if gb = final / cfg.smptNumElems then final % cfg.smptNumElems + 1 else cfg.smptNumElems

lemma startGbByte_page (first gb : Nat) :
    (if gb = first * cfg.smptGran / SZ_1G then first * cfg.smptGran % SZ_1G else 0) =
      loPage cfg first gb * cfg.smptGran := by
  rw [← numElems_gran cfg, Nat.mul_div_mul_right _ _ (smptGran_pos cfg), Nat.mul_mod_mul_right,
    loPage]
  split_ifs
  · rfl
  · exact (Nat.zero_mul _).symm

lemma firstByte_gb (first : Nat) : first * cfg.smptGran / SZ_1G = first / cfg.smptNumElems := by
  rw [← numElems_gran cfg, Nat.mul_div_mul_right _ _ (smptGran_pos cfg)]

lemma lastByte_gb (final : Nat) :
    ((final + 1) * cfg.smptGran - 1) / SZ_1G = final / cfg.smptNumElems := by
  rw [← numElems_gran cfg, Nat.mul_comm cfg.smptNumElems, ← Nat.div_div_eq_div_mul,
    lastByte_page cfg (Nat.succ_pos final), Nat.succ_sub_one]

lemma endGbByte_page (final gb : Nat) : (if gb = ((final + 1) * cfg.smptGran - 1) / SZ_1G then
        ((final + 1) * cfg.smptGran - 1) % SZ_1G + 1 else SZ_1G) =
      hiPage cfg final gb * cfg.smptGran := by
  have positive : 0 < (final + 1) * cfg.smptGran :=
    mul_pos (succ_pos final) (smptGran_pos cfg)
  have division := div_add_mod ((final + 1) * cfg.smptGran - 1) SZ_1G
  have digits : (final + 1) * cfg.smptGran =
      SZ_1G * (final / cfg.smptNumElems) + (final % cfg.smptNumElems + 1) * cfg.smptGran := by
    conv_lhs => rw [← div_add_mod' final cfg.smptNumElems]
    rw [add_assoc, add_mul, mul_assoc, numElems_gran, mul_comm _ SZ_1G]
  rw [lastByte_gb] at division ⊢
  rw [hiPage]
  split_ifs
  · omega
  · exact (numElems_gran cfg).symm

/-- The parts of a range in the writable gigabytes it visits are the pages of
the range. -/
lemma mem_parts_iff {first final gb page : Nat} (writable : WritableGb gb)
    (inside : page < cfg.smptNumElems) :
    (gb ∈ gbsInRange (first / cfg.smptNumElems) (final / cfg.smptNumElems) ∧
        loPage cfg first gb ≤ page ∧ page < hiPage cfg final gb) ↔
      first ≤ gb * cfg.smptNumElems + page ∧ gb * cfg.smptNumElems + page ≤ final := by
  have positive := numElems_pos cfg
  have lower := digits_le (first / cfg.smptNumElems) gb (mod_lt first positive) inside
  have upper := digits_le gb (final / cfg.smptNumElems) inside (mod_lt final positive)
  rw [div_add_mod'] at lower upper
  rw [mem_gbsInRange, loPage, hiPage, lower, upper]
  unfold WritableGb at *
  split_ifs <;> omega

variable {first final : Nat}

/-- The part of a range in one gigabyte is a non-empty interval of its pages. -/
lemma loPage_lt_hiPage (gb : Nat) (ordered : first ≤ final) :
    loPage cfg first gb < hiPage cfg final gb ∧ hiPage cfg final gb ≤ cfg.smptNumElems := by
  have positive := numElems_pos cfg
  have firstPage := mod_lt first positive
  have finalPage := mod_lt final positive
  have digits :=
    digits_le (first / cfg.smptNumElems) (final / cfg.smptNumElems) firstPage finalPage
  rw [div_add_mod', div_add_mod'] at digits
  rw [loPage, hiPage]
  split_ifs <;> omega

/-- `prepare_range` from a writable gigabyte. -/
lemma prepareRange_update (prot : MptProt)
    (buffers : Buffers cfg ops st.fmpt) (start : WritableGb (first / cfg.smptNumElems))
    (ordered : first ≤ final) :
    ∃ st', prepareRange cfg ops (first * cfg.smptGran) ((final + 1) * cfg.smptGran - 1) prot st =
        .ok st' ∧
      RangeUpdate cfg ops (gbsInRange (first / cfg.smptNumElems) (final / cfg.smptNumElems))
        (loPage cfg first) (hiPage cfg final) prot st st' := by
  rw [prepareRange, firstByte_gb, lastByte_gb]
  exact foldlM_prepareGb_update cfg ops prot buffers
    (fun _ mem => writable_of_mem_gbsInRange start mem) (nodup_gbsFrom _ _ _).1
    (fun gb _ => (loPage_lt_hiPage cfg gb ordered).1)
    (fun gb _ => (loPage_lt_hiPage cfg gb ordered).2)
    (startGbByte_page cfg first) (endGbByte_page cfg final)

end GsKernel.S2mpu
