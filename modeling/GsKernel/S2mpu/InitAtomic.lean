import GsKernel.S2mpu.Init

/-!
# All buffers or none

When `s2mpu_init` fails it gives back the buffers it has taken, which it finds by the pointers it
has stored. With pages larger than a buffer it takes no page at all, and nothing keeps the host
from passing one buffer twice.
-/

namespace GsKernel.S2mpu

open Function

variable (cfg : Config) (ops : ModOps)

/-- A donation that is refused has no effect, and hypervisor pages can be given back. -/
structure ModOps.Restoring : Prop where
  refused : ∀ owners first count, (ops.hostDonateHyp owners first count).1 ≠ 0 →
    (ops.hostDonateHyp owners first count).2 = owners
  returned : ∀ owners first count,
    (∀ page, first ≤ page → page < first + count → owners page = true) →
      (ops.hypDonateHost owners first count).2 = fun page =>
        !decide (first ≤ page ∧ page < first + count) && owners page

/-- Whether a page is donated with the buffer of a gigabyte. -/
def donated (data : Nat → Nat) (gb page : Nat) : Bool :=
  decide (pfn cfg (bufferPa ops data gb) ≤ page ∧
    page < pfn cfg (bufferPa ops data gb) + smptNrPages cfg)

/-- `s2mpu_init` takes the buffers of all writable gigabytes, which are aligned and apart, or
leaves everything as it was. -/
def AllOrNothing (data : Nat → Nat) (size : Nat) (owners : Owners) : Prop :=
  let result := s2mpuInit cfg ops data size owners
  if result.ret = 0 then
    (∀ gb, WritableGb gb → result.fmpt gb = readyFmpt (ops.kernHypVa (data gb)) ∧
      bufferPa ops data gb % cfg.smptSize = 0 ∧
      ∀ addr, bufferPa ops data gb ≤ addr → addr < bufferPa ops data gb + cfg.smptSize →
        result.owners (pfn cfg addr) = true) ∧
    ∀ gb other, WritableGb gb → WritableGb other → gb ≠ other →
      bufferPa ops data gb + cfg.smptSize ≤ bufferPa ops data other ∨
        bufferPa ops data other + cfg.smptSize ≤ bufferPa ops data gb
  else result.owners = owners ∧ result.fmpt = fun _ => Fmpt.zero

variable {cfg ops} {data : Nat → Nat} {gbs : List Nat} {owners : Owners} {fmpt : Nat → Fmpt}

section
variable (lawful : ops.Lawful cfg) (restoring : ops.Restoring)
include lawful restoring

/-- The loop takes no page away from the hypervisor, keeps the entries of other gigabytes, and when
it comes to its end all buffers are the hypervisor's. -/
lemma takeSmpts_kept (data : Nat → Nat) (gbs : List Nat) (owners : Owners) (fmpt : Nat → Fmpt) :
    (∀ page, owners page = true → (takeSmpts cfg ops data gbs owners fmpt).owners page = true) ∧
    (∀ other, other ∉ gbs → (takeSmpts cfg ops data gbs owners fmpt).fmpt other = fmpt other) ∧
    ((takeSmpts cfg ops data gbs owners fmpt).ret = 0 → ∀ gb ∈ gbs, ∀ page,
      donated cfg ops data gb page = true →
        (takeSmpts cfg ops data gbs owners fmpt).owners page = true) := by
  fun_induction takeSmpts cfg ops data gbs owners fmpt with
  | case1 => exact ⟨fun _ owned => owned, fun _ _ => rfl, fun _ _ mem => by cases mem⟩
  | case2 => exact ⟨fun _ owned => owned, fun _ _ => rfl, fun success => by cases success⟩
  | case3 gb gbs owners fmpt smpt pa _ given refused =>
    rw [show given.2 = owners from restoring.refused _ _ _ refused]
    exact ⟨fun _ owned => owned, fun _ _ => rfl, fun success => absurd success refused⟩
  | case4 gb gbs owners fmpt smpt pa _ given granted ih =>
    have grown : ∀ page, given.2 page = (donated cfg ops data gb page || owners page) :=
      lawful.hyp _ _ _ (not_not.mp granted)
    obtain ⟨still, others, all⟩ := ih
    refine ⟨fun page owned => still page ?_, fun other absent => ?_, fun success =>
      List.forall_mem_cons.mpr ⟨fun page mine => still page ?_, all success⟩⟩
    · rw [grown, owned, Bool.or_true]
    · rw [List.mem_cons, not_or] at absent
      rw [others other absent.2, update_of_ne absent.1]
    · rw [grown, mine, Bool.true_or]

/-- After an error the second loop undoes the first one. `held` are the pages it has given back
for the gigabytes before. -/
lemma returnSmpts_takeSmpts (nodup : gbs.Nodup) (empty : ∀ gb ∈ gbs, (fmpt gb).smpt = 0)
    (failed : (takeSmpts cfg ops data gbs owners fmpt).ret ≠ 0) (held : Nat → Bool)
    (owned : ∀ page, held page = true → owners page = true) :
    returnSmpts cfg ops gbs
      (fun page => !held page && (takeSmpts cfg ops data gbs owners fmpt).owners page)
      (takeSmpts cfg ops data gbs owners fmpt).fmpt = fun page => !held page && owners page := by
  fun_induction takeSmpts cfg ops data gbs owners fmpt generalizing held with
  | case1 => exact absurd rfl failed
  | case2 gb => rw [returnSmpts, if_pos (empty gb List.mem_cons_self)]
  | case3 gb gbs owners fmpt smpt pa _ given refused =>
    rw [returnSmpts, if_pos (empty gb List.mem_cons_self),
      show given.2 = owners from restoring.refused _ _ _ refused]
  | case4 gb gbs owners fmpt smpt pa _ given granted ih =>
    obtain ⟨missing, nodup⟩ := List.nodup_cons.mp nodup
    have granted := not_not.mp granted
    have grown : ∀ page, given.2 page = (donated cfg ops data gb page || owners page) :=
      lawful.hyp _ _ _ granted
    have host : ∀ page, donated cfg ops data gb page = true → owners page = false :=
      fun page mine => lawful.host _ _ _ granted page (of_decide_eq_true mine).1
        (of_decide_eq_true mine).2
    have unset : ∀ other ∈ gbs, (update fmpt gb (readyFmpt smpt) other).smpt = 0 := by
      intro other mem
      rw [update_of_ne (ne_of_mem_of_not_mem mem missing)]
      exact empty other (List.mem_cons_of_mem gb mem)
    obtain ⟨still, others, -⟩ := takeSmpts_kept lawful restoring data gbs given.2
      (update fmpt gb (readyFmpt smpt))
    have next := ih nodup unset failed fun page => donated cfg ops data gb page || held page
    simp only [Bool.not_or, Bool.and_assoc] at next
    simp only [returnSmpts, others gb missing, update_self]
    rw [if_neg (show (readyFmpt smpt).smpt ≠ 0 from lawful.kernHypVa_ne _), restoring.returned]
    · refine (next fun page mine => ?_).trans (funext fun page => ?_)
      · rw [grown]
        exact Bool.or_eq_true_iff.mpr ((Bool.or_eq_true_iff.mp mine).imp_right (owned page))
      · rw [grown]
        cases mine : donated cfg ops data gb page with
        | false => rfl
        | true => rw [host page mine, Bool.and_false, Bool.not_true, Bool.false_and]
    · intro page lower upper
      have mine : donated cfg ops data gb page = true := decide_eq_true ⟨lower, upper⟩
      have free : held page = false := Bool.eq_false_iff.mpr fun both =>
        absurd (owned page both) (by simp [host page mine])
      rw [free, still page (by rw [grown, mine, Bool.true_or])]
      rfl

lemma allOrNothing (pages : 0 < smptNrPages cfg) (data : Nat → Nat) (size : Nat)
    (owners : Owners) : AllOrNothing cfg ops data size owners := by
  have nodup : (gbsInRange 0 (NR_GIGABYTES - 1)).Nodup :=
    (nodup_gbsFrom (NR_GIGABYTES - 1) NR_GIGABYTES 0).1
  simp only [AllOrNothing, s2mpuInit]
  by_cases wrong : size ≠ sizeofMpt
  · simp [wrong, EINVAL]
  rw [if_neg wrong]
  by_cases failed : (takeSmpts cfg ops data (gbsInRange 0 (NR_GIGABYTES - 1)) owners
      fun _ => Fmpt.zero).ret ≠ 0
  · have undone := returnSmpts_takeSmpts lawful restoring nodup (fun _ _ => rfl) failed
      (fun _ => false) fun _ held => absurd held Bool.false_ne_true
    rw [if_pos failed, if_neg failed]
    exact ⟨undone, rfl⟩
  have success := not_not.mp failed
  rw [if_neg failed, if_pos success]
  have taken := takeSmpts_taken cfg ops lawful data nodup success
  have owned := (takeSmpts_kept lawful restoring data _ owners _).2.2 success
  have aligned : ∀ gb, WritableGb gb → cfg.smptSize ∣ bufferPa ops data gb :=
    fun gb writable => Nat.dvd_of_mod_eq_zero (taken.aligned gb (mem_allGbs.mpr writable))
  refine ⟨fun gb writable => ?_, fun gb other writable writableOther ne => ?_⟩
  · have mem := mem_allGbs.mpr writable
    refine ⟨taken.entry gb mem, taken.aligned gb mem, fun addr lower upper => ?_⟩
    refine owned gb mem _ (decide_eq_true ⟨Nat.div_le_div_right lower, ?_⟩)
    have whole := Nat.dvd_trans (page_dvd_smptSize cfg pages) (aligned gb writable)
    rw [pfn, Nat.div_lt_iff_lt_mul (Nat.two_pow_pos _), Nat.add_mul, smptNrPages_mul cfg pages,
      pfn, Nat.div_mul_cancel whole]
    exact upper
  · obtain ⟨k, first⟩ := aligned gb writable
    obtain ⟨l, second⟩ := aligned other writableOther
    have apart : k ≠ l := fun same => ne ((Taken.allocated cfg ops taken pages).distinct gb other
      writable writableOther (by rw [first, second, same]))
    rw [first, second, ← Nat.mul_succ, ← Nat.mul_succ]
    exact (Nat.lt_or_gt_of_ne apart).imp (Nat.mul_le_mul_left _) (Nat.mul_le_mul_left _)

end

lemma ModOps.linear_restoring (offset : Nat) : (ModOps.linear cfg offset).Restoring := by
  refine ⟨fun owners first count refused => ?_, fun _ _ _ _ => rfl⟩
  simp only [linear] at refused ⊢
  split_ifs at refused ⊢
  · exact absurd rfl refused
  · rfl

/-- With pages larger than a buffer, one buffer is accepted for all gigabytes. -/
lemma repeated_buffer (none : smptNrPages cfg = 0) :
    ¬ AllOrNothing cfg (ModOps.linear cfg 1) (fun _ => 0) sizeofMpt fun _ => false := by
  have success : (s2mpuInit cfg (ModOps.linear cfg 1) (fun _ => 0) sizeofMpt fun _ => false).ret =
      0 ∧ ¬ cfg.smptSize ≤ 0 := by
    revert none
    obtain ⟨version, pageSize⟩ := cfg
    cases version <;> cases pageSize <;> decide +kernel
  rw [AllOrNothing, if_pos success.1]
  intro ⟨_, apart⟩
  have overlap := apart 0 1 (by decide) (by decide) (by decide)
  simp only [bufferPa, ModOps.linear, Nat.zero_add, Nat.sub_self, or_self] at overlap
  exact success.2 overlap

/-- `s2mpu_init` takes all buffers or none, whatever the host passes, exactly when a buffer is at
least a page. -/
theorem s2mpu_init_all_or_nothing_iff (cfg : Config) :
    (∀ ops : ModOps, ops.Lawful cfg → ops.Restoring → ∀ data size owners,
      AllOrNothing cfg ops data size owners) ↔ 0 < smptNrPages cfg := by
  constructor
  · intro always
    by_contra none
    exact repeated_buffer (Nat.eq_zero_of_not_pos none) (always _ (ModOps.linear_lawful cfg
      Nat.one_pos) (ModOps.linear_restoring 1) _ _ _)
  · intro pages ops lawful restoring
    exact allOrNothing lawful restoring pages

theorem s2mpu_init_repeated_buffer : ¬ AllOrNothing ⟨.v9, .sz64K⟩ (ModOps.linear ⟨.v9, .sz64K⟩ 1)
    (fun _ => 0) sizeofMpt fun _ => false :=
  repeated_buffer (by decide)

end GsKernel.S2mpu
