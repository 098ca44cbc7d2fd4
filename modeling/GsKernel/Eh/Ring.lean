import GsKernel.Eh.Compress
import GsKernel.Lib.ColorIndex

/-!
# What the ring of descriptors holds

The requests that were submitted form a stream. The ring holds a window of it: from the
requests that are retired to the last one submitted, with the hardware in between. The first
few of the window may already have been called back for.
-/

namespace GsKernel.Eh

open Function Lib.ColorIndex Nat

variable {ρ : Type}

/-- The indices, private data and statuses of the ring, for the stream of requests submitted and
the numbers of those retired, completed by the hardware, and called back for without being
retired. -/
structure HwFifo.Holds (fifo : HwFifo ρ) (submitted : List ρ) (retired completed called : Nat) :
    Prop where
  write : fifo.writeIndex = submitted.length % (2 * fifo.size)
  complete : fifo.completeIndex = retired % (2 * fifo.size)
  hw : fifo.hwComplete = completed % (2 * fifo.size)
  retired_le : retired ≤ completed
  completed_le : completed ≤ submitted.length
  called_le : retired + called ≤ submitted.length
  bounded : submitted.length ≤ retired + fifo.size
  slot : fifo.insertion.isSome = true → submitted.length < retired + fifo.size
  filled : ∀ insertion, fifo.insertion = some insertion → insertion.filled = true →
    fifo.completions (submitted.length % fifo.size) = some insertion.priv
  kept : ∀ position (inside : position < submitted.length), retired + called ≤ position →
    fifo.completions (position % fifo.size) = some submitted[position]
  halts : ∀ position, retired ≤ position → position < completed →
    fifo.status (position % fifo.size) = .errorHalted →
      position + 1 = completed ∧ fifo.halted = true

section Masks

variable (fifo : HwFifo ρ)

lemma HwFifo.size_pos : 0 < fifo.size := Nat.two_pow_pos fifo.log

lemma HwFifo.and_indexMask (index : Nat) : index &&& fifo.indexMask = index % fifo.size :=
  and_two_pow_sub_one_eq_mod index fifo.log

lemma HwFifo.and_colorMask (index : Nat) : index &&& fifo.colorMask = index % (2 * fifo.size) := by
  have color : fifo.colorMask = 2 ^ (fifo.log + 1) - 1 := by
    rw [HwFifo.colorMask, HwFifo.size, pow_succ, mul_comm]
  rw [color, and_two_pow_sub_one_eq_mod, pow_succ, mul_comm]
  rfl

end Masks

section Ring

variable {fifo : HwFifo ρ} {submitted : List ρ} {retired completed called : Nat}

section

variable (holds : fifo.Holds submitted retired completed called)
include holds

namespace HwFifo.Holds

/-- The ring is full when the window has its size. -/
lemma full_iff : fifo.full = true ↔ submitted.length = retired + fifo.size := by
  have positive := fifo.size_pos
  have order : retired ≤ submitted.length := holds.retired_le.trans holds.completed_le
  have slots := slot_eq_iff positive order holds.bounded
  have indices := index_eq_iff positive order holds.bounded
  simp only [HwFifo.full, fifo.and_indexMask, holds.write, holds.complete, slot_of_index,
    Bool.and_eq_true, decide_eq_true_eq, slots, ne_eq, indices]
  omega

/-- The number of requests in the window. -/
lemma distance : (fifo.writeIndex + 2 * fifo.size - fifo.completeIndex) % (2 * fifo.size) =
      submitted.length - retired := by
  rw [holds.write, holds.complete]
  exact Lib.ColorIndex.distance fifo.size_pos (holds.retired_le.trans holds.completed_le)
    holds.bounded

lemma takeSlot (notFull : fifo.full = false) (holder : Holder) (priv : ρ) :
    (fifo.takeSlot holder priv).Holds submitted retired completed called := by
  have room : submitted.length < retired + fifo.size := by
    have bounded := holds.bounded
    have notEq : submitted.length ≠ retired + fifo.size := fun same => by
      rw [holds.full_iff.mpr same] at notFull
      exact absurd notFull (by decide)
    omega
  refine { holds with slot := fun _ => room, filled := ?_ }
  intro insertion isInsertion isFilled
  cases isInsertion
  cases isFilled

variable {insertion : Insertion ρ}

/-- Setting up the descriptor of a free slot leaves the window alone. -/
lemma fillSlot (taken : fifo.insertion = some insertion) :
    (fifo.fillSlot insertion).Holds submitted retired completed called := by
  have room := holds.slot (by rw [taken]; rfl)
  have order : retired ≤ submitted.length := holds.retired_le.trans holds.completed_le
  have slot : fifo.writeIndex &&& fifo.indexMask = submitted.length % fifo.size := by
    rw [fifo.and_indexMask, holds.write, slot_of_index]
  have other : ∀ position, retired ≤ position → position < submitted.length →
      position % fifo.size ≠ fifo.writeIndex &&& fifo.indexMask := by
    intro position low high
    rw [slot]
    exact slot_ne low (by omega) order room (by omega)
  refine { holds with slot := fun _ => room, filled := ?_, kept := ?_, halts := ?_ }
  · intro next isNext _
    cases isNext
    rw [HwFifo.fillSlot]
    simp only [slot]
    exact update_self _ _ _
  · intro position inside low
    have kept := holds.kept position inside low
    exact (update_of_ne (other position (by omega) inside) _ _).trans kept
  · intro position low high halted
    have completed_le := holds.completed_le
    refine holds.halts position low high ?_
    rw [← halted]
    exact (update_of_ne (other position low (by omega)) _ _).symm

/-- The write index takes the request into the window. -/
lemma publish (taken : fifo.insertion = some insertion) (isFilled : insertion.filled = true) :
    fifo.publish.Holds (submitted ++ [insertion.priv]) retired completed called := by
  have room := holds.slot (by rw [taken]; rfl)
  have completed_le := holds.completed_le
  have length : (submitted ++ [insertion.priv]).length = submitted.length + 1 := by simp
  have called_le := holds.called_le
  refine ⟨?_, holds.complete, holds.hw, holds.retired_le, by omega, by omega, ?_, ?_, ?_, ?_,
    holds.halts⟩
  · rw [length]
    change (fifo.writeIndex + 1) &&& fifo.colorMask = (submitted.length + 1) % (2 * fifo.size)
    rw [fifo.and_colorMask, holds.write, mod_add_mod]
  · rw [length]
    exact room
  · intro isSome
    exact absurd isSome (by simp [HwFifo.publish])
  · intro next isNext
    exact absurd isNext (by simp [HwFifo.publish])
  · intro position inside low
    rw [length] at inside
    by_cases last : position = submitted.length
    · subst last
      rw [List.getElem_concat_length rfl]
      exact holds.filled insertion taken isFilled
    · rw [List.getElem_append_left (by omega)]
      exact holds.kept position (by omega) low

/-- The hardware completes the next request of the window. -/
lemma hwStep (running : fifo.halted = false) (more : fifo.hwComplete ≠ fifo.writeIndex)
    (status : CdescStatus) :
    (fifo.hwStep status).Holds submitted retired (completed + 1) called := by
  have retired_le := holds.retired_le
  have completed_le := holds.completed_le
  have bounded := holds.bounded
  have next : completed < submitted.length := by
    rw [holds.hw, holds.write] at more
    rcases completed_le.eq_or_lt with same | next
    · exact absurd (by rw [same]) more
    · exact next
  have slot : fifo.hwComplete &&& fifo.indexMask = completed % fifo.size := by
    rw [fifo.and_indexMask, holds.hw, slot_of_index]
  refine { holds with hw := ?_, retired_le := by omega, completed_le := next, halts := ?_ }
  · change (fifo.hwComplete + 1) &&& fifo.colorMask = (completed + 1) % (2 * fifo.size)
    rw [fifo.and_colorMask, holds.hw, mod_add_mod]
  · intro position low high halted
    have isStatus : update fifo.status (fifo.hwComplete &&& fifo.indexMask) status
        (position % fifo.size) = .errorHalted := halted
    by_cases last : position = completed
    · subst last
      rw [slot, update_self] at isStatus
      exact ⟨rfl, by simp [HwFifo.hwStep, isStatus]⟩
    rw [slot, update_of_ne (slot_ne low (by omega) retired_le (by omega) last)] at isStatus
    -- an earlier request that halted the hardware would have stopped it
    have stopped := (holds.halts position low (by omega) isStatus).2
    rw [running] at stopped
    exact absurd stopped (by decide)

/-- The next request is called back for. -/
lemma call (more : retired + called < submitted.length) :
    fifo.Holds submitted retired completed (called + 1) :=
  { holds with
    called_le := more
    kept := fun position inside low => holds.kept position inside (by omega) }

/-- Setting a descriptor to idle. -/
lemma idle (index : Nat) : (fifo.idle index).Holds submitted retired completed called := by
  refine { holds with halts := ?_ }
  intro position low high halted
  have isStatus : update fifo.status (index &&& fifo.indexMask) .idle
      (position % fifo.size) = .errorHalted := halted
  by_cases same : position % fifo.size = index &&& fifo.indexMask
  · rw [same, update_self] at isStatus
    exact absurd isStatus (by decide)
  · rw [update_of_ne same] at isStatus
    exact holds.halts position low high isStatus

end HwFifo.Holds

end

/-- The first request of the window, which has been called back for, is retired. -/
lemma HwFifo.Holds.retire (holds : fifo.Holds submitted retired completed (called + 1))
    (done : retired < completed) : fifo.retire.Holds submitted (retired + 1) completed called := by
  have bounded := holds.bounded
  have called_le := holds.called_le
  refine ⟨holds.write, ?_, holds.hw, done, holds.completed_le, by omega,
    show submitted.length ≤ retired + 1 + fifo.size by omega, ?_, holds.filled, ?_, ?_⟩
  · change (fifo.completeIndex + 1) &&& fifo.colorMask = (retired + 1) % (2 * fifo.size)
    rw [fifo.and_colorMask, holds.complete, mod_add_mod]
  · intro isSome
    change submitted.length < retired + 1 + fifo.size
    omega
  · intro position inside low
    exact holds.kept position inside (by omega)
  · intro position low high halted
    exact holds.halts position (by omega) high halted

/-- The private data of the next request to be aborted is cleared. -/
lemma HwFifo.Holds.forget (holds : fifo.Holds submitted retired completed called)
    (more : retired + called < submitted.length) :
    (fifo.forget ((retired + called) % fifo.size)).Holds submitted retired completed
      (called + 1) := by
  have bounded := holds.bounded
  refine { holds with called_le := more, filled := ?_, kept := ?_ }
  · intro insertion isInsertion isFilled
    have room := holds.slot (by rw [show fifo.insertion = some insertion from isInsertion]; rfl)
    have apart : submitted.length % fifo.size ≠ (retired + called) % fifo.size :=
      @slot_ne fifo.size retired _ _ (by omega) room (by omega) (by omega) (by omega)
    exact (update_of_ne apart _ _).trans (holds.filled insertion isInsertion isFilled)
  · intro position inside low
    have apart : position % fifo.size ≠ (retired + called) % fifo.size :=
      @slot_ne fifo.size retired _ _ (by omega) (by omega) (by omega) (by omega) (by omega)
    exact (update_of_ne apart _ _).trans (holds.kept position inside (by omega))

end Ring

end GsKernel.Eh
