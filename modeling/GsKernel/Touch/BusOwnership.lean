import GsKernel.Touch.BusNegotiator

/-!
# Who owns the touch bus

The requested bits of the negotiator are those of the devices that hold the bus, and while
there are any the application processor owns it, as long as requests get their handshake,
devices register while the application processor has the bus and unregister after releasing
it.
-/

namespace GsKernel.Touch

open Function Lib.Runs TbnContext TbnSystem Option

/-- The negotiator agrees with its devices: registered devices have a registered bit each, the
requested bits are those of the devices that hold the bus, and while there are any the bus belongs
to the application processor. -/
structure TbnSystem.Consistent (system : TbnSystem) : Prop where
  bit : ∀ device, system.masks device ≠ 0 → ∃ index < 32,
    system.masks device = BitVec.twoPow 32 index ∧ system.tbn.registeredMask.getLsbD index = true
  distinct : ∀ first second, system.masks first ≠ 0 →
    system.masks first = system.masks second → first = second
  requested : ∀ index, system.tbn.requestedDevMask.getLsbD index = true →
    ∃ device, system.masks device = BitVec.twoPow 32 index ∧ system.holds device = true
  holds : ∀ device, system.holds device = true → ∃ index < 32,
    system.masks device = BitVec.twoPow 32 index ∧ system.tbn.requestedDevMask.getLsbD index = true
  granted : ∀ device, system.granted device = true → system.holds device = true
  owner : system.tbn.requestedDevMask ≠ 0 → system.tbn.owner = .ap

/-- What a call must meet: a device registers while the application processor owns the bus,
a request that needs a handshake gets it, and a device that unregisters has released the
bus. -/
def TbnSystem.Admissible (system : TbnSystem) : TbnCall → Prop
  | .register _ => system.tbn.register.2 ≠ 0 → system.tbn.owner = .ap
  | .unregister device => system.tbn.requestedDevMask &&& system.masks device = 0
  | .request device reply => system.masks device &&& system.tbn.registeredMask ≠ 0 →
    system.tbn.requestedDevMask = 0 → reply = 0
  | .release _ _ => True

instance TbnSystem.decidableAdmissible (system : TbnSystem) (call : TbnCall) :
    Decidable (system.Admissible call) :=
  match call with
  | .register _ => inferInstanceAs (Decidable (_ → _))
  | .unregister _ => inferInstanceAs (Decidable (_ = _))
  | .request _ _ => inferInstanceAs (Decidable (_ → _ → _))
  | .release _ _ => inferInstanceAs (Decidable True)

/-- The device is the only one that holds the bus. -/
def TbnSystem.LastHolder (system : TbnSystem) (device : Nat) : Prop :=
  system.holds device = true ∧ ∀ other, system.holds other = true → other = device

namespace TbnSystem.Consistent

variable {system : TbnSystem}

lemma initial (maxDevices : Nat) : (TbnSystem.initial maxDevices).Consistent := by
  constructor <;> simp [TbnSystem.initial]

section

variable (consistent : system.Consistent)
include consistent

/-- A device with a mask passes the check of a request or a release. -/
lemma registered_iff (device : Nat) :
    system.masks device &&& system.tbn.registeredMask = 0 ↔ system.masks device = 0 := by
  constructor
  · intro none
    by_contra some
    obtain ⟨index, inside, isMask, registered⟩ := consistent.bit device some
    rw [isMask, twoPow_and_eq_zero inside, registered] at none
    contradiction
  · intro none
    simp [none]

variable {device : Nat}

/-- The requested mask is that of a device exactly when the device is the last holder. -/
lemma requestedDevMask_eq_iff (registered : system.masks device ≠ 0) :
    system.tbn.requestedDevMask = system.masks device ↔ system.LastHolder device := by
  obtain ⟨index, inside, isMask, -⟩ := consistent.bit device registered
  constructor
  · intro only
    have all : ∀ other, system.holds other = true → other = device := by
      intro other held
      obtain ⟨bit, within, isOther, requested⟩ := consistent.holds other held
      have same : bit = index := by simpa [only, isMask, within] using requested
      exact (consistent.distinct device other registered (by rw [isMask, isOther, same])).symm
    have bit : system.tbn.requestedDevMask.getLsbD index = true := by
      simp [only, isMask, inside]
    obtain ⟨holder, isHolder, held⟩ := consistent.requested index bit
    exact ⟨all holder held ▸ held, all⟩
  · rintro ⟨held, all⟩
    obtain ⟨bit, within, isBit, requested⟩ := consistent.holds device held
    obtain rfl := twoPow_inj inside (isMask.symm.trans isBit)
    rw [isMask]
    refine BitVec.eq_of_getLsbD_eq fun other isInside => ?_
    cases set : system.tbn.requestedDevMask.getLsbD other with
    | true =>
      obtain ⟨holder, isHolder, held⟩ := consistent.requested other set
      have sameMask := isHolder.symm.trans (all holder held ▸ isMask)
      simp [twoPow_inj isInside sameMask, inside]
    | false =>
      have ne : index ≠ other := by
        rintro rfl
        rw [requested] at set
        contradiction
      simp [ne]

/-- A device without a mask holds nothing. -/
lemma unheld (unregistered : system.masks device = 0) :
    update system.holds device false = system.holds ∧
      update system.granted device false = system.granted := by
  have notHeld : ¬ system.holds device = true := by
    intro held
    obtain ⟨index, inside, isMask, -⟩ := consistent.holds device held
    exact twoPow_ne_zero inside (isMask.symm.trans unregistered)
  have notGranted : ¬ system.granted device = true := mt (consistent.granted device) notHeld
  rw [update_eq_self_iff, update_eq_self_iff]
  exact ⟨(Bool.eq_false_iff.mpr notHeld).symm, (Bool.eq_false_iff.mpr notGranted).symm⟩

/-- No other device has the mask of a device. -/
lemma masks_ne {device index : Nat} (inside : index < 32)
    (isMask : system.masks device = BitVec.twoPow 32 index) (other : Nat) (ne : other ≠ device) :
    system.masks other ≠ BitVec.twoPow 32 index := by
  intro same
  exact ne (consistent.distinct other device (same ▸ twoPow_ne_zero inside)
    (same.trans isMask.symm))

variable {next : TbnSystem}

/-- Consistency is kept by a call that changes one device and one bit which no other device
has, when the bit is requested exactly if the device holds the bus afterwards. -/
lemma change {device index : Nat} (inside : index < 32)
    (before : system.masks device = 0 ∨ system.masks device = BitVec.twoPow 32 index)
    (others : ∀ other, other ≠ device → next.masks other = system.masks other ∧
      next.holds other = system.holds other ∧ next.granted other = system.granted other)
    (alone : ∀ other, other ≠ device → system.masks other ≠ BitVec.twoPow 32 index)
    (bits : ∀ bit, bit < 32 → bit ≠ index →
      next.tbn.registeredMask.getLsbD bit = system.tbn.registeredMask.getLsbD bit ∧
      next.tbn.requestedDevMask.getLsbD bit = system.tbn.requestedDevMask.getLsbD bit)
    (mask : next.masks device = 0 ∧ next.holds device = false ∨
      next.masks device = BitVec.twoPow 32 index ∧ next.tbn.registeredMask.getLsbD index = true)
    (requested : next.tbn.requestedDevMask.getLsbD index = next.holds device)
    (granted : next.granted device = true → next.holds device = true)
    (owner : next.tbn.requestedDevMask ≠ 0 → next.tbn.owner = .ap) : next.Consistent := by
  have apart : ∀ other bit, other ≠ device → system.masks other = BitVec.twoPow 32 bit →
      bit ≠ index := by
    rintro other bit ne isBit rfl
    exact alone other ne isBit
  refine ⟨fun other some => ?_, fun first second some same => ?_, fun bit set => ?_,
    fun other held => ?_, fun other isGranted => ?_, owner⟩
  · by_cases ne : other = device
    · grind
    · rw [(others other ne).1] at some ⊢
      obtain ⟨bit, within, isBit, registered⟩ := consistent.bit other some
      exact ⟨bit, within, isBit, (bits bit within (apart other bit ne isBit)).1.trans registered⟩
  · have isFirst := others first
    have distinct := consistent.distinct first second
    grind
  · by_cases isIndex : bit = index
    · exact ⟨device, by grind, by grind⟩
    · have within : bit < 32 := BitVec.lt_of_getLsbD set
      rw [(bits bit within isIndex).2] at set
      obtain ⟨holder, isHolder, held⟩ := consistent.requested bit set
      have ne : holder ≠ device := by
        rintro rfl
        rcases before with none | some
        · exact twoPow_ne_zero within (isHolder.symm.trans none)
        · exact isIndex (twoPow_inj within (isHolder.symm.trans some))
      exact ⟨holder, (others holder ne).1.trans isHolder, (others holder ne).2.1.trans held⟩
  · by_cases ne : other = device
    · exact ⟨index, inside, by grind⟩
    · rw [(others other ne).2.1] at held
      rw [(others other ne).1]
      obtain ⟨bit, within, isBit, set⟩ := consistent.holds other held
      exact ⟨bit, within, isBit, (bits bit within (apart other bit ne isBit)).2.trans set⟩
  · have isOther := others other
    have held := consistent.granted other
    grind

variable {answer : TbnAnswer}

/-- Registering. -/
lemma register (admissible : system.Admissible (.register device))
    (called : system.call (.register device) = some (next, answer)) : next.Consistent := by
  simp only [call, ite_none_left_eq_some, not_not] at called
  obtain ⟨fresh, called⟩ := called
  obtain ⟨notHeld, notGranted⟩ := consistent.unheld fresh
  rcases register_cases system.tbn with none | ⟨index, inside, free, taken⟩
  · simp only [none] at called
    cases called
    simpa [notHeld, ← fresh] using consistent
  have owned : system.tbn.owner = .ap :=
    admissible (by rw [taken]; exact twoPow_ne_zero inside)
  simp only [taken] at called
  cases called
  have alone : ∀ other, other ≠ device → system.masks other ≠ BitVec.twoPow 32 index := by
    intro other _ same
    obtain ⟨bit, within, isBit, registered⟩ := consistent.bit other (same ▸ twoPow_ne_zero inside)
    obtain rfl := twoPow_inj inside (same.symm.trans isBit)
    rw [free] at registered
    contradiction
  refine consistent.change inside (.inl fresh) ?_ alone ?_ (.inr ?_) ?_ ?_ fun _ => owned
  · intro other ne
    simp [ne]
  · intro bit within ne
    simp [ne.symm]
  · simp [inside]
  · simpa [inside] using twoPow_ne_zero inside
  · simpa using fun _ => twoPow_ne_zero inside

/-- Unregistering a device that has released the bus. -/
lemma unregister (admissible : system.Admissible (.unregister device))
    (called : system.call (.unregister device) = some (next, answer)) : next.Consistent := by
  cases called
  by_cases mask : system.masks device = 0
  · obtain ⟨notHeld, notGranted⟩ := consistent.unheld mask
    have same : system.tbn.unregister 0 = system.tbn := by
      simp only [TbnContext.unregister, BitVec.ofNat_eq_ofNat, BitVec.not_zero, BitVec.and_allOnes]
    rw [notHeld, notGranted, mask, same]
    simpa [← mask] using consistent
  · obtain ⟨index, inside, isMask, -⟩ := consistent.bit device mask
    have released : system.tbn.requestedDevMask &&& system.masks device = 0 := admissible
    rw [isMask, BitVec.and_comm, twoPow_and_eq_zero inside] at released
    refine consistent.change inside (.inr isMask) ?_ (consistent.masks_ne inside isMask) ?_
      (.inl ?_) ?_ ?_ consistent.owner
    · intro other ne
      simp [ne]
    · intro bit within ne
      simpa [TbnContext.unregister, isMask, within] using fun _ => ne
    · simp
    · simpa [TbnContext.unregister] using released
    · simp

variable {reply : Int}

/-- What a request does when its handshake, if it needs one, succeeds. -/
lemma requestBus_eq (admissible : system.Admissible (.request device reply))
    (some : system.masks device ≠ 0) :
    ∃ handshake, system.tbn.requestBus (system.masks device) reply = ({ system.tbn with
          requestedDevMask := system.tbn.requestedDevMask ||| system.masks device
          owner := .ap },
        ⟨0, handshake⟩) := by
  have valid : ¬ system.masks device &&& system.tbn.registeredMask = 0 :=
    fun none => some ((consistent.registered_iff device).mp none)
  have registered : ¬ system.tbn.registeredMask = 0 := by
    intro none
    exact valid (by simp [none])
  by_cases first : system.tbn.requestedDevMask = 0
  · refine ⟨.some .apRequestBus, ?_⟩
    simp only [requestBus, if_neg valid, if_pos first, handshaking,
      if_neg registered, admissible valid first, TbnOperation.busOwner, if_true]
  · refine ⟨none, ?_⟩
    simp only [requestBus, if_neg valid, if_neg first, ← consistent.owner first]

/-- Requesting. -/
lemma request (admissible : system.Admissible (.request device reply))
    (called : system.call (.request device reply) = some (next, answer)) : next.Consistent := by
  by_cases mask : system.masks device = 0
  · have invalid := (consistent.registered_iff device).mpr mask
    simp only [call, requestBus, if_pos invalid] at called
    cases called
    simpa [EINVAL] using consistent
  · obtain ⟨handshake, isNext⟩ := consistent.requestBus_eq admissible mask
    simp only [call, isNext, if_true] at called
    cases called
    obtain ⟨index, inside, isMask, registered⟩ := consistent.bit device mask
    refine consistent.change inside (.inr isMask) ?_ (consistent.masks_ne inside isMask) ?_
      (.inr ⟨isMask, registered⟩) ?_ ?_ fun _ => rfl
    · intro other ne
      simp [ne]
    · intro bit within ne
      simp [isMask, ne.symm]
    · simp [isMask, inside]
    · simp

/-- What a release by a registered device does. -/
lemma releaseBus_eq (reply : Int) (mask : system.masks device ≠ 0) :
    ∃ owner answer, system.tbn.releaseBus (system.masks device) reply = ({ system.tbn with
            requestedDevMask := system.tbn.requestedDevMask &&& ~~~system.masks device
            owner },
          answer) ∧
      (system.tbn.requestedDevMask ≠ system.masks device → owner = system.tbn.owner) ∧
      (system.tbn.requestedDevMask = system.masks device →
        answer.handshake = some .apReleaseBus) := by
  have valid : ¬ system.masks device &&& system.tbn.registeredMask = 0 :=
    fun none => mask ((consistent.registered_iff device).mp none)
  have registered : ¬ system.tbn.registeredMask = 0 := by
    intro none
    exact valid (by simp [none])
  by_cases none : system.tbn.requestedDevMask = 0
  · refine ⟨system.tbn.owner, ⟨0, Option.none⟩, ?_, fun _ => rfl, fun same => ?_⟩
    · have cleared : system.tbn.requestedDevMask &&& ~~~system.masks device =
          system.tbn.requestedDevMask := by simp [none]
      simp only [releaseBus, if_neg valid, if_pos none, cleared]
    · exact absurd (same.symm.trans none) mask
  · by_cases last : system.tbn.requestedDevMask = system.masks device
    · refine ⟨if reply = 0 then .aoc else system.tbn.owner, ⟨reply, some .apReleaseBus⟩, ?_,
        fun ne => absurd last ne, fun _ => rfl⟩
      simp only [releaseBus, if_neg valid, if_neg none, if_pos last,
        handshaking, if_neg registered, TbnOperation.busOwner]
      split <;> rfl
    · refine ⟨system.tbn.owner, ⟨0, Option.none⟩, ?_, fun _ => rfl, fun same => absurd same last⟩
      simp only [releaseBus, if_neg valid, if_neg none, if_neg last]

/-- Releasing. -/
lemma release
    (called : system.call (.release device reply) = some (next, answer)) : next.Consistent := by
  by_cases mask : system.masks device = 0
  · have invalid := (consistent.registered_iff device).mpr mask
    simp only [call, releaseBus, if_pos invalid] at called
    cases called
    obtain ⟨notHeld, notGranted⟩ := consistent.unheld mask
    simpa only [notHeld, notGranted] using consistent
  · obtain ⟨owner, said, isNext, keeps, -⟩ := consistent.releaseBus_eq reply mask
    simp only [call, isNext] at called
    cases called
    obtain ⟨index, inside, isMask, registered⟩ := consistent.bit device mask
    refine consistent.change inside (.inr isMask) ?_ (consistent.masks_ne inside isMask) ?_
      (.inr ⟨isMask, registered⟩) ?_ ?_ fun some => ?_
    · intro other ne
      simp [ne]
    · intro bit within ne
      simpa [isMask, within] using fun _ => ne
    · simp [isMask, inside]
    · simp
    · dsimp only at some ⊢
      have notLast : system.tbn.requestedDevMask ≠ system.masks device := by
        intro last
        exact some (by simp [last])
      have requested : system.tbn.requestedDevMask ≠ 0 := by
        intro none
        exact some (by simp [none])
      rw [keeps notLast, consistent.owner requested]

end

end TbnSystem.Consistent

/-- A call that meets its condition keeps the negotiator consistent. -/
lemma TbnSystem.Consistent.call {system next : TbnSystem} {call : TbnCall} {answer : TbnAnswer}
    (consistent : system.Consistent) (admissible : system.Admissible call)
    (called : system.call call = some (next, answer)) : next.Consistent := by
  cases call with
  | register device => exact consistent.register admissible called
  | unregister device => exact consistent.unregister admissible called
  | request device reply => exact consistent.request admissible called
  | release device reply => exact consistent.release called

/-- In every run whose calls meet their conditions, and for every further call that does: a
request that returns 0 leaves the bus with the application processor, which keeps it while a
registered device has a granted request it has not released, and when the last holder
releases the bus or unregisters, a release handshake is attempted. -/
theorem tbn_ownership (maxDevices : Nat) (calls : List TbnCall) (system : TbnSystem)
    (along : Lib.Runs.AlongM step Admissible (.initial maxDevices) calls)
    (ran : calls.foldlM step (.initial maxDevices) = some system) :
    (∀ device, system.masks device ≠ 0 → system.granted device = true → system.tbn.owner = .ap) ∧
      ∀ call next answer, system.Admissible call → system.call call = some (next, answer) →
        (∀ device reply, call = .request device reply → answer.ret = 0 → next.tbn.owner = .ap) ∧
        ∀ device, system.LastHolder device →
          call = .unregister device ∨ (∃ reply, call = .release device reply) →
          answer.handshake = some .apReleaseBus := by
  have consistent : system.Consistent := by
    refine foldlM_invariant_along Consistent step
      Admissible ?_ calls (.initial maxDevices) along ran
    intro state call next consistent admissible stepped
    obtain ⟨⟨reached, answer⟩, called, rfl⟩ := map_eq_some_iff.mp stepped
    exact consistent.call admissible called
  have held : ∀ device, system.holds device = true → system.tbn.requestedDevMask ≠ 0 := by
    intro device isHeld none
    obtain ⟨index, inside, -, requested⟩ := consistent.holds device isHeld
    simp [none] at requested
  refine ⟨fun device _ granted => consistent.owner (held device (consistent.granted device granted)),
    fun call next answer admissible called => ⟨?_, ?_⟩⟩
  · rintro device reply rfl succeeded
    by_cases mask : system.masks device = 0
    · have invalid := (consistent.registered_iff device).mpr mask
      simp only [call, requestBus, if_pos invalid, some.injEq, Prod.mk.injEq] at called
      rw [← called.2] at succeeded
      simp [EINVAL] at succeeded
    · obtain ⟨handshake, isNext⟩ := consistent.requestBus_eq admissible mask
      simp only [call, isNext, some.injEq, Prod.mk.injEq] at called
      rw [← called.1]
  · rintro device last isCall
    obtain ⟨index, inside, isMask, requested⟩ := consistent.holds device last.1
    have mask : system.masks device ≠ 0 := isMask ▸ twoPow_ne_zero inside
    rcases isCall with rfl | ⟨reply, rfl⟩
    · have none : system.tbn.requestedDevMask &&& system.masks device = 0 := admissible
      rw [isMask, BitVec.and_comm, twoPow_and_eq_zero inside, requested] at none
      contradiction
    · obtain ⟨owner, said, isNext, -, attempts⟩ := consistent.releaseBus_eq reply mask
      simp only [call, isNext, some.injEq, Prod.mk.injEq] at called
      rw [← called.2]
      exact attempts ((consistent.requestedDevMask_eq_iff mask).mpr last)

/-- Two devices; the second requests the bus again after both have released it. -/
def sharedCalls : List TbnCall :=
  [.register 0, .register 1, .release 0 0, .release 1 0, .request 1 0]

/-- The calls meet their conditions and leave the second device with a granted request. -/
theorem tbn_ownership_shared : ∃ system, sharedCalls.foldlM step (.initial 2) = some system ∧
      system.granted 1 = true ∧ system.tbn.owner = .ap := by
  have along : AlongM step Admissible (.initial 2) sharedCalls :=
    alongM_of_check (by decide +kernel)
  have reached : ∃ system, sharedCalls.foldlM step (.initial 2) = some system ∧
      (system.masks 1 ≠ 0 ∧ system.granted 1 = true) :=
    exists_reached _ (by decide +kernel)
  obtain ⟨system, ran, mask, granted⟩ := reached
  exact ⟨system, ran, granted, (tbn_ownership 2 sharedCalls system along ran).1 1 mask granted⟩

/-- A device releases the bus, and its next request times out. -/
def failedRequest : List TbnCall :=
  [.register 0, .release 0 0, .request 0 (-110)]

/-- After the request that failed, a second one returns 0 without a handshake and leaves the
bus with the always-on processor. -/
theorem request_without_handshake : ∃ system, failedRequest.foldlM step (.initial 1) = some system ∧
      (system.call (.request 0 0)).any (fun result => result.2.ret == 0 &&
        result.2.handshake == none && result.1.tbn.owner == .aoc) = true :=
  exists_reached _ (by decide +kernel)

end GsKernel.Touch
