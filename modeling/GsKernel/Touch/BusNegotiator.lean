import GsKernel.Lib.Runs
import GsKernel.Lib.Errno

/-!
# The touch bus negotiator

The application processor and the always-on processor share a touch bus. Devices register for a
bit of a mask, and request and release the bus under it; a handshake, whose reply of 0 moves the
bus, is made when the first bit is requested and when the last one is released.
-/

namespace GsKernel.Touch

open Function BitVec

/-- `enum tbn_bus_owner`. -/
inductive BusOwner where
  | ap
  | aoc
deriving DecidableEq

/-- The operations of `enum TbnOperation` that are negotiated. -/
inductive TbnOperation where
  | apRequestBus
  | apReleaseBus
deriving DecidableEq

/-- The owner an operation asks for. -/
def TbnOperation.busOwner : TbnOperation → BusOwner
  | .apRequestBus => .ap
  | .apReleaseBus => .aoc

/-- The negotiator's context, with the actual owner of the bus. -/
structure TbnContext where
  maxDevices : Nat
  registeredMask : BitVec 32
  requestedDevMask : BitVec 32
  owner : BusOwner
deriving DecidableEq

/-- What a call answers, and the handshake it attempted. -/
structure TbnAnswer where
  ret : Int
  handshake : Option TbnOperation
deriving DecidableEq

/-- `BIT_MASK`, an `unsigned long`. -/
def bitMask (index : Nat) : BitVec 64 := twoPow 64 (index % 64)

/-- `tbn_handshaking`, given the reply of the negotiation. -/
def TbnContext.handshaking (tbn : TbnContext) (operation : TbnOperation) (reply : Int) :
    TbnContext × TbnAnswer :=
  if tbn.registeredMask = 0 then (tbn, ⟨-EINVAL, none⟩)
  else
    (if reply = 0 then { tbn with owner := operation.busOwner } else tbn, ⟨reply, some operation⟩)

/-- `tbn_request_bus_with_result`. The mask is recorded whatever the handshake returned. -/
def TbnContext.requestBus (tbn : TbnContext) (devMask : BitVec 32) (reply : Int) :
    TbnContext × TbnAnswer :=
  if devMask &&& tbn.registeredMask = 0 then (tbn, ⟨-EINVAL, none⟩)
  else
    let (next, answer) :=
      if tbn.requestedDevMask = 0 then tbn.handshaking .apRequestBus reply
      else (tbn, ⟨0, none⟩)
    ({ next with requestedDevMask := next.requestedDevMask ||| devMask }, answer)

/-- `tbn_release_bus`. -/
def TbnContext.releaseBus (tbn : TbnContext) (devMask : BitVec 32) (reply : Int) :
    TbnContext × TbnAnswer :=
  if devMask &&& tbn.registeredMask = 0 then (tbn, ⟨-EINVAL, none⟩)
  else if tbn.requestedDevMask = 0 then (tbn, ⟨0, none⟩)
  else
    let (next, answer) :=
      if tbn.requestedDevMask = devMask then tbn.handshaking .apReleaseBus reply
      else (tbn, ⟨0, none⟩)
    ({ next with requestedDevMask := next.requestedDevMask &&& ~~~devMask }, answer)

/-- `register_tbn`: the context afterwards and the mask written to the device. -/
def TbnContext.register (tbn : TbnContext) : TbnContext × BitVec 32 :=
  match (List.range tbn.maxDevices).find? fun index =>
      tbn.registeredMask.setWidth 64 &&& bitMask index == 0 with
  | none => (tbn, 0)
  | some index =>
    ({ tbn with
        registeredMask := (tbn.registeredMask.setWidth 64 ||| bitMask index).setWidth 32
        requestedDevMask := (tbn.requestedDevMask.setWidth 64 ||| bitMask index).setWidth 32 },
      (bitMask index).setWidth 32)

/-- `unregister_tbn`. -/
def TbnContext.unregister (tbn : TbnContext) (devMask : BitVec 32) : TbnContext :=
  { tbn with registeredMask := tbn.registeredMask &&& ~~~devMask }

/-! ## Devices -/

/-- The negotiator with its devices: the mask each was given, whether it `granted` a request not
released since, and whether the device `holds` the bus, by such a request or by registering, and
has not released it or unregistered since. -/
structure TbnSystem where
  tbn : TbnContext
  masks : Nat → BitVec 32
  granted : Nat → Bool
  holds : Nat → Bool

/-- The negotiator after its probe: the bus belongs to the application processor. -/
def TbnSystem.initial (maxDevices : Nat) : TbnSystem :=
  ⟨⟨maxDevices, 0, 0, .ap⟩, fun _ => 0, fun _ => false, fun _ => false⟩

/-- A call by a device, with the reply a handshake would get. -/
inductive TbnCall where
  | register (device : Nat)
  | unregister (device : Nat)
  | request (device : Nat) (reply : Int)
  | release (device : Nat) (reply : Int)
deriving DecidableEq

/-- One call. Registering is for a device that has no mask. -/
def TbnSystem.call (system : TbnSystem) : TbnCall → Option (TbnSystem × TbnAnswer)
  | .register device =>
    if system.masks device ≠ 0 then none
    else
      let (tbn, mask) := system.tbn.register
      some ({ system with
          tbn
          masks := update system.masks device mask
          holds := update system.holds device (mask ≠ 0) },
        ⟨0, none⟩)
  | .unregister device =>
    some (⟨system.tbn.unregister (system.masks device),
        update system.masks device 0, update system.granted device false,
        update system.holds device false⟩, ⟨0, none⟩)
  | .request device reply =>
    let (tbn, answer) := system.tbn.requestBus (system.masks device) reply
    some ({ system with
        tbn
        granted := if answer.ret = 0 then update system.granted device true else system.granted
        holds := if answer.ret = 0 then update system.holds device true else system.holds },
      answer)
  | .release device reply =>
    let (tbn, answer) := system.tbn.releaseBus (system.masks device) reply
    some ({ system with
        tbn
        granted := update system.granted device false
        holds := update system.holds device false },
      answer)

/-- One call, for the state it leaves. -/
def TbnSystem.step (system : TbnSystem) (call : TbnCall) : Option TbnSystem :=
  (system.call call).map Prod.fst

/-! ## Bits -/

lemma twoPow_ne_zero {index : Nat} (inside : index < 32) : twoPow 32 index ≠ 0#32 := by
  intro zero
  have bit := congrArg (fun mask => mask.getLsbD index) zero
  simp [inside] at bit

lemma twoPow_inj {first second : Nat} (inside : first < 32)
    (same : twoPow 32 first = twoPow 32 second) : first = second := by
  have bit := congrArg (fun mask => mask.getLsbD first) same
  simpa [inside, eq_comm] using bit

lemma twoPow_and_eq_zero {index : Nat} (inside : index < 32) (mask : BitVec 32) :
    BitVec.twoPow 32 index &&& mask = 0 ↔ mask.getLsbD index = false := by
  rw [BitVec.and_comm, BitVec.and_twoPow]
  cases bit : mask.getLsbD index <;> simp [twoPow_ne_zero inside]

/-- Registering either finds no bit, or takes one that is not registered. -/
lemma register_cases (tbn : TbnContext) : tbn.register = (tbn, 0) ∨
      ∃ index < 32, tbn.registeredMask.getLsbD index = false ∧ tbn.register = ({ tbn with
              registeredMask := tbn.registeredMask ||| twoPow 32 index
              requestedDevMask := tbn.requestedDevMask ||| twoPow 32 index },
            twoPow 32 index) := by
  unfold TbnContext.register
  split
  · exact .inl rfl
  rename_i index found
  have free := List.find?_some found
  have narrow : (bitMask index).setWidth 32 =
      if index % 64 < 32 then twoPow 32 (index % 64) else 0 := by
    refine eq_of_getLsbD_eq fun bit inside => ?_
    have within : index % 64 < 64 := Nat.mod_lt _ (by decide)
    split
    · simp [bitMask, inside, within, eq_comm]
    · simp [bitMask, inside, within]
      omega
  have wide : ∀ mask : BitVec 32, (mask.setWidth 64 ||| bitMask index).setWidth 32 =
      mask ||| (bitMask index).setWidth 32 := by
    intro mask
    ext bit inside
    simp
  simp only [wide, narrow]
  by_cases low : index % 64 < 32
  · refine .inr ⟨index % 64, low, ?_, by simp [low]⟩
    have bit := congrArg (fun mask => mask.getLsbD (index % 64)) (eq_of_beq free)
    simpa [bitMask, low, show index % 64 < 64 by omega] using bit
  · exact .inl (by simp [low])

end GsKernel.Touch
