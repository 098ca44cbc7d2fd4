import GsKernel.Lib.Runs

/-!
# Cache partitions and their resize callbacks

A client registers a handle with some ids and enables, disables, mutates and frees them. The
driver may tell a size for any id at any time; for an enabled id the change is queued, and one
thread calls the client back.

Each part under `driver->lock` or `pt_internal_data.sl` is a step, and so is the part of a call
under `handle->lock` between two of them. The resize thread keeps `sl` from taking an id off the
list until the callback has returned.
-/

namespace GsKernel.Pt

open Function

/-- An id of a handle. -/
structure PtKey where
  handle : Nat
  id : Nat
deriving DecidableEq

/-- What a handle is registered with: whether there is a callback, how many ids, and the driver
of each. -/
structure PtHandle where
  callback : Bool
  idCnt : Nat
  driver : Nat → Nat

/-- `struct pt_pts`; `told` is the last size that the client was told. -/
structure PtPts where
  enabled : Bool
  size : Nat
  ptid : Option Nat
  told : Option Nat
deriving DecidableEq

/-- Whether a handle is in use. -/
inductive HandleState where
  | unregistered | registered | closing | freed
deriving DecidableEq

/-- The locks that the resize thread could hold. -/
inductive PtLock where
  | sl
  | handle (handle : Nat)
  | driver (driver : Nat)
deriving DecidableEq

/-- Where `pt_resize_thread` is. -/
inductive ResizeThread where
  | waiting
  | locked
  | popped (key : PtKey) (size : Nat)
deriving DecidableEq

/-- The locks that `pt_resize_thread` holds. -/
def ResizeThread.held : ResizeThread → List PtLock
  | .waiting => []
  | .locked => [.sl]
  | .popped _ _ => [.sl]

/-- What a client may call. -/
inductive PtRequest where
  | enable (key : PtKey)
  | disable (key : PtKey)
  | disableNoFree (key : PtKey)
  | free (key : PtKey)
  | mutate (handle old new : Nat)
deriving DecidableEq

/-- Where a client's call is. The calls named `Enter` wait for `handle->lock`, and the other ones
have it, except `enableList`. -/
inductive PtCall where
  | idle
  | enableEnter (key : PtKey)
  | enableAlloc (key : PtKey)
  | enableAllocating (key : PtKey)
  | enableRead (key : PtKey)
  | enableList (key : PtKey)
  | disableEnter (key : PtKey) (free : Bool)
  | disableDriver (key : PtKey) (free : Bool)
  | freeEnter (key : PtKey)
  | freeDriver (key : PtKey)
  | mutateEnter (handle old new : Nat)
  | mutateDriver (handle old new : Nat)
  | mutateMoved (handle old new ptid : Nat)
  | mutateRead (handle old new : Nat) (moved : Bool)
deriving DecidableEq

/-- The ids that a call is about. -/
def PtCall.keys : PtCall → List PtKey
  | .idle => []
  | .enableEnter key | .enableAlloc key | .enableAllocating key | .enableRead key
  | .enableList key | .disableEnter key _ | .disableDriver key _ | .freeEnter key
  | .freeDriver key => [key]
  | .mutateEnter handle old new | .mutateDriver handle old new | .mutateMoved handle old new _
  | .mutateRead handle old new _ => [⟨handle, old⟩, ⟨handle, new⟩]

/-- A call of `resize_callback`: for which id and size, whether the id was enabled, and which
locks its thread held. -/
structure Callback where
  key : PtKey
  size : Nat
  enabled : Bool
  held : List PtLock
deriving DecidableEq

/-- The handles with their ids, `resize_list` with the entry that was added last in front, the
resize thread and the clients' calls. `callbacks` records the calls of `resize_callback`. -/
structure PtSystem (count : Nat) where
  config : Nat → PtHandle
  state : Nat → HandleState
  pts : PtKey → PtPts
  resizeList : List PtKey
  lock : Nat → Bool
  thread : ResizeThread
  calls : Fin count → PtCall
  panicked : Bool
  callbacks : List Callback

/-- A step: a client registers or unregisters a handle, begins a call or goes on with it (with
what the driver answers), the driver resizes a partition, or the resize thread goes on. -/
inductive PtStep (count : Nat) where
  | register (handle : Nat)
  | unregister (handle : Nat)
  | call (caller : Fin count) (request : PtRequest)
  | go (caller : Fin count) (answer : Option Nat)
  | resize (key : PtKey) (size : Nat)
  | thread
deriving DecidableEq

section Steps

variable {count : Nat} (system : PtSystem count)

namespace PtSystem

/-- An id is changed. -/
def setPts (key : PtKey) (pts : PtPts) : PtSystem count :=
  { system with pts := update system.pts key pts }

/-- A call goes to its next part. -/
def setCall (caller : Fin count) (call : PtCall) : PtSystem count :=
  { system with calls := update system.calls caller call }

/-- `handle->lock` is taken or given back. -/
def setLock (handle : Nat) (held : Bool) : PtSystem count :=
  { system with lock := update system.lock handle held }

/-- `pt_internal_data.sl` is free. -/
def slFree : Bool := system.thread = .waiting

/-- A handle is registered and has the id. -/
def knows (key : PtKey) : Bool :=
  system.state key.handle = .registered && key.id < (system.config key.handle).idCnt

/-- `pt_resize_list_add`. -/
def resizeListAdd (key : PtKey) (size : Nat) : PtSystem count :=
  let pts := system.pts key
  let next := system.setPts key { pts with size := size }
  if key ∉ system.resizeList ∧ pts.enabled ∧ pts.size ≠ size then
    { next with resizeList := key :: system.resizeList }
  else next

/-- `pt_resize_list_disable`. -/
def resizeListDisable (key : PtKey) : PtSystem count :=
  let pts := system.pts key
  if key ∈ system.resizeList then
    { system.setPts key { pts with enabled := false, size := 0 } with
      resizeList := system.resizeList.filter (· ≠ key) }
  else system.setPts key { pts with enabled := false }

/-- `pt_resize_list_enable`. -/
def resizeListEnable (key : PtKey) : PtSystem count :=
  system.setPts key { system.pts key with enabled := true }

/-- `pt_resize_internal`. The size has 32 bits. -/
def resizeInternal (key : PtKey) (size : Nat) : PtSystem count :=
  if (system.config key.handle).callback then system.resizeListAdd key (size % 2 ^ 32)
  else system.setPts key { system.pts key with size := size % 2 ^ 32 }

/-- A step of `pt_resize_thread`. -/
def threadStep : PtSystem count :=
  match system.thread with
  | .waiting => { system with thread := .locked }
  | .locked =>
    match system.resizeList with
    | [] => { system with thread := .waiting }
    | key :: rest =>
      { system with resizeList := rest, thread := .popped key (system.pts key).size }
  | .popped key size =>
    { system.setPts key { system.pts key with told := some size } with
      thread := .waiting
      callbacks := system.callbacks ++ [⟨key, size, (system.pts key).enabled, system.thread.held⟩] }

end PtSystem

/-- The first part of a call. A call with an id that the handle does not have, or to mutate an
id of another driver, does nothing. -/
def PtRequest.start (config : Nat → PtHandle) : PtRequest → PtCall
  | .enable key => .enableEnter key
  | .disable key => .disableEnter key true
  | .disableNoFree key => .disableEnter key false
  | .free key => .freeEnter key
  | .mutate handle old new =>
    if (config handle).driver old ≠ (config handle).driver new then .idle
    else .mutateEnter handle old new

/-- The next part of a call. -/
def PtSystem.callStep (caller : Fin count) (answer : Option Nat) : Option (PtSystem count) :=
  match system.calls caller with
  | .idle => none
  | .enableEnter key =>
    if system.lock key.handle then none
    else if (system.pts key).enabled then some (system.setCall caller .idle)
    else some ((system.setLock key.handle true).setCall caller (.enableAlloc key))
  | .enableAlloc key =>
    if (system.pts key).ptid.isSome then some (system.setCall caller (.enableRead key))
    else
      -- the driver may resize the partition before `ops->alloc` returns
      some (system.setCall caller (.enableAllocating key))
  | .enableAllocating key =>
    some ((system.setPts key { system.pts key with ptid := answer }).setCall caller
      (.enableRead key))
  | .enableRead key =>
    if (system.pts key).ptid.isSome then
      some (((system.setPts key
        { system.pts key with told := some (system.pts key).size }).setLock
          key.handle false).setCall caller (.enableList key))
    else some ((system.setLock key.handle false).setCall caller .idle)
  | .enableList key =>
    if system.slFree then some ((system.resizeListEnable key).setCall caller .idle) else none
  | .disableEnter key free =>
    if system.lock key.handle || !system.slFree then none
    else if (system.pts key).enabled then
      some (((system.resizeListDisable key).setLock key.handle true).setCall caller
        (.disableDriver key free))
    else
      some ((system.resizeListDisable key).setCall caller (if free then .freeEnter key else .idle))
  | .disableDriver key free =>
    some ((system.setLock key.handle false).setCall caller (if free then .freeEnter key else .idle))
  | .freeEnter key =>
    if system.lock key.handle then none
    else if !(system.pts key).enabled && (system.pts key).ptid.isSome then
      some ((system.setLock key.handle true).setCall caller (.freeDriver key))
    else some (system.setCall caller .idle)
  | .freeDriver key =>
    some (((system.setPts key { system.pts key with ptid := none }).setLock
      key.handle false).setCall caller .idle)
  | .mutateEnter handle old new =>
    if system.lock handle then none
    else if !(system.pts ⟨handle, old⟩).enabled || (system.pts ⟨handle, new⟩).enabled then
      some (system.setCall caller .idle)
    else some ((system.setLock handle true).setCall caller (.mutateDriver handle old new))
  | .mutateDriver handle old new =>
    match answer with
    | none => some (system.setCall caller (.mutateRead handle old new false))
    | some ptid => some (system.setCall caller (.mutateMoved handle old new ptid))
  | .mutateMoved handle old new ptid =>
    some (((system.setPts ⟨handle, old⟩
      { system.pts ⟨handle, old⟩ with ptid := none, enabled := false }).setPts ⟨handle, new⟩
        { system.pts ⟨handle, new⟩ with ptid := some ptid, enabled := true }).setCall caller
          (.mutateRead handle old new true))
  | .mutateRead handle _ new moved =>
    let next := if moved then
      system.setPts ⟨handle, new⟩
        { system.pts ⟨handle, new⟩ with told := some (system.pts ⟨handle, new⟩).size }
      else system
    some ((next.setLock handle false).setCall caller .idle)

/-- `pt_client_unregister`: up to the check of the ids, and to its return. The client has no
other call on the handle then. -/
def PtSystem.unregister (handle : Nat) : Option (PtSystem count) :=
  match system.state handle with
  | .registered =>
    if ∃ caller, ∃ key ∈ (system.calls caller).keys, key.handle = handle then none
    else if ∃ id < (system.config handle).idCnt, (system.pts ⟨handle, id⟩).ptid.isSome then
      some { system with panicked := true }
    else some { system with state := update system.state handle .closing }
  | .closing =>
    if system.slFree then
      some { system with state := update system.state handle .freed }
    else none
  | _ => none

/-- One step, if it is possible. -/
def PtSystem.step (step : PtStep count) : Option (PtSystem count) :=
  if system.panicked then none
  else
    match step with
    | .register handle =>
      if system.state handle = .unregistered then
        some { system with state := update system.state handle .registered }
      else none
    | .unregister handle => system.unregister handle
    | .call caller request =>
      let call := request.start system.config
      if system.calls caller = .idle ∧ ∀ key ∈ call.keys, system.knows key then
        some (system.setCall caller call)
      else none
    | .go caller answer => system.callStep caller answer
    | .resize key size =>
      if system.slFree then some (system.resizeInternal key size) else none
    | .thread => some system.threadStep

end Steps

/-- Before any handle is registered. -/
def PtSystem.initial (config : Nat → PtHandle) (count : Nat) : PtSystem count where
  config := config
  state := fun _ => .unregistered
  pts := fun _ => ⟨false, 0, none, none⟩
  resizeList := []
  lock := fun _ => false
  thread := .waiting
  calls := fun _ => .idle
  panicked := false
  callbacks := []

end GsKernel.Pt
