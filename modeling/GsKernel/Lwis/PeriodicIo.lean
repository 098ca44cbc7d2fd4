import GsKernel.Lib.Runs

/-!
# Periodic I/O

A periodic I/O is kept in the list of a timer with its period. Each expiry queues a proxy of every
active one, and the worker of the client executes what is queued. A cancellation deactivates a
periodic I/O and waits for an execution of it that is going on.

Everything happens under the client's `periodic_io_lock`, except for what the callback of a timer
does after it has released the lock, the executions, and the wait of a cancellation. An expiry
takes the timer off its queue before the callback runs, whose answer puts it back or not.
-/

namespace GsKernel.Lwis

open Function Option

/-- `enum lwis_hrtimer_state`, of which the error state is never used. -/
inductive HrtimerState where
  | active
  | inactive
deriving DecidableEq

/-- A periodic I/O: the period of its timer, whether it is active, the error code of its
response, the count of the completion `io_done`, and how many cancellations have found it. -/
structure PeriodicIo where
  periodNs : Int
  active : Bool
  errorCode : Int
  ioDone : Nat
  cancels : Nat
deriving DecidableEq

/-- The list of a timer: the state the driver keeps, whether the timer is armed, and what the
callback has found when it is past its locked part and has not returned yet. -/
structure PeriodicIoList where
  hrTimerState : HrtimerState
  armed : Bool
  callback : Option Bool
deriving DecidableEq

/-- Where the worker of the client is: before it takes a proxy, between its test of a periodic
I/O and the `reinit_completion`, between that and the `complete`, or behind it. -/
inductive PeriodicWorker where
  | idle
  | taken (id : Nat)
  | running (id : Nat)
  | completed (id : Nat)
deriving DecidableEq

/-- The periodic I/Os of a client, which are named by their ids; the timers by their periods.
`waiting` counts the cancellations that are at their wait. -/
structure PeriodicClient where
  periodicIoCounter : Nat
  ios : Nat → Option PeriodicIo
  timerList : Int → Option PeriodicIoList
  processQueue : List Nat
  worker : PeriodicWorker
  waiting : Nat → Nat

/-- `lwis_periodic_io_init`. -/
def PeriodicClient.initial : PeriodicClient :=
  ⟨0, fun _ => none, fun _ => none, [], .idle, fun _ => 0⟩

/-- The steps of a client. A submission says whether a new timer list could be allocated, an
expiry which proxies could, and the end of an execution which error it has met, if any. -/
inductive PeriodicStep where
  | submit (periodNs : Int) (listAllocated : Bool)
  | cancel (id : Nat)
  | waited (id : Nat)
  | expire (periodNs : Int) (proxyAllocated : Nat → Bool)
  | callbackEnd (periodNs : Int)
  | take
  | reinit
  | complete (error : Int)
  | settle

/-- `periodic_io_list_create_locked` for a list that could be allocated. -/
def PeriodicIoList.create : PeriodicIoList := ⟨.active, true, none⟩

/-- `periodic_io_list_find_or_create_locked` for a list that is found: an inactive timer is
restarted. -/
def PeriodicIoList.restart (list : PeriodicIoList) : PeriodicIoList :=
  match list.hrTimerState with
  | .active => list
  | .inactive => { list with hrTimerState := .active, armed := true }

namespace PeriodicClient

/-- `queue_periodic_io_locked` and the end of `lwis_periodic_io_submit`, with the timer list
that was found or created. The completion is made and completed once. -/
def queuePeriodicIo (client : PeriodicClient) (periodNs : Int)
    (list : PeriodicIoList) : PeriodicClient :=
  { client with
    periodicIoCounter := client.periodicIoCounter + 1
    ios := update client.ios client.periodicIoCounter (some ⟨periodNs, true, 0, 1, 0⟩)
    timerList := update client.timerList periodNs (some list) }

/-- The locked part of `lwis_periodic_io_submit`. -/
def submit (client : PeriodicClient) (periodNs : Int) (listAllocated : Bool) : PeriodicClient :=
  match client.timerList periodNs with
  | some list => client.queuePeriodicIo periodNs list.restart
  | none => if listAllocated then client.queuePeriodicIo periodNs .create else client

/-- The client with one periodic I/O changed. -/
def setIo (client : PeriodicClient) (id : Nat) (io : PeriodicIo) : PeriodicClient :=
  { client with ios := update client.ios id (some io) }

/-- The client with the list of one timer changed. -/
def setList (client : PeriodicClient) (periodNs : Int) (list : PeriodicIoList) : PeriodicClient :=
  { client with timerList := update client.timerList periodNs (some list) }

section

variable (client : PeriodicClient)
include client

open PeriodicClient

@[simp] lemma setList_self (periodNs : Int)
    (list : PeriodicIoList) : (client.setList periodNs list).timerList periodNs = some list :=
  update_self ..

lemma setList_of_ne {periodNs other : Int} (ne : other ≠ periodNs) (list : PeriodicIoList) :
    (client.setList periodNs list).timerList other = client.timerList other :=
  update_of_ne ne ..

@[simp] lemma queuePeriodicIo_new (periodNs : Int) (list : PeriodicIoList) :
    (client.queuePeriodicIo periodNs list).ios client.periodicIoCounter =
      some ⟨periodNs, true, 0, 1, 0⟩ := update_self ..

lemma queuePeriodicIo_old (periodNs : Int)
    (list : PeriodicIoList) {id : Nat} (ne : id ≠ client.periodicIoCounter) :
    (client.queuePeriodicIo periodNs list).ios id = client.ios id := update_of_ne ne ..

end

/-- The locked part of `lwis_periodic_io_cancel` with `mark_periodic_io_resp_error_locked`.
When the id is found the caller goes on to wait. -/
def cancel (client : PeriodicClient) (id : Nat) : PeriodicClient :=
  match client.ios id with
  | none => client
  | some io =>
    { client.setIo id { io with active := false, errorCode := -125, cancels := io.cancels + 1 } with
      waiting := update client.waiting id (client.waiting id + 1) }

/-- `wait_for_completion` returns to one of its callers. -/
def waited (client : PeriodicClient) (id : Nat) : Option PeriodicClient :=
  match client.ios id with
  | none => none
  | some io =>
    if client.waiting id = 0 ∨ io.ioDone = 0 then none
    else some { client.setIo id { io with ioDone := io.ioDone - 1 } with
      waiting := update client.waiting id (client.waiting id - 1) }

/-- The periodic I/Os in the list of a timer that get a proxy on an expiry, in the order of
the list. -/
def queued (client : PeriodicClient) (periodNs : Int) (proxyAllocated : Nat → Bool) : List Nat :=
  (List.range client.periodicIoCounter).filter fun id =>
    match client.ios id with
    | none => false
    | some io => io.periodNs == periodNs && io.active && proxyAllocated id

/-- The locked part of `periodic_io_timer_func`. -/
def expire (client : PeriodicClient) (periodNs : Int)
    (proxyAllocated : Nat → Bool) : Option PeriodicClient :=
  match client.timerList periodNs with
  | none => none
  | some list =>
    if list.armed = false ∨ list.callback ≠ none then none
    else
      let queued := client.queued periodNs proxyAllocated
      some {
        client.setList periodNs { list with armed := false, callback := some !queued.isEmpty } with
        processQueue := client.processQueue ++ queued }

/-- What `periodic_io_timer_func` does after it has released the lock. -/
def callbackEnd (client : PeriodicClient) (periodNs : Int) : Option PeriodicClient :=
  match client.timerList periodNs with
  | none => none
  | some list =>
    match list.callback with
    | none => none
    | some true => some (client.setList periodNs { list with armed := true, callback := none })
    | some false =>
      some (client.setList periodNs { list with hrTimerState := .inactive, callback := none })

/-- The loop of `lwis_process_periodic_io_in_queue` up to the test of a periodic I/O. One that
is in error or not active is passed over. -/
def take (client : PeriodicClient) : Option PeriodicClient :=
  match client.worker, client.processQueue with
  | .idle, id :: rest =>
    match client.ios id with
    | none => none
    | some io =>
      if io.errorCode ≠ 0 ∨ io.active = false then some { client with processQueue := rest }
      else some { client with processQueue := rest, worker := .taken id }
  | _, _ => none

/-- `reinit_completion` in `process_io_entries`. -/
def reinit (client : PeriodicClient) : Option PeriodicClient :=
  match client.worker with
  | .taken id =>
    match client.ios id with
    | none => none
    | some io => some { client.setIo id { io with ioDone := 0 } with worker := .running id }
  | _ => none

/-- The loop of `process_io_entries` over the entries and the `complete` after it, with the
error that the entries or a deactivation have led to. -/
def complete (client : PeriodicClient) (error : Int) : Option PeriodicClient :=
  match client.worker with
  | .running id =>
    match client.ios id with
    | none => none
    | some io =>
      some { client.setIo id { io with
          ioDone := io.ioDone + 1
          errorCode := if error = 0 then io.errorCode else error } with
        worker := .completed id }
  | _ => none

/-- The end of `process_io_entries`: a periodic I/O in error is deactivated. -/
def settle (client : PeriodicClient) : Option PeriodicClient :=
  match client.worker with
  | .completed id =>
    match client.ios id with
    | none => none
    | some io =>
      some { client.setIo id { io with active := io.active && io.errorCode == 0 } with
        worker := .idle }
  | _ => none

/-- One step of a client, if it can be taken. -/
def step (client : PeriodicClient) : PeriodicStep → Option PeriodicClient
  | .submit periodNs listAllocated => some (client.submit periodNs listAllocated)
  | .cancel id => some (client.cancel id)
  | .waited id => client.waited id
  | .expire periodNs proxyAllocated => client.expire periodNs proxyAllocated
  | .callbackEnd periodNs => client.callbackEnd periodNs
  | .take => client.take
  | .reinit => client.reinit
  | .complete error => client.complete error
  | .settle => client.settle

end PeriodicClient

/-! ## What the steps can do -/

variable {client next : PeriodicClient}

namespace PeriodicClient

lemma waited_cases {id : Nat} (ran : client.waited id = some next) :
    ∃ io, client.ios id = some io ∧ 0 < client.waiting id ∧ 0 < io.ioDone ∧
      next = { client.setIo id { io with ioDone := io.ioDone - 1 } with
        waiting := update client.waiting id (client.waiting id - 1) } := by
  unfold waited at ran
  split at ran
  · cases ran
  · next io found =>
    split at ran
    · cases ran
    · next blocked =>
      obtain ⟨waits, done⟩ := not_or.mp blocked
      exact ⟨io, found, Nat.pos_of_ne_zero waits, Nat.pos_of_ne_zero done,
        (some.inj ran).symm⟩

lemma expire_cases {periodNs : Int} {proxyAllocated : Nat → Bool}
    (ran : client.expire periodNs proxyAllocated = some next) :
    ∃ list, client.timerList periodNs = some list ∧ list.armed = true ∧ list.callback = none ∧
      next = { client.setList periodNs { list with
          armed := false
          callback := some !(client.queued periodNs proxyAllocated).isEmpty } with
        processQueue := client.processQueue ++ client.queued periodNs proxyAllocated } := by
  unfold expire at ran
  split at ran
  · cases ran
  · next list found =>
    split at ran
    · cases ran
    · next busy =>
      obtain ⟨armed, free⟩ := not_or.mp busy
      exact ⟨list, found, by simpa using armed, by simpa using free, (some.inj ran).symm⟩

lemma callbackEnd_cases {periodNs : Int} (ran : client.callbackEnd periodNs = some next) :
    ∃ list, client.timerList periodNs = some list ∧ ((list.callback = some true ∧
          next = client.setList periodNs { list with armed := true, callback := none }) ∨
        (list.callback = some false ∧ next = client.setList periodNs
            { list with hrTimerState := .inactive, callback := none })) := by
  unfold callbackEnd at ran
  split at ran
  · cases ran
  · next list found =>
    refine ⟨list, found, ?_⟩
    split at ran
    · cases ran
    · next present => exact Or.inl ⟨present, (some.inj ran).symm⟩
    · next absent => exact Or.inr ⟨absent, (some.inj ran).symm⟩

lemma take_cases (ran : client.take = some next) :
    client.worker = .idle ∧ ∃ id rest, client.processQueue = id :: rest ∧
      (next = { client with processQueue := rest } ∨
        next = { client with processQueue := rest, worker := .taken id }) := by
  unfold take at ran
  split at ran
  · next id rest idle queue =>
    refine ⟨idle, id, rest, queue, ?_⟩
    split at ran
    · cases ran
    · split at ran
      · exact Or.inl (some.inj ran).symm
      · exact Or.inr (some.inj ran).symm
  · cases ran

lemma reinit_cases (ran : client.reinit = some next) :
    ∃ id io, client.worker = .taken id ∧ client.ios id = some io ∧
      next = { client.setIo id { io with ioDone := 0 } with worker := .running id } := by
  unfold reinit at ran
  split at ran
  · next id taken =>
    split at ran
    · cases ran
    · next io found => exact ⟨id, io, taken, found, (some.inj ran).symm⟩
  · cases ran

lemma complete_cases {error : Int} (ran : client.complete error = some next) :
    ∃ id io, client.worker = .running id ∧ client.ios id = some io ∧
      next = { client.setIo id { io with
          ioDone := io.ioDone + 1
          errorCode := if error = 0 then io.errorCode else error } with
        worker := .completed id } := by
  unfold complete at ran
  split at ran
  · next id running =>
    split at ran
    · cases ran
    · next io found => exact ⟨id, io, running, found, (some.inj ran).symm⟩
  · cases ran

lemma settle_cases (ran : client.settle = some next) :
    ∃ id io, client.worker = .completed id ∧ client.ios id = some io ∧
      next = { client.setIo id { io with active := io.active && io.errorCode == 0 } with
        worker := .idle } := by
  unfold settle at ran
  split at ran
  · next id completed =>
    split at ran
    · cases ran
    · next io found => exact ⟨id, io, completed, found, (some.inj ran).symm⟩
  · cases ran

end PeriodicClient

end GsKernel.Lwis
