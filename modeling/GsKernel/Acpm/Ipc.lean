import GsKernel.Lib.Runs

/-!
# Requests to the power management firmware

A request goes to the transmit queue under a sequence number, and the firmware answers it in the
receive queue under the same number. Whichever thread looks there first copies the responses to a
slot for each number; a bit for each number says that its request is waited for. Its owner takes
the response from the slot and clears the bit, and leaves when it sees the bit clear.

The channel is a polling one. The reads of `__acpm_ipc_send_data` under `tx_lock`, each turn of
its search for a number, the calls of `check_response` and the test of the bit are separate steps.
A thread may time out whenever it has seen its bit set.
-/

namespace GsKernel.Acpm

open Function

/-- `SEQ_NUM_MAX`. -/
def SEQ_NUM_MAX : Nat := 64

/-- `ACPM_IPC_PROTOCOL_SEQ_NUM`. -/
def ACPM_IPC_PROTOCOL_SEQ_NUM : Nat := 16

/-- The words of a message: `cmd[0]` and the others. -/
structure Cmd where
  head : Nat
  rest : List Nat
deriving DecidableEq

/-- The sequence number in `cmd[0]`. -/
def Cmd.seq (cmd : Cmd) : Nat := (cmd.head >>> ACPM_IPC_PROTOCOL_SEQ_NUM) &&& 0x3f

/-- A sequence number is put into `cmd[0]`. -/
def Cmd.setSeq (cmd : Cmd) (seq : Nat) : Cmd :=
  { cmd with head := cmd.head ||| ((seq &&& 0x3f) <<< ACPM_IPC_PROTOCOL_SEQ_NUM) }

/-- A message with all words cleared. -/
def Cmd.cleared (cmd : Cmd) : Cmd := ⟨0, cmd.rest.map fun _ => 0⟩

/-- `cmd[1]` to `cmd[3]` are cleared. -/
def Cmd.clearArgs (cmd : Cmd) : Cmd :=
  { cmd with rest := (cmd.rest.take 3).map (fun _ => 0) ++ cmd.rest.drop 3 }

/-- A message of a caller has no sequence number yet. -/
structure CallerCmd where
  cmd : Cmd
  zero : cmd.seq = 0

/-- `struct ipc_config` as an element of `ch_cfg`. -/
structure ChCfg where
  cmd : Cmd
  response : Bool
deriving DecidableEq

/-- Where a call of `__acpm_ipc_send_data` is. `request` is the number of the request in the
order of sending. -/
inductive Sender where
  | idle
  | entered (cmd : Cmd) (response : Bool)
  | locked (cmd : Cmd) (response : Bool)
  | reserved (cmd : Cmd) (response : Bool)
  | checking (cmd : Cmd) (response : Bool)
  | numbering (cmd : Cmd) (response : Bool)
  | polling (cmd : Cmd) (seq request : Nat)
  | checked (cmd : Cmd) (seq request : Nat)
deriving DecidableEq

/-- The panics of the two functions that do not depend on time. -/
inductive Panic where
  | txBufferFull
  | invalidSeqNum
deriving DecidableEq

/-- A request that was sent. -/
structure Sent (count : Nat) where
  sender : Fin count
  seq : Nat
  response : Bool
deriving DecidableEq

/-- `struct acpm_ipc_ch` with its queues, its threads and the firmware, which knows the numbers of
the requests it has taken and not answered. The last four fields record the requests sent, the
firmware's responses, what `check_response` has read, and the requests whose calls have left the
wait loop without a timeout, with what they hold. -/
structure AcpmChannel (count : Nat) where
  len : Nat
  txFront : Nat
  txRear : Nat
  rxFront : Nat
  rxRear : Nat
  tx : Nat → Cmd
  rx : Nat → Cmd
  seqNum : Nat
  bitmap : Nat → Bool
  chCfg : Nat → ChCfg
  txLock : Option (Fin count)
  senders : Fin count → Sender
  firmware : List Nat
  panicked : Option Panic
  sent : List (Sent count)
  answers : List Cmd
  copies : List Cmd
  returned : List (Nat × Cmd)

/-- A step: a call begins, a thread goes on or times out, or the firmware takes or answers a
request. -/
inductive AcpmStep (count : Nat) where
  | call (sender : Fin count) (cmd : CallerCmd) (response : Bool)
  | thread (sender : Fin count)
  | timeout (sender : Fin count)
  | take
  | answer (response : Cmd)

section Steps

variable {count : Nat} (channel : AcpmChannel count)

namespace AcpmChannel

/-- One turn of the loop of `check_response`. -/
def copyResponse (i : Nat) : AcpmChannel count :=
  let data := (channel.rx i).seq
  if data = 0 ∨ SEQ_NUM_MAX ≤ data then { channel with panicked := some .invalidSeqNum }
  else if (channel.chCfg (data - 1)).response then
    { channel with
      chCfg := update channel.chCfg (data - 1)
        { channel.chCfg (data - 1) with cmd := channel.rx i }
      copies := channel.copies ++ [channel.rx i] }
  else
    { channel with
      bitmap := update channel.bitmap (data - 1) false
      copies := channel.copies ++ [channel.rx i] }

/-- The loop of `check_response`, for at most the given number of turns. -/
def copyResponses (front : Nat) : Nat → Nat → AcpmChannel count → AcpmChannel count
  | 0, _, channel => channel
  | turns + 1, i, channel =>
    if i = front ∨ channel.panicked.isSome then channel
    else copyResponses front turns ((i + 1) % channel.len) (channel.copyResponse i)

/-- `check_response` without a `cfg`. -/
def checkQueue : AcpmChannel count :=
  { channel.copyResponses channel.rxFront channel.len channel.rxRear with
    rxRear := channel.rxFront }

/-- The end of `check_response` with a `cfg`: whether its response is there. -/
def responded (cmd : Cmd) : Bool :=
  (channel.chCfg (cmd.seq - 1)).cmd.seq = cmd.seq

/-- `check_response` with the `cfg` of a thread that waits. -/
def checkResponse (sender : Fin count) (cmd : Cmd) (seq request : Nat) : AcpmChannel count :=
  let next := channel.checkQueue
  if next.responded cmd then
    { next with
      bitmap := update next.bitmap (cmd.seq - 1) false
      senders := update next.senders sender (.checked (next.chCfg (cmd.seq - 1)).cmd seq request) }
  else { next with senders := update next.senders sender (.checked cmd seq request) }

/-- The next sequence number. -/
def nextSeq : Nat :=
  if channel.seqNum + 1 = SEQ_NUM_MAX then 1 else channel.seqNum + 1

/-- A request goes out under the next sequence number, and `tx_lock` is released. -/
def send (sender : Fin count) (cmd : Cmd) (response : Bool) : AcpmChannel count :=
  let seq := channel.nextSeq
  let message := cmd.setSeq seq
  { channel with
    seqNum := seq
    chCfg := update channel.chCfg (seq - 1) ⟨(channel.chCfg (seq - 1)).cmd.cleared, response⟩
    bitmap := update channel.bitmap (seq - 1) true
    tx := update channel.tx channel.txFront message
    txFront := (channel.txFront + 1) % channel.len
    txLock := none
    senders := update channel.senders sender
      (if response then .polling message.clearArgs message.seq channel.sent.length else .idle)
    sent := channel.sent ++ [⟨sender, seq, response⟩] }

/-- The next step of a thread. -/
def threadStep (sender : Fin count) : Option (AcpmChannel count) :=
  match channel.senders sender with
  | .idle => none
  | .entered cmd response =>
    if channel.txLock.isSome then none
    else
      some { channel with
        txLock := some sender
        senders := update channel.senders sender (.locked cmd response) }
  | .locked cmd response =>
    -- waits until the receive queue has caught up
    if (channel.txFront + 2) % channel.len = channel.rxFront then none
    else
      some { channel with
        senders := update channel.senders sender (.reserved cmd response) }
  | .reserved cmd response =>
    if (channel.txFront + 1) % channel.len = channel.txRear then
      some { channel with panicked := some .txBufferFull }
    else
      some { channel with
        senders := update channel.senders sender (.checking cmd response) }
  | .checking cmd response =>
    some { channel.checkQueue with
      senders := update channel.checkQueue.senders sender (.numbering cmd response) }
  | .numbering cmd response =>
    if channel.bitmap (channel.nextSeq - 1) then some { channel with seqNum := channel.nextSeq }
    else some (channel.send sender cmd response)
  | .polling cmd seq request => some (channel.checkResponse sender cmd seq request)
  | .checked cmd seq request =>
    if channel.bitmap (seq - 1) then
      some { channel with
        senders := update channel.senders sender (.polling cmd seq request) }
    else
      some { channel with
        senders := update channel.senders sender .idle
        returned := channel.returned ++ [(request, cmd)] }

/-- One step, if it is possible. Nothing happens after a panic. -/
def step (step : AcpmStep count) : Option (AcpmChannel count) :=
  if channel.panicked.isSome then none
  else
    match step with
    | .call sender cmd response =>
      match channel.senders sender with
      | .idle =>
        some { channel with
          senders := update channel.senders sender (.entered cmd.cmd response) }
      | _ => none
    | .thread sender => channel.threadStep sender
    | .timeout sender =>
      match channel.senders sender with
      | .checked _ seq _ =>
        if channel.bitmap (seq - 1) then
          some { channel with senders := update channel.senders sender .idle }
        else none
      | _ => none
    | .take =>
      if channel.txRear = channel.txFront then none
      else
        some { channel with
          firmware := channel.firmware ++ [(channel.tx channel.txRear).seq]
          txRear := (channel.txRear + 1) % channel.len }
    | .answer response =>
      match channel.firmware with
      | [] => none
      | seq :: rest =>
        if response.seq ≠ seq then none
        else
          some { channel with
            firmware := rest
            rx := update channel.rx channel.rxFront response
            rxFront := (channel.rxFront + 1) % channel.len
            answers := channel.answers ++ [response] }

end AcpmChannel

end Steps

/-- `channel_init`, with all four indices at zero. -/
def AcpmChannel.initial (count len : Nat) : AcpmChannel count where
  len := len
  txFront := 0
  txRear := 0
  rxFront := 0
  rxRear := 0
  tx := fun _ => ⟨0, []⟩
  rx := fun _ => ⟨0, []⟩
  seqNum := 0
  bitmap := fun _ => false
  chCfg := fun _ => ⟨⟨0, []⟩, false⟩
  txLock := none
  senders := fun _ => .idle
  firmware := []
  panicked := none
  sent := []
  answers := []
  copies := []
  returned := []

end GsKernel.Acpm
