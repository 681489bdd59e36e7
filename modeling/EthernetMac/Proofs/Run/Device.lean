import EthernetMac.Proofs.Program.Ensures
import EthernetMac.Proofs.Run.System
import EthernetMac.Queues

/-!
Runs of a driver beside its device. Between two calls the device may write any
status into any descriptor, any bytes into any receive buffer, and anything into
the registers; what it never touches are the other words of a descriptor and the
driver's own state.
-/

namespace EthernetMac

namespace RxQueue

variable {n : Nat} (queue : RxQueue n)

def writeStatus (slot : Nat) (status : UInt32) : RxQueue n :=
  { queue with ring := queue.ring.modify slot fun descriptor => { descriptor with status } }

def writeBuffer (slot : Nat) (content : Buffer) : RxQueue n :=
  let slot := queue.ring.slot slot
  { queue with buffers := queue.buffers.set slot content slot.isLt }

end RxQueue

namespace TxQueue

variable {n : Nat} (queue : TxQueue n)

def writeStatus (slot : Nat) (status : UInt32) : TxQueue n :=
  { queue with ring := queue.ring.modify slot fun descriptor => { descriptor with status } }

end TxQueue

/-- What the device, or anyone else with access to the registers, does on its own. -/
inductive DeviceAction where
  | txStatus (slot : Nat) (status : UInt32)
  | rxStatus (slot : Nat) (status : UInt32)
  | rxBuffer (slot : Nat) (content : Buffer)
  | registers (change : RegisterFile → RegisterFile)

namespace DeviceAction

variable {rx tx : Nat}

def onQueues (action : DeviceAction) (queues : Queues rx tx) : Queues rx tx :=
  match action with
  | txStatus slot status => { queues with tx := queues.tx.writeStatus slot status }
  | rxStatus slot status => { queues with rx := queues.rx.writeStatus slot status }
  | rxBuffer slot content => { queues with rx := queues.rx.writeBuffer slot content }
  | registers _ => queues

theorem index_onQueues (action : DeviceAction) (queues : Queues rx tx) :
    (action.onQueues queues).rx.ring.index = queues.rx.ring.index := by
  cases action <;> rfl

def onRegisters (action : DeviceAction) (file : RegisterFile) : RegisterFile :=
  match action with
  | registers change => change file
  | _ => file

end DeviceAction

/-- A call, with what the hardware does to the registers while it waits, or an
action of the device between two calls. -/
inductive Step (κ : Type) where
  | call (hardware : Hardware) (call : κ)
  | device (action : DeviceAction)

/-- The driver that answers calls by running their programs. -/
def driver {σ κ α : Type} (program : κ → Program σ α) (onState : DeviceAction → σ → σ) :
    System (Machine σ) (Step κ) (Option (Except Fault α)) where
  step
    | .call hardware call, machine =>
      let result := (program call).run hardware machine
      (some result.1, result.2)
    | .device action, machine =>
      (none,
        { bus := { machine.bus with registers := action.onRegisters machine.bus.registers }
          state := onState action machine.state })

/-- What a program ensures holds of the step that calls it. -/
theorem driver_call {σ κ α : Type} {program : κ → Program σ α} (onState : DeviceAction → σ → σ)
    {call : κ} {allowed : σ → σ → Prop} {post : α → σ → Prop} {machine : Machine σ}
    (ensured : (program call).Ensures allowed post machine.state) (hardware : Hardware) :
    ∃ value after, (driver program onState).step (.call hardware call) machine =
      (some (.ok value), after) ∧ post value after.state := by
  obtain ⟨value, after, ran, promised, _⟩ := Program.ensures_run ensured hardware
  refine ⟨value, after, ?_, promised⟩
  simp only [driver, ran]

end EthernetMac
