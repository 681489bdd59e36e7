import EthernetMac.Proofs.Interface.Outcome

/-!
What the steps of a run are for the transmit queue. Each call is one move of the
queue, and the reply tells which; each write of the device is an event if it
lets go of a slot. The read index of the receive ring stays inside its ring, so
no call faults.
-/

namespace EthernetMac

variable {rx tx : Nat}

def DeviceAction.txEvent (action : DeviceAction) (queue : TxQueue tx) : Option TxEvent :=
  match action with
  | txStatus slot status => queue.writeEvent slot status
  | _ => none

section Driver

variable {σ κ α : Type} (queues : σ → Queues rx tx) (event : κ → σ → α → Option TxEvent)

/-- What a step of a driver was for the transmit queue in its state, given what its
calls are. -/
def stepEvent : Moment (Machine σ) (Step κ) (Option (Except Fault α)) → Option TxEvent
  | ⟨machine, .call _ call, some (.ok reply)⟩ => event call machine.state reply
  | ⟨machine, .device action, _⟩ => action.txEvent (queues machine.state).tx
  | _ => none

/-- Every call is the move of the transmit queue that the event says. -/
def CallsMove (program : κ → Program σ α) : Prop :=
  ∀ call state, (queues state).rx.ring.index < rx →
    (program call).Ensures (fun _ _ => True)
      (fun reply after => (queues after).rx.ring.index < rx ∧
        TxQueue.Move (event call state reply) (queues state).tx (queues after).tx) state

end Driver

namespace Queues

/-- What a call on the queues, answered like this, was for the transmit queue. -/
def Call.txEvent : Call → Reply → Option TxEvent
  | rebuild, .rebuilt => some .rebuilt
  | transmit address _, .sent (.ok ()) => some (.published address)
  | reclaim, .reclaimed (some address) => some (.reported address)
  | _, _ => none

def txEvent : Moment rx tx → Option TxEvent := stepEvent id fun call _ reply => call.txEvent reply

theorem ensures_move {queues : Queues rx tx} (inside : queues.rx.ring.index < rx) (call : Call) :
    call.program.Ensures (fun _ _ => True)
      (fun reply after => after.rx.ring.index < rx ∧
        TxQueue.Move (call.txEvent reply) queues.tx after.tx) queues := by
  cases call with
  | rebuild =>
    rw [Call.program, build_eq]
    exact ⟨trivial, queues.rx.ring.pos, .rebuild _⟩
  | receive buffer =>
    rw [Call.program, Program.ensures_map]
    apply (ensures_receive inside buffer).mono fun _ _ _ => trivial
    rintro answer after ⟨drained, kept⟩
    obtain ⟨count, run⟩ := RxQueue.drain_recycles buffer rx queues.rx
    rw [← drained] at run
    rw [kept]
    exact ⟨run.index_lt inside, .stay _⟩
  | transmit address length =>
    rw [Call.program, Program.ensures_map]
    apply (ensures_transmit queues address length).mono fun _ _ _ => trivial
    rintro result after (⟨room, rfl, rfl⟩ | ⟨full, rfl, rfl⟩)
    · exact ⟨inside, .publish room address length⟩
    · exact ⟨inside, .stay _⟩
  | reclaim =>
    rw [Call.program, Program.ensures_map]
    apply (ensures_reclaim queues).mono fun _ _ _ => trivial
    rintro answer after (⟨due, rfl, rfl⟩ | ⟨waiting, rfl, rfl⟩)
    · exact ⟨inside, .retire due⟩
    · exact ⟨inside, .stay _⟩

end Queues

namespace Interface

def txEvent : Moment rx tx → Option TxEvent :=
  stepEvent Interface.queues fun call interface reply => call.txEvent interface.lifecycle reply

theorem Outcome.move {interface : Interface rx tx} {call : Call} {reply : Reply}
    {after : Queues rx tx} (outcome : Outcome interface call reply after)
    (inside : interface.queues.rx.ring.index < rx) :
    after.rx.ring.index < rx ∧
      TxQueue.Move (call.txEvent interface.lifecycle reply) interface.queues.tx after.tx := by
  cases outcome with
  | keep silent =>
    rw [silent]
    exact ⟨inside, .stay _⟩
  | rebuild started =>
    rw [started]
    exact ⟨interface.queues.rx.ring.pos, .rebuild _⟩
  | @drain buffer filled result queue drained =>
    obtain ⟨count, run⟩ := RxQueue.drain_recycles buffer rx interface.queues.rx
    rw [drained] at run
    exact ⟨run.index_lt inside, .stay _⟩
  | publish room => exact ⟨inside, .publish room _ _⟩
  | retire due => exact ⟨inside, .retire due⟩

theorem ensures_move {interface : Interface rx tx}
    (inside : interface.queues.rx.ring.index < rx) (call : Call) :
    call.program.Ensures (fun _ _ => True)
      (fun reply after => after.queues.rx.ring.index < rx ∧
        TxQueue.Move (call.txEvent interface.lifecycle reply) interface.queues.tx after.queues.tx)
      interface :=
  (ensures_outcome inside call).mono (fun _ _ _ => trivial) fun _ _ outcome =>
    outcome.move inside

end Interface

end EthernetMac
