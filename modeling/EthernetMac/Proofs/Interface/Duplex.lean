import EthernetMac.Proofs.Interface.Sides
import EthernetMac.Proofs.Run.Interleaving

/-!
Receiving and sending at the same time. One party receives, while the device delivers frames
and may run out of descriptors; another sends and asks for the status, while the device
completes frames, raises other status bits and watches the link. Neither can tell whether the
other is there, and how their steps are interleaved makes no difference in the end.
-/

namespace EthernetMac

namespace Interface

variable {rx tx : Nat}

/-- A call, or what the device changes between two calls. -/
inductive Move (rx tx : Nat) where
  | call (call : Call)
  | change (registers : RegisterFile → RegisterFile) (queues : Queues rx tx → Queues rx tx)

/-- What a caller is answered, if there is one, and the notices written meanwhile. -/
abbrev Response := Option (Except Fault Reply) × List Notice

def Move.step (move : Move rx tx) (machine : Machine (Interface rx tx)) :
    Response × Machine (Interface rx tx) :=
  match move with
  | .call asked =>
    let result := asked.program.run .idle machine
    ((some result.1, (result.2.bus.since machine.bus).filterMap Event.notice?), result.2)
  | .change registers queues =>
    ((none, []),
      { bus := { machine.bus with registers := registers machine.bus.registers }
        state := { machine.state with queues := queues machine.state.queues } })

/-- What happens on the receiver's side. -/
inductive Receiving where
  | receive (buffer : List UInt8)
  | deliver (slot : Nat) (frame : List UInt8) (flags : UInt32)
  | close (slot : Nat) (status : UInt32)
  | starve

def Receiving.move : Receiving → Move rx tx
  | receive buffer => .call (.receive buffer)
  | deliver slot frame flags =>
    .change id fun queues => { queues with rx := queues.rx.deliver slot frame flags }
  | close slot status => .change id fun queues => { queues with rx := queues.rx.close slot status }
  | starve => .change (·.raise Control.rxUnavailable.mask) id

/-- What happens on the sender's side; the one status bit that is not raised here tells the
receiver of a starved engine. -/
inductive Sending where
  | transmit (frame : Frame) (request : Option HeaderRequest)
  | status (query : StatusQuery)
  | complete (slot : Nat) (result : UInt32)
  | link (up : Bool)
  | raise (bits : UInt32) (apart : bits &&& Control.rxUnavailable.mask = 0)

def Sending.move : Sending → Move rx tx
  | transmit frame request => .call (.transmit frame request)
  | status query => .call (.status query)
  | complete slot result =>
    .change id fun queues => { queues with tx := queues.tx.complete slot result }
  | link up => .change (·.setLink up) id
  | raise bits _ => .change (·.raise bits) id

/-- An interface with both parties. -/
def duplex (rx tx : Nat) : System (Machine (Interface rx tx)) (Receiving ⊕ Sending) Response where
  step step := (step.elim Receiving.move Sending.move).step

namespace Move

variable {κ : Type} {share : Share} {part : Interface rx tx → κ}

/-- What comes of the move, for one who sees so much, can be told from what is seen. -/
def Heeds (share : Share) (part : Interface rx tx → κ) (move : Move rx tx) : Prop :=
  ∀ machine image, machine.seen share part = image.seen share part →
    (move.step machine).1 = (move.step image).1 ∧
      (move.step machine).2.seen share part = (move.step image).2.seen share part

/-- Nothing that is seen changes, as long as the registers react. -/
def Spares (share : Share) (part : Interface rx tx → κ) (move : Move rx tx) : Prop :=
  ∀ machine, machine.bus.registers.behaviour = .reactive →
    (move.step machine).2.seen share part = machine.seen share part

theorem heeds_call {call : Call} (first : call.program.Heeds share part) :
    (Move.call call).Heeds share part := by
  intro machine image same
  obtain ⟨outcome, notices, after⟩ := first.run .idle same
  refine ⟨?_, after⟩
  simp only [step, Program.since_run, outcome, notices]

theorem heeds_change {registers : RegisterFile → RegisterFile}
    {queues : Queues rx tx → Queues rx tx}
    (file : ∀ file other, share.see file = share.see other →
      share.see (registers file) = share.see (registers other))
    (state : ∀ interface image : Interface rx tx, part interface = part image →
      part { interface with queues := queues interface.queues } =
        part { image with queues := queues image.queues }) :
    (Move.change registers queues).Heeds share part := by
  intro machine image same
  obtain ⟨bus, interface⟩ := Prod.mk.inj same
  exact ⟨rfl, Prod.ext (file _ _ bus) (state _ _ interface)⟩

theorem spares_change {registers : RegisterFile → RegisterFile}
    {queues : Queues rx tx → Queues rx tx}
    (file : ∀ file, share.see (registers file) = share.see file)
    (state : ∀ interface : Interface rx tx,
      part { interface with queues := queues interface.queues } = part interface) :
    (Move.change registers queues).Spares share part :=
  fun _ _ => Prod.ext (file _) (state _)

end Move

section Receiver

theorem heeds_receiving (step : Receiving) :
    (step.move : Move rx tx).Heeds receiverShare receiverPart := by
  cases step with
  | receive buffer => exact Move.heeds_call ((heeds_receive buffer).map _)
  | deliver slot frame flags =>
    apply Move.heeds_change fun _ _ => id
    intro interface image same
    obtain ⟨queue, lifecycle⟩ := Prod.mk.inj same
    exact Prod.ext (congrArg (RxQueue.deliver · slot frame flags) queue) lifecycle
  | close slot status =>
    apply Move.heeds_change fun _ _ => id
    intro interface image same
    obtain ⟨queue, lifecycle⟩ := Prod.mk.inj same
    exact Prod.ext (congrArg (RxQueue.close · slot status) queue) lifecycle
  | starve =>
    exact Move.heeds_change (fun _ _ same => receiverShare.see_raise_congr same _) fun _ _ => id

theorem spares_receiving (step : Receiving) :
    (step.move : Move rx tx).Spares senderShare senderPart := by
  cases step with
  | receive buffer => exact fun machine reactive => seen_receive reactive buffer .idle
  | deliver slot frame flags => exact Move.spares_change (fun _ => rfl) fun _ => rfl
  | close slot status => exact Move.spares_change (fun _ => rfl) fun _ => rfl
  | starve =>
    exact Move.spares_change (fun _ => senderShare.see_raise_of_apart (by decide)) fun _ => rfl

end Receiver

section Sender

theorem heeds_sending (step : Sending) :
    (step.move : Move rx tx).Heeds senderShare senderPart := by
  cases step with
  | transmit frame request => exact Move.heeds_call ((heeds_transmit frame request).map _)
  | status query => exact Move.heeds_call ((heeds_status query).map _)
  | complete slot result =>
    apply Move.heeds_change fun _ _ => id
    intro interface image same
    obtain ⟨queue, others⟩ := Prod.mk.inj same
    exact Prod.ext (congrArg (TxQueue.complete · slot result) queue) others
  | link up =>
    exact Move.heeds_change (fun _ _ same => senderShare.see_setLink_congr same (by decide) up)
      fun _ _ => id
  | raise bits apart =>
    exact Move.heeds_change (fun _ _ same => senderShare.see_raise_congr same bits) fun _ _ => id

theorem spares_sending (step : Sending) :
    (step.move : Move rx tx).Spares receiverShare receiverPart := by
  cases step with
  | transmit frame request =>
    exact fun machine reactive => seen_transmit reactive frame request .idle
  | status query => exact fun machine reactive => seen_status reactive query .idle
  | complete slot result => exact Move.spares_change (fun _ => rfl) fun _ => rfl
  | link up =>
    exact Move.spares_change (fun _ => receiverShare.see_setLink_of_blind rfl up) fun _ => rfl
  | raise bits apart =>
    exact Move.spares_change (fun _ => receiverShare.see_raise_of_apart apart) fun _ => rfl

end Sender

section Run

/-- Both parties leave the window reactive. -/
theorem reactive_duplex (step : Receiving ⊕ Sending) (machine : Machine (Interface rx tx))
    (reactive : machine.bus.registers.behaviour = .reactive) :
    ((duplex rx tx).step step machine).2.bus.registers.behaviour = .reactive := by
  cases step with
  | inl step =>
    have spared := spares_receiving step machine reactive
    exact (senderShare.behaviour_of_see (Prod.mk.inj spared).1).trans reactive
  | inr step =>
    have spared := spares_sending step machine reactive
    exact (receiverShare.behaviour_of_see (Prod.mk.inj spared).1).trans reactive

theorem separates_receiver :
    (duplex rx tx).Separates (fun machine => machine.bus.registers.behaviour = .reactive)
      Sum.isLeft (Machine.seen receiverShare receiverPart) where
  kept := reactive_duplex
  determined step machine image mine _ _ same := by
    cases step with
    | inl step => exact heeds_receiving step machine image same
    | inr step => cases mine
  spared step machine others reactive := by
    cases step with
    | inl step => cases others
    | inr step => exact spares_sending step machine reactive

theorem separates_sender :
    (duplex rx tx).Separates (fun machine => machine.bus.registers.behaviour = .reactive)
      Sum.isRight (Machine.seen senderShare senderPart) where
  kept := reactive_duplex
  determined step machine image mine _ _ same := by
    cases step with
    | inl step => cases mine
    | inr step => exact heeds_sending step machine image same
  spared step machine others reactive := by
    cases step with
    | inl step => exact spares_receiving step machine reactive
    | inr step => cases others

/-- The two sides do not interfere. However their steps are interleaved, each party has the
answers, the memory and the notices that it has when it is alone, and interface, registers and
poll demands end up the same. -/
theorem sides_independent {start : Machine (Interface rx tx)}
    (reactive : start.bus.registers.behaviour = .reactive) {received : List Receiving}
    {sent : List Sending} {steps : List (Receiving ⊕ Sending)}
    (interleaves : Interleaves received sent steps) :
    ((duplex rx tx).trace start steps).filter (fun entry => entry.1.isLeft) =
        (duplex rx tx).trace start (received.map .inl) ∧
      ((duplex rx tx).trace start steps).filter (fun entry => entry.1.isRight) =
        (duplex rx tx).trace start (sent.map .inr) ∧
      ∀ other, Interleaves received sent other →
        ((duplex rx tx).after start other).state = ((duplex rx tx).after start steps).state ∧
          ((duplex rx tx).after start other).bus.registers =
            ((duplex rx tx).after start steps).bus.registers := by
  have receiver := separates_receiver.alone reactive
  have sender := separates_sender.alone reactive
  refine ⟨?left, ?right, ?_⟩
  case left => rw [(receiver steps).2, interleaves.filter_isLeft]
  case right => rw [(sender steps).2, interleaves.filter_isRight]
  intro other interleaved
  have receiving : ((duplex rx tx).after start other).seen receiverShare receiverPart =
      ((duplex rx tx).after start steps).seen receiverShare receiverPart := by
    rw [(receiver other).1, (receiver steps).1, interleaved.filter_isLeft,
      interleaves.filter_isLeft]
  have sending : ((duplex rx tx).after start other).seen senderShare senderPart =
      ((duplex rx tx).after start steps).seen senderShare senderPart := by
    rw [(sender other).1, (sender steps).1, interleaved.filter_isRight,
      interleaves.filter_isRight]
  obtain ⟨rxRegisters, rxPart⟩ := Prod.mk.inj receiving
  obtain ⟨txRegisters, txPart⟩ := Prod.mk.inj sending
  exact ⟨ext_part rxPart txPart, receiverShare.ext_see rxRegisters txRegisters⟩

/-- A frame comes in for a starved engine and is taken, while another is sent and told of. -/
theorem sides_independent_of_frames :
    let start : Machine (Interface 2 2) :=
      ⟨{ registers := .blank .reactive },
        { Interface.blank {} (Queues.blank ⟨0x1000, 0x2000, 0x4000⟩ (Nat.le_refl 2)
            (Nat.le_refl 2)).rebuild with lifecycle := .initialized }⟩
    let received : List Receiving := [.receive [0, 0], .deliver 0 [7] 0x300, .starve]
    let sent : List Sending :=
      [.status .all, .raise 0x41 rfl, .complete 0 0, .transmit ⟨0x5000, [1]⟩ none, .link true]
    let steps : List (Receiving ⊕ Sending) :=
      [.inr (.status .all), .inl (.receive [0, 0]), .inr (.raise 0x41 rfl), .inr (.complete 0 0),
        .inl (.deliver 0 [7] 0x300), .inr (.transmit ⟨0x5000, [1]⟩ none), .inl .starve,
        .inr (.link true)]
    Interleaves received sent steps ∧
      ((duplex 2 2).trace start steps).filter (fun entry => entry.1.isLeft) =
        (duplex 2 2).trace start (received.map .inl) := by
  intro start received sent steps
  have interleaves : Interleaves received sent steps :=
    .right _ (.left _ (.right _ (.right _ (.left _ (.right _ (.left _ (.right _ .none)))))))
  exact ⟨interleaves, (sides_independent rfl interleaves).1⟩

end Run

end Interface

end EthernetMac
