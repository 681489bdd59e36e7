import EthernetMac.Proofs.Interface.Footprint
import EthernetMac.Proofs.Interface.Reach

/-!
The two sides of an interface. What receiving answers, writes down and leaves behind on its own
side depends on that side alone, and so it is with sending and with status queries. None of
them changes anything on the other side of a reactive window; in the status register, that they
share, each acknowledges bits of its own.
-/

namespace EthernetMac.Interface

variable {rx tx : Nat}

/-- What receiving has to do with. -/
def receiverPart (interface : Interface rx tx) : RxQueue rx × Lifecycle :=
  (interface.queues.rx, interface.lifecycle)

/-- What sending and status queries have to do with. -/
def senderPart (interface : Interface rx tx) :
    TxQueue tx × Config × Lifecycle × MacAddress × Bool :=
  (interface.queues.tx, interface.config, interface.lifecycle, interface.address,
    interface.mediaPresent)

theorem senderPart_eq_iff {interface image : Interface rx tx} :
    interface.senderPart = image.senderPart ↔
      interface.queues.tx = image.queues.tx ∧ interface.config = image.config ∧
        interface.lifecycle = image.lifecycle ∧ interface.address = image.address ∧
        interface.mediaPresent = image.mediaPresent := by
  simp [senderPart]

theorem ext_part {interface image : Interface rx tx}
    (receiver : interface.receiverPart = image.receiverPart)
    (sender : interface.senderPart = image.senderPart) : interface = image := by
  obtain ⟨rxSame, -⟩ := Prod.mk.inj receiver
  obtain ⟨txSame, config, lifecycle, address, mediaPresent⟩ := senderPart_eq_iff.1 sender
  exact Interface.ext (Queues.ext rxSame txSame) config lifecycle address mediaPresent

section Gate

variable {share : Share} {κ α : Type} {part : Interface rx tx → κ}

theorem heeds_gated {operation : Operation} {refuse : Error → α}
    {body : Program (Interface rx tx) α}
    (knows : ∀ interface image, part interface = part image →
      interface.lifecycle = image.lifecycle)
    (inside : body.Heeds share part) :
    (gated operation refuse body).Heeds share part := by
  unfold gated
  apply Program.Matches.bind_get
  intro interface image same
  rw [knows interface image same]
  cases refusal? image.lifecycle operation with
  | none => exact inside
  | some refusal => exact .note _ (.done _)

end Gate

section Receive

theorem heeds_receive (buffer : List UInt8) :
    (receive buffer : Program (Interface rx tx) _).Heeds receiverShare receiverPart := by
  apply heeds_gated fun _ _ same => (Prod.mk.inj same).2
  have drained : (onQueues (Queues.receive buffer) : Program (Interface rx tx) _).Heeds
      receiverShare receiverPart :=
    .within (fun _ _ same => (Prod.mk.inj same).1)
      (fun _ _ _ _ queues whole => Prod.ext queues (Prod.mk.inj whole).2)
      (Queues.heeds_drain buffer rx)
  refine drained.bind fun received => ?_
  obtain ⟨result, filled⟩ := received
  cases result with
  | error error => exact .done _
  | ok length =>
    refine (Program.Matches.firstBytes _ _).bind fun frame => ?_
    rw [parseHeader_eq]
    exact .done _

end Receive

section Send

theorem heeds_sender_onQueues {α : Type} {program : Program (Queues rx tx) α}
    (first : program.Heeds senderShare Queues.tx) :
    (onQueues program : Program (Interface rx tx) _).Heeds senderShare senderPart :=
  .within (fun _ _ same => (Prod.mk.inj same).1)
    (fun _ _ _ _ queues whole => Prod.ext queues (Prod.mk.inj whole).2) first

theorem heeds_sampleLink :
    (sampleLink : Program (Interface rx tx) _).Heeds senderShare senderPart := by
  unfold sampleLink
  refine (Program.Matches.isSet (by decide)).bind fun up => ?_
  apply Program.Matches.bind_get
  intro interface image same
  obtain ⟨-, -, -, -, link⟩ := senderPart_eq_iff.1 same
  rw [link]
  split
  · exact .done _
  · refine (Program.Matches.modify fun interface image same => ?_).bind fun _ =>
      .note _ (.done _)
    obtain ⟨queue, config, lifecycle, address, -⟩ := senderPart_eq_iff.1 same
    exact senderPart_eq_iff.2 ⟨queue, config, lifecycle, address, rfl⟩

theorem heeds_nudge :
    (nudge : Program (Interface rx tx) _).Heeds senderShare senderPart :=
  (Program.Matches.enable (by decide)).bind fun _ =>
    (Program.Matches.enable (by decide)).bind fun _ => .writeAt _ _

theorem heeds_dispatch (frame : Frame) :
    (dispatch frame : Program (Interface rx tx) _).Heeds senderShare senderPart := by
  refine (heeds_sender_onQueues (Queues.heeds_transmit _ _)).bind fun result => ?_
  cases result with
  | ok _ => exact heeds_nudge.bind fun _ => .done _
  | error error =>
    apply Program.Matches.bind_get
    intro interface image same
    obtain ⟨queue, -⟩ := senderPart_eq_iff.1 same
    rw [queue]
    exact .note _ (heeds_nudge.bind fun _ => .done _)

theorem heeds_writeHeader (header : Option EthernetHeader) (frame : Frame) :
    (writeHeader header frame : Program (Interface rx tx) _).Heeds senderShare senderPart := by
  cases header with
  | none => exact .done _
  | some header => exact (Program.Matches.overwrite _ _).bind fun _ => .done _

theorem heeds_transmit (frame : Frame) (request : Option HeaderRequest) :
    (transmit frame request : Program (Interface rx tx) _).Heeds senderShare senderPart := by
  apply heeds_gated fun _ _ same => (senderPart_eq_iff.1 same).2.2.1
  refine heeds_sampleLink.bind fun up => ?_
  cases up with
  | false => exact .note _ (.done _)
  | true =>
    apply Program.Matches.bind_get
    intro interface image same
    obtain ⟨-, -, -, address, -⟩ := senderPart_eq_iff.1 same
    rw [address]
    cases frame.check request image.address with
    | error reason => exact .note _ (.done _)
    | ok header =>
      exact (heeds_writeHeader header frame).bind fun sent =>
        (heeds_dispatch sent).bind fun _ => .done _

theorem heeds_takeInterrupts :
    (takeInterrupts : Program (Interface rx tx) _).Heeds senderShare senderPart := by
  unfold takeInterrupts
  apply Program.Matches.bind_read
  intro raw image same
  have pending : InterruptStatus.ofRegister raw = InterruptStatus.ofRegister image :=
    InterruptStatus.ext (Control.frameReceived.isSetIn_congr (by decide) same)
      (Control.frameSent.isSetIn_congr (by decide) same)
  dsimp only
  rw [pending]
  split
  · exact (Program.Matches.writeAt _ _).bind fun _ => .done _
  · exact .done _

theorem heeds_status (query : StatusQuery) :
    (status query : Program (Interface rx tx) _).Heeds senderShare senderPart := by
  have completion : (askCompletion query : Program (Interface rx tx) _).Heeds senderShare
      senderPart := by
    unfold askCompletion
    split
    · exact heeds_sender_onQueues Queues.heeds_reclaim
    · exact .done _
  have interrupts : (askInterrupts query : Program (Interface rx tx) _).Heeds senderShare
      senderPart := by
    unfold askInterrupts
    split
    · exact heeds_takeInterrupts.map some
    · exact .done _
  apply heeds_gated fun _ _ same => (senderPart_eq_iff.1 same).2.2.1
  exact heeds_sampleLink.bind fun _ => completion.bind fun _ => interrupts.bind fun _ => .done _

end Send

section Spare

variable {share : Share} {last : Event} {offset : Nat} {value : UInt32}
  {machine : Machine (Interface rx tx)}

/-- A call that writes only outside a share, and does not pause, leaves the share as it is. -/
theorem see_run {call : Call} (reactive : machine.bus.registers.behaviour = .reactive)
    (spares : ∀ {last offset value}, call.Permits last (.write offset value) →
      share.Spares offset value)
    (prompt : ∀ extraRx extraTx, call ≠ .bringUp extraRx extraTx) (hardware : Hardware) :
    share.see (call.program.run hardware machine).2.bus.registers =
      share.see machine.bus.registers := by
  have upheld : call.program.Upholds hardware (fun file => file.behaviour = .reactive ∧
      share.see file = share.see machine.bus.registers) machine := by
    apply upholds_of_permits _ (fun _ _ permits => absurd permits (not_permits_pause prompt))
      ⟨reactive, rfl⟩
    intro last offset value file permits _ unchanged
    obtain ⟨live, same⟩ := unchanged
    exact ⟨(RegisterFile.behaviour_write ..).trans live,
      (share.see_write_of_spares live (spares permits)).trans same⟩
  exact (upheld.run ⟨reactive, rfl⟩).2

theorem spares_of_receive {buffer : List UInt8}
    (permits : Call.Permits (.receive buffer) last (.write offset value)) :
    senderShare.Spares offset value := by
  cases permits with
  | constant listed =>
    simp only [Call.constants, List.mem_singleton, Prod.mk.injEq] at listed
    obtain ⟨rfl, rfl⟩ := listed
    decide
  | enable listed => simp [Call.controls] at listed
  | addressHigh addresses => exact addresses.elim
  | addressLow addresses => exact addresses.elim
  | resume starved => decide

theorem spares_of_transmit {frame : Frame} {request : Option HeaderRequest}
    (permits : Call.Permits (.transmit frame request) last (.write offset value)) :
    receiverShare.Spares offset value := by
  cases permits with
  | constant listed =>
    simp only [Call.constants, List.mem_singleton, Prod.mk.injEq] at listed
    obtain ⟨rfl, rfl⟩ := listed
    decide
  | enable listed =>
    simp only [Call.controls, List.mem_cons, List.not_mem_nil, or_false] at listed
    rcases listed with rfl | rfl <;>
      simp [Share.Spares, receiverShare, Control.txEngine, Control.transmitter, Register.offset]
  | addressHigh addresses => exact addresses.elim
  | addressLow addresses => exact addresses.elim

theorem spares_of_status {query : StatusQuery}
    (permits : Call.Permits (.status query) last (.write offset value)) :
    receiverShare.Spares offset value := by
  have taken (status : InterruptStatus) :
      receiverShare.Spares Register.dmaStatus.offset status.toRegister := by
    obtain ⟨received, sent⟩ := status
    cases received <;> cases sent <;> decide
  cases permits with
  | constant listed => simp [Call.constants] at listed
  | enable listed => simp [Call.controls] at listed
  | addressHigh addresses => exact addresses.elim
  | addressLow addresses => exact addresses.elim
  | take asked pending => exact taken _

theorem seen_receive (reactive : machine.bus.registers.behaviour = .reactive)
    (buffer : List UInt8) (hardware : Hardware) :
    ((Call.receive buffer).program.run hardware machine).2.seen senderShare senderPart =
      machine.seen senderShare senderPart := by
  have kept : (receive buffer : Program (Interface rx tx) _).Keeps senderPart := by
    apply keeps_receive
    intro interface queues same
    simp [senderPart, same]
  exact Prod.ext (see_run reactive spares_of_receive (by simp) hardware)
    (kept.map _ hardware machine)

theorem seen_transmit (reactive : machine.bus.registers.behaviour = .reactive) (frame : Frame)
    (request : Option HeaderRequest) (hardware : Hardware) :
    ((Call.transmit frame request).program.run hardware machine).2.seen receiverShare
        receiverPart = machine.seen receiverShare receiverPart := by
  have kept : (transmit frame request : Program (Interface rx tx) _).Keeps receiverPart := by
    apply keeps_transmit
    · intro interface queues same
      simp [receiverPart, same]
    · intro interface mediaPresent
      rfl
  exact Prod.ext (see_run reactive spares_of_transmit (by simp) hardware)
    (kept.map _ hardware machine)

theorem seen_status (reactive : machine.bus.registers.behaviour = .reactive)
    (query : StatusQuery) (hardware : Hardware) :
    ((Call.status query).program.run hardware machine).2.seen receiverShare receiverPart =
      machine.seen receiverShare receiverPart := by
  have kept : (status query : Program (Interface rx tx) _).Keeps receiverPart := by
    apply keeps_status
    · intro interface queues same
      simp [receiverPart, same]
    · intro interface mediaPresent
      rfl
  exact Prod.ext (see_run reactive spares_of_status (by simp) hardware)
    (kept.map _ hardware machine)

end Spare

end EthernetMac.Interface
