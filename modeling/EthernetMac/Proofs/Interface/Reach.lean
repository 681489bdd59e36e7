import EthernetMac.Proofs.Interface.Calls
import EthernetMac.Proofs.Interface.Footprint
import EthernetMac.Proofs.Queues.Sides

/-!
How far the calls reach into an interface. Receiving changes no more than the receive queue;
sending and asking for the status change no more than the transmit queue and what is remembered
of the link; starting, stopping and bringing up change no more than the queues and the lifecycle,
and a new address changes nothing else. A part of the interface that has nothing of these is kept.
-/

namespace EthernetMac.Interface

variable {rx tx : Nat} {α κ μ : Type} {part : Interface rx tx → κ}

theorem keeps_gated {operation : Operation} {refuse : Error → α}
    {body : Program (Interface rx tx) α} (keeps : body.Keeps part) :
    (gated operation refuse body).Keeps part := by
  unfold gated
  refine (Program.Keeps.of_silent .get).bind fun interface => ?_
  cases refusal? interface.lifecycle operation with
  | none => exact keeps
  | some refusal => exact (Program.Keeps.of_silent (.note _)).bind fun _ => .pure _

theorem keeps_onQueues {inner : Queues rx tx → μ} {program : Program (Queues rx tx) α}
    (keeps : program.Keeps inner)
    (apart : ∀ (interface : Interface rx tx) queues, inner queues = inner interface.queues →
      part { interface with queues } = part interface) : (onQueues program).Keeps part := by
  intro hardware machine
  rw [run_onQueues]
  exact apart _ _ (keeps _ _)

section Receive

theorem keeps_receive (apart : ∀ (interface : Interface rx tx) queues,
      queues.tx = interface.queues.tx → part { interface with queues } = part interface)
    (buffer : List UInt8) : (receive buffer).Keeps part := by
  apply keeps_gated
  refine (keeps_onQueues (Queues.keeps_drain buffer rx) apart).bind fun received => ?_
  obtain ⟨result, filled⟩ := received
  cases result with
  | error error => exact .pure _
  | ok length =>
    refine (Program.Keeps.firstBytes _ _).bind fun frame => ?_
    rw [parseHeader_eq]
    exact .pure _

end Receive

section Send

variable (apart : ∀ (interface : Interface rx tx) queues, queues.rx = interface.queues.rx →
  part { interface with queues } = part interface)

include apart in
theorem keeps_dispatch (frame : Frame) : (dispatch frame).Keeps part := by
  refine (keeps_onQueues (Queues.keeps_transmit _ _) apart).bind fun result => ?_
  apply Program.Keeps.of_silent
  cases result with
  | ok _ => exact silent_nudge.bind fun _ => .pure _
  | error error =>
    exact Program.Silent.get.bind fun _ => (Program.Silent.note _).bind fun _ =>
      silent_nudge.bind fun _ => .pure _

include apart in
theorem keeps_askCompletion (query : StatusQuery) : (askCompletion query).Keeps part := by
  unfold askCompletion
  split
  · exact keeps_onQueues Queues.keeps_reclaim apart
  · exact .pure _

theorem keeps_writeHeader (header : Option EthernetHeader) (frame : Frame) :
    (writeHeader header frame).Keeps part := by
  cases header with
  | none => exact .pure _
  | some header => exact (Program.Keeps.overwrite _ _).bind fun _ => .pure _

include apart in
/-- What follows the look at the link does not touch what is remembered of it. -/
theorem keeps_submit (frame : Frame) (request : Option HeaderRequest) (up : Bool) :
    (submit frame request up).Keeps part := by
  cases up with
  | false => exact (Program.Keeps.of_silent (.note _)).bind fun _ => .pure _
  | true =>
    refine (Program.Keeps.of_silent .get).bind fun interface => ?_
    cases frame.check request interface.address with
    | error reason => exact (Program.Keeps.of_silent (.note _)).bind fun _ => .pure _
    | ok header =>
      refine (keeps_writeHeader header frame).bind fun sent => ?_
      exact (keeps_dispatch apart sent).bind fun _ => .pure _

include apart in
theorem keeps_report (query : StatusQuery) (up : Bool) : (report query up).Keeps part :=
  (keeps_askCompletion apart query).bind fun _ =>
    (Program.Keeps.of_silent (silent_askInterrupts query)).bind fun _ => .pure _

variable (blind : ∀ (interface : Interface rx tx) mediaPresent,
  part { interface with mediaPresent } = part interface)

include blind

theorem keeps_sampleLink : sampleLink.Keeps part := by
  refine (Program.Keeps.of_silent (.isSet _)).bind fun up => ?_
  refine (Program.Keeps.of_silent .get).bind fun interface => ?_
  split
  · exact .pure _
  · refine (Program.Keeps.modify fun interface => blind interface up).bind fun _ => ?_
    exact (Program.Keeps.of_silent (.note _)).bind fun _ => .pure _

include apart

theorem keeps_transmit (frame : Frame) (request : Option HeaderRequest) :
    (transmit frame request).Keeps part := by
  rw [transmit_eq]
  exact keeps_gated ((keeps_sampleLink blind).bind fun up => keeps_submit apart frame request up)

theorem keeps_status (query : StatusQuery) : (status query).Keeps part := by
  rw [status_eq]
  exact keeps_gated ((keeps_sampleLink blind).bind fun up => keeps_report apart query up)

end Send

section Session

variable (blind : ∀ (interface : Interface rx tx) lifecycle,
  part { interface with lifecycle } = part interface)

include blind

theorem keeps_start : start.Keeps part := by
  refine (Program.Keeps.of_silent .get).bind fun interface => ?_
  cases interface.lifecycle with
  | stopped => exact (Program.Keeps.modify fun interface => blind interface _).bind fun _ => .pure _
  | started | initialized => exact .pure _

theorem keeps_stop : stop.Keeps part := by
  refine (Program.Keeps.of_silent .get).bind fun interface => ?_
  cases interface.lifecycle with
  | stopped => exact .pure _
  | started | initialized =>
    exact (Program.Keeps.modify fun interface => blind interface _).bind fun _ => .pure _

theorem keeps_bringUp (apart : ∀ (interface : Interface rx tx) queues,
      part { interface with queues } = part interface) (extraRx extraTx : Nat) :
    (bringUp extraRx extraTx).Keeps part := by
  intro hardware machine
  obtain ⟨_, _, ran, outcome, -⟩ :=
    Program.ensures_run (@ensures_bringUp _ _ machine.state extraRx extraTx) hardware
  rw [ran]
  rcases outcome with ⟨-, -, same⟩ | ⟨-, same⟩ <;> rw [same]
  exact (blind _ _).trans (apart _ _)

end Session

theorem keeps_setAddress (blind : ∀ (interface : Interface rx tx) address,
      part { interface with address } = part interface) (restore : Bool)
    (address : Option MacAddress) : (setAddress restore address).Keeps part := by
  have used (address : MacAddress) : (useAddress address).Keeps part :=
    (Program.Keeps.modify fun interface => blind interface address).bind fun _ =>
      .of_silent ((Program.Silent.writeAddress _ _).bind fun _ => .note _)
  apply keeps_gated
  cases restore with
  | true =>
    exact (Program.Keeps.of_silent (.note _)).bind fun _ => (Program.Keeps.of_silent .get).bind
      fun _ => (used _).bind fun _ => .pure _
  | false =>
    cases address with
    | none => exact .pure _
    | some address => exact (used address).bind fun _ => .pure _

/-- The calls that set nothing but the queues and what is remembered of the link. -/
def Call.Serves : Call → Prop
  | .start | .stop | .bringUp .. | .setAddress .. => False
  | _ => True

theorem keeps_of_serves (apart : ∀ (interface : Interface rx tx) queues,
      part { interface with queues } = part interface)
    (blind : ∀ (interface : Interface rx tx) mediaPresent,
      part { interface with mediaPresent } = part interface)
    (call : Call) (serves : call.Serves) :
    (call.program : Program (Interface rx tx) Reply).Keeps part := by
  cases call with
  | start | stop | bringUp | setAddress => exact serves.elim
  | receive buffer => exact (keeps_receive (fun _ _ _ => apart _ _) buffer).map _
  | transmit frame request =>
    exact (keeps_transmit (fun _ _ _ => apart _ _) blind frame request).map _
  | status query => exact (keeps_status (fun _ _ _ => apart _ _) blind query).map _
  | _ => exact .of_silent (silent_idle _ trivial)

end EthernetMac.Interface
