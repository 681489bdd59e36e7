import EthernetMac.Proofs.Interface.Contracts

/-!
What each call on an interface does to the queues and what its reply says of it.
Bringing up rebuilds them or leaves them alone; a call that gets by without
touching them is quiet; receiving, sending and asking for the status touch them
one descriptor at a time.
-/

namespace EthernetMac.Interface

variable {rx tx : Nat} {interface : Interface rx tx}
  {allowed : Interface rx tx → Interface rx tx → Prop}

section BringUp

theorem silent_programDevice : (programDevice : Program (Interface rx tx) Unit).Silent :=
  Program.Silent.get.bind fun _ => (Program.Silent.writeAddress _ _).bind fun _ =>
    (Program.Silent.enable _).bind fun _ => (Program.Silent.writeAt _ _).bind fun _ => .writeAt _ _

theorem silent_enableDevice : (enableDevice : Program (Interface rx tx) Unit).Silent :=
  (Program.Silent.writeAt _ _).bind fun _ => (Program.Silent.writeAt _ _).bind fun _ =>
    (Program.Silent.writeAt _ _).bind fun _ => (Program.Silent.enable _).bind fun _ =>
    (Program.Silent.enable _).bind fun _ => (Program.Silent.enable _).bind fun _ =>
    (Program.Silent.enable _).bind fun _ => .writeAt _ _

theorem silent_announce : (announce : Program (Interface rx tx) Unit).Silent :=
  (Program.Silent.readAt _).bind fun _ => .note _

/-- The queues stay, or are built anew. -/
def Rebuild (before after : Interface rx tx) : Prop :=
  after.queues = before.queues ∨ after.queues = before.queues.rebuild

def inService (interface : Interface rx tx) : Interface rx tx :=
  { interface with queues := interface.queues.rebuild, lifecycle := .initialized }

/-- What bringing up does once the bus had its time to fall idle. -/
def serve : Program (Interface rx tx) (Except Error Unit) := do
  programDevice
  rebuildQueues
  enableDevice
  moveTo .initialized
  announce
  return .ok ()

/-- Nothing stops the interface from going into service then. -/
theorem ensures_serve :
    serve.Ensures Rebuild (fun answer after => answer = .ok () ∧ after = interface.inService)
      interface := by
  apply Program.ensures_bind_of_silent silent_programDevice
  intro _
  rw [Program.ensures_bind, rebuildQueues_eq]
  apply ensures_onQueues
  refine ⟨.inr rfl, ?_⟩
  apply Program.ensures_bind_of_silent silent_enableDevice
  intro _
  rw [Program.ensures_bind]
  refine ⟨.inl rfl, ?_⟩
  apply Program.ensures_bind_of_silent silent_announce
  intro _
  exact ⟨rfl, rfl⟩

theorem ensures_bringUpDevice :
    (bringUpDevice : Program (Interface rx tx) _).Ensures Rebuild
      (fun answer after =>
        (answer = .ok () ∧ after = interface.inService) ∨
        ((∃ error, answer = .error error) ∧ after = interface)) interface := by
  unfold bringUpDevice
  rw [Program.ensures_bind, Program.ensures_get]
  apply Program.ensures_bind_of_silent (.softReset _)
  intro reset
  cases reset with
  | error error => exact .inr ⟨⟨error, rfl⟩, rfl⟩
  | ok _ =>
    apply Program.ensures_bind_of_silent (.awaitBusIdle _ _)
    intro idle
    exact ensures_serve.imp fun _ _ served => .inl served

theorem ensures_bringUp (extraRx extraTx : Nat) :
    (bringUp extraRx extraTx).Ensures Rebuild
      (fun answer after =>
        (interface.lifecycle = .started ∧ answer = .ok () ∧ after = interface.inService) ∨
        (¬ (interface.lifecycle = .started ∧ answer = .ok ()) ∧ after = interface)) interface := by
  unfold bringUp
  split
  · exact .inr ⟨by simp, rfl⟩
  · rw [Program.ensures_bind, Program.ensures_get]
    cases state : interface.lifecycle with
    | initialized => exact .inr ⟨by simp, rfl⟩
    | stopped => exact .inr ⟨by simp, rfl⟩
    | started =>
      apply ensures_bringUpDevice.imp
      rintro answer after (⟨rfl, rfl⟩ | ⟨⟨error, rfl⟩, rfl⟩)
      · exact .inl ⟨rfl, rfl, rfl⟩
      · exact .inr ⟨by simp, rfl⟩

end BringUp

section Quiet

/-- The calls that have no business with the queues. -/
def Call.Quiet : Call → Prop
  | .bringUp .. | .receive .. | .transmit .. | .status .. => False
  | _ => True

/-- The queues stay. -/
def Keep (before after : Interface rx tx) : Prop := after.queues = before.queues

theorem ensures_useAddress (address : MacAddress) :
    (useAddress address).Ensures Keep (fun _ after => after.queues = interface.queues)
      interface := by
  unfold useAddress
  rw [Program.ensures_bind]
  refine ⟨rfl, ?_⟩
  apply Program.ensures_bind_of_silent (.writeAddress 0 address)
  intro _
  exact rfl

theorem ensures_setAddress (restore : Bool) (address : Option MacAddress) :
    (setAddress restore address).Ensures Keep (fun _ after => after.queues = interface.queues)
      interface := by
  apply ensures_gated
  · intro _
    have used (address : MacAddress) : (do useAddress address; return Except.ok () :
        Program (Interface rx tx) (Except Error Unit)).Ensures Keep
          (fun _ after => after.queues = interface.queues) interface := by
      rw [Program.ensures_bind]
      exact (ensures_useAddress address).imp fun _ _ => id
    cases restore with
    | true =>
      apply Program.ensures_bind_of_silent (.note _)
      intro _
      exact used interface.config.address
    | false =>
      cases address with
      | none => exact rfl
      | some address => exact used address
  · intro _ _
    rfl

theorem ensures_moveTo (lifecycle : Lifecycle) (result : Except Error Unit) :
    (do moveTo lifecycle; return result : Program (Interface rx tx) _).Ensures Keep
      (fun _ after => after.queues = interface.queues) interface := by
  rw [Program.ensures_bind]
  exact ⟨rfl, rfl⟩

theorem ensures_start :
    start.Ensures Keep (fun _ after => after.queues = interface.queues) interface := by
  unfold start
  rw [Program.ensures_bind, Program.ensures_get]
  cases interface.lifecycle with
  | stopped => exact ensures_moveTo _ _
  | started => exact rfl
  | initialized => exact rfl

theorem ensures_stop :
    stop.Ensures Keep (fun _ after => after.queues = interface.queues) interface := by
  unfold stop
  rw [Program.ensures_bind, Program.ensures_get]
  cases interface.lifecycle with
  | stopped => exact rfl
  | started => exact ensures_moveTo _ _
  | initialized => exact ensures_moveTo _ _

theorem silent_filterSetting : (filterSetting : Program (Interface rx tx) _).Silent :=
  (Program.Silent.readAt _).bind fun _ => .pure _

theorem silent_gated {α : Type} {operation : Operation} {refuse : Error → α}
    {body : Program (Interface rx tx) α} (quiet : body.Silent) :
    (gated operation refuse body).Silent := by
  refine Program.Silent.get.bind fun interface => ?_
  cases refusal? interface.lifecycle operation with
  | none => exact quiet
  | some refusal => exact (Program.Silent.note _).bind fun _ => .pure _

/-- The calls that set nothing at all. -/
def Call.Idle : Call → Prop
  | .start | .stop | .bringUp .. | .receive .. | .transmit .. | .status .. | .setAddress .. => False
  | _ => True

theorem silent_idle (call : Call) (idle : call.Idle) :
    (call.program : Program (Interface rx tx) Reply).Silent := by
  cases call with
  | start | stop | bringUp | receive | transmit | status | setAddress => exact idle.elim
  | shutdown | statistics | multicastAddress => exact (silent_gated (.pure _)).map _
  | reset extended =>
    exact (silent_gated ((Program.Silent.noteWhen _ _).bind fun _ => .pure _)).map _
  | nonVolatile read offset buffer =>
    exact (silent_gated ((Program.Silent.note _).bind fun _ => .pure _)).map _
  | setFilters enable disable resetMulticast multicast =>
    exact (silent_gated ((Program.Silent.note _).bind fun _ =>
      (Program.Silent.noteWhen _ _).bind fun _ => (Program.Silent.updateAt _ _).bind fun _ =>
      silent_filterSetting.bind fun _ => (Program.Silent.note _).bind fun _ => .pure _)).map _
  | filterSetting => exact silent_filterSetting.map _
  | mode =>
    exact Program.Silent.map (silent_filterSetting.bind fun _ => Program.Silent.get.bind
      fun _ => .pure _) _

theorem ensures_quiet (call : Call) (quiet : call.Quiet) :
    call.program.Ensures Keep (fun _ after => after.queues = interface.queues) interface := by
  have idle {call : Call} (idle : call.Idle) :
      call.program.Ensures Keep (fun _ after => after.queues = interface.queues) interface :=
    silent_idle call idle _ _ _ fun _ => rfl
  cases call with
  | bringUp | receive | transmit | status => exact quiet.elim
  | start => exact (Program.ensures_map ..).2 ensures_start
  | stop => exact (Program.ensures_map ..).2 ensures_stop
  | setAddress restore address =>
    exact (Program.ensures_map ..).2 (ensures_setAddress restore address)
  | _ => exact idle trivial

end Quiet

end EthernetMac.Interface
