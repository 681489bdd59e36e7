import EthernetMac.Proofs.Program.Silent
import EthernetMac.Proofs.Queues.Contracts
import EthernetMac.Proofs.Run.Calls

/-!
What the calls on an interface do to its queues, whatever the registers read. A
call makes at most one call on the queues; bringing the interface up is the only
one that builds them, and does so exactly if it takes a started interface into
service.
-/

namespace EthernetMac

/-- What sending makes of a frame: at most its header is written, if there is room for one. -/
structure Frame.Headed (before after : Frame) : Prop where
  address_eq : after.address = before.address
  length_eq : after.bytes.length = before.bytes.length
  payload_eq : after.bytes.drop EthernetHeader.size = before.bytes.drop EthernetHeader.size
  room : after ≠ before → EthernetHeader.size ≤ before.bytes.length

theorem Frame.Headed.refl (frame : Frame) : frame.Headed frame where
  address_eq := rfl
  length_eq := rfl
  payload_eq := rfl
  room changed := absurd rfl changed

namespace Interface

variable {rx tx : Nat} {α : Type} {interface : Interface rx tx}
  {allowed : Interface rx tx → Interface rx tx → Prop}

theorem ensures_gated {operation : Operation} {refuse : Error → α}
    {body : Program (Interface rx tx) α} {post : α → Interface rx tx → Prop}
    (inside : interface.lifecycle = .initialized → body.Ensures allowed post interface)
    (refused : interface.lifecycle ≠ .initialized → ∀ error, post (refuse error) interface) :
    (gated operation refuse body).Ensures allowed post interface := by
  unfold gated
  rw [Program.ensures_bind, Program.ensures_get]
  cases state : interface.lifecycle with
  | initialized => exact inside state
  | started => exact refused (by simp [state]) _
  | stopped => exact refused (by simp [state]) _

theorem ensures_onQueues {program : Program (Queues rx tx) α} {post : α → Interface rx tx → Prop}
    (holds : program.Ensures
      (fun before after => allowed { interface with queues := before }
        { interface with queues := after })
      (fun value after => post value { interface with queues := after }) interface.queues) :
    (onQueues program).Ensures allowed post interface := by
  apply Program.ensures_within <;> intros
  · rfl
  · rfl
  · rfl
  · exact holds

theorem ensures_sampleLink {post : Bool → Interface rx tx → Prop}
    (allow : ∀ up, allowed interface { interface with mediaPresent := up })
    (promise : ∀ up, post up { interface with mediaPresent := up }) :
    sampleLink.Ensures allowed post interface := by
  unfold sampleLink
  apply Program.ensures_bind_of_silent (.isSet _)
  intro up
  rw [Program.ensures_bind, Program.ensures_get]
  split
  next same =>
    subst same
    exact promise _
  next => exact ⟨allow up, promise up⟩

/-- The queues stay, or are touched once. -/
def Touch (before after : Interface rx tx) : Prop :=
  after.queues = before.queues ∨ Queues.Touch before.queues after.queues

/-- What a caller learns of a frame of the given length in a buffer. -/
def frameIn (buffer : List UInt8) (length : Nat) : ReceivedFrame :=
  ⟨length, EthernetHeader.size, EthernetHeader.parse (buffer.take length)⟩

theorem ensures_receive (inside : interface.queues.rx.ring.index < rx) (buffer : List UInt8) :
    (receive buffer).Ensures Touch
      (fun answer after =>
        let drained := interface.queues.rx.drain buffer rx
        (interface.lifecycle = .initialized →
          answer = (drained.1.1.map (frameIn drained.1.2), drained.1.2) ∧
            after = { interface with queues := ⟨drained.2, interface.queues.tx⟩ }) ∧
        (interface.lifecycle ≠ .initialized → (∃ error, answer = (.error error, buffer)) ∧
          after = interface)) interface := by
  apply ensures_gated
  · intro initialized
    rw [Program.ensures_bind]
    apply ensures_onQueues
    apply (Queues.ensures_receive inside buffer).mono
    · intro before after touch
      exact .inr touch
    · rintro ⟨result, filled⟩ ⟨rxAfter, txAfter⟩ ⟨drained, rfl⟩
      have result_eq : (interface.queues.rx.drain buffer rx).1 = (result, filled) := by
        rw [← drained]
      have queue_eq : (interface.queues.rx.drain buffer rx).2 = rxAfter := by rw [← drained]
      cases result with
      | error error => simp [initialized, result_eq, queue_eq, Except.map]
      | ok length =>
        have fits := RxQueue.length_le_of_drain result_eq
        simp [initialized, result_eq, queue_eq, Except.map, Program.firstBytes, fits, frameIn]
  · intro refused error
    exact ⟨fun initialized => absurd initialized refused, fun _ => ⟨⟨error, rfl⟩, rfl⟩⟩

section Transmit

theorem silent_nudge : (nudge : Program (Interface rx tx) Unit).Silent :=
  (Program.Silent.enable _).bind fun _ => (Program.Silent.enable _).bind fun _ => .writeAt _ _

theorem ensures_dispatch (frame : Frame) :
    (dispatch frame).Ensures Touch
      (fun result after =>
        (interface.queues.tx.HasRoom ∧ result = .ok () ∧ after = { interface with
          queues := { interface.queues with
            tx := interface.queues.tx.publish frame.busAddress frame.bytes.length } }) ∨
        (¬ interface.queues.tx.HasRoom ∧ result = .error .notReady ∧ after = interface))
      interface := by
  unfold dispatch
  rw [Program.ensures_bind]
  apply ensures_onQueues
  apply (Queues.ensures_transmit _ _ _).mono
  · intro before after touch
    exact .inr touch
  · rintro result after (⟨room, rfl, rfl⟩ | ⟨full, rfl, rfl⟩)
    · apply Program.ensures_bind_of_silent silent_nudge
      intro _
      exact .inl ⟨room, rfl, rfl⟩
    · rw [Program.ensures_bind, Program.ensures_get]
      apply Program.ensures_bind_of_silent (.note _)
      intro _
      apply Program.ensures_bind_of_silent silent_nudge
      intro _
      exact .inr ⟨full, rfl, rfl⟩

theorem length_of_check {frame : Frame} {request : Option HeaderRequest} {station : MacAddress}
    {header : Option EthernetHeader} (fit : frame.check request station = .ok header) :
    (header.isSome → EthernetHeader.size ≤ frame.bytes.length) ∧ 1 ≤ frame.bytes.length ∧
      frame.bytes.length ≤ Frame.maxLength := by
  have accepted {least : Nat} {header : Option EthernetHeader}
      {result : Option EthernetHeader} (fit : frame.accept least header = .ok result) :
      result = header ∧ least ≤ frame.bytes.length ∧ frame.bytes.length ≤ Frame.maxLength := by
    unfold Frame.accept at fit
    split at fit
    next => contradiction
    next inside =>
      injection fit with same
      exact ⟨same.symm, by omega, by omega⟩
  unfold Frame.check at fit
  cases request with
  | none =>
    obtain ⟨rfl, least, most⟩ := accepted fit
    exact ⟨by simp, least, most⟩
  | some request =>
    cases resolved : request.resolve station with
    | error reason => simp [resolved] at fit
    | ok fields =>
      simp only [resolved] at fit
      obtain ⟨rfl, least, most⟩ := accepted fit
      exact ⟨fun _ => least, Nat.le_trans (by decide) least, most⟩

theorem ensures_writeHeader {header : Option EthernetHeader} {frame : Frame}
    (fits : header.isSome → EthernetHeader.size ≤ frame.bytes.length) :
    (writeHeader header frame).Ensures allowed
      (fun sent after => after = interface ∧ frame.Headed sent) interface := by
  cases header with
  | none => exact ⟨rfl, .refl frame⟩
  | some header =>
    have room : header.octets.length ≤ frame.bytes.length := fits rfl
    unfold writeHeader Program.overwrite
    rw [Program.ensures_bind, if_pos room]
    refine ⟨rfl, rfl, ?_, ?_, fun _ => fits rfl⟩
    · rw [List.length_append, List.length_drop]
      omega
    · show (header.octets ++ _).drop header.octets.length = _
      rw [List.drop_left]
      rfl

theorem ensures_transmit (frame : Frame) (request : Option HeaderRequest) :
    (transmit frame request).Ensures Touch
      (fun answer after => frame.Headed answer.2 ∧
        ((answer.1 = .ok () ∧ interface.lifecycle = .initialized ∧ interface.queues.tx.HasRoom ∧
          1 ≤ frame.bytes.length ∧ frame.bytes.length ≤ Frame.maxLength ∧
          after.queues = { interface.queues with
            tx := interface.queues.tx.publish frame.busAddress frame.bytes.length }) ∨
        ((∃ error, answer.1 = .error error) ∧ after.queues = interface.queues))) interface := by
  apply ensures_gated
  · intro initialized
    rw [Program.ensures_bind]
    apply ensures_sampleLink
    · intro up
      exact .inl rfl
    · intro up
      cases up with
      | false => exact ⟨.refl frame, .inr ⟨⟨_, rfl⟩, rfl⟩⟩
      | true =>
        rw [if_pos rfl, Program.ensures_bind, Program.ensures_get]
        cases checked : frame.check request interface.address with
        | error reason => exact ⟨.refl frame, .inr ⟨⟨_, rfl⟩, rfl⟩⟩
        | ok header =>
          dsimp only
          obtain ⟨fits, least, most⟩ := length_of_check checked
          rw [Program.ensures_bind]
          apply (ensures_writeHeader fits).imp
          rintro sent _ ⟨rfl, headed⟩
          rw [Program.ensures_bind]
          apply (ensures_dispatch sent).imp
          rintro result after (⟨room, rfl, rfl⟩ | ⟨full, rfl, rfl⟩)
          · refine ⟨headed, .inl ⟨rfl, initialized, room, least, most, ?_⟩⟩
            simp only [Frame.busAddress, headed.address_eq, headed.length_eq]
          · exact ⟨headed, .inr ⟨⟨_, rfl⟩, rfl⟩⟩
  · intro refused error
    exact ⟨.refl frame, .inr ⟨⟨error, rfl⟩, rfl⟩⟩

end Transmit

section Monitor

theorem silent_takeInterrupts :
    (takeInterrupts : Program (Interface rx tx) InterruptStatus).Silent := by
  refine (Program.Silent.readAt _).bind fun raw => ?_
  dsimp only
  split
  · exact (Program.Silent.writeAt _ _).bind fun _ => .pure _
  · exact .pure _

theorem silent_askInterrupts (query : StatusQuery) :
    (askInterrupts query : Program (Interface rx tx) _).Silent := by
  unfold askInterrupts
  split
  · exact silent_takeInterrupts.bind fun _ => .pure _
  · exact .pure _

theorem ensures_askCompletion (query : StatusQuery) :
    (askCompletion query).Ensures Touch
      (fun answer after =>
        (query.asks .completion = true ∧ interface.queues.tx.HasReport ∧
          answer = some interface.queues.tx.oldest.buffer ∧
          after.queues = { interface.queues with tx := interface.queues.tx.retire }) ∨
        (¬ (query.asks .completion = true ∧ interface.queues.tx.HasReport) ∧ answer = none ∧
          after.queues = interface.queues)) interface := by
  unfold askCompletion
  split
  next asked =>
    apply ensures_onQueues
    apply (Queues.ensures_reclaim _).mono
    · intro before after touch
      exact .inr touch
    · rintro answer after (⟨due, rfl, rfl⟩ | ⟨waiting, rfl, rfl⟩)
      · exact .inl ⟨asked, due, rfl, rfl⟩
      · exact .inr ⟨fun both => waiting both.2, rfl, rfl⟩
  next silent => exact .inr ⟨fun both => silent both.1, rfl, rfl⟩

/-- The answer to a status query tells of a completed frame exactly if it was
asked to and one was due. -/
theorem ensures_status (query : StatusQuery) :
    (status query).Ensures Touch
      (fun answer after =>
        (interface.lifecycle = .initialized ∧ ∃ status, answer = .ok status ∧
          ((query.asks .completion = true ∧ interface.queues.tx.HasReport ∧
            status.completed = some interface.queues.tx.oldest.buffer ∧
            after.queues = { interface.queues with tx := interface.queues.tx.retire }) ∨
          (¬ (query.asks .completion = true ∧ interface.queues.tx.HasReport) ∧
            status.completed = none ∧ after.queues = interface.queues))) ∨
        (interface.lifecycle ≠ .initialized ∧ (∃ error, answer = .error error) ∧
          after.queues = interface.queues)) interface := by
  apply ensures_gated
  · intro initialized
    rw [Program.ensures_bind]
    apply ensures_sampleLink
    · intro up
      exact .inl rfl
    · intro up
      rw [Program.ensures_bind]
      apply (ensures_askCompletion query).imp
      intro completed after answered
      apply Program.ensures_bind_of_silent (silent_askInterrupts query)
      intro interrupts
      exact .inl ⟨initialized, _, rfl, answered⟩
  · intro refused error
    exact .inr ⟨refused, ⟨error, rfl⟩, rfl⟩

end Monitor

end Interface

end EthernetMac
