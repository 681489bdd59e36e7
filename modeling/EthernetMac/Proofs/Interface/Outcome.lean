import EthernetMac.Proofs.Interface.Calls

/-!
All that a call can come to. `Outcome` says for a call, its reply and the queues after
it which of five things happened; `ensures_outcome` that nothing else can. What is to
be shown of every call is shown by cases on it, or, where the reply does not matter,
for each touch of the queues.
-/

namespace EthernetMac

variable {rx tx : Nat}

namespace Queues

/-- Neither driver nor device break the property, and the driver is safe under it. -/
structure Invariant (Holds : Queues rx tx → Prop) : Prop where
  inside : ∀ queues, Holds queues → queues.rx.ring.index < rx
  touch : ∀ before after, Touch before after → Holds before → Holds after
  rebuild : ∀ queues, Holds queues → Holds queues.rebuild
  device : ∀ (action : DeviceAction) queues, Holds queues → Holds (action.onQueues queues)

end Queues

namespace Interface

/-- What a call, answered like this by an interface in that state, was for the
transmit queue. -/
def Call.txEvent : Call → Lifecycle → Reply → Option TxEvent
  | bringUp .., .started, .plain (.ok ()) => some .rebuilt
  | transmit frame _, _, .sent (.ok ()) _ => some (.published (UInt32.ofNat frame.address))
  | status _, _, .status (.ok ⟨_, _, some address⟩) => some (.reported address)
  | _, _, _ => none

/-- The steps in which a call sets the queues. -/
def Call.Allows : Call → Interface rx tx → Interface rx tx → Prop
  | bringUp .. => Rebuild
  | _ => Touch

inductive Outcome (before : Interface rx tx) : Call → Reply → Queues rx tx → Prop
  /-- Nothing was done to the queues. -/
  | keep {call : Call} {reply : Reply} (silent : call.txEvent before.lifecycle reply = none) :
    Outcome before call reply before.queues
  | rebuild {extraRx extraTx : Nat} (started : before.lifecycle = .started) :
    Outcome before (.bringUp extraRx extraTx) (.plain (.ok ())) before.queues.rebuild
  | drain {buffer filled : List UInt8} {result : Except Error Nat} {queue : RxQueue rx}
    (drained : before.queues.rx.drain buffer rx = ((result, filled), queue)) :
    Outcome before (.receive buffer) (.received (result.map (frameIn filled)) filled)
      { before.queues with rx := queue }
  | publish {frame sent : Frame} {request : Option HeaderRequest}
    (room : before.queues.tx.HasRoom) (least : 1 ≤ frame.bytes.length)
    (most : frame.bytes.length ≤ Frame.maxLength) :
    Outcome before (.transmit frame request) (.sent (.ok ()) sent)
      { before.queues with
        tx := before.queues.tx.publish frame.busAddress frame.bytes.length }
  | retire {query : StatusQuery} {mediaPresent : Bool} {interrupts : Option InterruptStatus}
    (due : before.queues.tx.HasReport) :
    Outcome before (.status query)
      (.status (.ok ⟨mediaPresent, interrupts, some before.queues.tx.oldest.buffer⟩))
      { before.queues with tx := before.queues.tx.retire }

variable {interface : Interface rx tx}

theorem Outcome.of_eq {call : Call} {reply : Reply} {after : Queues rx tx}
    (kept : after = interface.queues) (silent : call.txEvent interface.lifecycle reply = none) :
    Outcome interface call reply after := by
  rw [kept]
  exact .keep silent

theorem ensures_outcome (inside : interface.queues.rx.ring.index < rx) (call : Call) :
    call.program.Ensures call.Allows (fun reply after => Outcome interface call reply after.queues)
      interface := by
  have quiet {call : Call} (quiet : call.Quiet)
      (silent : ∀ reply, call.txEvent interface.lifecycle reply = none)
      (allow : ∀ before after : Interface rx tx, Keep before after → call.Allows before after) :
      call.program.Ensures call.Allows
        (fun reply after => Outcome interface call reply after.queues) interface :=
    (ensures_quiet call quiet).mono allow fun reply _ kept => .of_eq kept (silent reply)
  cases call with
  | bringUp extraRx extraTx =>
    rw [Call.program, Program.ensures_map]
    apply (ensures_bringUp extraRx extraTx).imp
    rintro answer after (⟨started, rfl, rfl⟩ | ⟨idle, rfl⟩)
    · exact .rebuild started
    · refine .keep ?_
      unfold Call.txEvent
      split <;> simp_all
  | receive buffer =>
    rw [Call.program, Program.ensures_map]
    apply (ensures_receive inside buffer).imp
    rintro answer after ⟨served, refused⟩
    by_cases initialized : interface.lifecycle = .initialized
    · obtain ⟨rfl, rfl⟩ := served initialized
      exact .drain rfl
    · obtain ⟨-, rfl⟩ := refused initialized
      exact .keep rfl
  | transmit frame request =>
    rw [Call.program, Program.ensures_map]
    apply (ensures_transmit frame request).imp
    rintro ⟨result, sent⟩ after ⟨-, ⟨rfl, -, room, least, most, kept⟩ | ⟨⟨error, rfl⟩, kept⟩⟩
    · rw [kept]
      exact .publish room least most
    · exact .of_eq kept rfl
  | status query =>
    rw [Call.program, Program.ensures_map]
    apply (ensures_status query).imp
    rintro answer after (⟨-, ⟨up, interrupts, completed⟩, rfl, answered⟩ | ⟨-, ⟨error, rfl⟩, kept⟩)
    · rcases answered with ⟨-, due, rfl, kept⟩ | ⟨-, rfl, kept⟩
      · rw [kept]
        exact .retire due
      · exact .of_eq kept rfl
    · exact .of_eq kept rfl
  | _ => exact quiet trivial (fun _ => rfl) fun _ _ kept => .inl kept

theorem queues_of_allows {call : Call} {before after : Interface rx tx}
    (allowed : call.Allows before after) :
    after.queues = before.queues ∨ Queues.Touch before.queues after.queues ∨
      after.queues = before.queues.rebuild := by
  have touched (step : Touch before after) :
      after.queues = before.queues ∨ Queues.Touch before.queues after.queues ∨
        after.queues = before.queues.rebuild := step.imp_right .inl
  cases call with
  | bringUp extraRx extraTx => exact allowed.imp_right .inr
  | _ => exact touched allowed

section Invariant

variable {Holds : Queues rx tx → Prop} (invariant : Queues.Invariant Holds)

include invariant

/-- An invariant holds of every state that a call sets. -/
theorem holds_of_saves {machine : Machine (Interface rx tx)} (holds : Holds machine.state.queues)
    (hardware : Hardware) (call : Call) :
    ∀ state ∈ machine.state :: call.program.saves hardware machine, Holds state.queues := by
  have inside := invariant.inside _ holds
  obtain ⟨_, _, _, _, chain⟩ := Program.ensures_run (ensures_outcome inside call) hardware
  apply chain.induction fun state : Interface rx tx => Holds state.queues
  · intro before after allowed holds
    rcases queues_of_allows allowed with same | touch | rebuilt
    · rw [same]
      exact holds
    · exact invariant.touch _ _ touch holds
    · rw [rebuilt]
      exact invariant.rebuild _ holds
  · intro _
    exact holds

theorem holds_of_step {machine : Machine (Interface rx tx)} (holds : Holds machine.state.queues)
    (step : Step Call) : Holds ((system rx tx).step step machine).2.state.queues := by
  cases step with
  | device action => exact invariant.device action _ holds
  | call hardware call =>
    exact holds_of_saves invariant holds hardware call _ (Program.state_mem_saves _ _ _)

theorem holds_of_steps {start : Machine (Interface rx tx)} (holds : Holds start.state.queues)
    (steps : List (Step Call)) : Holds ((system rx tx).after start steps).state.queues :=
  System.holds_of_run
    (fun (_ : List (Moment rx tx)) (machine : Machine (Interface rx tx)) =>
      Holds machine.state.queues)
    holds (fun _ _ step holds => holds_of_step invariant holds step) steps

end Invariant

section Track

/-- The device acts only as allowed. -/
def Acts (allowed : DeviceAction → Prop) : Step Call → Machine (Interface rx tx) → Prop
  | .call .., _ => True
  | .device action, _ => allowed action

/-- A property of the queues and their history that no call breaks, nor the device as long as
it acts as allowed. -/
structure Tracks (allowed : DeviceAction → Prop)
    (Holds : List (Moment rx tx) → Queues rx tx → Prop) : Prop where
  inside : ∀ history queues, Holds history queues → queues.rx.ring.index < rx
  call : ∀ history (machine : Machine (Interface rx tx)) hardware call reply after,
    Outcome machine.state call reply after → Holds history machine.state.queues →
      Holds (⟨machine, .call hardware call, some (.ok reply)⟩ :: history) after
  device : ∀ history (machine : Machine (Interface rx tx)) action, allowed action →
    Holds history machine.state.queues →
      Holds (⟨machine, .device action, none⟩ :: history) (action.onQueues machine.state.queues)

variable {allowed : DeviceAction → Prop} {Holds : List (Moment rx tx) → Queues rx tx → Prop}
  (tracks : Tracks allowed Holds)

include tracks

theorem holds_of_acts {history : List (Moment rx tx)} {machine : Machine (Interface rx tx)}
    (holds : Holds history machine.state.queues) {step : Step Call}
    (acts : Acts allowed step machine) :
    Holds ((system rx tx).moment machine step :: history)
      ((system rx tx).step step machine).2.state.queues := by
  cases step with
  | device action => exact tracks.device history machine action acts holds
  | call hardware call =>
    obtain ⟨reply, after, stepped, outcome⟩ :=
      driver_call onDevice (ensures_outcome (tracks.inside _ _ holds) call) hardware
    unfold System.moment system
    rw [stepped]
    exact tracks.call _ _ _ _ _ _ outcome holds

/-- What is tracked holds after every run beside such a device. -/
theorem holds_of_tracks {start : Machine (Interface rx tx)} (holds : Holds [] start.state.queues)
    (steps : List (Step Call)) (follows : (system rx tx).Follows start (Acts allowed) steps) :
    Holds ((system rx tx).history start steps) ((system rx tx).after start steps).state.queues :=
  System.holds_of_follows
    (fun (history : List (Moment rx tx)) (machine : Machine (Interface rx tx)) =>
      Holds history machine.state.queues)
    holds (fun _ _ _ acts holds => holds_of_acts tracks holds acts) steps follows

end Track

end Interface

end EthernetMac
