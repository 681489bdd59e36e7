import EthernetMac.Proofs.Queues.HandOver
import EthernetMac.Proofs.Transmit.Completion

/-!
What a call on an interface does to the memory it shares with the device. Unless
it takes the interface into service, it only hands descriptors over, each at most
once; and no call writes into a receive buffer.
-/

namespace EthernetMac.Interface

variable {rx tx : Nat}

/-- The call finds a started interface, and the device comes out of its reset. -/
def PassesReset (hardware : Hardware) (machine : Machine (Interface rx tx)) (call : Call) : Prop :=
  call = .bringUp 0 0 ∧ machine.state.lifecycle = .started ∧
    ((Program.softReset machine.state.config.timing).run hardware machine).1 = .ok (.ok ())

section Saves

variable {hardware : Hardware} {machine : Machine (Interface rx tx)}

theorem saves_bringUpDevice (stuck : ((Program.softReset machine.state.config.timing).run hardware
    machine).1 ≠ .ok (.ok ())) : bringUpDevice.saves hardware machine = [] := by
  obtain ⟨reset, bus, ran, quiet⟩ :=
    (Program.Silent.softReset machine.state.config.timing).run hardware machine
  unfold bringUpDevice
  show ((Program.softReset machine.state.config.timing : Program (Interface rx tx) _) >>=
    _).saves hardware machine = []
  rw [Program.saves_bind, quiet, ran]
  cases reset with
  | error error => rfl
  | ok done => exact absurd (congrArg Prod.fst ran) stuck

/-- An interface that is not taken into service keeps its state. -/
theorem saves_bringUp {extraRx extraTx : Nat}
    (stuck : ¬ PassesReset hardware machine (.bringUp extraRx extraTx)) :
    (bringUp extraRx extraTx).saves hardware machine = [] := by
  unfold bringUp
  split
  next => rfl
  next plain =>
    obtain ⟨rfl, rfl⟩ : extraRx = 0 ∧ extraTx = 0 := by omega
    rw [Program.saves_bind, Program.run_get]
    dsimp only
    cases state : machine.state.lifecycle with
    | initialized => rfl
    | stopped => rfl
    | started => exact saves_bringUpDevice fun reset => stuck ⟨rfl, state, reset⟩

end Saves

section Contracts

variable {interface : Interface rx tx} (inside : interface.queues.rx.ring.index < rx)

include inside

/-- No call but one writes anything into the queues but one descriptor at a time. -/
theorem ensures_touch (call : Call) (service : ∀ extraRx extraTx, call ≠ .bringUp extraRx extraTx) :
    call.program.Ensures Touch (fun _ _ => True) interface := by
  have outcome := (ensures_outcome inside call).imp fun _ _ _ => trivial
  cases call with
  | bringUp extraRx extraTx => exact absurd rfl (service extraRx extraTx)
  | _ => exact outcome

/-- No call writes into a receive buffer. -/
theorem ensures_buffers (call : Call) :
    call.program.Ensures
      (fun before after => after.queues.rx.buffers = before.queues.rx.buffers) (fun _ _ => True)
      interface := by
  by_cases service : ∀ extraRx extraTx, call ≠ .bringUp extraRx extraTx
  · apply (ensures_touch inside call service).mono
    · rintro before after (kept | touch)
      · rw [kept]
      · exact touch.buffers_eq
    · exact fun _ _ => id
  · push Not at service
    obtain ⟨extraRx, extraTx, rfl⟩ := service
    rw [Call.program, Program.ensures_map]
    apply (ensures_bringUp extraRx extraTx).mono
    · rintro before after (kept | rebuilt)
      · rw [kept]
      · rw [rebuilt]
        rfl
    · exact fun _ _ _ => trivial

end Contracts

/-- What a call leaves alone: asking for the status, all descriptors; sending, all but
the one published into; receiving, all but a run from the read index on, of one round
at most. Other calls leave the queues alone, unless they bring the interface up. -/
def Call.Spares (before after : Queues rx tx) : Call → Prop
  | .status _ => after.rx = before.rx ∧ after.tx.ring = before.tx.ring
  | .transmit .. => after.rx = before.rx ∧ ∀ slot, slot % tx ≠ before.tx.ring.index % tx →
      after.tx.ring.get slot = before.tx.ring.get slot
  | .receive _ => after.tx = before.tx ∧ ∃ count ≤ rx, ∀ slot,
      after.rx.ring.get slot ≠ before.rx.ring.get slot ↔ before.rx.Ahead count slot
  | .bringUp .. => True
  | _ => after = before

section Spares

variable {interface : Interface rx tx}

theorem spares_drain (buffer : List UInt8) (queue : RxQueue rx) :
    ∃ count ≤ rx, ∀ slot,
      (queue.drain buffer rx).2.ring.get slot ≠ queue.ring.get slot ↔ queue.Ahead count slot := by
  obtain ⟨count, run⟩ := RxQueue.drain_recycles buffer rx queue
  refine ⟨count, run.count_le, ?_⟩
  intro slot
  constructor
  · intro changed
    by_contra beyond
    exact changed (run.get_beyond beyond)
  · intro ahead same
    obtain ⟨free, given⟩ := run.get_ahead ahead
    rw [← same, given, RxQueue.owner_giveToHardware] at free
    contradiction

theorem Outcome.spares {call : Call} {reply : Reply} {after : Queues rx tx}
    (outcome : Outcome interface call reply after) : call.Spares interface.queues after := by
  cases outcome with
  | keep silent =>
    cases call with
    | bringUp => trivial
    | receive buffer =>
      refine ⟨rfl, 0, Nat.zero_le rx, ?_⟩
      intro slot
      simp [RxQueue.Ahead]
    | transmit => exact ⟨rfl, fun _ _ => rfl⟩
    | status => exact ⟨rfl, rfl⟩
    | _ => rfl
  | rebuild started => trivial
  | @drain buffer filled result queue drained =>
    have spared := spares_drain buffer interface.queues.rx
    rw [drained] at spared
    exact ⟨rfl, spared⟩
  | publish room least most =>
    refine ⟨rfl, ?_⟩
    intro slot other
    rw [TxQueue.get_publish, if_neg other]
  | retire due => exact ⟨rfl, rfl⟩

theorem ensures_spares (inside : interface.queues.rx.ring.index < rx) (call : Call) :
    call.program.Ensures (fun _ _ => True)
      (fun _ after => call.Spares interface.queues after.queues) interface :=
  (ensures_outcome inside call).mono (fun _ _ _ => trivial) fun _ _ outcome => outcome.spares

end Spares

section Run

variable {machine : Machine (Interface rx tx)} (inside : machine.state.queues.rx.ring.index < rx)
  (hardware : Hardware) {call : Call}

include inside

theorem chain_handsOver (stuck : ¬ PassesReset hardware machine call) :
    (machine.state :: call.program.saves hardware machine).IsChain
      fun before after => before.queues.HandsOver after.queues := by
  by_cases service : ∀ extraRx extraTx, call ≠ .bringUp extraRx extraTx
  · obtain ⟨_, _, _, _, chain⟩ :=
      Program.ensures_run (ensures_touch inside call service) hardware
    apply chain.imp
    rintro before after (kept | touch)
    · rw [kept]
      exact .refl _
    · exact touch.handsOver
  · push Not at service
    obtain ⟨extraRx, extraTx, rfl⟩ := service
    rw [Call.program, Program.saves_map, saves_bringUp stuck]
    exact .singleton _

theorem chain_buffers (call : Call) :
    (machine.state :: call.program.saves hardware machine).IsChain
      fun before after => after.queues.rx.buffers = before.queues.rx.buffers := by
  obtain ⟨_, _, _, _, chain⟩ := Program.ensures_run (ensures_buffers inside call) hardware
  exact chain

end Run

/-- In every state that a user of an interface can reach beside any device, every call ends
with a reply and writes into no receive buffer. Unless it takes the interface into service,
it hands descriptors from the driver to the device, each at most once, and changes no
descriptor that is the device's. -/
theorem hands_over_once (placement : Placement) (two_le_rx : 2 ≤ rx) (two_le_tx : 2 ≤ tx)
    (config : Config) (bus : Bus) (steps : List (Step Call)) (call : Call)
    (hardware : Hardware) :
    let start : Machine (Interface rx tx) :=
      ⟨bus, Interface.blank config (Queues.blank placement two_le_rx two_le_tx)⟩
    let machine := (system rx tx).after start steps
    let states := machine.state :: call.program.saves hardware machine
    ∃ reply after, call.program.run hardware machine = (.ok reply, after) ∧
      after.state ∈ states ∧
      (∀ state ∈ states, state.queues.rx.buffers = machine.state.queues.rx.buffers) ∧
      call.Spares machine.state.queues after.state.queues ∧
      (¬ PassesReset hardware machine call →
        (∀ state ∈ states, machine.state.queues.HandsOver state.queues) ∧
        (∀ slot, ChangesOnce (states.map fun state => state.queues.rx.ring.get slot)) ∧
        (∀ slot, ChangesOnce (states.map fun state => state.queues.tx.ring.get slot))) := by
  intro start machine states
  have inside : machine.state.queues.rx.ring.index < rx :=
    (run_accounted (Queues.accounted_blank placement two_le_rx two_le_tx) steps).inside
  obtain ⟨reply, after, ran, spares, -⟩ :=
    Program.ensures_run (ensures_spares inside call) hardware
  have last : after.state ∈ states := by
    have member := Program.state_mem_saves hardware call.program machine
    rw [ran] at member
    exact member
  refine ⟨reply, after, ran, last, ?_, spares, ?_⟩
  · have chain := chain_buffers inside hardware call
    apply chain.induction fun state : Interface rx tx =>
      state.queues.rx.buffers = machine.state.queues.rx.buffers
    · intro before after same kept
      exact same.trans kept
    · intro _
      rfl
  · intro stuck
    have chain := chain_handsOver inside hardware stuck
    refine ⟨?_, ?_, ?_⟩
    · apply chain.induction fun state : Interface rx tx =>
        machine.state.queues.HandsOver state.queues
      · intro before after handed kept
        exact kept.trans handed
      · intro _
        exact .refl _
    · intro slot
      exact Descriptor.HandsOver.changesOnce
        ((List.isChain_map _).2 (chain.imp fun _ _ handed => handed.rx slot))
    · intro slot
      exact Descriptor.HandsOver.changesOnce
        ((List.isChain_map _).2 (chain.imp fun _ _ handed => handed.tx slot))

/-- A frame came in for an interface in service; the caller takes it. -/
theorem hands_over_once_of_two :
    let start : Machine (Interface 2 2) :=
      ⟨{ registers := .blank .reactive },
        Interface.blank {} (Queues.blank ⟨0, 0, 0⟩ (Nat.le_refl 2) (Nat.le_refl 2))⟩
    let machine := (system 2 2).after start
      [.device (.rxStatus 0 0x400300), .call .idle (.bringUp 0 0), .call .idle .start]
    let call : Call := .receive (List.replicate 64 0)
    machine.state.queues.rx.owners = [.software, .hardware] ∧
      ¬ PassesReset .idle machine call ∧
      ∃ reply after, call.program.run .idle machine = (.ok reply, after) ∧
        machine.state.queues.HandsOver after.state.queues := by
  intro start machine call
  have receives : ¬ PassesReset .idle machine call := by
    rintro ⟨same : Call.receive _ = .bringUp 0 0, -⟩
    contradiction
  obtain ⟨reply, after, ran, last, -, -, discipline⟩ :=
    hands_over_once ⟨0, 0, 0⟩ (Nat.le_refl 2) (Nat.le_refl 2) {}
      { registers := .blank .reactive }
      [.device (.rxStatus 0 0x400300), .call .idle (.bringUp 0 0), .call .idle .start] call .idle
  exact ⟨by decide +kernel, receives, reply, after, ran, (discipline receives).1 _ last⟩

end EthernetMac.Interface
