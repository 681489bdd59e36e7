import EthernetMac.Proofs.Interface.Outcome

/-!
No call faults, whatever the device writes into descriptors and registers. What the
driver indexes with is its own, and stays in range through every state that a call
sets; lengths come from the device, and are looked at before they are used. Bringing up
finds a buffer for every descriptor that it arms, and reading a header stays inside it.
-/

namespace EthernetMac

namespace Queues

variable {rx tx : Nat} {before after : Queues rx tx}

/-- Every index lies in its ring, and no more frames wait for a report than the ring has
slots. -/
structure InRange (queues : Queues rx tx) : Prop where
  rx_index_lt : queues.rx.ring.index < rx
  tx_index_lt : queues.tx.ring.index < tx
  release_lt : queues.tx.release < tx
  pending_le : queues.tx.pending ≤ tx

theorem inRange_blank (placement : Placement) (two_le_rx : 2 ≤ rx) (two_le_tx : 2 ≤ tx) :
    (Queues.blank placement two_le_rx two_le_tx).InRange where
  rx_index_lt := (Queues.blank placement two_le_rx two_le_tx).rx.ring.pos
  tx_index_lt := (Queues.blank placement two_le_rx two_le_tx).tx.pos
  release_lt := (Queues.blank placement two_le_rx two_le_tx).tx.pos
  pending_le := Nat.zero_le tx

theorem InRange.rebuild (queues : Queues rx tx) : queues.rebuild.InRange where
  rx_index_lt := queues.rx.ring.pos
  tx_index_lt := queues.tx.pos
  release_lt := queues.tx.pos
  pending_le := Nat.zero_le tx

theorem InRange.touch (range : before.InRange) (touch : Touch before after) : after.InRange := by
  cases touch with
  | recycle closed => exact { range with rx_index_lt := SlotRing.index_advance_lt _ }
  | publish room address length =>
    exact { range with
      tx_index_lt := SlotRing.index_advance_lt _
      pending_le := Nat.lt_of_le_of_ne range.pending_le room.1 }
  | retire due =>
    exact { range with
      release_lt := Nat.mod_lt _ before.tx.pos
      pending_le := Nat.le_trans (Nat.sub_le _ _) range.pending_le }

theorem invariant_inRange : Invariant (InRange : Queues rx tx → Prop) where
  inside _ range := range.rx_index_lt
  touch _ _ touch range := range.touch touch
  rebuild queues _ := .rebuild queues
  device action _ range := by cases action <;> exact { range with }

/-- How the number of waiting frames may change in one go, where `n` is the most there can
be: it is counted up only below that, and down only from above zero. -/
inductive Counts (n : Nat) : Nat → Nat → Prop
  | stay (count : Nat) : Counts n count count
  | up {count : Nat} (room : count < n) : Counts n count (count + 1)
  | down {count : Nat} (waiting : 0 < count) : Counts n count (count - 1)
  | reset (count : Nat) : Counts n count 0

theorem Touch.counts (touch : Touch before after) (range : before.InRange) :
    Counts tx before.tx.pending after.tx.pending := by
  cases touch with
  | recycle closed => exact .stay _
  | publish room address length => exact .up (Nat.lt_of_le_of_ne range.pending_le room.1)
  | retire due => exact .down (Nat.pos_of_ne_zero due.1)

end Queues

namespace Interface

variable {rx tx : Nat}

/-- What a call may have done to the caller's memory: a frame that was received lies at the
start of the buffer, no longer than it or than a receive buffer, and is read for a header if
it has room for one; a frame that is sent gets a header at most. -/
def Call.Within : Call → Reply → Prop
  | receive buffer, .received result filled =>
    filled.length = buffer.length ∧
      match result with
      | .ok frame => frame.length ≤ min receiveBufferSize buffer.length ∧
          filled.drop frame.length = buffer.drop frame.length ∧
          (frame.header.isSome ↔ EthernetHeader.size ≤ frame.length)
      | .error _ => filled = buffer
  | transmit frame _, .sent _ sent => frame.Headed sent
  | nonVolatile _ _ buffer, .stored _ stored => stored = buffer
  | receive _, _ | transmit .., _ | nonVolatile .., _ => False
  | _, _ => True

section Calls

variable {interface : Interface rx tx}

theorem within_of_fills {buffer filled : List UInt8} {result : Except Error Nat}
    (fills : RxQueue.Fills buffer (result, filled)) :
    (Call.receive buffer).Within (.received (result.map (frameIn filled)) filled) := by
  refine ⟨fills.length_eq, ?_⟩
  cases fills with
  | failed error => exact rfl
  | delivered frame fits room =>
    refine ⟨Nat.le_min.2 ⟨fits, room⟩, ?_, ?_⟩
    · exact List.drop_left
    · show (EthernetHeader.parse _).isSome ↔ _
      rw [EthernetHeader.isSome_parse, List.take_left]
      rfl

theorem ensures_within (inside : interface.queues.rx.ring.index < rx) (call : Call) :
    call.program.Ensures call.Allows (fun reply _ => call.Within reply) interface := by
  have outcome := (ensures_outcome inside call).imp fun _ _ _ => trivial
  cases call with
  | receive buffer =>
    rw [Call.program, Program.ensures_map]
    apply (ensures_receive inside buffer).imp
    rintro answer after ⟨served, refused⟩
    by_cases initialized : interface.lifecycle = .initialized
    · obtain ⟨rfl, -⟩ := served initialized
      exact within_of_fills (RxQueue.fills_drain buffer rx interface.queues.rx)
    · obtain ⟨⟨error, rfl⟩, -⟩ := refused initialized
      exact within_of_fills (.failed error)
  | transmit frame request =>
    rw [Call.program, Program.ensures_map]
    exact (ensures_transmit frame request).imp fun _ _ sent => sent.1
  | nonVolatile read offset buffer =>
    rw [Call.program, Program.ensures_map]
    exact ensures_gated (fun _ => rfl) fun _ _ => rfl
  | _ => exact outcome

theorem counts_of_allows {call : Call} {before after : Interface rx tx}
    (allowed : call.Allows before after) (range : before.queues.InRange) :
    Queues.Counts tx before.queues.tx.pending after.queues.tx.pending := by
  rcases queues_of_allows allowed with same | touch | rebuilt
  · rw [same]
    exact .stay _
  · exact touch.counts range
  · rw [rebuilt]
    exact .reset _

end Calls

/-- In every state that a user of an interface can reach, whatever the device did to the
descriptors, the receive buffers and the registers, every call ends with a reply: no access
is out of range, no divisor is zero, and no counter leaves its bounds. Nor does looking for a
header fault, whatever the bytes. -/
theorem never_faults (placement : Placement) (two_le_rx : 2 ≤ rx) (two_le_tx : 2 ≤ tx)
    (config : Config) (bus : Bus) (steps : List (Step Call)) (call : Call)
    (hardware : Hardware) :
    let start : Machine (Interface rx tx) :=
      ⟨bus, Interface.blank config (Queues.blank placement two_le_rx two_le_tx)⟩
    let machine := (system rx tx).after start steps
    let states := machine.state :: call.program.saves hardware machine
    (∃ reply after, call.program.run hardware machine = (.ok reply, after) ∧
      after.state ∈ states ∧ call.Within reply) ∧
      (∀ state ∈ states, state.queues.InRange) ∧
      (states.IsChain fun before after =>
        Queues.Counts tx before.queues.tx.pending after.queues.tx.pending) ∧
      ∀ bytes, ∃ header, (parseHeader bytes).run hardware machine = (.ok header, machine) ∧
        (header.isSome ↔ 14 ≤ bytes.length) := by
  intro start machine states
  have range : machine.state.queues.InRange :=
    holds_of_steps Queues.invariant_inRange
      (Queues.inRange_blank placement two_le_rx two_le_tx) steps
  have ranges : ∀ state ∈ states, state.queues.InRange :=
    holds_of_saves Queues.invariant_inRange range hardware call
  refine ⟨?_, ranges, ?_, ?_⟩
  · obtain ⟨reply, after, ran, within, -⟩ :=
      Program.ensures_run (ensures_within range.rx_index_lt call) hardware
    have last := Program.state_mem_saves hardware call.program machine
    rw [ran] at last
    exact ⟨reply, after, ran, last, within⟩
  · obtain ⟨_, _, _, _, chain⟩ :=
      Program.ensures_run (ensures_outcome range.rx_index_lt call) hardware
    apply chain.imp_of_mem_imp
    intro before after member _ allowed
    exact counts_of_allows allowed (ranges before member)
  · intro bytes
    rw [parseHeader_eq]
    exact ⟨_, rfl, EthernetHeader.isSome_parse bytes⟩

/-- A descriptor speaks of more bytes than a buffer has, another was taken by the device on
its own, and every register reads as ones. -/
theorem never_faults_of_two :
    let start : Machine (Interface 2 2) :=
      ⟨{ registers := .blank .reactive }, Interface.blank { pollUs := 0, resetTimeoutMs := 0 }
        (Queues.blank ⟨0, 0, 0⟩ (Nat.le_refl 2) (Nat.le_refl 2))⟩
    let steps : List (Step Call) :=
      [.device (.registers fun file => { file with cells := fun _ => 0xFFFFFFFF }),
        .device (.txStatus 1 0xFFFFFFFF), .device (.rxStatus 0 0x3FFF0300),
        .call .idle (.bringUp 0 0), .call .idle .start]
    let machine := (system 2 2).after start steps
    let call : Call := .receive (List.replicate 64 0)
    machine.state.queues.rx.ring.current.frameLength = 16383 ∧
      machine.state.queues.tx.owners = [.software, .hardware] ∧
      ∃ reply after, call.program.run .idle machine = (.ok reply, after) ∧
        call.Within reply := by
  intro start steps machine call
  obtain ⟨⟨reply, after, ran, -, within⟩, -⟩ :=
    never_faults ⟨0, 0, 0⟩ (Nat.le_refl 2) (Nat.le_refl 2)
      { pollUs := 0, resetTimeoutMs := 0 } { registers := .blank .reactive } steps call .idle
  exact ⟨by decide +kernel, by decide +kernel, reply, after, ran, within⟩

end Interface

end EthernetMac
