import EthernetMac.Proofs.Transmit.Completion

/-!
The capacity of the transmit queue. As long as the device takes no slot on its
own, every slot that it owns is one of a frame that waits for its report. So a
frame is accepted exactly if fewer frames wait than the ring has slots.
-/

namespace EthernetMac

namespace TxQueue

variable {n : Nat} {queue : TxQueue n}

/-- The slot of a frame that waits for its report. -/
def Waits (queue : TxQueue n) (slot : Nat) : Prop :=
  ∃ offset < queue.pending, slot % n = (queue.release + offset) % n

/-- The counters agree, and the device owns no slot outside their window. -/
structure Balanced (queue : TxQueue n) : Prop where
  release_lt : queue.release < n
  pending_le : queue.pending ≤ n
  index_eq : queue.ring.index = (queue.release + queue.pending) % n
  owned : ∀ slot, queue.owner slot = .hardware → queue.Waits slot

theorem Balanced.index_lt (balanced : queue.Balanced) : queue.ring.index < n := by
  rw [balanced.index_eq]
  exact Nat.mod_lt _ queue.pos

theorem Balanced.owner_current (balanced : queue.Balanced) (room : queue.pending < n) :
    queue.ring.current.owner = .software := by
  cases owner : queue.ring.current.owner with
  | software => rfl
  | hardware =>
    obtain ⟨offset, inside, same⟩ := balanced.owned queue.ring.index owner
    rw [balanced.index_eq, Nat.mod_mod] at same
    have := Ring.window_inj room (Nat.lt_trans inside room) same
    omega

theorem Balanced.hasRoom_iff (balanced : queue.Balanced) :
    queue.HasRoom ↔ queue.pending < n := by
  constructor
  · intro room
    exact Nat.lt_of_le_of_ne balanced.pending_le room.1
  · intro room
    exact ⟨Nat.ne_of_lt room, balanced.owner_current room⟩

theorem Balanced.publish (balanced : queue.Balanced) (room : queue.HasRoom) (address : UInt32)
    (length : Nat) : (queue.publish address length).Balanced where
  release_lt := balanced.release_lt
  pending_le := balanced.hasRoom_iff.1 room
  index_eq := by
    show (queue.ring.index + 1) % n = _
    rw [balanced.index_eq, Nat.mod_add_mod]
    rfl
  owned := by
    intro slot hardware
    rw [owner_publish] at hardware
    split at hardware
    next here =>
      refine ⟨queue.pending, Nat.lt_succ_self _, ?_⟩
      rw [here, balanced.index_eq, Nat.mod_mod]
      rfl
    next =>
      obtain ⟨offset, inside, same⟩ := balanced.owned slot hardware
      exact ⟨offset, Nat.lt_succ_of_lt inside, same⟩

theorem Balanced.retire (balanced : queue.Balanced) (due : queue.HasReport) :
    queue.retire.Balanced where
  release_lt := Nat.mod_lt _ queue.pos
  pending_le := by
    have := balanced.pending_le
    show queue.pending - 1 ≤ n
    omega
  index_eq := by
    have waiting := due.1
    have sum : queue.release + 1 + (queue.pending - 1) = queue.release + queue.pending := by omega
    show queue.ring.index = ((queue.release + 1) % n + (queue.pending - 1)) % n
    rw [Nat.mod_add_mod, sum, balanced.index_eq]
  owned := by
    intro slot (hardware : queue.owner slot = .hardware)
    obtain ⟨offset, inside, same⟩ := balanced.owned slot hardware
    cases offset with
    | zero =>
      -- the slot that is reported is not the device's
      have oldest : queue.ring.get slot = queue.oldest := queue.ring.get_congr same
      rw [owner, oldest, due.2] at hardware
      contradiction
    | succ offset =>
      refine ⟨offset, Nat.lt_sub_of_add_lt inside, ?_⟩
      show slot % n = ((queue.release + 1) % n + offset) % n
      rw [same, Nat.mod_add_mod]
      congr 1
      omega

theorem balanced_rebuild : queue.rebuild.Balanced where
  release_lt := queue.pos
  pending_le := Nat.zero_le n
  index_eq := (Nat.zero_mod n).symm
  owned := by
    intro slot hardware
    rw [owner_rebuild] at hardware
    contradiction

theorem Balanced.move (balanced : queue.Balanced) {event : Option TxEvent} {after : TxQueue n}
    (move : Move event queue after) : after.Balanced := by
  cases move with
  | stay => exact balanced
  | rebuild => exact balanced_rebuild
  | publish room address length => exact balanced.publish room address length
  | retire due => exact balanced.retire due

theorem Balanced.writeStatus (balanced : queue.Balanced) {slot : Nat} {status : UInt32}
    (keeps : Owner.ofStatus status Descriptor.own = .hardware → queue.owner slot = .hardware) :
    (queue.writeStatus slot status).Balanced where
  release_lt := balanced.release_lt
  pending_le := balanced.pending_le
  index_eq := balanced.index_eq
  owned := by
    intro other hardware
    rw [owner_writeStatus] at hardware
    split at hardware
    next here =>
      obtain ⟨offset, inside, same⟩ := balanced.owned slot (keeps hardware)
      exact ⟨offset, inside, here.trans same⟩
    next => exact balanced.owned other hardware

end TxQueue

namespace Queues

variable {rx tx : Nat}

/-- The device sets the ownership bit of no transmit slot. -/
def TakesNoSlot (step : Step Call) (machine : Machine (Queues rx tx)) : Prop :=
  match step with
  | .device (.txStatus slot status) =>
    Owner.ofStatus status Descriptor.own = .hardware → machine.state.tx.owner slot = .hardware
  | _ => True

theorem balanced_blank (placement : Placement) (two_le_rx : 2 ≤ rx) (two_le_tx : 2 ≤ tx) :
    (Queues.blank placement two_le_rx two_le_tx).tx.Balanced where
  release_lt := by
    show 0 < tx
    omega
  pending_le := Nat.zero_le tx
  index_eq := (Nat.zero_mod tx).symm
  owned := by
    intro slot hardware
    have software : (Queues.blank placement two_le_rx two_le_tx).tx.owner slot = .software := by
      unfold TxQueue.owner
      rw [SlotRing.get_of_replicate rfl]
      rfl
    rw [software] at hardware
    contradiction

theorem step_balanced {machine : Machine (Queues rx tx)}
    (inside : machine.state.rx.ring.index < rx) (balanced : machine.state.tx.Balanced)
    {step : Step Call} (keeps : TakesNoSlot step machine) :
    ((system rx tx).step step machine).2.state.rx.ring.index < rx ∧
      ((system rx tx).step step machine).2.state.tx.Balanced := by
  cases step with
  | device action =>
    cases action with
    | txStatus slot status => exact ⟨inside, balanced.writeStatus keeps⟩
    | rxStatus | rxBuffer | registers => exact ⟨inside, balanced⟩
  | call hardware call =>
    obtain ⟨reply, after, stepped, next, move⟩ :=
      driver_call DeviceAction.onQueues (ensures_move inside call) hardware
    unfold system
    rw [stepped]
    exact ⟨next, balanced.move move⟩

theorem run_balanced {start : Machine (Queues rx tx)} (inside : start.state.rx.ring.index < rx)
    (balanced : start.state.tx.Balanced) (steps : List (Step Call))
    (follows : (system rx tx).Follows start TakesNoSlot steps) :
    ((system rx tx).after start steps).state.tx.Balanced := by
  have run := System.holds_of_follows
    (fun (_ : List (Moment rx tx)) (machine : Machine (Queues rx tx)) =>
      machine.state.rx.ring.index < rx ∧ machine.state.tx.Balanced)
    ⟨inside, balanced⟩
    (fun _ _ _ keeps holds => step_balanced holds.1 holds.2 keeps) steps follows
  exact run.2

open TxEvent (publications reports)

/-- Beside a device that sets no ownership bit of a transmit slot, the counters of the
transmit queue agree in every reachable state and the device owns only slots of frames
that wait for their report. So a frame is accepted exactly if there is room for it: the
slot that it would take is never the device's. Counted without wrapping, reports never
pass publications, nor do these go more than a round ahead. -/
theorem transmit_capacity (placement : Placement) (two_le_rx : 2 ≤ rx) (two_le_tx : 2 ≤ tx)
    (bus : Bus) (steps : List (Step Call))
    (follows : (system rx tx).Follows ⟨bus, Queues.blank placement two_le_rx two_le_tx⟩
      TakesNoSlot steps) :
    let start : Machine (Queues rx tx) := ⟨bus, Queues.blank placement two_le_rx two_le_tx⟩
    let machine := (system rx tx).after start steps
    let events := txHistory txEvent ((system rx tx).history start steps)
    let queue := machine.state.tx
    queue.Balanced ∧ queue.ring.index < tx ∧
      (queue.pending < tx → queue.ring.current.owner = .software) ∧
      (∀ hardware address length, ∃ after, (transmit address length).run hardware machine =
        (.ok (if queue.pending < tx then .ok () else .error .notReady), after)) ∧
      queue.release = (reports events).length % tx ∧
      queue.ring.index = (publications events).length % tx ∧
      (publications events).length = (reports events).length + queue.pending ∧
      (publications events).length ≤ (reports events).length + tx := by
  intro start machine events queue
  have fresh : Accounted [] start.state := accounted_blank placement two_le_rx two_le_tx
  have balanced : queue.Balanced :=
    run_balanced fresh.inside (balanced_blank placement two_le_rx two_le_tx) steps follows
  have account : TxQueue.Accounts events queue := (run_accounted fresh steps).account
  refine ⟨balanced, balanced.index_lt, balanced.owner_current, ?_, account.release_eq,
    account.index_eq, account.length_publications, ?_⟩
  · intro hardware address length
    obtain ⟨result, after, ran, outcome, -⟩ :=
      Program.ensures_run (ensures_transmit machine.state address length) hardware
    refine ⟨after, ?_⟩
    rcases outcome with ⟨room, rfl, -⟩ | ⟨full, rfl, -⟩
    · rw [ran, if_pos (balanced.hasRoom_iff.1 room)]
    · rw [ran, if_neg (mt balanced.hasRoom_iff.2 full)]
  · have := account.length_publications
    have := account.pending_le
    omega

/-- A ring of two is full; the device lets go of its second slot only. -/
theorem transmit_capacity_of_two :
    let start : Machine (Queues 2 2) :=
      ⟨{ registers := .blank .reactive }, Queues.blank ⟨0, 0, 0⟩ (Nat.le_refl 2) (Nat.le_refl 2)⟩
    let steps : List (Step Call) :=
      [.device (.txStatus 1 0), .call .idle (.transmit 0x2000 60),
        .call .idle (.transmit 0x1000 60)]
    let queue := ((system 2 2).after start steps).state.tx
    queue.owners = [.hardware, .software] ∧ queue.pending = 2 ∧ queue.Balanced := by
  refine ⟨by decide +kernel, by decide +kernel, ?_⟩
  have clears : Owner.ofStatus 0 Descriptor.own = .software := by decide
  have follows : (system 2 2).Follows
      ⟨{ registers := .blank .reactive }, Queues.blank ⟨0, 0, 0⟩ (Nat.le_refl 2) (Nat.le_refl 2)⟩
      TakesNoSlot [.device (.txStatus 1 0), .call .idle (.transmit 0x2000 60),
        .call .idle (.transmit 0x1000 60)] :=
    ⟨fun sets => absurd (clears.symm.trans sets) (by decide), trivial, trivial, trivial⟩
  exact (transmit_capacity ⟨0, 0, 0⟩ (Nat.le_refl 2) (Nat.le_refl 2) _ _ follows).1

end Queues

end EthernetMac
