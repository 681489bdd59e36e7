import EthernetMac.Proofs.Interface.Sending
import EthernetMac.Proofs.Transmit.Completion

/-!
What an interface tells of a frame that it could not queue: that the slot to publish into is still
the device's. It is, unless every slot holds a frame that waits for its report and the device is
done with the oldest; then the slot is the driver's, and the message is wrong.
-/

namespace EthernetMac

namespace TxQueue

variable {n : Nat}

instance (queue : TxQueue n) : Decidable queue.HasRoom := inferInstanceAs (Decidable (_ ∧ _))

/-- What is told of a frame that found no room. -/
def rejections (queue : TxQueue n) : List Notice :=
  (if queue.pending = n then [.txRingFull n] else []) ++ [.slotOwned queue.ring.index]

@[simp] theorem mem_rejections_slotOwned {queue : TxQueue n} {slot : Nat} :
    Notice.slotOwned slot ∈ queue.rejections ↔ slot = queue.ring.index := by
  by_cases full : queue.pending = n <;> simp [rejections, full]

@[simp] theorem mem_rejections_txRingFull {queue : TxQueue n} {pending : Nat} :
    Notice.txRingFull pending ∈ queue.rejections ↔ pending = n ∧ queue.pending = n := by
  by_cases full : queue.pending = n <;> simp [rejections, full]

/-- In a queue that is full of frames the next slot to publish into holds the oldest. -/
theorem Accounts.index_eq_release {events : List TxEvent} {queue : TxQueue n}
    (account : Accounts events queue) (full : queue.pending = n) :
    queue.ring.index = queue.release := by
  rw [account.index_eq, account.release_eq, account.length_publications, full, Nat.add_mod_right]

/-- Where there is no room, the slot is the device's, unless all that is missing is a report. -/
theorem Accounts.owner_index_iff {events : List TxEvent} {queue : TxQueue n}
    (account : Accounts events queue) (crowded : ¬ queue.HasRoom) :
    queue.owner queue.ring.index = .hardware ↔ ¬ (queue.pending = n ∧ queue.HasReport) := by
  have positive := queue.pos
  by_cases full : queue.pending = n
  · have oldest : queue.oldest.owner = queue.owner queue.ring.index := by
      rw [account.index_eq_release full]
      rfl
    have waiting : n ≠ 0 := by omega
    cases owner : queue.owner queue.ring.index <;> simp [HasReport, full, oldest, owner, waiting]
  · cases owner : queue.owner queue.ring.index with
    | hardware => simp [full]
    | software => exact absurd ⟨full, owner⟩ crowded

end TxQueue

namespace Queues

variable {rx tx : Nat}

theorem events_transmit (address : UInt32) (length : Nat) (hardware : Hardware)
    (machine : Machine (Queues rx tx)) :
    (transmit address length).events hardware machine =
      if machine.state.tx.pending = tx then [.notice (.txRingFull tx)] else [] := by
  unfold transmit
  rw [Program.events_bind, Program.run_get]
  by_cases full : machine.state.tx.pending = tx
  · simp only [full]
    rfl
  · simp only [if_neg full]
    cases machine.state.tx.ring.current.owner <;> rfl

end Queues

namespace Interface

variable {rx tx : Nat}

section Notices

variable (frame : Frame) (hardware : Hardware) (machine : Machine (Interface rx tx))

theorem notices_dispatch_of_room (room : machine.state.queues.tx.HasRoom) :
    ((dispatch frame).events hardware machine).filterMap Event.notice? = [] := by
  have ran := Queues.run_transmit_of_room frame.busAddress frame.bytes.length hardware
    ⟨machine.bus, machine.state.queues⟩ room
  have silent : (onQueues (Queues.transmit frame.busAddress frame.bytes.length)).events hardware
      machine = [] := by
    unfold onQueues
    rw [Program.events_within fun _ _ => rfl, Queues.events_transmit, if_neg room.1]
  unfold dispatch
  rw [Program.events_bind, silent, run_onQueues, ran]
  rfl

theorem notices_dispatch_of_full (full : ¬ machine.state.queues.tx.HasRoom) :
    ((dispatch frame).events hardware machine).filterMap Event.notice? =
      machine.state.queues.tx.rejections := by
  obtain ⟨bus, ran, -⟩ := Queues.run_transmit_of_full frame.busAddress frame.bytes.length
    hardware ⟨machine.bus, machine.state.queues⟩ full
  unfold dispatch
  rw [Program.events_bind, run_onQueues, ran, List.filterMap_append]
  congr 1
  unfold onQueues
  rw [Program.events_within fun _ _ => rfl, Queues.events_transmit]
  split <;> rfl

/-- All that is told of a frame that passes the checks. -/
theorem notices_transmit {request : Option HeaderRequest}
    (initialized : machine.state.lifecycle = .initialized)
    (up : linked machine.bus.registers = true) (fit : frame.Acceptable request) :
    ((transmit frame request).events hardware machine).filterMap Event.notice? =
      (if machine.state.mediaPresent then [] else [.link true]) ++
        (if machine.state.queues.tx.HasRoom then [] else machine.state.queues.tx.rejections) := by
  obtain ⟨bus, -, -, events, -⟩ :=
    transmit_of_acceptable initialized frame request hardware up fit
  rw [events, events_sampleLink, up, List.filterMap_append]
  congr 1
  · cases machine.state.mediaPresent <;> rfl
  · split
    next room => exact notices_dispatch_of_room _ hardware _ room
    next full => exact notices_dispatch_of_full _ hardware _ full

end Notices

/-- A run from a new interface comes to that state. -/
def Reached (machine : Machine (Interface rx tx)) : Prop :=
  ∃ config placement two_le_rx two_le_tx bus steps,
    (system rx tx).after
      ⟨bus, Interface.blank config (Queues.blank placement two_le_rx two_le_tx)⟩ steps = machine

theorem Reached.accounts {machine : Machine (Interface rx tx)} (reached : Reached machine) :
    ∃ events, TxQueue.Accounts events machine.state.queues.tx := by
  obtain ⟨config, placement, two_le_rx, two_le_tx, bus, steps, rfl⟩ := reached
  have fresh : Queues.Accounted [] (Queues.blank placement two_le_rx two_le_tx) :=
    Queues.accounted_blank placement two_le_rx two_le_tx
  exact ⟨_, (Interface.run_accounted fresh steps).account⟩

/-- In every state that a run comes to, beside any device, a frame that passes the checks is queued
or finds no room, and then, and only then, it is said that the slot to publish into is the
device's. That is true unless the ring is full of frames and the oldest is ready to be reported. -/
theorem rejection_names_owner {machine : Machine (Interface rx tx)} (reached : Reached machine)
    (initialized : machine.state.lifecycle = .initialized)
    (up : linked machine.bus.registers = true) {frame : Frame} {request : Option HeaderRequest}
    (fit : frame.Acceptable request) (hardware : Hardware) :
    let queue := machine.state.queues.tx
    ∃ result sent after, (transmit frame request).run hardware machine =
        (.ok (result, sent), after) ∧
      let notices := (after.bus.since machine.bus).filterMap Event.notice?
      (result = .ok () ∨ result = .error .notReady) ∧
      (∀ slot, .slotOwned slot ∈ notices ↔
        slot = queue.ring.index ∧ result = .error .notReady) ∧
      (result = .error .notReady →
        after.state.queues = machine.state.queues ∧
        (.txRingFull tx ∈ notices ↔ queue.pending = tx) ∧
        (queue.owner queue.ring.index = .hardware ↔
          ¬ (queue.pending = tx ∧ queue.HasReport))) := by
  intro queue
  obtain ⟨events, account⟩ := reached.accounts
  have ending := notices_transmit frame hardware machine initialized up fit
  obtain ⟨after_queue, after_bus, ran, -, unchanged, -⟩ :=
    transmit_of_passes initialized frame request hardware account.pending_le up fit
  have told : (after_bus.since machine.bus).filterMap Event.notice? =
      (if machine.state.mediaPresent then [] else [.link true]) ++
        (if queue.HasRoom then [] else queue.rejections) := by
    rw [← ending, ← Program.since_run, ran]
  have other (slot : Nat) : Notice.slotOwned slot ∉
      (if machine.state.mediaPresent then [] else [.link true] : List Notice) := by
    split <;> simp
  refine ⟨_, _, _, ran, ?_⟩
  dsimp only
  rw [told]
  by_cases room : queue.HasRoom
  · have decided : machine.state.decision true frame request = .ok () :=
      decision_eq_ok_iff.2 ⟨⟨rfl, fit⟩, (TxQueue.hasRoom_iff account.pending_le).1 room⟩
    rw [decided, if_pos room]
    simp [other]
  · have decided : machine.state.decision true frame request = .error .notReady :=
      decision_of_full fit (mt (TxQueue.hasRoom_iff account.pending_le).2 room)
    rw [decided, if_neg room]
    refine ⟨.inr rfl, by simp [other], fun _ => ⟨?_, ?_, account.owner_index_iff room⟩⟩
    · rw [unchanged (by simp [decided])]
    · split <;> simp [queue]

/-- A ring of two holds two frames that the device has yet to send, and a third is turned away. -/
theorem rejection_names_owner_of_two :
    let queues : Queues 2 2 :=
      Queues.blank ⟨0x1000, 0x2000, 0x4000⟩ (Nat.le_refl 2) (Nat.le_refl 2)
    let start : Machine (Interface 2 2) :=
      ⟨{ registers := .blank .reactive }, Interface.blank {} queues⟩
    let frame : Frame := ⟨0x8000, List.replicate 60 0⟩
    let send : Step Call := .call .idle (.transmit frame none)
    let steps : List (Step Call) :=
      [send, send, .device (.registers fun file => file.setLink true),
        .call .idle (.bringUp 0 0), .call .idle .start]
    let machine := (system 2 2).after start steps
    let ends := (transmit frame none).run .idle machine
    machine.state.lifecycle = .initialized ∧ linked machine.bus.registers = true ∧
      frame.Acceptable none ∧ ends.1 = .ok (.error .notReady, frame) ∧
      .slotOwned 0 ∈ (ends.2.bus.since machine.bus).filterMap Event.notice? ∧
      machine.state.queues.tx.pending = 2 ∧ ¬ machine.state.queues.tx.HasReport := by
  intro queues start frame send steps machine ends
  have reached : Reached machine :=
    ⟨{}, ⟨0x1000, 0x2000, 0x4000⟩, Nat.le_refl 2, Nat.le_refl 2, _, steps, rfl⟩
  have initialized : machine.state.lifecycle = .initialized := by decide +kernel
  have up : linked machine.bus.registers = true := by decide +kernel
  have fit : frame.Acceptable none := by decide
  have answer : ends.1 = .ok (.error .notReady, frame) := by decide +kernel
  have index : machine.state.queues.tx.ring.index = 0 := by decide +kernel
  have full : machine.state.queues.tx.pending = 2 := by decide +kernel
  have owner : machine.state.queues.tx.owner machine.state.queues.tx.ring.index = .hardware := by
    decide +kernel
  obtain ⟨result, sent, after, ran, -, told, refused⟩ :=
    rejection_names_owner reached initialized up fit .idle
  have ends_eq : ends = (.ok (result, sent), after) := ran
  rw [ends_eq] at answer
  obtain ⟨rfl, rfl⟩ : result = .error .notReady ∧ sent = frame := by simpa using answer
  refine ⟨initialized, up, fit, by rw [ends_eq], ?_, full, fun ready => ?_⟩
  · rw [ends_eq]
    exact (told 0).2 ⟨index.symm, rfl⟩
  · exact (refused rfl).2.2.1 owner ⟨full, ready⟩

/-- Of a ring of two whose frames the device has sent, unreported as they are, it is said that the
device still owns the first slot. -/
theorem rejection_blames_device :
    let queues : Queues 2 2 :=
      Queues.blank ⟨0x1000, 0x2000, 0x4000⟩ (Nat.le_refl 2) (Nat.le_refl 2)
    let start : Machine (Interface 2 2) :=
      ⟨{ registers := .blank .reactive }, Interface.blank {} queues⟩
    let frame : Frame := ⟨0x8000, List.replicate 60 0⟩
    let send : Step Call := .call .idle (.transmit frame none)
    let steps : List (Step Call) :=
      [.device (.txStatus 1 0), .device (.txStatus 0 0), send, send,
        .device (.registers fun file => file.setLink true), .call .idle (.bringUp 0 0),
        .call .idle .start]
    let machine := (system 2 2).after start steps
    let queue := machine.state.queues.tx
    let ends := (transmit frame none).run .idle machine
    machine.state.lifecycle = .initialized ∧ linked machine.bus.registers = true ∧
      frame.Acceptable none ∧ ends.1 = .ok (.error .notReady, frame) ∧
      (ends.2.bus.since machine.bus).filterMap Event.notice? = [.txRingFull 2, .slotOwned 0] ∧
      queue.ring.index = 0 ∧ queue.owner 0 = .software ∧
      ends.2.state.queues.tx.owner 0 = .software := by
  decide +kernel

end Interface

end EthernetMac
