import EthernetMac.Proofs.Interface.Lifecycle
import EthernetMac.Proofs.Program.Waiting

/-!
What decides whether an interface comes up. Only the looks at the reset bit count, whatever
the bus does afterwards; and where all of them find it set nothing has changed but two
registers.
-/

namespace EthernetMac

namespace Interface

variable {rx tx : Nat} {hardware : Hardware} {machine : Machine (Interface rx tx)}

theorem writes_bringUp_of_unstarted (unstarted : machine.state.lifecycle ≠ .started) :
    (bringUp 0 0).writes hardware machine = [] := by
  unfold bringUp
  rw [if_neg (by simp), Program.writes_bind, Program.run_get]
  cases state : machine.state.lifecycle with
  | started => contradiction
  | initialized | stopped =>
    simp only [state]
    rfl

theorem writes_bringUp_of_started (started : machine.state.lifecycle = .started) :
    (bringUp 0 0).writes hardware machine = bringUpDevice.writes hardware machine := by
  unfold bringUp
  rw [if_neg (by simp), Program.writes_bind, Program.run_get]
  simp only [started]
  rfl

/-- A failed reset is all that a failed call wrote. -/
theorem writes_bringUp_of_stays (started : machine.state.lifecycle = .started)
    (stays : ¬ machine.bus.LeavesReset hardware machine.state.config.timing) :
    ((bringUp 0 0).writes hardware machine).map Write.entry =
      [(Register.busMode.offset, Control.softReset.mask),
        (Register.generalPurpose.offset,
          machine.bus.registers.read Register.generalPurpose.offset |||
            Control.generalOutput.mask)] := by
  rw [writes_bringUp_of_started started]
  unfold bringUpDevice
  rw [Program.writes_bind, Program.run_get]
  dsimp only
  rw [Program.writes_bind, Program.run_softReset_of_stays stays]
  simpa using Program.writes_softReset

/-- Between the reset and the rest nothing is written. -/
theorem writes_bringUp_of_leaves (started : machine.state.lifecycle = .started)
    (leaves : machine.bus.LeavesReset hardware machine.state.config.timing) :
    ∃ waited, (bringUp 0 0).writes hardware machine =
      (Program.softReset machine.state.config.timing).writes hardware machine ++
        serve.writes hardware ⟨waited, machine.state⟩ := by
  obtain ⟨looks, -, -, reset⟩ := Program.run_softReset_of_leaves leaves
  let left := machine.bus.pollReset hardware machine.state.config.timing looks
  obtain ⟨idle, waited, _, -, wait, -, -⟩ := Program.run_awaitBusIdle hardware
    machine.state.config.timing ⟨left, machine.state⟩ machine.state.config.busTimeoutMs
  refine ⟨waited, ?_⟩
  rw [writes_bringUp_of_started started]
  unfold bringUpDevice
  rw [Program.writes_bind, Program.run_get]
  dsimp only
  rw [Program.writes_bind, reset]
  dsimp only
  rw [Program.writes_bind, wait, Program.writes_awaitBusIdle]
  rfl

/-- On any hardware, a started interface comes up if and only if a look at the reset bit finds
it clear, and within the two timeouts. If it does not come up, the failed reset has written
two registers and nothing else has happened to the interface. -/
theorem bringUp_decided_by_reset (hardware : Hardware) (machine : Machine (Interface rx tx))
    (started : machine.state.lifecycle = .started) :
    let config := machine.state.config
    let reset := (Program.softReset config.timing).run hardware machine
    ∃ result after, (bringUp 0 0).run hardware machine = (.ok result, after) ∧
      (result = .ok () ∨ result = .error .deviceError) ∧
      (result = .ok () ↔ machine.bus.LeavesReset hardware config.timing) ∧
      (result = .ok () ↔
        ∃ value, .read Register.busMode.offset value ∈ reset.2.bus.since machine.bus ∧
          Control.softReset.isSetIn value = false) ∧
      after.bus.pausedMicroseconds ≤ machine.bus.pausedMicroseconds +
        1000 * (config.resetTimeoutMs.toNat + config.busTimeoutMs.toNat) ∧
      (result = .error .deviceError →
        after.state = machine.state ∧
        ((bringUp 0 0).writes hardware machine).map Write.entry =
          [(Register.busMode.offset, Control.softReset.mask),
            (Register.generalPurpose.offset,
              machine.bus.registers.read Register.generalPurpose.offset |||
                Control.generalOutput.mask)]) := by
  intro config reset
  rw [run_bringUp_of_started started, ← Program.leavesReset_iff_read]
  by_cases leaves : machine.bus.LeavesReset hardware config.timing
  · obtain ⟨bus, looks, looks_le, waits, waits_le, ran, -, took⟩ :=
      run_bringUpDevice_of_leaves leaves
    have reset_le : looks * config.pollUs.toNat ≤ 1000 * config.resetTimeoutMs.toNat :=
      config.timing.mul_pollUs_le looks_le
    have bus_le : waits * config.pollUs.toNat ≤ 1000 * config.busTimeoutMs.toNat :=
      config.timing.mul_pollUs_le waits_le
    refine ⟨.ok (), _, ran, .inl rfl, by simp [leaves], by simp [leaves], ?_, by simp⟩
    calc bus.pausedMicroseconds
        = machine.bus.pausedMicroseconds + (looks + waits) * config.pollUs.toNat := took
      _ ≤ _ := by rw [Nat.add_mul]; omega
  · have reset_le : config.timing.budget config.resetTimeoutMs * config.pollUs.toNat ≤
        1000 * config.resetTimeoutMs.toNat := config.timing.mul_pollUs_le (Nat.le_refl _)
    refine ⟨.error .deviceError, _, run_bringUpDevice_of_stays leaves, .inr rfl, by simp [leaves],
      by simp [leaves], ?_, fun _ => ⟨rfl, writes_bringUp_of_stays started leaves⟩⟩
    calc _ = machine.bus.pausedMicroseconds +
          config.timing.budget config.resetTimeoutMs * config.pollUs.toNat := by
            rw [Bus.pausedMicroseconds_note, Bus.pausedMicroseconds_pollReset]
            rfl
      _ ≤ _ := by omega

/-- A device that is slow to leave its reset: with no help the call fails after two pauses, and
it succeeds if the bit falls in the second of them. -/
theorem bringUp_decided_by_reset_of_slow :
    let machine : Machine (Interface 2 2) := (system 2 2).after
      ⟨{ registers := (RegisterFile.blank .reactive).setStuck true },
        Interface.blank { resetTimeoutMs := 2, busTimeoutMs := 1 }
          (Queues.blank ⟨0x1000, 0x2000, 0x4000⟩ (Nat.le_refl 2) (Nat.le_refl 2))⟩
      [.call .idle .start]
    let late : Hardware := fun pause file =>
      if pause = 2 then file.store Register.busMode.offset 0 else file
    (∃ failed, (bringUp 0 0).run .idle machine = (.ok (.error .deviceError), failed) ∧
      failed.state = machine.state) ∧
    ∃ served, (bringUp 0 0).run late machine = (.ok (.ok ()), served) ∧
      served.bus.pausedMicroseconds ≤ 3000 := by
  intro machine late
  have started : machine.state.lifecycle = .started := by decide +kernel
  constructor
  · have stays : ¬ machine.bus.LeavesReset .idle machine.state.config.timing := by decide +kernel
    obtain ⟨result, failed, ran, outcomes, leaves, -, -, unchanged⟩ :=
      bringUp_decided_by_reset .idle machine started
    obtain rfl : result = .error .deviceError := outcomes.resolve_left (mt leaves.1 stays)
    exact ⟨failed, ran, (unchanged rfl).1⟩
  · obtain ⟨result, served, ran, -, leaves, -, took, -⟩ :=
      bringUp_decided_by_reset late machine started
    obtain rfl : result = .ok () := leaves.2 (by decide +kernel)
    exact ⟨served, ran, took.trans (by decide +kernel)⟩

end Interface

end EthernetMac
