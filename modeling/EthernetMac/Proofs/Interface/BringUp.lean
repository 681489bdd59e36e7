import EthernetMac.Proofs.Interface.Calls
import EthernetMac.Proofs.Program.Registers

/-!
Bringing up, as a run. The device is asked to reset; if it does not leave the reset in time
the call ends there. If it does, the bus is given time to fall idle, and what is written
after that is the same whatever the registers held.
-/

namespace EthernetMac

/-- The registers when a soft reset was asked for. -/
def RegisterFile.askedReset (file : RegisterFile) : RegisterFile :=
  (file.write Register.busMode.offset Control.softReset.mask).enable .generalOutput

namespace Bus

variable (bus : Bus) (hardware : Hardware) (timing : Timing) (count : Nat)

@[simp] theorem registers_pollReset : (bus.pollReset hardware timing count).registers =
    hardware.evolve bus.pauses bus.registers.askedReset count := registers_poll ..

@[simp] theorem pauses_pollReset :
    (bus.pollReset hardware timing count).pauses = bus.pauses + count := pauses_poll ..

end Bus

/-- The registers when the device serves, the engines before the MAC. -/
def RegisterFile.serving (file : RegisterFile) : RegisterFile :=
  let ready := ((file.write Register.dmaStatus.offset 0xFFFFFFFF).write
    Register.configuration.offset defaultConfiguration).write
    Register.operationMode.offset defaultOperationMode
  ((((ready.enable .txEngine).enable .rxEngine).enable .transmitter).enable .receiver).write
    Register.rxPollDemand.offset 0

/-- All status is acknowledged by then. -/
theorem RegisterFile.status_serving {file : RegisterFile} (reactive : file.behaviour = .reactive) :
    file.serving.status = 0 := by
  unfold serving enable
  simp (disch := decide) only [status_write_other]
  exact status_acknowledged reactive

@[simp] theorem RegisterFile.behaviour_serving (file : RegisterFile) :
    file.serving.behaviour = file.behaviour := by
  simp [serving, enable]

@[simp] theorem RegisterFile.behaviour_askedReset (file : RegisterFile) :
    file.askedReset.behaviour = file.behaviour := by
  simp [askedReset, enable]

theorem RegisterFile.status_askedReset (file : RegisterFile) :
    file.askedReset.status = file.status := by
  unfold askedReset enable
  simp (disch := decide) only [status_write_other]

namespace Interface

variable {rx tx : Nat} {hardware : Hardware} {machine : Machine (Interface rx tx)}

/-- The registers when the device knows the station address and where the rings are. -/
def programmed (interface : Interface rx tx) (file : RegisterFile) : RegisterFile :=
  let addressed := (file.write (Register.addressHigh 0).offset interface.address.highWord).write
    (Register.addressLow 0).offset interface.address.lowWord
  ((addressed.enable .wideDescriptors).write Register.rxListBase.offset
    (interface.queues.rx.ring.busAddress 0)).write Register.txListBase.offset
    (interface.queues.tx.ring.busAddress 0)

@[simp] theorem behaviour_programmed (interface : Interface rx tx) (file : RegisterFile) :
    (interface.programmed file).behaviour = file.behaviour := by
  simp [programmed, RegisterFile.enable]

theorem run_programDevice (hardware : Hardware) (machine : Machine (Interface rx tx)) :
    ∃ bus, programDevice.run hardware machine = (.ok (), ⟨bus, machine.state⟩) ∧
      bus.registers = machine.state.programmed machine.bus.registers :=
  ⟨_, rfl, rfl⟩

theorem run_serve (hardware : Hardware) (machine : Machine (Interface rx tx)) :
    ∃ bus, serve.run hardware machine = (.ok (.ok ()), ⟨bus, machine.state.inService⟩) ∧
      bus.registers = (machine.state.programmed machine.bus.registers).serving ∧
      bus.pausedMicroseconds = machine.bus.pausedMicroseconds := by
  unfold serve
  rw [rebuildQueues_eq]
  exact ⟨_, rfl, rfl, by simp⟩

theorem run_bringUpDevice_of_stays
    (stays : ¬ machine.bus.LeavesReset hardware machine.state.config.timing) :
    bringUpDevice.run hardware machine =
      let timing := machine.state.config.timing
      (.ok (.error .deviceError),
        ⟨(machine.bus.pollReset hardware timing (timing.budget timing.timeoutMs)).note
          (.resetTimedOut timing.timeoutMs), machine.state⟩) := by
  unfold bringUpDevice
  rw [Program.run_bind, Program.run_get]
  dsimp only
  rw [Program.run_bind, Program.run_softReset_of_stays stays]
  rfl

/-- Once the reset is left the interface goes into service. -/
theorem run_bringUpDevice_of_leaves
    (leaves : machine.bus.LeavesReset hardware machine.state.config.timing) :
    let config := machine.state.config
    ∃ bus, ∃ looks ≤ config.timing.budget config.resetTimeoutMs,
      ∃ waits ≤ config.timing.budget config.busTimeoutMs,
        bringUpDevice.run hardware machine = (.ok (.ok ()), ⟨bus, machine.state.inService⟩) ∧
        bus.registers = (machine.state.programmed (hardware.evolve (machine.bus.pauses + looks)
          (hardware.evolve machine.bus.pauses machine.bus.registers.askedReset looks)
          waits)).serving ∧
        bus.pausedMicroseconds =
          machine.bus.pausedMicroseconds + (looks + waits) * config.pollUs.toNat := by
  intro config
  obtain ⟨looks, looks_le, -, reset⟩ := Program.run_softReset_of_leaves leaves
  let left := machine.bus.pollReset hardware config.timing looks
  obtain ⟨idle, waited, waits, waits_le, wait, evolved, took⟩ :=
    Program.run_awaitBusIdle hardware config.timing ⟨left, machine.state⟩ config.busTimeoutMs
  obtain ⟨bus, served, registers, same⟩ := run_serve hardware ⟨waited, machine.state⟩
  refine ⟨bus, looks, looks_le, waits, waits_le, ?_, ?_, ?_⟩
  · unfold bringUpDevice
    rw [Program.run_bind, Program.run_get]
    dsimp only
    rw [Program.run_bind, reset]
    dsimp only
    rw [Program.run_bind, wait]
    exact served
  · rw [registers, evolved]
    simp [left]
  · rw [same, took]
    simp [left, Nat.add_mul, Nat.add_assoc]
    rfl

end Interface

end EthernetMac
