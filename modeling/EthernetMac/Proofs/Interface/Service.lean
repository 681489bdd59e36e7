import EthernetMac.Proofs.Interface.Lifecycle
import EthernetMac.Proofs.Queues.Layout

/-!
What bringing an interface up writes into the registers. On hardware that does nothing by
itself and on a live register file the call succeeds, and leaves values that depend on
nothing but the station address and the place of the rings.
-/

namespace EthernetMac

namespace Interface

variable {rx tx : Nat}

/-- What the registers at those offsets hold when an interface whose rings were placed there has
gone into service: the default configuration with the transmitter and the receiver, the address,
wide descriptors, the places of the rings, no status, and both engines in the default mode. -/
def serviceRegisters (placement : Placement) (interface : Interface rx tx) :
    List (Nat × UInt32) :=
  [(0x0000, 0x212C8C), (0x0040, interface.address.highWord), (0x0044, interface.address.lowWord),
    (0x1000, 0x80), (0x100C, placement.rxBase), (0x1010, placement.txBase), (0x1014, 0),
    (0x1018, 0x2202002)]

theorem read_service {placement : Placement} {interface : Interface rx tx}
    (placed : interface.queues.Placed placement) {file : RegisterFile} (live : file.Live) :
    ∀ entry ∈ interface.serviceRegisters placement,
      (interface.programmed file.askedReset).serving.read entry.1 = entry.2 := by
  have asked : file.askedReset.Live := (live.write _ _).enable _
  have known : (interface.programmed file.askedReset).Live :=
    ((((asked.write _ _).write _ _).enable _).write _ _).write _ _
  simp only [serviceRegisters, List.forall_mem_cons]
  refine ⟨?configuration, ?high, ?low, ?busMode, ?rxList, ?txList, ?status, ?mode,
    List.forall_mem_nil _⟩
  case busMode =>
    have reset : file.askedReset.read Register.busMode.offset = 0 := by
      unfold RegisterFile.askedReset
      rw [RegisterFile.read_enable_other (by decide), live.read_busMode]
      decide
    show RegisterFile.read _ Register.busMode.offset = Control.wideDescriptors.mask
    unfold RegisterFile.serving programmed
    simp (disch := decide) only [RegisterFile.read_write_other, RegisterFile.read_enable_other]
    unfold RegisterFile.enable
    rw [Control.wideDescriptors, ((asked.write _ _).write _ _).read_busMode]
    simp (disch := decide) only [RegisterFile.read_write_other, reset]
    decide
  case status => exact RegisterFile.status_serving known.reactive
  -- the driver writes the others as a whole, and by name
  case' configuration =>
    change RegisterFile.read _ Register.configuration.offset =
      defaultConfiguration ||| Control.transmitter.mask ||| Control.receiver.mask
  case' high => change RegisterFile.read _ (Register.addressHigh 0).offset = _
  case' low => change RegisterFile.read _ (Register.addressLow 0).offset = _
  case' rxList => change RegisterFile.read _ Register.rxListBase.offset = _
  case' txList => change RegisterFile.read _ Register.txListBase.offset = _
  case' mode =>
    change RegisterFile.read _ Register.operationMode.offset =
      defaultOperationMode ||| Control.txEngine.mask ||| Control.rxEngine.mask
  all_goals
    unfold RegisterFile.serving programmed
    simp (disch := decide) only [RegisterFile.read_write_other, RegisterFile.read_enable_other,
      RegisterFile.read_write_same, RegisterFile.read_enable_same, placed.rxBase_eq,
      placed.txBase_eq]

/-- With hardware that keeps still during the call, a started interface goes into service. -/
theorem run_bringUp_of_live {machine : Machine (Interface rx tx)}
    (started : machine.state.lifecycle = .started) (live : machine.bus.registers.Live) :
    ∃ bus, (bringUp 0 0).run .idle machine = (.ok (.ok ()), ⟨bus, machine.state.inService⟩) ∧
      bus.registers = (machine.state.programmed machine.bus.registers.askedReset).serving := by
  obtain ⟨bus, looks, -, waits, -, ran, registers, -⟩ :=
    run_bringUpDevice_of_leaves (Bus.leavesReset_of_live live .idle machine.state.config.timing)
  refine ⟨bus, ?_, ?_⟩
  · rw [run_bringUp_of_started started, ran]
  · simpa using registers

end Interface

end EthernetMac
