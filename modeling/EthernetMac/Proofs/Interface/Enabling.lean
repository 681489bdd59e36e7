import EthernetMac.Proofs.Interface.Footprint
import EthernetMac.Proofs.Interface.Layout
import EthernetMac.Proofs.Interface.Reset
import EthernetMac.Proofs.Program.Steering

/-!
In which order the device is enabled. At every moment of every run the MAC sends and receives
only if its DMA engines run, and they run only if they know where the rings are. When an
engine is started the rings are built already.
-/

namespace EthernetMac

/-- Nothing is written that has to do with what is enabled. -/
def Event.Aside : Event → Prop
  | write offset _ => offset ∉ RegisterFile.steering
  | _ => True

theorem Event.waits_aside : Program.Waits fun _ event => event.Aside where
  read _ _ _ _ := trivial
  pause _ _ := trivial
  note _ _ _ := trivial

namespace Interface

open RegisterFile

variable {rx tx : Nat} {hardware : Hardware} {machine : Machine (Interface rx tx)}
  {rxBase txBase : UInt32}

/-- Nobody but the driver writes the steering registers. -/
def Sparing (change : RegisterFile → RegisterFile) : Prop := ∀ file, (change file).Agrees file

theorem upholds_aside {σ α : Type} {program : Program σ α} {machine : Machine σ}
    (emits : program.Emits (fun _ event => event.Aside) (fun _ _ => True) (.pause 0))
    (sparing : ∀ pause, Sparing (hardware pause)) :
    program.Upholds hardware (fun file => file.Agrees machine.bus.registers) machine := by
  apply emits.upholds
  · intro _ offset value file aside _ agrees
    exact (agrees_write aside value).trans agrees
  · intro _ _ _ count file agrees
    exact (sparing count file).trans agrees
  · trivial
  · exact fun _ _ => rfl

section BringUp

theorem upholds_programDevice (orderly : machine.bus.registers.Orderly rxBase txBase)
    (rxRing : machine.state.queues.rx.ring.busAddress 0 = rxBase)
    (txRing : machine.state.queues.tx.ring.busAddress 0 = txBase) :
    programDevice.Upholds hardware (Orderly rxBase txBase) machine := by
  subst rxRing txRing
  let address := machine.state.address
  let high := machine.bus.registers.write (Register.addressHigh 0).offset address.highWord
  let low := high.write (Register.addressLow 0).offset address.lowWord
  let wide := low.enable .wideDescriptors
  have addressing : high.Orderly _ _ := orderly.write_aside (by decide) _
  have addressed : low.Orderly _ _ := addressing.write_aside (by decide) _
  have widened : wide.Orderly _ _ := addressed.write_aside (by decide) _
  have rxBased := widened.write (by decide) (by decide) Based.write_rxListBase
  have txBased := rxBased.write (by decide) (by decide) fun based =>
    based_write_txListBase based.rx
  exact ⟨addressing, addressed, widened, rxBased, txBased, trivial⟩

/-- The MAC is disabled before its engines, and enabled after them. -/
theorem upholds_enableDevice (orderly : machine.bus.registers.Orderly rxBase txBase)
    (based : machine.bus.registers.Based rxBase txBase) :
    enableDevice.Upholds hardware (Orderly rxBase txBase) machine := by
  let taken := machine.bus.registers.write Register.dmaStatus.offset 0xFFFFFFFF
  let configured := taken.write Register.configuration.offset defaultConfiguration
  let stopped := configured.write Register.operationMode.offset defaultOperationMode
  let sending := stopped.enable .txEngine
  let running := sending.enable .rxEngine
  let talking := running.enable .transmitter
  have acknowledged : taken.Orderly _ _ := orderly.write_aside (by decide) _
  have disabled : configured.Orderly _ _ := acknowledged.write_configuration
  have quiet : ¬ configured.Enabled .transmitter := by
    rw [enabled_write_same (by decide) (by decide)]
    decide
  have deaf : ¬ configured.Enabled .receiver := by
    rw [enabled_write_same (by decide) (by decide)]
    decide
  have still : stopped.Orderly rxBase txBase := .write_operationMode quiet deaf
  have stays : stopped.Based rxBase txBase := ((based.write (by decide) (by decide)).write
    (by decide) (by decide)).write (by decide) (by decide)
  have tx : sending.Orderly rxBase txBase := still.enable (fun sets => absurd sets (by decide))
    (fun sets => absurd sets (by decide)) (fun _ => stays) (by decide) (by decide)
  have txRuns : sending.Enabled .txEngine := (enabled_enable (by decide)).2 (.inr (by decide))
  have rx : running.Orderly rxBase txBase := tx.enable (fun sets => absurd sets (by decide))
    (fun sets => absurd sets (by decide)) (fun _ => stays.write (by decide) (by decide))
    (by decide) (by decide)
  have rxRuns : running.Enabled .rxEngine := (enabled_enable (by decide)).2 (.inr (by decide))
  have talks : talking.Orderly rxBase txBase := rx.enable
    (fun _ => (enabled_enable (by decide)).2 (.inl txRuns))
    (fun sets => absurd sets (by decide)) (fun sets => absurd sets (by decide))
    (by decide) (by decide)
  have listens : (talking.enable .receiver).Orderly rxBase txBase := talks.enable
    (fun sets => absurd sets (by decide)) (fun _ => (enabled_enable (by decide)).2 (.inl rxRuns))
    (fun sets => absurd sets (by decide)) (by decide) (by decide)
  exact ⟨acknowledged, disabled, still, tx, rx, talks, listens,
    listens.write_aside (by decide) _, trivial⟩

theorem upholds_serve (orderly : machine.bus.registers.Orderly rxBase txBase)
    (rxRing : machine.state.queues.rx.ring.busAddress 0 = rxBase)
    (txRing : machine.state.queues.tx.ring.busAddress 0 = txBase) :
    serve.Upholds hardware (Orderly rxBase txBase) machine := by
  have programs : programDevice.Upholds hardware (Orderly rxBase txBase) machine :=
    upholds_programDevice orderly rxRing txRing
  have programmed := programs.run orderly
  obtain ⟨bus, ran, registers⟩ := run_programDevice hardware machine
  rw [ran] at programmed
  have based : bus.registers.Based rxBase txBase := by
    rw [registers, ← rxRing, ← txRing]
    exact based_write_txListBase (read_write_same (by decide) _)
  unfold serve
  rw [rebuildQueues_eq]
  apply programs.bind
  intro _ after same
  obtain ⟨-, rfl⟩ := Prod.mk.inj (ran.symm.trans same)
  have enables : enableDevice.Upholds hardware (Orderly rxBase txBase)
      ⟨bus, { machine.state with queues := machine.state.queues.rebuild }⟩ :=
    upholds_enableDevice programmed based
  have rebuilds : (onQueues (Program.modify Queues.rebuild)).Upholds hardware
      (Orderly rxBase txBase) ⟨bus, machine.state⟩ := trivial
  apply rebuilds.bind
  intro _ rebuilt ran
  obtain ⟨-, rfl⟩ := Prod.mk.inj ran
  exact enables.bind fun _ _ _ => trivial

theorem upholds_bringUpDevice (sparing : ∀ pause, Sparing (hardware pause))
    (orderly : machine.bus.registers.Orderly rxBase txBase)
    (rxRing : machine.state.queues.rx.ring.busAddress 0 = rxBase)
    (txRing : machine.state.queues.tx.ring.busAddress 0 = txBase) :
    bringUpDevice.Upholds hardware (Orderly rxBase txBase) machine := by
  have aside {α : Type} {program : Program (Interface rx tx) α} {bus : Bus}
      (emits : program.Emits (fun _ event => event.Aside) (fun _ _ => True) (.pause 0))
      (orderly : bus.registers.Orderly rxBase txBase) :
      program.Upholds hardware (Orderly rxBase txBase) ⟨bus, machine.state⟩ :=
    (upholds_aside emits sparing).imp fun file agrees => agrees.orderly orderly
  show (Program.softReset machine.state.config.timing >>= _).Upholds hardware _ machine
  have ask : Register.busMode.offset ∉ steering := by decide
  have output : Register.generalPurpose.offset ∉ steering := by decide
  have reset : (Program.softReset machine.state.config.timing).Upholds hardware
      (Orderly rxBase txBase) machine :=
    aside (Program.emits_softReset Event.waits_aside _ ask fun _ => output) orderly
  apply reset.bind_of_silent (.softReset _) orderly
  intro result left orderly
  cases result with
  | error => trivial
  | ok _ =>
    have idle : (Program.awaitBusIdle machine.state.config.timing
        machine.state.config.busTimeoutMs).Upholds hardware (Orderly rxBase txBase)
          ⟨left, machine.state⟩ :=
      aside (Program.emits_awaitBusIdle Event.waits_aside _ _) orderly
    apply idle.bind_of_silent (.awaitBusIdle _ _) orderly
    intro _ waited orderly
    exact upholds_serve orderly rxRing txRing

theorem upholds_bringUp (extraRx extraTx : Nat) (sparing : ∀ pause, Sparing (hardware pause))
    (orderly : machine.bus.registers.Orderly rxBase txBase)
    (rxRing : machine.state.queues.rx.ring.busAddress 0 = rxBase)
    (txRing : machine.state.queues.tx.ring.busAddress 0 = txBase) :
    (bringUp extraRx extraTx).Upholds hardware (Orderly rxBase txBase) machine := by
  unfold bringUp
  split
  · trivial
  · apply Program.Upholds.bind_get
    cases machine.state.lifecycle with
    | started => exact upholds_bringUpDevice sparing orderly rxRing txRing
    | initialized | stopped => trivial

theorem engaged_serving (interface : Interface rx tx) (file : RegisterFile) :
    (interface.programmed file).serving.Engaged (interface.queues.rx.ring.busAddress 0)
      (interface.queues.tx.ring.busAddress 0) where
  runs := by
    unfold serving
    simp only
    rw [enabled_write_other (by decide), enabled_enable (by decide), enabled_enable (by decide),
      enabled_enable (by decide), enabled_enable (by decide)]
    exact .inl (.inl (.inl (.inr (by decide))))
  based := by
    have based : (interface.programmed file).Based _ _ :=
      based_write_txListBase (read_write_same (by decide) _)
    unfold serving
    simp only [enable]
    iterate 8 apply Based.write _ (by decide) (by decide)
    exact based

/-- Who comes up has its engines running. -/
theorem engaged_bringUp {extraRx extraTx : Nat}
    (engaged : machine.state.lifecycle = .initialized →
      machine.bus.registers.Engaged (machine.state.queues.rx.ring.busAddress 0)
        (machine.state.queues.tx.ring.busAddress 0)) :
    let after := ((bringUp extraRx extraTx).run hardware machine).2
    after.state.lifecycle = .initialized →
      after.bus.registers.Engaged (machine.state.queues.rx.ring.busAddress 0)
        (machine.state.queues.tx.ring.busAddress 0) := by
  intro after
  by_cases extra : extraRx ≠ 0 ∨ extraTx ≠ 0
  · simp only [after, run_bringUp_of_extra extra]
    exact engaged
  · obtain ⟨rfl, rfl⟩ : extraRx = 0 ∧ extraTx = 0 := by omega
    cases state : machine.state.lifecycle with
    | initialized =>
      simp only [after, run_bringUp_of_initialized state]
      exact engaged
    | stopped =>
      simp only [after, run_bringUp_of_stopped state]
      exact engaged
    | started =>
      simp only [after, run_bringUp_of_started state]
      by_cases leaves : machine.bus.LeavesReset hardware machine.state.config.timing
      · obtain ⟨bus, _, -, _, -, ran, registers, -⟩ := run_bringUpDevice_of_leaves leaves
        rw [ran, registers]
        exact fun _ => engaged_serving _ _
      · rw [run_bringUpDevice_of_stays leaves]
        simp [state]

end BringUp

section Call

/-- The calls that may enable anything. -/
def Call.Steers : Call → Prop
  | bringUp .. | transmit .. => True
  | _ => False

theorem emits_aside {call : Call} (stays : ¬ call.Steers) :
    (call.program : Program (Interface rx tx) Reply).Emits (fun _ event => event.Aside)
      (fun _ _ => True) (.pause 0) := by
  apply (emits_permits call).mono _ fun _ _ => id
  intro last event permits
  cases permits with
  | read | notice | pause => trivial
  | constant listed =>
    show _ ∉ steering
    cases call with
    | bringUp | transmit => exact absurd trivial stays
    | receive buffer =>
      obtain ⟨rfl, -⟩ : _ = Register.rxPollDemand.offset ∧ _ = _ := by
        simpa [Call.constants] using listed
      decide
    | _ => contradiction
  | enable listed =>
    cases call with
    | bringUp | transmit => exact absurd trivial stays
    | _ => contradiction
  | rxList | txList => exact absurd trivial stays
  | addressHigh | addressLow | resume | take | filter =>
    show _ ∉ steering
    decide

theorem upholds_gated {α : Type} {operation : Operation} {refuse : Error → α}
    {body : Program (Interface rx tx) α} {holds : RegisterFile → Prop}
    (inside : machine.state.lifecycle = .initialized → body.Upholds hardware holds machine) :
    (gated operation refuse body).Upholds hardware holds machine := by
  unfold gated
  apply Program.Upholds.bind_get
  cases state : machine.state.lifecycle with
  | initialized => exact inside state
  | started | stopped => trivial

/-- Sending enables nothing that an interface in service has not enabled. -/
theorem upholds_transmit (hardware : Hardware) (frame : Frame) (request : Option HeaderRequest)
    (orderly : machine.bus.registers.Orderly rxBase txBase)
    (engaged : machine.bus.registers.Engaged rxBase txBase) :
    (Call.transmit frame request).program.Upholds hardware
      (fun file => file.Orderly rxBase txBase ∧ file.Engaged rxBase txBase) machine := by
  apply upholds_of_permits _ _ ⟨orderly, engaged⟩
  · rintro last offset value file permits recalls ⟨orderly, engaged⟩
    cases permits with
    | constant listed =>
      obtain ⟨rfl, -⟩ : offset = Register.txPollDemand.offset ∧ value = 0 := by
        simpa [Call.constants] using listed
      have aside : (file.write Register.txPollDemand.offset value).Agrees file :=
        agrees_write (by decide) value
      exact ⟨aside.orderly orderly, aside.engaged engaged⟩
    | enable listed =>
      cases recalls
      rcases List.mem_pair.1 listed with rfl | rfl
      · exact ⟨orderly.enable (fun sets => absurd sets (by decide))
          (fun sets => absurd sets (by decide)) (fun _ => engaged.based) (by decide) (by decide),
          engaged.enable (by decide) (by decide)⟩
      · exact ⟨orderly.enable (fun _ => engaged.runs) (fun sets => absurd sets (by decide))
          (fun sets => absurd sets (by decide)) (by decide) (by decide),
          engaged.enable (by decide) (by decide)⟩
    | addressHigh addresses | addressLow addresses => exact addresses.elim
  · intro last microseconds permits
    cases permits

/-- Nothing is enabled ahead of what it relies on, and what sends is ready if the interface is
in service. -/
structure Ordered (rxBase txBase : UInt32) (machine : Machine (Interface rx tx)) : Prop where
  orderly : machine.bus.registers.Orderly rxBase txBase
  engaged : machine.state.lifecycle = .initialized → machine.bus.registers.Engaged rxBase txBase

/-- A call keeps the order at each of its writes. -/
theorem Ordered.call (ordered : Ordered rxBase txBase machine) (call : Call)
    (sparing : ∀ pause, Sparing (hardware pause))
    (rxRing : machine.state.queues.rx.ring.busAddress 0 = rxBase)
    (txRing : machine.state.queues.tx.ring.busAddress 0 = txBase) :
    call.program.Upholds hardware (Orderly rxBase txBase) machine ∧
      Ordered rxBase txBase (call.program.run hardware machine).2 := by
  by_cases steers : call.Steers
  · cases call with
    | bringUp extraRx extraTx =>
      have upholds := (upholds_bringUp extraRx extraTx sparing ordered.orderly rxRing txRing).map
        Reply.plain
      subst rxRing txRing
      refine ⟨upholds, upholds.run ordered.orderly, ?_⟩
      rw [Call.program, Program.machine_map]
      exact engaged_bringUp ordered.engaged
    | transmit frame request =>
      have dwells := keeps_lifecycle (.transmit frame request) trivial hardware machine
      by_cases initialized : machine.state.lifecycle = .initialized
      · have engaged := ordered.engaged initialized
        have upholds := upholds_transmit hardware frame request ordered.orderly engaged
        obtain ⟨orderly, engaged⟩ := upholds.run ⟨ordered.orderly, engaged⟩
        exact ⟨upholds.imp fun _ holds => holds.1, orderly, fun _ => engaged⟩
      · have upholds : (transmit frame request).Upholds hardware (Orderly rxBase txBase) machine :=
          upholds_gated fun serves => absurd serves initialized
        refine ⟨upholds.map _, (upholds.map _).run ordered.orderly, fun serves => ?_⟩
        exact absurd (dwells.symm.trans serves) initialized
    | _ => exact steers.elim
  · have aside : call.program.Upholds hardware (fun file => file.Agrees machine.bus.registers)
        machine := upholds_aside (emits_aside steers) sparing
    have agrees := aside.run fun _ _ => rfl
    have prompt : ∀ extraRx extraTx, call ≠ .bringUp extraRx extraTx := by
      rintro extraRx extraTx rfl
      exact steers trivial
    refine ⟨aside.imp fun _ agrees => agrees.orderly ordered.orderly,
      agrees.orderly ordered.orderly,
      fun serves => agrees.engaged (ordered.engaged ?_)⟩
    rw [lifecycle_run] at serves
    exact Lifecycle.initialized_of_next prompt serves

/-- The device keeps the order if it stays away from what the driver enables. -/
theorem Ordered.device (ordered : Ordered rxBase txBase machine) {action : DeviceAction}
    (sparing : Sparing action.onRegisters) :
    Ordered rxBase txBase ((system rx tx).step (.device action) machine).2 where
  orderly := (sparing _).orderly ordered.orderly
  engaged serves := (sparing _).engaged (ordered.engaged serves)

end Call

section Run

/-- Nobody but the driver writes the registers that say what is enabled. -/
def SparesSteering : Step Call → Machine (Interface rx tx) → Prop
  | .call hardware _, _ => ∀ pause, Sparing (hardware pause)
  | .device action, _ => Sparing action.onRegisters

/-- The register writes of a run, the latest first. -/
def writesOf (start : Machine (Interface rx tx)) : List (Step Call) → List (Write (Interface rx tx))
  | [] => []
  | .call hardware call :: earlier =>
    (call.program.writes hardware ((system rx tx).after start earlier)).reverse ++
      writesOf start earlier
  | .device _ :: earlier => writesOf start earlier

/-- The rings lie where they were placed, and nothing is enabled ahead of what it relies on,
those rings included. -/
structure InOrder (placement : Placement) (machine : Machine (Interface rx tx)) : Prop where
  placed : machine.state.queues.Placed placement
  orderly : machine.bus.registers.Orderly placement.rxBase placement.txBase

theorem ordered_of_steps {placement : Placement} {start : Machine (Interface rx tx)}
    (placed : start.state.queues.Placed placement)
    (ordered : Ordered placement.rxBase placement.txBase start)
    (steps : List (Step Call)) (follows : (system rx tx).Follows start SparesSteering steps) :
    Ordered placement.rxBase placement.txBase ((system rx tx).after start steps) ∧
      ∀ write ∈ writesOf start steps, InOrder placement write.after := by
  induction steps with
  | nil => exact ⟨ordered, by simp [writesOf]⟩
  | cons step earlier ih =>
    obtain ⟨spares, follows⟩ := follows
    obtain ⟨ordered, inOrder⟩ := ih follows
    cases step with
    | device action => exact ⟨ordered.device spares, inOrder⟩
    | call hardware call =>
      have there := holds_of_steps (placed_invariant placement) placed earlier
      obtain ⟨upholds, kept⟩ := ordered.call call spares there.rxBase_eq there.txBase_eq
      refine ⟨kept, ?_⟩
      intro write made
      rw [writesOf, List.mem_append, List.mem_reverse] at made
      rcases made with now | before
      · have state := Program.state_mem_of_mem_writes hardware call.program _ write now
        have stays := holds_of_saves (placed_invariant placement) there hardware call _ state
        exact ⟨stays, upholds.writes write now⟩
      · exact inOrder write before

end Run

section Build

/-- The write starts the engine that sends, or leaves it running. -/
def StartsEngine (write : Write (Interface rx tx)) : Prop :=
  write.offset = Register.operationMode.offset ∧ Control.txEngine.isSetIn write.value = true

/-- The rings lie where they were placed. The receive ring is all the device's and the transmit
ring all the driver's. -/
structure Built (placement : Placement) (queues : Queues rx tx) : Prop where
  placed : queues.Placed placement
  rxOwner : ∀ slot, queues.rx.owner slot = .hardware
  txOwner : ∀ slot, queues.tx.owner slot = .software
  rxArmed : queues.rx.Armed placement
  txChained : queues.tx.ring.ChainedFrom placement.tx

theorem built_rebuild {placement : Placement} {queues : Queues rx tx}
    (placed : queues.Placed placement) : Built placement queues.rebuild where
  placed := placed.rebuild
  rxOwner := queues.rx.owner_rebuild
  txOwner := queues.tx.owner_rebuild
  rxArmed := RxQueue.armed_rebuild placed.rx_start placed.pool
  txChained := by
    have armed : queues.tx.rebuild.Armed placement fun _ => none :=
      TxQueue.armed_rebuild placed.tx_start
    exact armed.chained

theorem writes_serve (hardware : Hardware) (machine : Machine (Interface rx tx)) :
    serve.writes hardware machine = programDevice.writes hardware machine ++
      enableDevice.writes hardware ⟨(programDevice.run hardware machine).2.bus,
        { machine.state with queues := machine.state.queues.rebuild }⟩ := by
  unfold serve
  rw [rebuildQueues_eq]
  rfl

theorem built_of_serve {placement : Placement} (hardware : Hardware)
    {machine : Machine (Interface rx tx)} (placed : machine.state.queues.Placed placement) :
    ∀ write ∈ serve.writes hardware machine, StartsEngine write →
      Built placement write.before.state.queues := by
  rw [writes_serve, List.forall_mem_append]
  constructor
  · have elsewhere : ∀ write ∈ programDevice.writes hardware machine,
        write.offset ≠ Register.operationMode.offset := by
      show ∀ write ∈ [_, _, _, _, _], _
      simp [Register.offset, Control.wideDescriptors]
    exact fun write made starts => absurd starts.1 (elsewhere write made)
  · intro write made _
    have state := Program.state_mem_of_mem_writes _ _ _ write made
    obtain ⟨_, _, -, saves⟩ := silent_enableDevice.run hardware
      ⟨(programDevice.run hardware machine).2.bus,
        { machine.state with queues := machine.state.queues.rebuild }⟩
    rw [saves, List.mem_singleton] at state
    rw [state]
    exact built_rebuild placed

theorem starts_of_serve (hardware : Hardware) (machine : Machine (Interface rx tx)) :
    ∃ write ∈ serve.writes hardware machine, StartsEngine write := by
  have starts (machine : Machine (Interface rx tx)) :
      ∃ write ∈ enableDevice.writes hardware machine, StartsEngine write := by
    refine ⟨_, .tail _ (.tail _ (.tail _ (.head _))), rfl, ?_⟩
    rw [Control.isSetIn_or, Bool.or_eq_true]
    exact .inr (by decide)
  obtain ⟨write, made, starts⟩ := starts _
  refine ⟨write, ?_, starts⟩
  rw [writes_serve]
  exact List.mem_append_right _ made

/-- Whenever bringing up starts the engine the rings are built. -/
theorem built_of_bringUp {placement : Placement} (extraRx extraTx : Nat) (hardware : Hardware)
    {machine : Machine (Interface rx tx)} (placed : machine.state.queues.Placed placement) :
    ∀ write ∈ (bringUp extraRx extraTx).writes hardware machine, StartsEngine write →
      Built placement write.before.state.queues := by
  have resets : ∀ entry ∈ [(Register.busMode.offset, Control.softReset.mask),
      (Register.generalPurpose.offset, machine.bus.registers.read Register.generalPurpose.offset |||
        Control.generalOutput.mask)], entry.1 ≠ Register.operationMode.offset := by
    simp [Register.offset]
  by_cases extra : extraRx ≠ 0 ∨ extraTx ≠ 0
  · unfold bringUp
    rw [if_pos extra]
    simp
  · obtain ⟨rfl, rfl⟩ : extraRx = 0 ∧ extraTx = 0 := by omega
    by_cases started : machine.state.lifecycle = .started
    · by_cases leaves : machine.bus.LeavesReset hardware machine.state.config.timing
      · obtain ⟨waited, writes⟩ := writes_bringUp_of_leaves started leaves
        rw [writes, List.forall_mem_append]
        refine ⟨fun write made starts => ?_, built_of_serve hardware placed⟩
        have listed := List.mem_map_of_mem (f := Write.entry) made
        rw [Program.writes_softReset] at listed
        exact absurd starts.1 (resets _ listed)
      · intro write made starts
        have listed := List.mem_map_of_mem (f := Write.entry) made
        rw [writes_bringUp_of_stays started leaves] at listed
        exact absurd starts.1 (resets _ listed)
    · rw [writes_bringUp_of_unstarted started]
      simp

/-- Who comes up has started the engine. -/
theorem starts_of_bringUp {extraRx extraTx : Nat} {hardware : Hardware}
    {machine after : Machine (Interface rx tx)} (started : machine.state.lifecycle = .started)
    (ran : (bringUp extraRx extraTx).run hardware machine = (.ok (.ok ()), after)) :
    ∃ write ∈ (bringUp extraRx extraTx).writes hardware machine, StartsEngine write := by
  by_cases extra : extraRx ≠ 0 ∨ extraTx ≠ 0
  · rw [run_bringUp_of_extra extra] at ran
    simp at ran
  · obtain ⟨rfl, rfl⟩ : extraRx = 0 ∧ extraTx = 0 := by omega
    by_cases leaves : machine.bus.LeavesReset hardware machine.state.config.timing
    · obtain ⟨waited, writes⟩ := writes_bringUp_of_leaves started leaves
      obtain ⟨write, made, starts⟩ := starts_of_serve hardware ⟨waited, machine.state⟩
      rw [writes]
      exact ⟨write, List.mem_append_right _ made, starts⟩
    · rw [run_bringUp_of_started started, run_bringUpDevice_of_stays leaves] at ran
      simp at ran

end Build

/-- At no moment of a run from registers that are all zero is the MAC enabled ahead of its
engines, or an engine before it knows the rings, if nobody but the driver writes the
registers that say so. And a call that brings an interface up starts the engine, but not
before the rings are built. -/
theorem enabled_in_order (placement : Placement) (two_le_rx : 2 ≤ rx) (two_le_tx : 2 ≤ tx)
    (config : Config) (behaviour : Behaviour) (steps : List (Step Call))
    (follows : (system rx tx).Follows
      ⟨{ registers := .blank behaviour },
        Interface.blank config (Queues.blank placement two_le_rx two_le_tx)⟩
      SparesSteering steps) :
    let start : Machine (Interface rx tx) :=
      ⟨{ registers := .blank behaviour },
        Interface.blank config (Queues.blank placement two_le_rx two_le_tx)⟩
    let machine := (system rx tx).after start steps
    InOrder placement machine ∧
      (∀ write ∈ writesOf start steps, InOrder placement write.after) ∧
      ∀ hardware extraRx extraTx,
        (∀ write ∈ (bringUp extraRx extraTx).writes hardware machine, StartsEngine write →
          Built placement write.before.state.queues) ∧
        ∀ after, machine.state.lifecycle = .started →
          (bringUp extraRx extraTx).run hardware machine = (.ok (.ok ()), after) →
            ∃ write ∈ (bringUp extraRx extraTx).writes hardware machine, StartsEngine write := by
  intro start machine
  have blank : start.state.queues.Placed placement := Queues.placed_blank placement _ _
  have ordered : Ordered placement.rxBase placement.txBase start :=
    ⟨orderly_blank behaviour, nofun⟩
  obtain ⟨inOrder, writes⟩ := ordered_of_steps blank ordered steps follows
  have there : machine.state.queues.Placed placement :=
    holds_of_steps (placed_invariant placement) blank steps
  exact ⟨⟨there, inOrder.orderly⟩, writes, fun hardware extraRx extraTx =>
    ⟨built_of_bringUp _ _ _ there, fun after started ran => starts_of_bringUp started ran⟩⟩

/-- An interface is brought up, stopped, started and not brought up again, since the device is
stuck; then it is brought up and sends. -/
theorem enabled_in_order_of_two :
    let start : Machine (Interface 2 2) :=
      ⟨{ registers := .blank .reactive },
        Interface.blank { resetTimeoutMs := 1 }
          (Queues.blank ⟨0x1000, 0x2000, 0x4000⟩ (Nat.le_refl 2) (Nat.le_refl 2))⟩
    let steps : List (Step Call) :=
      [.call .idle (.transmit ⟨0x9000, List.replicate 60 0⟩ none),
        .device (.registers fun file => file.setLink true), .call .idle (.bringUp 0 0),
        .device (.registers fun file => file.setStuck false), .call .idle (.bringUp 0 0),
        .device (.registers fun file => file.setStuck true), .call .idle .start,
        .call .idle .stop, .call .idle (.bringUp 0 0), .call .idle .start]
    (writesOf start steps).length = 35 ∧
      ∀ write ∈ writesOf start steps, InOrder ⟨0x1000, 0x2000, 0x4000⟩ write.after := by
  intro start steps
  have idle (pause : Nat) : Sparing (Hardware.idle pause) := fun _ _ _ => rfl
  have link : Sparing fun file => file.setLink true :=
    fun _ offset steers => read_store_other (ne_of_mem_of_not_mem steers (by decide))
  have stuck (stuck : Bool) : Sparing fun file => file.setStuck stuck := fun _ _ _ => rfl
  have follows : (system 2 2).Follows start SparesSteering steps :=
    ⟨idle, link, idle, stuck false, idle, stuck true, idle, idle, idle, idle, trivial⟩
  refine ⟨by decide +kernel, ?_⟩
  exact (enabled_in_order _ (Nat.le_refl 2) (Nat.le_refl 2) _ _ steps follows).2.1

end Interface

end EthernetMac
