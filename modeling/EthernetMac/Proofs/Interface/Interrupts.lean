import EthernetMac.Proofs.Interface.Footprint
import EthernetMac.Proofs.Interface.Lifecycle
import EthernetMac.Proofs.Program.Upholds
import EthernetMac.Proofs.Control

/-!
Completion interrupts. They stay pending until a status query that asks for them takes them,
or until bringing up forgets them, and nothing else takes or raises them: whether one is
pending can be told from the history of a run alone.
-/

namespace EthernetMac

/-- The interrupts that tell of a frame received or sent. -/
def completions : List Control := [.frameReceived, .frameSent]

/-- Taking what is pending leaves nothing pending. -/
theorem InterruptStatus.isSetIn_taken (value : UInt32) :
    ∀ control ∈ completions,
      control.isSetIn (value &&& ~~~(InterruptStatus.ofRegister value).toRegister) = false := by
  unfold ofRegister toRegister
  simp only [completions, List.forall_mem_cons]
  refine ⟨?received, ?sent, List.forall_mem_nil _⟩
  case received =>
    cases pending : Control.frameReceived.isSetIn value <;>
      cases Control.frameSent.isSetIn value <;>
      first
        | exact Control.isSetIn_and_not_of_covered _ _ (by decide)
        | rw [Control.isSetIn_and_not_of_apart _ _ (by decide), pending]
  case sent =>
    cases pending : Control.frameSent.isSetIn value <;>
      cases Control.frameReceived.isSetIn value <;>
      first
        | exact Control.isSetIn_and_not_of_covered _ _ (by decide)
        | rw [Control.isSetIn_and_not_of_apart _ _ (by decide), pending]

namespace Interface

open RegisterFile

variable {rx tx : Nat} {hardware : Hardware} {machine : Machine (Interface rx tx)}

theorem run_takeInterrupts (hardware : Hardware) (machine : Machine (Interface rx tx))
    (reactive : machine.bus.registers.behaviour = .reactive) :
    let pending := InterruptStatus.ofRegister machine.bus.registers.status
    ∃ bus, takeInterrupts.run hardware machine = (.ok pending, ⟨bus, machine.state⟩) ∧
      bus.registers.behaviour = .reactive ∧
      bus.registers.status = machine.bus.registers.status &&& ~~~pending.toRegister := by
  intro pending
  let look := machine.bus.read Register.dmaStatus.offset
  have looks : takeInterrupts.run hardware machine =
      (if pending.any then do
        Program.acknowledge pending.toRegister
        return pending
      else return pending : Program (Interface rx tx) _).run hardware ⟨look, machine.state⟩ := rfl
  rw [looks]
  cases any : pending.any with
  | true =>
    exact ⟨look.write Register.dmaStatus.offset pending.toRegister, rfl,
      (behaviour_write _ _ _).trans reactive, status_write reactive _⟩
  | false =>
    have none : pending.toRegister = 0 := by
      simp only [InterruptStatus.any, Bool.or_eq_false_iff] at any
      simp [InterruptStatus.toRegister, any]
    refine ⟨look, rfl, reactive, ?_⟩
    rw [none]
    show _ = machine.bus.registers.status &&& -1
    rw [UInt32.and_neg_one]
    rfl

/-- A status query that asks for interrupts tells of all that are pending and takes them. -/
theorem run_status {query : StatusQuery} (initialized : machine.state.lifecycle = .initialized)
    (asked : query.asks .interrupts = true)
    (reactive : machine.bus.registers.behaviour = .reactive) :
    let pending := InterruptStatus.ofRegister machine.bus.registers.status
    ∃ mediaPresent completed after, (status query).run hardware machine =
        (.ok (.ok ⟨mediaPresent, some pending, completed⟩), after) ∧
      after.bus.registers.behaviour = .reactive ∧
      after.bus.registers.status = machine.bus.registers.status &&& ~~~pending.toRegister := by
  intro pending
  have links : sampleLink.Ensures (fun _ _ => True) (fun _ _ => True) machine.state :=
    ensures_sampleLink (fun _ => trivial) fun _ => trivial
  obtain ⟨up, looked, look, -, -⟩ := Program.ensures_run links hardware
  have looked_registers : looked.bus.registers = machine.bus.registers := by
    have kept : (sampleLink.run hardware machine).2.bus.registers = machine.bus.registers :=
      Program.registers_of_observing hardware machine
        (emits_sampleLink (fun _ _ _ => trivial) (fun _ _ => trivial) fun _ _ => trivial)
    rwa [look] at kept
  have completes : (askCompletion query).Ensures Touch _ looked.state :=
    ensures_askCompletion query
  obtain ⟨completed, told, tell, -, -⟩ := Program.ensures_run completes hardware
  have told_registers : told.bus.registers = machine.bus.registers := by
    have kept : ((askCompletion query).run hardware looked).2.bus.registers =
        looked.bus.registers :=
      Program.registers_of_observing hardware looked (emits_askCompletion fun _ _ _ => trivial)
    rw [tell] at kept
    exact kept.trans looked_registers
  obtain ⟨bus, takes, reacts, taken⟩ := run_takeInterrupts hardware told
    (by rw [told_registers]; exact reactive)
  rw [told_registers] at takes taken
  refine ⟨up, completed, ⟨bus, told.state⟩, ?_, reacts, taken⟩
  unfold status
  rw [run_gated_of_initialized initialized, Program.run_bind, look]
  dsimp only
  rw [Program.run_bind, tell]
  dsimp only
  unfold askInterrupts
  rw [if_pos asked, Program.run_bind, Program.run_map, takes]
  rfl

section Spare

/-- The calls that may take interrupts. -/
def Call.Takes : Call → Prop
  | bringUp .. => True
  | status query => query.asks .interrupts = true
  | _ => False

/-- The window still reacts, and the same completions are pending. -/
structure SameCompletions (file other : RegisterFile) : Prop where
  reactive : file.behaviour = .reactive
  pending : ∀ control ∈ completions, control.isSetIn file.status = control.isSetIn other.status

theorem SameCompletions.write {file other : RegisterFile} (same : SameCompletions file other)
    {offset : Nat} (elsewhere : Register.dmaStatus.offset ≠ offset) (value : UInt32) :
    SameCompletions (file.write offset value) other where
  reactive := (behaviour_write _ _ _).trans same.reactive
  pending := by
    rw [status_write_other elsewhere]
    exact same.pending

/-- That the receive engine was starved is no completion. -/
theorem SameCompletions.resume {file other : RegisterFile} (same : SameCompletions file other) :
    SameCompletions (file.write Register.dmaStatus.offset Control.rxUnavailable.mask) other where
  reactive := (behaviour_write _ _ _).trans same.reactive
  pending control listed := by
    have apart : ∀ control ∈ completions,
        ~~~Control.rxUnavailable.mask &&& control.mask = control.mask := by decide
    rw [status_write same.reactive, Control.isSetIn_and_not_of_apart _ _ (apart control listed)]
    exact same.pending control listed

/-- Calls that have no business with interrupts take none, and do not wait for any. -/
theorem sameCompletions_run {call : Call} (spares : ¬ call.Takes)
    (reactive : machine.bus.registers.behaviour = .reactive) :
    let after := (call.program.run hardware machine).2
    SameCompletions after.bus.registers machine.bus.registers ∧
      after.bus.pauses = machine.bus.pauses := by
  have prompt : ∀ extraRx extraTx, call ≠ .bringUp extraRx extraTx := by
    rintro extraRx extraTx rfl
    exact spares trivial
  have upholds : call.program.Upholds hardware
      (fun file => SameCompletions file machine.bus.registers) machine := by
    apply upholds_of_permits _ (fun _ _ permits => absurd permits (not_permits_pause prompt))
      ⟨reactive, fun _ _ => rfl⟩
    intro last offset value file permits _ same
    cases permits with
    | constant listed =>
      cases call with
      | bringUp => exact absurd trivial spares
      | receive | transmit =>
        obtain ⟨rfl, -⟩ : offset = _ ∧ value = 0 := by simpa [Call.constants] using listed
        exact same.write (by decide) _
      | _ => contradiction
    | enable listed =>
      cases call with
      | bringUp => exact absurd trivial spares
      | transmit =>
        rcases List.mem_pair.1 listed with rfl | rfl <;> exact same.write (by decide) _
      | _ => contradiction
    | addressHigh | addressLow | filter => exact same.write (by decide) _
    | rxList | txList => exact absurd trivial spares
    | resume => exact same.resume
    | take asked => exact absurd asked spares
  exact ⟨upholds.run ⟨reactive, fun _ _ => rfl⟩, pauses_run prompt hardware machine⟩

end Spare

section Alert

/-- Whoever it is writes no interrupt, and the window reacts as before. -/
def Discreet (change : RegisterFile → RegisterFile) : Prop :=
  ∀ file, (change file).behaviour = file.behaviour ∧ (change file).status = file.status

/-- Some pause of those between `first` and `last` raises the interrupt. -/
def RaisedBetween (raised : Nat → UInt32) (control : Control) (first last : Nat) : Prop :=
  ∃ pause, first < pause ∧ pause ≤ last ∧ control.isSetIn (raised pause) = true

/-- Hardware that raises status bits in its pauses beside what else it does. -/
def alert (raised : Nat → UInt32) (elsewhere : Hardware) : Hardware :=
  fun pause file => (elsewhere pause file).raise (raised pause)

theorem evolve_alert {raised : Nat → UInt32} {elsewhere : Hardware}
    (discreet : ∀ pause, Discreet (elsewhere pause)) (first : Nat) (file : RegisterFile)
    (count : Nat) :
    let evolved := (alert raised elsewhere).evolve first file count
    evolved.behaviour = file.behaviour ∧
      ∀ control, control.isSetIn evolved.status = true ↔
        control.isSetIn file.status = true ∨
          RaisedBetween raised control first (first + count) := by
  induction count with
  | zero =>
    refine ⟨rfl, fun control => ⟨.inl, ?_⟩⟩
    rintro (pending | ⟨pause, after, before, -⟩)
    · exact pending
    · omega
  | succ count ih =>
    obtain ⟨behaviour, pending⟩ := ih
    obtain ⟨same, still⟩ :=
      discreet (first + count + 1) ((alert raised elsewhere).evolve first file count)
    refine ⟨same.trans behaviour, fun control => ?_⟩
    simp only [Hardware.evolve, alert, status_raise, Control.isSetIn_or, Bool.or_eq_true] at still ⊢
    rw [still, pending control]
    constructor
    · rintro ((earlier | ⟨pause, after, before, raises⟩) | raises)
      · exact .inl earlier
      · exact .inr ⟨pause, after, by omega, raises⟩
      · exact .inr ⟨first + count + 1, by omega, by omega, raises⟩
    · rintro (earlier | ⟨pause, after, before, raises⟩)
      · exact .inl (.inl earlier)
      · by_cases last : pause = first + count + 1
        · exact .inr (last ▸ raises)
        · exact .inl (.inr ⟨pause, after, by omega, raises⟩)

end Alert

section Step

/-- A step of a run whose interrupts are known: a call, with the status bits that the hardware
raises in each of its pauses beside what else it does then; status bits raised between two
calls; or anything else that the device does between them. -/
inductive AlertStep where
  | call (raised : Nat → UInt32) (elsewhere : Hardware) (call : Call)
  | raise (bits : UInt32)
  | device (action : DeviceAction)

def AlertStep.step : AlertStep → Step Call
  | call raised elsewhere request => .call (alert raised elsewhere) request
  | raise bits => .device (.registers fun file => file.raise bits)
  | device action => .device action

abbrev AlertMoment (rx tx : Nat) :=
  EthernetMac.Moment (Machine (Interface rx tx)) AlertStep (Option (Except Fault Reply))

def alerts (rx tx : Nat) :
    System (Machine (Interface rx tx)) AlertStep (Option (Except Fault Reply)) where
  step step := (system rx tx).step step.step

/-- Whatever changes the registers, it raises only the bits it is said to. -/
def AlertStep.Discreet : AlertStep → Machine (Interface rx tx) → Prop
  | .call _ elsewhere _, _ => ∀ pause, Interface.Discreet (elsewhere pause)
  | .raise _, _ => True
  | .device action, _ => Interface.Discreet action.onRegisters

/-- The interrupt was raised at that moment, or in a pause of its call. -/
def RaisedIn (control : Control) (moment : AlertMoment rx tx) : Prop :=
  match moment.step with
  | .raise bits => control.isSetIn bits = true
  | .call raised _ _ => RaisedBetween raised control moment.before.bus.pauses
      ((alerts rx tx).step moment.step moment.before).2.bus.pauses
  | .device _ => False

/-- An interface was brought up, or a status query told of all interrupts. -/
def Clears : AlertMoment rx tx → Prop
  | ⟨machine, .call _ _ (.bringUp ..), some (.ok (.plain (.ok ())))⟩ =>
    machine.state.lifecycle = .started
  | ⟨_, .call _ _ (.status query), some (.ok (.status (.ok _)))⟩ => query.asks .interrupts = true
  | _ => False

/-- The interrupt was raised since all were cleared. -/
def Pending (control : Control) : List (AlertMoment rx tx) → Prop
  | [] => False
  | moment :: earlier => ¬ Clears moment ∧ (RaisedIn control moment ∨ Pending control earlier)

/-- What a step comes to if its interrupts are accounted for. -/
structure Accounted (machine : Machine (Interface rx tx)) (step : AlertStep) : Prop where
  reactive : ((alerts rx tx).step step machine).2.bus.registers.behaviour = .reactive
  pending : ∀ control ∈ completions,
    control.isSetIn ((alerts rx tx).step step machine).2.bus.registers.status = true ↔
      ¬ Clears ((alerts rx tx).moment machine step) ∧
        (control.isSetIn machine.bus.registers.status = true ∨
          RaisedIn control ((alerts rx tx).moment machine step))

variable {raised : Nat → UInt32} {elsewhere : Hardware}

theorem not_clears {call : Call} (spares : ¬ call.Takes)
    (answer : Option (Except Fault Reply)) :
    ¬ Clears (⟨machine, .call raised elsewhere call, answer⟩ : AlertMoment rx tx) := by
  unfold Clears
  split
  next same =>
    injection same with _ step
    injection step with _ _ brings
    exact absurd (brings ▸ trivial) spares
  next same =>
    injection same with _ step
    injection step with _ _ asks
    subst asks
    exact spares
  next => exact id

/-- A call is accounted for by its run. -/
theorem Accounted.of_run {call : Call} {outcome : Except Fault Reply}
    {after : Machine (Interface rx tx)}
    (ran : call.program.run (alert raised elsewhere) machine = (outcome, after))
    (reactive : after.bus.registers.behaviour = .reactive)
    (pending : ∀ control ∈ completions, control.isSetIn after.bus.registers.status = true ↔
      ¬ Clears (⟨machine, .call raised elsewhere call, some outcome⟩ : AlertMoment rx tx) ∧
        (control.isSetIn machine.bus.registers.status = true ∨
          RaisedBetween raised control machine.bus.pauses after.bus.pauses)) :
    Accounted machine (.call raised elsewhere call) := by
  have stepped : (alerts rx tx).step (.call raised elsewhere call) machine =
      (some outcome, after) := by
    show (let result := call.program.run (alert raised elsewhere) machine
      (some result.1, result.2)) = _
    rw [ran]
  constructor
  · rw [stepped]
    exact reactive
  · intro control listed
    unfold RaisedIn System.moment
    simp only [stepped]
    exact pending control listed

/-- A call during which nothing is raised or taken. -/
theorem Accounted.of_same {call : Call} {outcome : Except Fault Reply}
    {after : Machine (Interface rx tx)}
    (ran : call.program.run (alert raised elsewhere) machine = (outcome, after))
    (clears : ¬ Clears (⟨machine, .call raised elsewhere call, some outcome⟩ : AlertMoment rx tx))
    (same : SameCompletions after.bus.registers machine.bus.registers)
    (pauses : after.bus.pauses = machine.bus.pauses) :
    Accounted machine (.call raised elsewhere call) := by
  apply Accounted.of_run ran same.reactive
  intro control listed
  have still : ¬ RaisedBetween raised control machine.bus.pauses after.bus.pauses := by
    rintro ⟨pause, later, sooner, -⟩
    omega
  simp [clears, still, same.pending control listed]

/-- Bringing up forgets all interrupts if it succeeds, and takes none if it does not. -/
theorem accounted_bringUp (extraRx extraTx : Nat)
    (reactive : machine.bus.registers.behaviour = .reactive)
    (discreet : ∀ pause, Discreet (elsewhere pause)) :
    Accounted machine (.call raised elsewhere (.bringUp extraRx extraTx)) := by
  have plain {extraRx extraTx : Nat} {result : Except Error Unit}
      {after : Machine (Interface rx tx)}
      (ran : (bringUp extraRx extraTx).run (alert raised elsewhere) machine = (.ok result, after)) :
      (Call.bringUp extraRx extraTx).program.run (alert raised elsewhere) machine =
        (.ok (.plain result), after) := by
    rw [Call.program, Program.run_map, ran]
  have same : SameCompletions machine.bus.registers machine.bus.registers :=
    ⟨reactive, fun _ _ => rfl⟩
  by_cases extra : extraRx ≠ 0 ∨ extraTx ≠ 0
  · exact .of_same (plain (run_bringUp_of_extra extra _ _)) id same rfl
  · obtain ⟨rfl, rfl⟩ : extraRx = 0 ∧ extraTx = 0 := by omega
    cases state : machine.state.lifecycle with
    | stopped => exact .of_same (plain (run_bringUp_of_stopped state _)) id same rfl
    | initialized =>
      refine .of_same (plain (run_bringUp_of_initialized state _)) ?_ same rfl
      intro (started : machine.state.lifecycle = .started)
      simp [state] at started
    | started =>
      by_cases leaves : machine.bus.LeavesReset (alert raised elsewhere) machine.state.config.timing
      · obtain ⟨bus, looks, -, waits, -, ran, registers, -⟩ := run_bringUpDevice_of_leaves leaves
        rw [← run_bringUp_of_started state] at ran
        have reacts : (machine.state.programmed ((alert raised elsewhere).evolve
            (machine.bus.pauses + looks) ((alert raised elsewhere).evolve machine.bus.pauses
              machine.bus.registers.askedReset looks) waits)).behaviour = .reactive := by
          rw [behaviour_programmed, (evolve_alert discreet _ _ _).1,
            (evolve_alert discreet _ _ _).1, behaviour_askedReset, reactive]
        refine .of_run (plain ran) ?_ fun control _ => ?_
        · rw [registers, behaviour_serving, reacts]
        · show _ ↔ ¬ machine.state.lifecycle = .started ∧ _
          rw [registers, status_serving reacts]
          simp [state, Control.isSetIn]
      · have ran := run_bringUpDevice_of_stays leaves
        rw [← run_bringUp_of_started state] at ran
        refine .of_run (plain ran) ?_ fun control _ => ?_
        · rw [Bus.registers_note, Bus.registers_pollReset, (evolve_alert discreet _ _ _).1,
            behaviour_askedReset, reactive]
        · show _ ↔ ¬ False ∧ _
          rw [Bus.registers_note, Bus.registers_pollReset, (evolve_alert discreet _ _ _).2,
            status_askedReset, Bus.pauses_note, Bus.pauses_pollReset]
          simp

/-- A status query that asks for interrupts takes them all, unless it is refused. -/
theorem accounted_status (query : StatusQuery)
    (reactive : machine.bus.registers.behaviour = .reactive)
    (asked : query.asks .interrupts = true) :
    Accounted machine (.call raised elsewhere (.status query)) := by
  have same : SameCompletions machine.bus.registers machine.bus.registers :=
    ⟨reactive, fun _ _ => rfl⟩
  have refused {notice : Notice} {error : Error}
      (refusal : refusal? machine.state.lifecycle .status = some (notice, error)) :
      Accounted machine (.call raised elsewhere (.status query)) :=
    .of_same (run_of_refusal rfl refusal _) id same rfl
  cases state : machine.state.lifecycle with
  | stopped => exact refused (by rw [state]; rfl)
  | started => exact refused (by rw [state]; rfl)
  | initialized =>
    obtain ⟨up, completed, after, ran, reacts, taken⟩ := run_status state asked reactive
    have answered : (Call.status query).program.run (alert raised elsewhere) machine =
        (.ok (.status (.ok ⟨up, some (InterruptStatus.ofRegister machine.bus.registers.status),
          completed⟩)), after) := by
      rw [Call.program, Program.run_map, ran]
    refine .of_run answered reacts fun control listed => ?_
    show _ ↔ ¬ query.asks .interrupts = true ∧ _
    rw [taken, InterruptStatus.isSetIn_taken _ control listed]
    simp [asked]

theorem accounted (reactive : machine.bus.registers.behaviour = .reactive) (step : AlertStep)
    (discreet : step.Discreet machine) : Accounted machine step := by
  cases step with
  | raise bits =>
    refine ⟨reactive, fun control _ => ?_⟩
    show control.isSetIn (machine.bus.registers.raise bits).status = true ↔
      ¬ False ∧ (_ ∨ control.isSetIn bits = true)
    rw [status_raise, Control.isSetIn_or, Bool.or_eq_true]
    simp
  | device action =>
    obtain ⟨same, still⟩ := discreet machine.bus.registers
    refine ⟨same.trans reactive, fun control _ => ?_⟩
    show control.isSetIn (action.onRegisters machine.bus.registers).status = true ↔
      ¬ False ∧ (_ ∨ False)
    rw [still]
    simp
  | call raised elsewhere call =>
    by_cases takes : call.Takes
    · cases call with
      | bringUp extraRx extraTx => exact accounted_bringUp extraRx extraTx reactive discreet
      | status query => exact accounted_status query reactive takes
      | _ => exact takes.elim
    · obtain ⟨same, pauses⟩ := sameCompletions_run takes reactive
      exact .of_same rfl (not_clears takes _) same pauses

end Step

/-- No completion interrupt is lost, told twice or made up. Where none was pending at first,
one is pending if and only if it was raised since all were cleared last. A status query that
asks for them tells of just those and takes the bits it tells of, 6 for a frame received and 0
for one sent, and no other; any other step adds what is raised in it, which in a call is what is
raised while it waits. -/
theorem interrupts_exactly_once {start : Machine (Interface rx tx)}
    (reactive : start.bus.registers.behaviour = .reactive)
    (clear : ∀ control ∈ completions, control.isSetIn start.bus.registers.status = false)
    (steps : List AlertStep) (follows : (alerts rx tx).Follows start AlertStep.Discreet steps) :
    let history := (alerts rx tx).history start steps
    let machine := (alerts rx tx).after start steps
    (∀ control ∈ completions,
      control.isSetIn machine.bus.registers.status = true ↔ Pending control history) ∧
    (∀ hardware query, machine.state.lifecycle = .initialized →
      query.asks .interrupts = true →
        ∃ mediaPresent interrupts completed after, (status query).run hardware machine =
            (.ok (.ok ⟨mediaPresent, some interrupts, completed⟩), after) ∧
          (interrupts.received = true ↔ Pending .frameReceived history) ∧
          (interrupts.sent = true ↔ Pending .frameSent history) ∧
          after.bus.registers.status = machine.bus.registers.status &&&
            ~~~((if interrupts.received then 0x40 else 0) |||
              if interrupts.sent then 0x1 else 0)) ∧
    (∀ step, step.Discreet machine → ¬ Clears ((alerts rx tx).moment machine step) →
      ∀ control ∈ completions,
        control.isSetIn ((alerts rx tx).step step machine).2.bus.registers.status = true ↔
          control.isSetIn machine.bus.registers.status = true ∨
            RaisedIn control ((alerts rx tx).moment machine step)) ∧
    ∀ hardware (call : Call), (∀ extraRx extraTx, call ≠ .bringUp extraRx extraTx) →
      (call.program.run hardware machine).2.bus.pauses = machine.bus.pauses := by
  intro history machine
  obtain ⟨reacts, pending⟩ : machine.bus.registers.behaviour = .reactive ∧
      ∀ control ∈ completions,
        control.isSetIn machine.bus.registers.status = true ↔ Pending control history := by
    refine System.holds_of_follows
      (fun history (machine : Machine (Interface rx tx)) =>
        machine.bus.registers.behaviour = .reactive ∧ ∀ control ∈ completions,
          control.isSetIn machine.bus.registers.status = true ↔ Pending control history)
      ⟨reactive, fun control listed => ?_⟩ ?_ steps follows
    · simp [clear control listed, Pending]
    · rintro history machine step discreet ⟨reactive, pending⟩
      have accounts := accounted reactive step discreet
      refine ⟨accounts.reactive, fun control listed => ?_⟩
      rw [accounts.pending control listed, pending control listed, Pending, or_comm]
  refine ⟨pending, ?_, ?_, fun hardware call prompt => pauses_run prompt hardware machine⟩
  · intro hardware query initialized asked
    obtain ⟨mediaPresent, completed, after, ran, -, taken⟩ := run_status initialized asked reacts
    exact ⟨mediaPresent, _, completed, after, ran, pending _ (by decide), pending _ (by decide),
      taken⟩
  · intro step discreet clears control listed
    rw [(accounted reacts step discreet).pending control listed]
    exact and_iff_right clears

/-- A frame is received and told of; then one is sent, and the receive engine starves. -/
theorem interrupts_exactly_once_of_two :
    let start : Machine (Interface 2 2) :=
      ⟨{ registers := .blank .reactive }, Interface.blank {}
        (Queues.blank ⟨0x1000, 0x2000, 0x4000⟩ (Nat.le_refl 2) (Nat.le_refl 2))⟩
    let calm (call : Call) : AlertStep := .call (fun _ => 0) .idle call
    let steps : List AlertStep :=
      [calm (.receive []), .raise 0x81, calm (.status .interrupts), .raise 0x40,
        calm (.bringUp 0 0), .raise 0x41, calm .start]
    let history := (alerts 2 2).history start steps
    let machine := (alerts 2 2).after start steps
    Pending .frameSent history ∧ ¬ Pending .frameReceived history ∧
      ∃ mediaPresent completed after, (status .interrupts).run .idle machine =
          (.ok (.ok ⟨mediaPresent, some ⟨false, true⟩, completed⟩), after) ∧
        after.bus.registers.status = machine.bus.registers.status &&& ~~~0x1 := by
  intro start calm steps history machine
  have idle (pause : Nat) : Discreet (Hardware.idle pause) := fun _ => ⟨rfl, rfl⟩
  have follows : (alerts 2 2).Follows start AlertStep.Discreet steps :=
    ⟨idle, trivial, idle, trivial, idle, trivial, idle, trivial⟩
  obtain ⟨pending, takes, -⟩ := interrupts_exactly_once rfl (by decide) steps follows
  have sent : Pending .frameSent history := (pending _ (by decide)).1 (by decide +kernel)
  have unreceived : ¬ Pending .frameReceived history :=
    mt (pending _ (by decide)).2 (by decide +kernel)
  obtain ⟨mediaPresent, ⟨tellsReceived, tellsSent⟩, completed, after, ran, received_iff, sent_iff,
    taken⟩ := takes .idle .interrupts (by decide +kernel) (by decide)
  obtain rfl : tellsReceived = false := Bool.eq_false_iff.2 (mt received_iff.1 unreceived)
  obtain rfl : tellsSent = true := sent_iff.2 sent
  refine ⟨sent, unreceived, mediaPresent, completed, after, ran, ?_⟩
  rw [taken]
  congr 1

end Interface

end EthernetMac
