import EthernetMac.Proofs.Control
import EthernetMac.Proofs.Interface.Footprint
import EthernetMac.Proofs.Program.Registers
import EthernetMac.Proofs.Receive.Scan

/-!
How receiving wakes the device. The driver looks at the status each time it has given a
descriptor back; if the receive engine is suspended it takes the bit back and demands a poll.
The bit stays clear after that, so this happens once in a call at most, when the first
descriptor is the device's again, and however the call ends.
-/

namespace EthernetMac

namespace RegisterFile

variable {file : RegisterFile}

/-- The receive engine ran out of descriptors. -/
def starved (file : RegisterFile) : Bool := Control.rxUnavailable.isSetIn file.status

/-- The registers when the receive engine was woken. -/
def woken (file : RegisterFile) : RegisterFile :=
  (file.write Register.dmaStatus.offset Control.rxUnavailable.mask).write
    Register.rxPollDemand.offset 0

@[simp] theorem behaviour_woken : file.woken.behaviour = file.behaviour := by simp [woken]

/-- One status bit is cleared and one demand is counted. -/
theorem woken_of_reactive (reactive : file.behaviour = .reactive) :
    file.woken =
      { file.store Register.dmaStatus.offset
          (file.status &&& ~~~Control.rxUnavailable.mask) with
        rxDemands := file.rxDemands + 1 } := by
  unfold woken
  rw [write_of_reactive ((behaviour_write _ _ _).trans reactive), write_of_reactive reactive]
  simp [writeReactive, Register.offset, status]
  rfl

theorem not_starved_woken (reactive : file.behaviour = .reactive) :
    file.woken.starved = false := by
  unfold starved
  rw [woken, status_write_other (by decide), status_write reactive]
  exact Control.isSetIn_and_not_of_covered _ _ (by decide)

end RegisterFile

namespace RxQueue

variable {n count other : Nat} {queue after : RxQueue n}

theorem Recycles.eq_zero (run : Recycles count queue queue) : count = 0 := by
  cases count with
  | zero => rfl
  | succ count =>
    obtain ⟨closed, given⟩ := run.get_ahead ⟨0, Nat.succ_pos count, rfl⟩
    rw [given, owner_giveToHardware] at closed
    contradiction

/-- How many descriptors were given back can be told from the queue afterwards. -/
theorem Recycles.unique (run : Recycles count queue after) (again : Recycles other queue after) :
    count = other := by
  induction run generalizing other with
  | none => exact again.eq_zero.symm
  | next closed rest ih =>
    cases again with
    | none => exact (Recycles.next closed rest).eq_zero
    | next _ later => rw [ih later]

end RxQueue

namespace Queues

variable {rx tx : Nat} {α β : Type} {hardware : Hardware}

/-- What a program that gives back `count` descriptors does to the registers: it looks at the
status that often, and wakes a suspended receive engine after the first. -/
structure Resumes (hardware : Hardware) (program : Program (Queues rx tx) α)
    (machine : Machine (Queues rx tx)) (count : Nat) : Prop where
  looks : (program.events hardware machine).countP (Event.looksAt Register.dmaStatus.offset) = count
  wakes : machine.bus.registers.starved = true → 0 < count →
    (program.writes hardware machine).map Write.entry =
      [(Register.dmaStatus.offset, Control.rxUnavailable.mask),
        (Register.rxPollDemand.offset, 0)] ∧
    (∀ write ∈ program.writes hardware machine,
      write.before.state = { machine.state with rx := machine.state.rx.recycle }) ∧
    (program.run hardware machine).2.bus.registers = machine.bus.registers.woken
  passes : machine.bus.registers.starved = false ∨ count = 0 →
    program.writes hardware machine = [] ∧
    (program.run hardware machine).2.bus.registers = machine.bus.registers

section Rules

variable {machine next : Machine (Queues rx tx)} {count : Nat} {value : α}
  {program : Program (Queues rx tx) α} {rest : α → Program (Queues rx tx) β}

theorem resumes_pure (value : α) :
    Resumes hardware (pure value : Program (Queues rx tx) α) machine 0 :=
  ⟨rfl, nofun, fun _ => ⟨rfl, rfl⟩⟩

theorem Resumes.bind_get {rest : Queues rx tx → Program (Queues rx tx) β}
    (later : Resumes hardware (rest machine.state) machine count) :
    Resumes hardware (Program.get >>= rest) machine count :=
  ⟨later.looks, later.wakes, later.passes⟩

/-- Once a descriptor was given back the receive engine is awake. -/
theorem Resumes.bind (first : Resumes hardware program machine 1)
    (reactive : machine.bus.registers.behaviour = .reactive)
    (ran : program.run hardware machine = (.ok value, next))
    (later : Resumes hardware (rest value) next count) :
    Resumes hardware (program >>= rest) machine (count + 1) := by
  have first_wakes := first.wakes
  have first_passes := first.passes
  rw [ran] at first_wakes first_passes
  have awake : next.bus.registers.starved = false := by
    cases starved : machine.bus.registers.starved with
    | true => rw [(first_wakes starved Nat.one_pos).2.2, RegisterFile.not_starved_woken reactive]
    | false => rw [(first_passes (.inl starved)).2, starved]
  obtain ⟨silent, kept⟩ := later.passes (.inl awake)
  have writes : (program >>= rest).writes hardware machine = program.writes hardware machine := by
    rw [Program.writes_bind, ran]
    simp [silent]
  have registers : ((program >>= rest).run hardware machine).2.bus.registers =
      next.bus.registers := by
    rw [Program.run_bind, ran]
    exact kept
  constructor
  · rw [Program.events_bind, ran, List.countP_append, first.looks, later.looks, Nat.add_comm]
  · intro starved _
    rw [writes, registers]
    exact first_wakes starved Nat.one_pos
  · rintro (awake | none)
    · rw [writes, registers]
      exact first_passes (.inl awake)
    · contradiction

theorem Resumes.behaviour_run (resumes : Resumes hardware program machine count) :
    (program.run hardware machine).2.bus.registers.behaviour =
      machine.bus.registers.behaviour := by
  by_cases quiet : machine.bus.registers.starved = false ∨ count = 0
  · rw [(resumes.passes quiet).2]
  · simp only [not_or, Bool.not_eq_false] at quiet
    rw [(resumes.wakes quiet.1 (Nat.pos_of_ne_zero quiet.2)).2.2, RegisterFile.behaviour_woken]

theorem registers_of_telling
    (tells : program.Emits (fun _ event => event.Tells) (fun _ _ => True) (.pause 0))
    (ran : program.run hardware machine = (.ok value, next)) :
    next.bus.registers = machine.bus.registers := by
  have kept := Program.registers_of_observing hardware machine
    (tells.mono (fun _ _ tells => tells.observes) fun _ _ => id)
  rwa [ran] at kept

/-- Telling comes before. -/
theorem Resumes.bind_telling
    (tells : program.Emits (fun _ event => event.Tells) (fun _ _ => True) (.pause 0))
    (ran : program.run hardware machine = (.ok value, next)) (same : next.state = machine.state)
    (later : Resumes hardware (rest value) next count) :
    Resumes hardware (program >>= rest) machine count := by
  have silent : program.writes hardware machine = [] :=
    (tells.mono (fun _ _ tells => tells.observes.passive) fun _ _ => id).writes_eq_nil machine
  have blind : (program.events hardware machine).countP
      (Event.looksAt Register.dmaStatus.offset) = 0 := by
    rw [List.countP_eq_zero]
    intro event inside
    obtain ⟨_, tells⟩ := tells.allowed_of_mem_events machine event inside
    exact tells.not_looksAt _
  have kept := registers_of_telling tells ran
  have later_wakes := later.wakes
  have later_passes := later.passes
  rw [kept, same] at later_wakes
  rw [kept] at later_passes
  constructor
  · rw [Program.events_bind, ran, List.countP_append, blind, later.looks, Nat.zero_add]
  · rw [Program.writes_bind, Program.run_bind, ran, silent]
    exact later_wakes
  · rw [Program.writes_bind, Program.run_bind, ran, silent]
    exact later_passes

end Rules

theorem resumes_recycle (machine : Machine (Queues rx tx)) :
    Resumes hardware recycle machine 1 := by
  let recycled : Queues rx tx := { machine.state with rx := machine.state.rx.recycle }
  let look := machine.bus.read Register.dmaStatus.offset
  let wake : Program (Queues rx tx) Unit :=
    if machine.bus.registers.starved then do
      Program.acknowledge Control.rxUnavailable.mask
      Program.demandRx
    else return
  have ran : (recycle.run hardware machine) = wake.run hardware ⟨look, recycled⟩ := rfl
  have events : recycle.events hardware machine =
      .read Register.dmaStatus.offset machine.bus.registers.status ::
        wake.events hardware ⟨look, recycled⟩ := rfl
  have writes : recycle.writes hardware machine = wake.writes hardware ⟨look, recycled⟩ := rfl
  constructor
  · rw [events]
    cases starved : machine.bus.registers.starved <;> simp [wake, starved] <;> rfl
  · intro starved _
    rw [writes, ran]
    simp only [wake, if_pos starved]
    have made : ∀ write ∈ (do
        Program.acknowledge Control.rxUnavailable.mask
        Program.demandRx : Program (Queues rx tx) Unit).writes hardware ⟨look, recycled⟩,
        write.before.state = recycled :=
      List.forall_mem_cons.2 ⟨rfl, List.forall_mem_singleton.2 rfl⟩
    exact ⟨rfl, made, rfl⟩
  · intro awake
    have awake : machine.bus.registers.starved = false := awake.resolve_right Nat.one_ne_zero
    rw [writes, ran]
    simp only [wake, awake]
    exact ⟨rfl, rfl⟩

theorem run_recycle (machine : Machine (Queues rx tx)) :
    ∃ next, recycle.run hardware machine = (.ok (), next) ∧
      next.state = { machine.state with rx := machine.state.rx.recycle } ∧
      next.bus.registers.behaviour = machine.bus.registers.behaviour := by
  have ensures : recycle.Ensures (fun _ _ => True)
      (fun _ after => after = { machine.state with rx := machine.state.rx.recycle })
      machine.state := (ensures_recycle _).2 ⟨trivial, rfl⟩
  obtain ⟨_, next, ran, state, -⟩ := Program.ensures_run ensures hardware
  have kept : (recycle.run hardware machine).2.bus.registers.behaviour =
      machine.bus.registers.behaviour := (resumes_recycle machine).behaviour_run
  rw [ran] at kept
  exact ⟨next, ran, state, kept⟩

theorem tells_inspect (descriptor : Descriptor) (buffer : List UInt8) :
    (inspect descriptor buffer : Program (Queues rx tx) Verdict).Emits
      (fun _ event => event.Tells) (fun _ _ => True) (.pause 0) :=
  Interface.emits_inspect (fun _ _ _ => trivial) descriptor

theorem run_inspect {machine : Machine (Queues rx tx)} (inside : machine.state.rx.ring.index < rx)
    (buffer : List UInt8) :
    ∃ told, (inspect machine.state.rx.ring.current buffer).run hardware machine =
        (.ok (machine.state.rx.verdict buffer), told) ∧
      told.state = machine.state ∧ told.bus.registers = machine.bus.registers := by
  have ensures : (inspect machine.state.rx.ring.current buffer).Ensures (fun _ _ => False)
      (fun verdict after => verdict = machine.state.rx.verdict buffer ∧ after = machine.state)
      machine.state := (ensures_inspect inside buffer _).2 ⟨rfl, rfl⟩
  obtain ⟨_, told, ran, ⟨rfl, state⟩, -⟩ := Program.ensures_run ensures hardware
  exact ⟨told, ran, state, registers_of_telling (tells_inspect _ buffer) ran⟩

/-- One waking is due in a drain of any length. -/
theorem resumes_drain {count : Nat} {machine : Machine (Queues rx tx)}
    (inside : machine.state.rx.ring.index < rx)
    (reactive : machine.bus.registers.behaviour = .reactive) (buffer : List UInt8) (budget : Nat)
    (given : RxQueue.Recycles count machine.state.rx (machine.state.rx.drain buffer budget).2) :
    Resumes hardware (drain buffer budget) machine count := by
  induction budget generalizing machine count with
  | zero =>
    obtain rfl : count = 0 := given.eq_zero
    exact resumes_pure _
  | succ budget ih =>
    unfold drain
    apply Resumes.bind_get
    cases owner : machine.state.rx.ring.current.owner with
    | hardware =>
      rw [RxQueue.drain_of_hardware owner] at given
      obtain rfl : count = 0 := given.eq_zero
      exact resumes_pure _
    | software =>
      obtain ⟨told, looked, told_state, told_registers⟩ := run_inspect inside buffer
      obtain ⟨next, recycled, next_state, next_behaviour⟩ := run_recycle told
      have told_reactive : told.bus.registers.behaviour = .reactive := by
        rw [told_registers, reactive]
      apply Resumes.bind_telling (tells_inspect _ buffer) looked told_state
      -- whether or not there is an answer, the descriptor has been given back by then
      cases answer : machine.state.rx.verdict buffer with
      | some answer =>
        rw [RxQueue.drain_of_answer owner answer] at given
        obtain rfl : count = 1 := given.unique (.next owner (.none _))
        exact (resumes_recycle told).bind told_reactive recycled (resumes_pure _)
      | none =>
        rw [RxQueue.drain_of_nothing owner answer] at given
        obtain ⟨later, rest⟩ := RxQueue.drain_recycles buffer budget machine.state.rx.recycle
        obtain rfl : count = later + 1 := given.unique (.next owner rest)
        have next_rx : next.state.rx = machine.state.rx.recycle := by rw [next_state, told_state]
        refine (resumes_recycle told).bind told_reactive recycled
          (ih ?_ (next_behaviour.trans told_reactive) ?_)
        · rw [next_rx]
          exact SlotRing.index_advance_lt _
        · rw [next_rx]
          exact rest

/-- On a reactive window a receive looks at the status once for each descriptor it gives back.
If the receive engine is suspended then, it is woken once, after the first of them, and else
nothing is written; the result has no part in it. -/
theorem receive_resumes_once (queues : Queues rx tx) (inside : queues.rx.ring.index < rx)
    (buffer : List UInt8) (hardware : Hardware) (bus : Bus)
    (reactive : bus.registers.behaviour = .reactive) :
    let machine : Machine (Queues rx tx) := ⟨bus, queues⟩
    let scan := queues.rx.scan buffer
    let status := bus.registers.status
    let writes := (receive buffer).writes hardware machine
    ∃ after, (receive buffer).run hardware machine = (.ok (scan.result, scan.filled), after) ∧
      RxQueue.Recycles scan.count queues.rx after.state.rx ∧
      ((receive buffer).events hardware machine).countP
        (Event.looksAt Register.dmaStatus.offset) = scan.count ∧
      (Control.rxUnavailable.isSetIn status = true → 1 ≤ scan.count →
        writes.map Write.entry =
          [(Register.dmaStatus.offset, Control.rxUnavailable.mask),
            (Register.rxPollDemand.offset, 0)] ∧
        (∀ write ∈ writes, write.before.state = { queues with rx := queues.rx.recycle } ∧
          write.before.state.rx.owner queues.rx.ring.index = .hardware) ∧
        after.bus.registers =
          { bus.registers.store Register.dmaStatus.offset
              (status &&& ~~~Control.rxUnavailable.mask) with
            rxDemands := bus.registers.rxDemands + 1 } ∧
        Control.rxUnavailable.isSetIn after.bus.registers.status = false) ∧
      (Control.rxUnavailable.isSetIn status = false ∨ scan.count = 0 →
        writes = [] ∧ after.bus.registers = bus.registers) := by
  intro machine scan status writes
  obtain ⟨answers, recycles⟩ := RxQueue.drain_scan inside buffer (Nat.le_refl rx)
  obtain ⟨answer, after, ran, ⟨drained, -⟩, -⟩ :=
    @Program.ensures_run _ _ _ _ _ machine (ensures_receive inside buffer) hardware
  have resumes : Resumes hardware (receive buffer) machine scan.count :=
    resumes_drain inside reactive buffer rx recycles
  have wakes := resumes.wakes
  have passes := resumes.passes
  rw [ran] at wakes passes
  have given : (queues.rx.drain buffer rx).1 = answer := by rw [← drained]
  have left : (queues.rx.drain buffer rx).2 = after.state.rx := by rw [← drained]
  rw [given] at answers
  rw [left] at recycles
  refine ⟨after, by rw [ran, answers], recycles, resumes.looks, ?_, passes⟩
  intro starved some
  obtain ⟨entries, states, registers⟩ := wakes starved some
  refine ⟨entries, fun write made => ?_, registers.trans (RegisterFile.woken_of_reactive reactive),
    ?_⟩
  · rw [states write made]
    refine ⟨rfl, ?_⟩
    show (queues.rx.recycle.ring.get queues.rx.ring.index).owner = .hardware
    rw [RxQueue.get_recycle, if_pos rfl, RxQueue.owner_giveToHardware]
  · rw [registers]
    exact RegisterFile.not_starved_woken reactive

/-- Two fragments are dropped and no frame is found; the engine is woken after the first of them,
and what else is pending stays so. -/
theorem receive_resumes_once_of_fragments :
    let rebuilt : Queues 2 2 :=
      (Queues.blank ⟨0x1000, 0x2000, 0x4000⟩ (Nat.le_refl 2) (Nat.le_refl 2)).rebuild
    let queues : Queues 2 2 := { rebuilt with
      rx := (rebuilt.rx.close 0 Descriptor.firstOfFrame).close 1 Descriptor.lastOfFrame }
    let bus : Bus := { registers := (RegisterFile.blank .reactive).raise 0xC0 }
    let writes := (receive [1]).writes .idle ⟨bus, queues⟩
    ∃ after, (receive [1]).run .idle ⟨bus, queues⟩ = (.ok (.error .notReady, [1]), after) ∧
      RxQueue.Recycles 2 queues.rx after.state.rx ∧
      writes.map Write.entry =
        [(Register.dmaStatus.offset, Control.rxUnavailable.mask),
          (Register.rxPollDemand.offset, 0)] ∧
      (∀ write ∈ writes, write.before.state.rx.owners = [.hardware, .software]) ∧
      after.bus.registers.status = 0x40 ∧ after.bus.registers.rxDemands = 1 := by
  intro rebuilt queues bus writes
  have scanned : queues.rx.scan [1] = ⟨.error .notReady, [1], 2⟩ := by decide +kernel
  obtain ⟨after, ran, recycles, -, wakes, -⟩ :=
    receive_resumes_once queues (by decide) [1] .idle bus rfl
  rw [scanned] at ran recycles wakes
  obtain ⟨entries, states, registers, -⟩ := wakes (by decide) (by decide)
  refine ⟨after, ran, recycles, entries, fun write made => ?_, ?_, ?_⟩
  · rw [(states write made).1]
    decide +kernel
  · rw [registers]
    decide
  · rw [registers]
    rfl

end Queues

end EthernetMac
