import EthernetMac.Proofs.Interface.Layout
import EthernetMac.Proofs.Interface.Service
import EthernetMac.Proofs.Receive.Arrival
import EthernetMac.Proofs.Receive.Scan
import EthernetMac.Proofs.Transmit.Completion

/-!
An interface that goes into service has no past. Descriptors, indices and the registers
that bringing up programs are then the same whatever went before, and from then on no
reply speaks of a frame that was published or closed earlier: what is received is what lies
in the buffer of a slot that the device closed since.
-/

namespace EthernetMac.Interface

variable {rx tx : Nat}

/-- A started interface, after any run, on registers that react and let a reset complete. -/
structure Ready (placement : Placement) (machine : Machine (Interface rx tx)) : Prop where
  reachable : ∃ (two_le_rx : 2 ≤ rx) (two_le_tx : 2 ≤ tx) (config : Config) (bus : Bus)
    (steps : List (Step Call)), machine = (system rx tx).after
      ⟨bus, Interface.blank config (Queues.blank placement two_le_rx two_le_tx)⟩ steps
  started : machine.state.lifecycle = .started
  live : machine.bus.registers.Live

theorem Ready.placed {placement : Placement} {machine : Machine (Interface rx tx)}
    (ready : Ready placement machine) : machine.state.queues.Placed placement := by
  obtain ⟨two_le_rx, two_le_tx, config, bus, steps, same⟩ := ready.reachable
  rw [same]
  exact holds_of_steps (placed_invariant placement)
    (Queues.placed_blank placement two_le_rx two_le_tx) steps

/-- Nothing is left but the address and the place of the rings. -/
structure Renewed (placement : Placement) (machine : Machine (Interface rx tx)) : Prop where
  rx_owner : ∀ slot, machine.state.queues.rx.owner slot = .hardware
  tx_owner : ∀ slot, machine.state.queues.tx.owner slot = .software
  tx_words : ∀ slot, (machine.state.queues.tx.ring.get slot).words.take 3 = [0, 0, 0]
  rx_index : machine.state.queues.rx.ring.index = 0
  tx_index : machine.state.queues.tx.ring.index = 0
  release : machine.state.queues.tx.release = 0
  pending : machine.state.queues.tx.pending = 0
  registers : ∀ entry ∈ machine.state.serviceRegisters placement,
    machine.bus.registers.read entry.1 = entry.2

theorem renewed_inService {placement : Placement} {interface : Interface rx tx}
    (placed : interface.queues.Placed placement) {bus : Bus} {file : RegisterFile}
    (live : file.Live)
    (programmed : bus.registers = (interface.programmed file.askedReset).serving) :
    Renewed placement ⟨bus, interface.inService⟩ where
  rx_owner := interface.queues.rx.owner_rebuild
  tx_owner := TxQueue.owner_rebuild
  tx_words slot := by
    show (interface.queues.tx.rebuild.ring.get slot).words.take 3 = _
    rw [TxQueue.get_rebuild]
    rfl
  rx_index := rfl
  tx_index := rfl
  release := rfl
  pending := rfl
  registers := by
    rw [programmed]
    exact read_service placed live

/-- The status that the device writes into a receive descriptor at that moment. -/
def statusIn (slot : Nat) : Moment rx tx → Option UInt32
  | ⟨_, .device (.rxStatus index status), _⟩ =>
    if index % rx = slot % rx then some status else none
  | _ => none

def lastStatus (history : List (Moment rx tx)) (slot : Nat) : Option UInt32 :=
  System.latest (statusIn slot) history

/-- The bytes that the device stores in a receive buffer at that moment. -/
def bytesIn (slot : Nat) : Moment rx tx → Option Buffer
  | ⟨_, .device (.rxBuffer index content), _⟩ =>
    if index % rx = slot % rx then some content else none
  | _ => none

/-- What lies in the buffer of a slot after a run: the bytes that the device stored last, or
those that were there when the run began. -/
def lastBytes (found : Queues rx tx) (history : List (Moment rx tx)) (slot : Nat) : Buffer :=
  (System.latest (bytesIn slot) history).getD (found.rx.stored slot)

/-- What the driver finds closed, the device closed in the run, and what it finds in a buffer
is what the run made of it. -/
structure Noted (found : Queues rx tx) (history : List (Moment rx tx)) (queues : Queues rx tx) :
    Prop where
  inside : queues.rx.ring.index < rx
  noted : ∀ slot, queues.rx.owner slot = .software →
    lastStatus history slot = some (queues.rx.ring.get slot).status
  stored : ∀ slot, queues.rx.stored slot = lastBytes found history slot

section Step

variable {found : Queues rx tx} {history : List (Moment rx tx)}
  {machine : Machine (Interface rx tx)}

theorem lastBytes_of_none {moment : Moment rx tx} (silent : ∀ slot, bytesIn slot moment = none) :
    lastBytes found (moment :: history) = lastBytes found history := by
  funext slot
  exact congrArg (Option.getD · _) (System.latest_cons_of_none (silent slot) history)

theorem Noted.call (noted : Noted found history machine.state.queues) {hardware : Hardware}
    {call : Call} {reply : Reply} {after : Queues rx tx}
    (outcome : Outcome machine.state call reply after) :
    Noted found (⟨machine, .call hardware call, some (.ok reply)⟩ :: history) after := by
  have kept (slot : Nat) (free : machine.state.queues.rx.owner slot = .software) :
      lastStatus (⟨machine, .call hardware call, some (.ok reply)⟩ :: history) slot =
        some (machine.state.queues.rx.ring.get slot).status :=
    (System.latest_cons_of_none rfl history).trans (noted.noted slot free)
  have stored : lastBytes found (⟨machine, .call hardware call, some (.ok reply)⟩ :: history) =
      lastBytes found history := lastBytes_of_none fun _ => rfl
  cases outcome with
  | keep | publish | retire => exact ⟨noted.inside, kept, stored ▸ noted.stored⟩
  | rebuild started =>
    refine ⟨machine.state.queues.rx.ring.pos, ?_, stored ▸ noted.stored⟩
    intro slot (free : machine.state.queues.rx.rebuild.owner slot = .software)
    rw [RxQueue.owner_rebuild] at free
    contradiction
  | @drain buffer filled result queue drained =>
    obtain ⟨count, run⟩ := RxQueue.drain_recycles buffer rx machine.state.queues.rx
    rw [drained] at run
    refine ⟨run.index_lt noted.inside, ?noted, ?stored⟩
    case noted =>
      intro slot (free : (queue.ring.get slot).owner = .software)
      by_cases ahead : machine.state.queues.rx.Ahead count slot
      · rw [(run.get_ahead ahead).2, RxQueue.owner_giveToHardware] at free
        contradiction
      · have same := run.get_beyond ahead
        rw [same] at free
        rw [kept slot free]
        exact congrArg (some ·.status) same.symm
    case stored =>
      intro slot
      rw [stored, ← noted.stored slot]
      exact RxQueue.stored_congr run.same_place.2.2 slot

theorem Noted.device (noted : Noted found history machine.state.queues) (action : DeviceAction) :
    Noted found (⟨machine, .device action, none⟩ :: history)
      (action.onQueues machine.state.queues) := by
  have aside {moment : Moment rx tx} (silent : ∀ slot, statusIn slot moment = none) (slot : Nat)
      (free : machine.state.queues.rx.owner slot = .software) :
      lastStatus (moment :: history) slot =
        some (machine.state.queues.rx.ring.get slot).status :=
    (System.latest_cons_of_none (silent slot) history).trans (noted.noted slot free)
  have stays {moment : Moment rx tx} (silent : ∀ slot, bytesIn slot moment = none) (slot : Nat) :
      machine.state.queues.rx.stored slot = lastBytes found (moment :: history) slot := by
    rw [lastBytes_of_none silent]
    exact noted.stored slot
  cases action with
  | txStatus | registers => exact ⟨noted.inside, aside fun _ => rfl, stays fun _ => rfl⟩
  | rxBuffer index content =>
    refine ⟨noted.inside, aside fun _ => rfl, ?_⟩
    intro slot
    show (machine.state.queues.rx.writeBuffer index content).stored slot = _
    unfold lastBytes
    rw [RxQueue.stored_writeBuffer, System.latest_cons, bytesIn]
    by_cases here : slot % rx = index % rx
    · rw [if_pos here, if_pos here.symm]
      rfl
    · have elsewhere : ¬ index % rx = slot % rx := fun same => here same.symm
      rw [if_neg here, if_neg elsewhere]
      exact noted.stored slot
  | rxStatus index status =>
    refine ⟨noted.inside, ?_, stays fun _ => rfl⟩
    intro slot free
    show System.latest _ _ = some ((machine.state.queues.rx.writeStatus index status).ring.get
      slot).status
    rw [System.latest_cons, statusIn, RxQueue.get_writeStatus]
    by_cases here : slot % rx = index % rx
    · rw [if_pos here, if_pos here.symm]
      rfl
    · have elsewhere : ¬ index % rx = slot % rx := fun same => here same.symm
      rw [if_neg here, if_neg elsewhere]
      apply noted.noted slot
      have kept : ((machine.state.queues.rx.writeStatus index status).ring.get slot).owner =
          .software := free
      rwa [RxQueue.get_writeStatus, if_neg here] at kept

end Step

theorem tracks_noted (found : Queues rx tx) :
    Tracks (fun _ => True) (Noted found : List (Moment rx tx) → Queues rx tx → Prop) where
  inside _ _ noted := noted.inside
  call _ _ _ _ _ _ outcome noted := noted.call outcome
  device _ _ action _ noted := noted.device action

/-- The device's last word on the slot in the run is that it holds a whole frame of that
length, which is the driver's. -/
def ClosedIn (history : List (Moment rx tx)) (slot length : Nat) : Prop :=
  ∃ status, lastStatus history slot = some status ∧ status &&& 0x80000000 = 0 ∧
    status &&& 0x300 = 0x300 ∧ ((status &&& 0x3FFF0000) >>> 16).toNat = length

/-- What a caller who wants to receive is answered after a run, with the read index then
behind the slot that answered: of a frame that the device closed in the run, and with the bytes
that the run left in its buffer, or of none. -/
inductive ReceivedIn (found : Queues rx tx) (history : List (Moment rx tx)) (buffer : List UInt8)
    (index : Nat) : Except Error ReceivedFrame × List UInt8 → Prop
  | nothing {error : Error} (mute : ∀ length, error ≠ .bufferTooSmall length) :
    ReceivedIn found history buffer index (.error error, buffer)
  | refused {slot length : Nat} (passed : index = (slot + 1) % rx)
    (closed : ClosedIn history slot length) (small : buffer.length < length) :
    ReceivedIn found history buffer index (.error (.bufferTooSmall length), buffer)
  | delivered {slot length : Nat} (passed : index = (slot + 1) % rx)
    (closed : ClosedIn history slot length) (fits : length ≤ 2048)
    (room : length ≤ buffer.length) {filled : List UInt8}
    (copied : filled =
      (lastBytes found history slot).toList.take length ++ buffer.drop length) :
    ReceivedIn found history buffer index (.ok (frameIn filled length), filled)

theorem Noted.closedIn {found : Queues rx tx} {history : List (Moment rx tx)}
    {queues : Queues rx tx} (noted : Noted found history queues) {slot : Nat}
    (free : queues.rx.owner slot = .software)
    (whole : (queues.rx.ring.get slot).isWholeFrame = true) :
    ClosedIn history slot (queues.rx.ring.get slot).frameLength := by
  refine ⟨_, noted.noted slot free, ?_, ?_, rfl⟩
  · by_contra owned
    have held : queues.rx.owner slot = .hardware := if_neg owned
    rw [held] at free
    contradiction
  · exact of_decide_eq_true whole

/-- What the scan comes to is an answer of that kind. -/
theorem Noted.receivedIn {found : Queues rx tx} {history : List (Moment rx tx)}
    {queues : Queues rx tx} (noted : Noted found history queues) (buffer : List UInt8) {index : Nat}
    (passed : index = (queues.rx.ring.index + (queues.rx.scan buffer).count) % rx) :
    ReceivedIn found history buffer index
      ((queues.rx.scan buffer).result.map (frameIn (queues.rx.scan buffer).filled),
        (queues.rx.scan buffer).filled) := by
  unfold RxQueue.scan at passed ⊢
  dsimp only at passed ⊢
  split at passed
  next ends =>
    rw [if_pos ends]
    exact .nothing nofun
  next stands =>
    obtain ⟨round, released⟩ := not_or.1 stands
    have short : queues.rx.skips < rx := Nat.lt_of_le_of_ne queues.rx.skips_le round
    have free : queues.rx.owner (queues.rx.ring.index + queues.rx.skips) = .software := by
      cases owner : queues.rx.owner (queues.rx.ring.index + queues.rx.skips) with
      | software => rfl
      | hardware => contradiction
    obtain ⟨fragment, long⟩ :=
      not_or.1 fun nothing => queues.rx.not_skippable_skips short ⟨free, nothing⟩
    have closed := noted.closedIn free (Bool.eq_true_of_not_eq_false fragment)
    rw [if_neg stands]
    split at passed
    next room =>
      rw [if_pos room]
      dsimp only
      rw [noted.stored]
      exact .delivered passed closed (Nat.le_of_not_lt long) room rfl
    next small =>
      rw [if_neg small]
      exact .refused passed closed (Nat.lt_of_not_le small)

theorem receive_answers {found : Queues rx tx} {history : List (Moment rx tx)}
    {machine : Machine (Interface rx tx)} (noted : Noted found history machine.state.queues)
    (hardware : Hardware) (buffer : List UInt8) :
    ∃ answer after, (receive buffer).run hardware machine = (.ok answer, after) ∧
      ReceivedIn found history buffer after.state.queues.rx.ring.index answer := by
  cases state : machine.state.lifecycle with
  | stopped =>
    have refused : refusal? machine.state.lifecycle .receive =
        some (.notStarted .receive, .notStarted) := congrArg (refusal? · .receive) state
    exact ⟨_, _, run_gated_of_refusal refused _ _, .nothing nofun⟩
  | started =>
    have refused : refusal? machine.state.lifecycle .receive =
        some (.notInitialized .receive, .deviceError) := congrArg (refusal? · .receive) state
    exact ⟨_, _, run_gated_of_refusal refused _ _, .nothing nofun⟩
  | initialized =>
    obtain ⟨after, ran, gives, -⟩ :=
      run_receive_of_initialized state noted.inside buffer hardware
    exact ⟨_, after, ran, noted.receivedIn buffer gives.index_eq⟩

theorem noted_rebuild (queues : Queues rx tx) : Noted queues.rebuild [] queues.rebuild where
  inside := queues.rx.ring.pos
  noted slot free := by
    have owned : queues.rebuild.rx.owner slot = .hardware := queues.rx.owner_rebuild slot
    rw [owned] at free
    contradiction
  stored _ := rfl

theorem noted_of_steps {start : Machine (Interface rx tx)}
    (noted : Noted start.state.queues [] start.state.queues) (steps : List (Step Call)) :
    Noted start.state.queues ((system rx tx).history start steps)
      ((system rx tx).after start steps).state.queues := by
  have free : (system rx tx).Follows start (Acts fun _ => True) steps :=
    System.follows_of_forall (fun step _ => by cases step <;> trivial) steps
  exact holds_of_tracks (tracks_noted start.state.queues) noted steps free

/-- Whatever two interfaces at the same place went through, bringing them up with hardware
that keeps still succeeds, and leaves the same descriptors, indices and registers if they
have the same station address. After that, status queries and receive calls answer from what
happens from then on alone. -/
theorem bringUp_forgets {placement : Placement} {first second : Machine (Interface rx tx)}
    (first_ready : Ready placement first) (second_ready : Ready placement second)
    (same_address : first.state.address = second.state.address) :
    ∃ served other, (bringUp 0 0).run .idle first = (.ok (.ok ()), served) ∧
      (bringUp 0 0).run .idle second = (.ok (.ok ()), other) ∧
      served.state.queues.rx.ring = other.state.queues.rx.ring ∧
      served.state.queues.tx = other.state.queues.tx ∧
      (∀ entry ∈ served.state.serviceRegisters placement,
        served.bus.registers.read entry.1 = other.bus.registers.read entry.1) ∧
      Renewed placement served ∧ Renewed placement other ∧
      ∀ (later : List (Step Call)) (hardware : Hardware),
        let machine := (system rx tx).after served later
        let history := (system rx tx).history served later
        (∀ query, ∃ reply after, (status query).run hardware machine = (.ok reply, after) ∧
          machine.state.StatusAnswers (txHistory txEvent history) query reply) ∧
        ∀ buffer, ∃ answer after, (receive buffer).run hardware machine = (.ok answer, after) ∧
          ReceivedIn served.state.queues history buffer after.state.queues.rx.ring.index
            answer := by
  obtain ⟨bus, ran, programmed⟩ := run_bringUp_of_live first_ready.started first_ready.live
  obtain ⟨other_bus, other_ran, other_programmed⟩ :=
    run_bringUp_of_live second_ready.started second_ready.live
  obtain ⟨rx_eq, tx_eq⟩ := first_ready.placed.rebuild_eq second_ready.placed
  have renewed := renewed_inService first_ready.placed first_ready.live programmed
  have other_renewed := renewed_inService second_ready.placed second_ready.live other_programmed
  refine ⟨_, _, ran, other_ran, rx_eq, tx_eq, ?registers, renewed, other_renewed, ?later⟩
  case registers =>
    have same : first.state.inService.serviceRegisters placement =
        second.state.inService.serviceRegisters placement := by
      simp only [serviceRegisters, inService, same_address]
    intro entry member
    rw [renewed.registers entry member]
    rw [same] at member
    exact (other_renewed.registers entry member).symm
  case later =>
    intro later hardware machine history
    have fresh : Queues.Accounted [] first.state.queues.rebuild :=
      ⟨first.state.queues.rx.ring.pos, .blank rfl rfl rfl⟩
    have account : TxQueue.Accounts (txHistory txEvent history) machine.state.queues.tx :=
      (run_accounted fresh later).account
    have noted : Noted first.state.queues.rebuild history machine.state.queues :=
      @noted_of_steps _ _ ⟨bus, first.state.inService⟩ (noted_rebuild first.state.queues) later
    exact ⟨status_answers account hardware, receive_answers noted hardware⟩

/-- One interface is new; the other was in service before, with a frame in flight and one
closed but not taken, and was stopped and started again. -/
theorem bringUp_forgets_of_two :
    let blank (config : Config) : Machine (Interface 2 2) :=
      ⟨{ registers := (RegisterFile.blank .reactive).setLink true }, Interface.blank config
        (Queues.blank ⟨0x1000, 0x2000, 0x4000⟩ (Nat.le_refl 2) (Nat.le_refl 2))⟩
    let first := (system 2 2).after (blank {}) [.call .idle .start]
    let second := (system 2 2).after (blank { pollUs := 0 })
      [.call .idle .start, .call .idle .stop, .device (.rxStatus 0 0x400300),
        .call .idle (.transmit ⟨0x9000, List.replicate 60 0⟩ none), .call .idle (.bringUp 0 0),
        .call .idle .start]
    first.state.queues.tx.owners = [.software, .software] ∧
      second.state.queues.tx.owners = [.hardware, .software] ∧
      second.state.queues.rx.owners = [.software, .hardware] ∧
      ∃ served other, (bringUp 0 0).run .idle first = (.ok (.ok ()), served) ∧
        (bringUp 0 0).run .idle second = (.ok (.ok ()), other) ∧
        served.state.queues.tx = other.state.queues.tx ∧
        Renewed ⟨0x1000, 0x2000, 0x4000⟩ other := by
  have ready : Ready ⟨0x1000, 0x2000, 0x4000⟩ ((system 2 2).after
      ⟨{ registers := (RegisterFile.blank .reactive).setLink true }, Interface.blank {}
        (Queues.blank ⟨0x1000, 0x2000, 0x4000⟩ (Nat.le_refl 2) (Nat.le_refl 2))⟩
      [.call .idle .start]) :=
    ⟨⟨_, _, _, _, _, rfl⟩, by decide +kernel, by decide +kernel, by decide +kernel⟩
  have other_ready : Ready ⟨0x1000, 0x2000, 0x4000⟩ ((system 2 2).after
      ⟨{ registers := (RegisterFile.blank .reactive).setLink true }, Interface.blank { pollUs := 0 }
        (Queues.blank ⟨0x1000, 0x2000, 0x4000⟩ (Nat.le_refl 2) (Nat.le_refl 2))⟩
      [.call .idle .start, .call .idle .stop, .device (.rxStatus 0 0x400300),
        .call .idle (.transmit ⟨0x9000, List.replicate 60 0⟩ none), .call .idle (.bringUp 0 0),
        .call .idle .start]) :=
    ⟨⟨_, _, _, _, _, rfl⟩, by decide +kernel, by decide +kernel, by decide +kernel⟩
  obtain ⟨served, other, ran, other_ran, -, tx_eq, -, -, renewed, -⟩ :=
    bringUp_forgets ready other_ready (by decide +kernel)
  exact ⟨by decide +kernel, by decide +kernel, by decide +kernel, served, other, ran, other_ran,
    tx_eq, renewed⟩

end EthernetMac.Interface
