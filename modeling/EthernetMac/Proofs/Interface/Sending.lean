import EthernetMac.Proofs.Interface.Bounds
import EthernetMac.Proofs.Interface.Footprint
import EthernetMac.Proofs.Queues.Layout

/-!
Sending, decided. The link comes first, then the request, then the queue, and each has its own
answer. A frame that passes the first two is given its header and the device is nudged, also if
the queue turns out to be full; one that does not leaves everything as it was but for what is
remembered of the link.
-/

namespace EthernetMac

/-- The header that a request stands for, if it names enough. -/
def HeaderRequest.header? (request : HeaderRequest) (station : MacAddress) :
    Option EthernetHeader := do
  let destination ← request.destination
  let etherType ← request.etherType
  return { destination, source := request.source.getD station, etherType }

namespace HeaderRequest

variable {request : HeaderRequest} {station : MacAddress} {header : EthernetHeader}

theorem resolve_eq_ok_iff : request.resolve station = .ok header ↔
    request.size = 14 ∧ request.header? station = some header := by
  unfold resolve header?
  by_cases size : request.size = EthernetHeader.size
  · rw [if_neg (not_not_intro size)]
    cases request.destination <;> cases request.etherType <;> simp [size]
  · simp [size]

theorem isSome_header? : (request.header? station).isSome ↔
    request.destination.isSome ∧ request.etherType.isSome := by
  unfold header?
  cases request.destination <;> cases request.etherType <;> simp

end HeaderRequest

namespace Frame

/-- Fit to be sent: a header is asked for in full and there is room for it, and a descriptor can
describe the frame. -/
def Acceptable (frame : Frame) : Option HeaderRequest → Prop
  | none => 1 ≤ frame.bytes.length ∧ frame.bytes.length ≤ 8191
  | some request =>
    request.size = 14 ∧ request.destination.isSome ∧ request.etherType.isSome ∧
      14 ≤ frame.bytes.length ∧ frame.bytes.length ≤ 8191

instance (frame : Frame) (request : Option HeaderRequest) : Decidable (frame.Acceptable request) :=
  match request with
  | none => inferInstanceAs (Decidable (_ ∧ _))
  | some _ => inferInstanceAs (Decidable (_ ∧ _))

/-- The frame with a header in place of its first bytes: the destination, the source, and the
type with its high byte first. -/
def withHeader (frame : Frame) : Option EthernetHeader → Frame
  | none => frame
  | some ⟨⟨d0, d1, d2, d3, d4, d5⟩, ⟨s0, s1, s2, s3, s4, s5⟩, etherType⟩ =>
    { frame with
      bytes := [d0, d1, d2, d3, d4, d5] ++ [s0, s1, s2, s3, s4, s5] ++
        [(etherType >>> 8).toUInt8, etherType.toUInt8] ++ frame.bytes.drop 14 }

/-- These bytes are the ones that the driver writes. -/
theorem withHeader_some (frame : Frame) (header : EthernetHeader) :
    frame.withHeader (some header) =
      { frame with bytes := header.octets ++ frame.bytes.drop 14 } := rfl

/-- What is sent. -/
def sentAs (frame : Frame) (request : Option HeaderRequest) (station : MacAddress) : Frame :=
  frame.withHeader (request.bind fun request => request.header? station)

theorem accept_of_fits {frame : Frame} {least : Nat} (long : least ≤ frame.bytes.length)
    (short : frame.bytes.length ≤ 8191) (header : Option EthernetHeader) :
    frame.accept least header = .ok header :=
  if_neg (not_or.2 ⟨Nat.not_lt.2 long, Nat.not_lt.2 short⟩)

theorem accept_of_not_fits {frame : Frame} {least : Nat}
    (unfit : ¬ (least ≤ frame.bytes.length ∧ frame.bytes.length ≤ 8191))
    (header : Option EthernetHeader) :
    frame.accept least header = .error (.frameLength frame.bytes.length) := by
  apply if_pos
  rw [not_and_or, Nat.not_le, Nat.not_le] at unfit
  exact unfit

theorem check_of_acceptable {frame : Frame} {request : Option HeaderRequest}
    (fit : frame.Acceptable request) (station : MacAddress) :
    frame.check request station = .ok (request.bind fun request => request.header? station) := by
  cases request with
  | none => exact accept_of_fits fit.1 fit.2 none
  | some request =>
    obtain ⟨size, named, typed, long, short⟩ := fit
    obtain ⟨header, filled⟩ :=
      Option.isSome_iff_exists.1 (HeaderRequest.isSome_header?.2 ⟨named, typed⟩)
    have resolved := HeaderRequest.resolve_eq_ok_iff.2 ⟨size, filled⟩
    rw [Option.bind_some, filled]
    simp only [check, resolved]
    exact accept_of_fits long short _

theorem check_of_unacceptable {frame : Frame} {request : Option HeaderRequest}
    (unfit : ¬ frame.Acceptable request) (station : MacAddress) :
    ∃ reason, frame.check request station = .error reason := by
  cases request with
  | none => exact ⟨_, accept_of_not_fits unfit none⟩
  | some request =>
    cases resolved : request.resolve station with
    | error reason => exact ⟨reason, by simp only [check, resolved]⟩
    | ok header =>
      obtain ⟨size, filled⟩ := HeaderRequest.resolve_eq_ok_iff.1 resolved
      have complete : request.destination.isSome ∧ request.etherType.isSome :=
        HeaderRequest.isSome_header?.1 (Option.isSome_iff_exists.2 ⟨header, filled⟩)
      have misfit : ¬ (14 ≤ frame.bytes.length ∧ frame.bytes.length ≤ 8191) :=
        fun fits => unfit ⟨size, complete.1, complete.2, fits⟩
      refine ⟨.frameLength frame.bytes.length, ?_⟩
      simp only [check, resolved]
      exact accept_of_not_fits misfit _

theorem length_withHeader {frame : Frame} {header : Option EthernetHeader}
    (fits : header.isSome → EthernetHeader.size ≤ frame.bytes.length) :
    (frame.withHeader header).bytes.length = frame.bytes.length := by
  cases header with
  | none => rfl
  | some header =>
    have room : 14 ≤ frame.bytes.length := fits rfl
    rw [withHeader_some, List.length_append, List.length_drop, EthernetHeader.length_octets]
    exact Nat.add_sub_cancel' room

theorem busAddress_withHeader (frame : Frame) (header : Option EthernetHeader) :
    (frame.withHeader header).busAddress = frame.busAddress := by
  cases header <;> rfl

end Frame

namespace TxQueue

variable {n : Nat}

/-- One frame more was handed to the device, and nothing else has changed. -/
structure Publishes (frame : Frame) (queue after : TxQueue n) : Prop where
  index_eq : after.ring.index = (queue.ring.index + 1) % n
  pending_eq : after.pending = queue.pending + 1
  release_eq : after.release = queue.release
  start_eq : after.ring.start = queue.ring.start
  published : ∃ control, control.toNat = frame.bytes.length ∧
    after.ring.get queue.ring.index = { queue.ring.get queue.ring.index with
      status := 0xF0100000, control, buffer := UInt32.ofNat frame.address }
  kept : ∀ slot, slot % n ≠ queue.ring.index % n → after.ring.get slot = queue.ring.get slot

theorem hasRoom_iff {queue : TxQueue n} (counted : queue.pending ≤ n) :
    queue.HasRoom ↔ queue.pending < n ∧ queue.owner queue.ring.index = .software :=
  and_congr_left fun _ => ⟨Nat.lt_of_le_of_ne counted, Nat.ne_of_lt⟩

theorem publishes_publish (queue : TxQueue n) {frame : Frame}
    (short : frame.bytes.length ≤ Frame.maxLength) :
    queue.Publishes frame (queue.publish frame.busAddress frame.bytes.length) where
  index_eq := rfl
  pending_eq := rfl
  release_eq := rfl
  start_eq := rfl
  published := by
    refine ⟨_, Descriptor.toNat_sizeField short, ?_⟩
    rw [get_publish, if_pos rfl]
    rfl
  kept slot elsewhere := by rw [get_publish, if_neg elsewhere]

end TxQueue

namespace Queues

variable {rx tx : Nat} (address : UInt32) (length : Nat) (hardware : Hardware)
  (machine : Machine (Queues rx tx))

theorem run_transmit_of_room (room : machine.state.tx.HasRoom) :
    (transmit address length).run hardware machine =
      (.ok (.ok ()), { machine with
        state := { machine.state with tx := machine.state.tx.publish address length } }) := by
  unfold transmit
  rw [Program.run_bind, Program.run_get]
  simp only [if_neg room.1, room.2]
  rfl

theorem run_transmit_of_full (full : ¬ machine.state.tx.HasRoom) :
    ∃ bus, (transmit address length).run hardware machine =
        (.ok (.error .notReady), ⟨bus, machine.state⟩) ∧
      bus.registers = machine.bus.registers := by
  unfold transmit
  rw [Program.run_bind, Program.run_get]
  by_cases all : machine.state.tx.pending = tx
  · simp only [if_pos all]
    exact ⟨_, rfl, rfl⟩
  · cases owner : machine.state.tx.ring.current.owner with
    | software => exact absurd ⟨all, owner⟩ full
    | hardware =>
      simp only [if_neg all, owner]
      exact ⟨_, rfl, rfl⟩

end Queues

namespace Interface

variable {rx tx : Nat} {machine : Machine (Interface rx tx)}

/-- What a nudge writes. -/
def nudges (file : RegisterFile) : List (Nat × UInt32) :=
  [(Register.operationMode.offset,
      file.read Register.operationMode.offset ||| Control.txEngine.mask),
    (Register.configuration.offset,
      file.read Register.configuration.offset ||| Control.transmitter.mask),
    (Register.txPollDemand.offset, 0)]

theorem writes_nudge (hardware : Hardware) (machine : Machine (Interface rx tx)) :
    (nudge.writes hardware machine).map Write.entry = nudges machine.bus.registers := by
  have apart : Register.configuration.offset ≠ Register.operationMode.offset := by decide
  unfold nudges
  rw [← @RegisterFile.read_write_other machine.bus.registers _ _ _ apart]
  rfl

theorem writes_publish (address : UInt32) (length : Nat) (hardware : Hardware) :
    (onQueues (Queues.transmit address length)).writes hardware machine = [] := by
  have emits : (onQueues (Queues.transmit address length) : Program (Interface rx tx) _).Emits
      (fun _ event => event.Passive) (fun _ _ => True) (.pause 0) :=
    emits_onQueues (emits_publish (fun _ _ _ => trivial) address length)
  exact emits.writes_eq_nil machine

section Dispatch

variable (frame : Frame) (hardware : Hardware) (machine : Machine (Interface rx tx))

theorem dispatch_of_room (room : machine.state.queues.tx.HasRoom) :
    (∃ bus, (dispatch frame).run hardware machine = (.ok (.ok ()), ⟨bus, { machine.state with
      queues := { machine.state.queues with
        tx := machine.state.queues.tx.publish frame.busAddress frame.bytes.length } }⟩)) ∧
      ((dispatch frame).writes hardware machine).map Write.entry =
        nudges machine.bus.registers := by
  have ran := Queues.run_transmit_of_room frame.busAddress frame.bytes.length hardware
    ⟨machine.bus, machine.state.queues⟩ room
  unfold dispatch
  rw [Program.run_bind, Program.writes_bind, writes_publish, run_onQueues, ran]
  exact ⟨⟨_, rfl⟩, writes_nudge hardware _⟩

theorem dispatch_of_full (full : ¬ machine.state.queues.tx.HasRoom) :
    (∃ bus, (dispatch frame).run hardware machine =
        (.ok (.error .notReady), ⟨bus, machine.state⟩)) ∧
      ((dispatch frame).writes hardware machine).map Write.entry =
        nudges machine.bus.registers := by
  obtain ⟨bus, ran, same⟩ := Queues.run_transmit_of_full frame.busAddress frame.bytes.length
    hardware ⟨machine.bus, machine.state.queues⟩ full
  unfold dispatch
  rw [Program.run_bind, Program.writes_bind, writes_publish, run_onQueues, ran]
  refine ⟨⟨_, rfl⟩, ?_⟩
  rw [← show bus.registers = machine.bus.registers from same]
  exact writes_nudge hardware _

end Dispatch

/-- Whether the device sees a link. -/
def linked (file : RegisterFile) : Bool :=
  Control.linkUp.isSetIn (file.read Control.linkUp.register.offset)

theorem run_sampleLink (hardware : Hardware) (machine : Machine (Interface rx tx)) :
    ∃ bus, sampleLink.run hardware machine = (.ok (linked machine.bus.registers),
        ⟨bus, { machine.state with mediaPresent := linked machine.bus.registers }⟩) ∧
      bus.registers = machine.bus.registers := by
  unfold sampleLink
  rw [Program.run_bind, Program.run_isSet]
  simp only [Program.run_bind, Program.run_get]
  split
  next seen =>
    have same : { machine.state with mediaPresent := linked machine.bus.registers } =
        machine.state := by rw [show linked _ = machine.state.mediaPresent from seen]
    rw [same]
    exact ⟨_, rfl, rfl⟩
  next => exact ⟨_, rfl, rfl⟩

theorem events_sampleLink (hardware : Hardware) (machine : Machine (Interface rx tx)) :
    sampleLink.events hardware machine =
      .read Control.linkUp.register.offset
          (machine.bus.registers.read Control.linkUp.register.offset) ::
        if linked machine.bus.registers = machine.state.mediaPresent then []
        else [.notice (.link (linked machine.bus.registers))] := by
  let look : Machine (Interface rx tx) :=
    { machine with bus := machine.bus.read Control.linkUp.register.offset }
  have unfolded : sampleLink.events hardware machine =
      .read Control.linkUp.register.offset
          (machine.bus.registers.read Control.linkUp.register.offset) ::
        (if linked machine.bus.registers = machine.state.mediaPresent then
          return linked machine.bus.registers
        else do
          Program.modify fun interface =>
            { interface with mediaPresent := linked machine.bus.registers }
          Program.note (.link (linked machine.bus.registers))
          return linked machine.bus.registers : Program (Interface rx tx) Bool).events hardware
          look := rfl
  rw [unfolded]
  split <;> rfl

theorem writes_sampleLink (hardware : Hardware) :
    sampleLink.writes hardware machine = [] := by
  have emits : (sampleLink : Program (Interface rx tx) Bool).Emits
      (fun _ event => event.Passive) (fun _ _ => True) (.pause 0) :=
    emits_sampleLink (fun _ _ _ => trivial) (fun _ _ => trivial) fun _ _ => trivial
  exact emits.writes_eq_nil machine

theorem writeHeader_eq_pure {header : Option EthernetHeader} {frame : Frame}
    (fits : header.isSome → EthernetHeader.size ≤ frame.bytes.length) :
    (writeHeader header frame : Program (Interface rx tx) Frame) =
      pure (frame.withHeader header) := by
  cases header with
  | none => rfl
  | some header =>
    have room : header.octets.length ≤ frame.bytes.length := fits rfl
    unfold writeHeader Program.overwrite
    simp only [if_pos room]
    rfl

/-- What is left to do for a frame that passes. -/
theorem submit_of_acceptable {frame : Frame} {request : Option HeaderRequest}
    (fit : frame.Acceptable request) :
    (submit frame request true : Program (Interface rx tx) _) =
      Program.get >>= fun interface =>
        (fun result => (result, frame.sentAs request interface.address)) <$>
          dispatch (frame.sentAs request interface.address) := by
  unfold submit
  rw [if_pos rfl]
  congr 1
  funext interface
  have checked := Frame.check_of_acceptable fit interface.address
  simp only [checked]
  rw [writeHeader_eq_pure (length_of_check checked).1, pure_bind, bind_pure_comp]
  rfl

/-- How a request to send ends. -/
def decision (interface : Interface rx tx) (up : Bool) (frame : Frame)
    (request : Option HeaderRequest) : Except Error Unit :=
  let queue := interface.queues.tx
  if up = false then .error .notReady
  else if ¬ frame.Acceptable request then .error .invalidParameter
  else if queue.pending < tx ∧ queue.owner queue.ring.index = .software then .ok ()
  else .error .notReady

theorem decision_eq_ok_iff {interface : Interface rx tx} {up : Bool} {frame : Frame}
    {request : Option HeaderRequest} : interface.decision up frame request = .ok () ↔
      (up = true ∧ frame.Acceptable request) ∧ interface.queues.tx.pending < tx ∧
        interface.queues.tx.owner interface.queues.tx.ring.index = .software := by
  unfold decision
  cases up <;> by_cases fit : frame.Acceptable request <;> simp [fit]

theorem decision_of_full {interface : Interface rx tx} {frame : Frame}
    {request : Option HeaderRequest} (fit : frame.Acceptable request)
    (full : ¬ (interface.queues.tx.pending < tx ∧
      interface.queues.tx.owner interface.queues.tx.ring.index = .software)) :
    interface.decision true frame request = .error .notReady := by
  simp [decision, fit, full]

section Transmit

variable (initialized : machine.state.lifecycle = .initialized) (frame : Frame)
  (request : Option HeaderRequest) (hardware : Hardware)

include initialized

/-- A call that is turned away does nothing but remember the link. -/
theorem transmit_of_turned_away {up : Bool} (link : linked machine.bus.registers = up)
    (fails : ¬ (up = true ∧ frame.Acceptable request)) :
    (∃ bus, (transmit frame request).run hardware machine =
        (.ok (machine.state.decision up frame request, frame),
          ⟨bus, { machine.state with mediaPresent := up }⟩) ∧
      bus.registers = machine.bus.registers) ∧
      (transmit frame request).writes hardware machine = [] := by
  obtain ⟨bus, sampled, same⟩ := run_sampleLink hardware machine
  unfold transmit
  rw [run_gated_of_initialized initialized, writes_gated_of_initialized initialized,
    Program.run_bind, Program.writes_bind, writes_sampleLink, sampled, link]
  cases up with
  | false => exact ⟨⟨_, rfl, same⟩, rfl⟩
  | true =>
    have unfit : ¬ frame.Acceptable request := fun fit => fails ⟨rfl, fit⟩
    have decided : machine.state.decision true frame request = .error .invalidParameter := by
      simp [decision, unfit]
    obtain ⟨reason, checked⟩ := Frame.check_of_unacceptable unfit machine.state.address
    dsimp only
    rw [decided, if_pos rfl, Program.run_bind, Program.writes_bind, Program.run_get]
    simp only [checked]
    exact ⟨⟨_, rfl, same⟩, rfl⟩

/-- A frame that passes is sent off with its header. -/
theorem transmit_of_acceptable (up : linked machine.bus.registers = true)
    (fit : frame.Acceptable request) :
    let sent := frame.sentAs request machine.state.address
    ∃ bus, bus.registers = machine.bus.registers ∧
      let next : Machine (Interface rx tx) := ⟨bus, { machine.state with mediaPresent := true }⟩
      (transmit frame request).run hardware machine =
        ((fun result => (result, sent)) <$> dispatch sent).run hardware next ∧
      (transmit frame request).events hardware machine =
        sampleLink.events hardware machine ++ (dispatch sent).events hardware next ∧
      (transmit frame request).writes hardware machine = (dispatch sent).writes hardware next := by
  intro sent
  obtain ⟨bus, sampled, same⟩ := run_sampleLink hardware machine
  let next : Machine (Interface rx tx) := ⟨bus, { machine.state with mediaPresent := true }⟩
  let sends : Program (Interface rx tx) _ := (fun result => (result, sent)) <$> dispatch sent
  rw [up] at sampled
  have submits := @submit_of_acceptable rx tx _ _ fit
  have events : (sends.events hardware next) = (dispatch sent).events hardware next :=
    Program.events_map ..
  have writes : (sends.writes hardware next) = (dispatch sent).writes hardware next :=
    Program.writes_map ..
  refine ⟨bus, same, ?_⟩
  rw [transmit_eq, run_gated_of_initialized initialized, events_gated_of_initialized initialized,
    writes_gated_of_initialized initialized, Program.run_bind, Program.events_bind,
    Program.writes_bind, writes_sampleLink, sampled]
  dsimp only
  rw [submits, ← events, ← writes]
  exact ⟨rfl, rfl, rfl⟩

theorem transmit_of_passes (counted : machine.state.queues.tx.pending ≤ tx)
    (up : linked machine.bus.registers = true) (fit : frame.Acceptable request) :
    let result := machine.state.decision true frame request
    ∃ queue bus, (transmit frame request).run hardware machine =
        (.ok (result, frame.sentAs request machine.state.address),
          ⟨bus, { machine.state with
            queues := ⟨machine.state.queues.rx, queue⟩, mediaPresent := true }⟩) ∧
      (result = .ok () → machine.state.queues.tx.Publishes frame queue) ∧
      (result ≠ .ok () → queue = machine.state.queues.tx) ∧
      ((transmit frame request).writes hardware machine).map Write.entry =
        nudges machine.bus.registers := by
  intro result
  obtain ⟨sampled, same, ran, -, writes⟩ :=
    transmit_of_acceptable initialized frame request hardware up fit
  let next : Machine (Interface rx tx) := ⟨sampled, { machine.state with mediaPresent := true }⟩
  let sent := frame.sentAs request machine.state.address
  rw [ran, writes, Program.run_map, ← same]
  by_cases room : machine.state.queues.tx.HasRoom
  · obtain ⟨⟨bus, published⟩, nudged⟩ := dispatch_of_room sent hardware next room
    have decided : result = .ok () :=
      decision_eq_ok_iff.2 ⟨⟨rfl, fit⟩, (TxQueue.hasRoom_iff counted).1 room⟩
    have checked := Frame.check_of_acceptable fit machine.state.address
    obtain ⟨fits, -, short⟩ := length_of_check checked
    refine ⟨machine.state.queues.tx.publish sent.busAddress sent.bytes.length, bus, ?_,
      fun _ => ?_, fun failed => absurd decided failed, nudged⟩
    · rw [published, decided]
    · have address_eq : sent.busAddress = frame.busAddress := Frame.busAddress_withHeader ..
      have length_eq : sent.bytes.length = frame.bytes.length := Frame.length_withHeader fits
      rw [address_eq, length_eq]
      exact machine.state.queues.tx.publishes_publish short
  · obtain ⟨⟨bus, unchanged⟩, nudged⟩ := dispatch_of_full sent hardware next room
    have decided : result = .error .notReady :=
      decision_of_full fit (mt (TxQueue.hasRoom_iff counted).2 room)
    refine ⟨machine.state.queues.tx, bus, ?_, fun done => ?_, fun _ => rfl, nudged⟩
    · rw [unchanged, decided]
    · rw [decided] at done
      contradiction

end Transmit

/-- In a run that began with its counters in range, as they are in a new interface, a request to
send on an initialized interface ends as decided. A frame that is published fills one descriptor
with its address and its whole length. Only a frame that passes the checks is given a header, and
then the device is nudged, whether or not there was room. -/
theorem transmit_decides (start : Machine (Interface rx tx)) (range : start.state.queues.InRange)
    (steps : List (Step Call)) (frame : Frame) (request : Option HeaderRequest)
    (hardware : Hardware) :
    let machine := (system rx tx).after start steps
    let interface := machine.state
    let up := linked machine.bus.registers
    let passes := up = true ∧ frame.Acceptable request
    let result := interface.decision up frame request
    interface.lifecycle = .initialized →
    ∃ sent after, (transmit frame request).run hardware machine = (.ok (result, sent), after) ∧
      after.state = { interface with queues := after.state.queues, mediaPresent := up } ∧
      after.state.queues.rx = interface.queues.rx ∧
      (result = .ok () → interface.queues.tx.Publishes frame after.state.queues.tx) ∧
      (result ≠ .ok () → after.state.queues = interface.queues) ∧
      (passes → sent = frame.sentAs request interface.address ∧
        ((transmit frame request).writes hardware machine).map Write.entry =
          nudges machine.bus.registers) ∧
      (¬ passes → sent = frame ∧ (transmit frame request).writes hardware machine = [] ∧
        after.bus.registers = machine.bus.registers) := by
  intro machine interface up passes result initialized
  have counted : interface.queues.tx.pending ≤ tx :=
    (holds_of_steps Queues.invariant_inRange range steps).pending_le
  by_cases fit : passes
  · obtain ⟨link, fit⟩ := fit
    obtain ⟨queue, bus, ran, published, unchanged, nudged⟩ :=
      transmit_of_passes initialized frame request hardware counted link fit
    have decided : result = interface.decision true frame request := by simp only [result, link]
    rw [← decided] at ran published unchanged
    refine ⟨_, _, ran, ?_, rfl, published, fun failed => ?_, fun _ => ⟨rfl, nudged⟩,
      fun fails => absurd ⟨link, fit⟩ fails⟩
    · rw [link]
    · rw [unchanged failed]
  · obtain ⟨⟨bus, ran, same⟩, silent⟩ :=
      transmit_of_turned_away initialized frame request hardware rfl fit
    have failed : result ≠ .ok () := fun done => fit (decision_eq_ok_iff.1 done).1
    exact ⟨frame, _, ran, rfl, rfl, fun done => absurd done failed, fun _ => rfl,
      fun passed => absurd passed fit, fun _ => ⟨rfl, silent, same⟩⟩

/-- A frame is given its header and published; after two others the queue has no room for it, and
the device is nudged all the same. -/
theorem transmit_decides_of_full :
    let start : Machine (Interface 2 2) :=
      ⟨{ registers := .blank .reactive }, Interface.blank {}
        (Queues.blank ⟨0x1000, 0x2000, 0x4000⟩ (Nat.le_refl 2) (Nat.le_refl 2))⟩
    let frame : Frame := ⟨0x8000, List.replicate 20 0⟩
    let request : HeaderRequest := { destination := some .broadcast, etherType := some 0x0800 }
    let dressed : Frame := ⟨0x8000, [0xFF, 0xFF, 0xFF, 0xFF, 0xFF, 0xFF, 0x02, 0, 0, 0, 0, 0x01,
      0x08, 0x00] ++ List.replicate 6 0⟩
    let serving : List (Step Call) :=
      [.device (.registers fun file => file.setLink true), .call .idle (.bringUp 0 0),
        .call .idle .start]
    let full := .call .idle (.transmit frame none) :: .call .idle (.transmit frame none) :: serving
    (∃ after, (transmit frame (some request)).run .idle ((system 2 2).after start serving) =
        (.ok (.ok (), dressed), after) ∧
      ((system 2 2).after start serving).state.queues.tx.Publishes frame after.state.queues.tx) ∧
    ∃ after, (transmit frame none).run .idle ((system 2 2).after start full) =
        (.ok (.error .notReady, frame), after) ∧
      ((transmit frame none).writes .idle ((system 2 2).after start full)).map Write.entry =
        nudges ((system 2 2).after start full).bus.registers := by
  intro start frame request dressed serving full
  have range : start.state.queues.InRange := Queues.inRange_blank _ _ _
  constructor
  · obtain ⟨sent, after, ran, -, -, published, -, passed, -⟩ :=
      transmit_decides start range serving frame (some request) .idle (by decide +kernel)
    have decided : ((system 2 2).after start serving).state.decision
        (linked ((system 2 2).after start serving).bus.registers) frame (some request) =
        .ok () := by decide +kernel
    have headed : frame.sentAs (some request) ((system 2 2).after start serving).state.address =
        dressed := by decide +kernel
    rw [decided, (passed (by decide +kernel)).1, headed] at ran
    exact ⟨after, ran, published decided⟩
  · obtain ⟨sent, after, ran, -, -, -, -, passed, -⟩ :=
      transmit_decides start range full frame none .idle (by decide +kernel)
    have decided : ((system 2 2).after start full).state.decision
        (linked ((system 2 2).after start full).bus.registers) frame none = .error .notReady := by
      decide +kernel
    obtain ⟨same, nudged⟩ := passed (by decide +kernel)
    rw [decided, same] at ran
    exact ⟨after, ran, nudged⟩

end Interface

end EthernetMac
