import EthernetMac.Proofs.Interface.Lifecycle
import EthernetMac.Proofs.Interface.Sending
import EthernetMac.Proofs.Receive.Loopback

/-!
Headers there and back. Parsing and writing a header undo each other on the bytes of a frame. So
sending gives a frame the header that is asked for and leaves the rest alone, a frame that is sent
with the header it has comes back as it was, and a frame that the device loops back is received
with the header it was sent with.
-/

namespace EthernetMac

namespace EthernetHeader

section Octets

variable (high low : UInt8)

private theorem high_octet :
    (((high.toUInt16 <<< 8) ||| low.toUInt16) >>> 8).toUInt8 = high := by
  have beyond (i : Nat) (outside : 8 ≤ i) : low.toBitVec.getLsbD i = false :=
    BitVec.getLsbD_of_ge _ _ outside
  apply UInt8.toBitVec_inj.1
  ext i inside
  simp
  grind

private theorem low_octet : ((high.toUInt16 <<< 8) ||| low.toUInt16).toUInt8 = low := by
  apply UInt8.toBitVec_inj.1
  ext i inside
  simp

end Octets

/-- A header that was parsed is the first octets of its frame. -/
theorem octets_of_parse {bytes : List UInt8} {header : EthernetHeader}
    (parsed : parse bytes = some header) : header.octets ++ bytes.drop size = bytes := by
  unfold parse at parsed
  split at parsed
  · obtain rfl := Option.some.inj parsed
    simp only [octets, MacAddress.octets, high_octet, low_octet]
    rfl
  · contradiction

theorem parse_eq_none_iff (bytes : List UInt8) : parse bytes = none ↔ bytes.length < size := by
  rw [← Option.not_isSome_iff_eq_none, isSome_parse, Nat.not_le]

/-- The request for just this header. -/
def request (header : EthernetHeader) : HeaderRequest where
  source := some header.source
  destination := some header.destination
  etherType := some header.etherType

end EthernetHeader

namespace Frame

variable (frame : Frame)

theorem parse_withHeader (header : EthernetHeader) :
    EthernetHeader.parse (frame.withHeader (some header)).bytes = some header :=
  EthernetHeader.parse_octets header _

theorem drop_withHeader (header : EthernetHeader) :
    (frame.withHeader (some header)).bytes.drop 14 = frame.bytes.drop 14 :=
  List.drop_left' header.length_octets

theorem withHeader_of_parse {header : EthernetHeader}
    (parsed : EthernetHeader.parse frame.bytes = some header) :
    frame.withHeader (some header) = frame := by
  apply Frame.ext
  · rfl
  · exact EthernetHeader.octets_of_parse parsed

/-- The header that is sent has what was asked for, and the station's address where none was. -/
theorem sentAs_of_complete {request : HeaderRequest} {destination : MacAddress} {etherType : UInt16}
    (named : request.destination = some destination) (typed : request.etherType = some etherType)
    (station : MacAddress) : frame.sentAs (some request) station =
      frame.withHeader (some ⟨destination, request.source.getD station, etherType⟩) := by
  simp [sentAs, HeaderRequest.header?, named, typed]

end Frame

namespace Interface

variable {rx tx : Nat} {machine : Machine (Interface rx tx)}

theorem run_transmit_of_acceptable (initialized : machine.state.lifecycle = .initialized)
    (up : linked machine.bus.registers = true) {frame : Frame} {request : Option HeaderRequest}
    (fit : frame.Acceptable request) (hardware : Hardware) :
    ∃ result after, (transmit frame request).run hardware machine =
        (.ok (result, frame.sentAs request machine.state.address), after) ∧
      (result = .ok () ∨ result = .error .notReady) := by
  obtain ⟨bus, -, ran, -⟩ := transmit_of_acceptable initialized frame request hardware up fit
  let next : Machine (Interface rx tx) := ⟨bus, { machine.state with mediaPresent := true }⟩
  let sent := frame.sentAs request machine.state.address
  rw [ran, Program.run_map]
  by_cases room : next.state.queues.tx.HasRoom
  · obtain ⟨⟨bus, published⟩, -⟩ := dispatch_of_room sent hardware next room
    rw [published]
    exact ⟨_, _, rfl, .inl rfl⟩
  · obtain ⟨⟨bus, unchanged⟩, -⟩ := dispatch_of_full sent hardware next room
    rw [unchanged]
    exact ⟨_, _, rfl, .inr rfl⟩

/-- A frame that is sent with the header it has comes back as it was, however the call ends. -/
theorem run_transmit_of_parse {frame : Frame} {header : EthernetHeader}
    (parsed : EthernetHeader.parse frame.bytes = some header) (hardware : Hardware)
    (machine : Machine (Interface rx tx)) :
    ∃ result after, (transmit frame (some header.request)).run hardware machine =
      (.ok (result, frame), after) := by
  by_cases initialized : machine.state.lifecycle = .initialized
  · by_cases passes : linked machine.bus.registers = true ∧ frame.Acceptable (some header.request)
    · obtain ⟨result, after, ran, -⟩ :=
        run_transmit_of_acceptable initialized passes.1 passes.2 hardware
      have same : frame.sentAs (some header.request) machine.state.address = frame :=
        (frame.sentAs_of_complete rfl rfl _).trans (frame.withHeader_of_parse parsed)
      rw [same] at ran
      exact ⟨result, after, ran⟩
    · obtain ⟨⟨bus, ran, -⟩, -⟩ :=
        transmit_of_turned_away initialized frame (some header.request) hardware rfl passes
      exact ⟨_, _, ran⟩
  · obtain ⟨⟨notice, error⟩, refused⟩ := exists_refusal initialized .transmit
    exact ⟨_, _, run_gated_of_refusal refused _ _⟩

/-- A frame that passes the checks has, whether it is queued or not, the header that was asked for
and its own bytes behind it, and the device looping it back it is received with this header. A
frame that is sent with the header it has is not changed, however the call ends. And a header is
found in any frame that is long enough for one. -/
theorem headers_round_trip (initialized : machine.state.lifecycle = .initialized)
    (up : linked machine.bus.registers = true) {frame : Frame} (long : 14 ≤ frame.bytes.length)
    (short : frame.bytes.length ≤ 8191) {request : HeaderRequest} (sized : request.size = 14)
    {destination : MacAddress} {etherType : UInt16}
    (named : request.destination = some destination) (typed : request.etherType = some etherType)
    (hardware : Hardware) :
    let header : EthernetHeader :=
      ⟨destination, request.source.getD machine.state.address, etherType⟩
    (∃ result sent after, (transmit frame (some request)).run hardware machine =
        (.ok (result, sent), after) ∧
      (result = .ok () ∨ result = .error .notReady) ∧
      sent.address = frame.address ∧ sent.bytes.length = frame.bytes.length ∧
      EthernetHeader.parse sent.bytes = some header ∧
      sent.bytes.drop 14 = frame.bytes.drop 14 ∧
      ∀ (receiver : Machine (Interface rx tx)) (before : RxQueue rx) (offset : Nat)
        (buffer : List UInt8), receiver.state.lifecycle = .initialized →
        RxQueue.LoopsBack sent.bytes offset before receiver.state.queues.rx →
        sent.bytes.length ≤ buffer.length →
        ∃ earlier ≤ offset, ∃ after,
          (receive buffer).run hardware (reading hardware buffer receiver earlier) =
            (.ok (.ok ⟨sent.bytes.length, 14, some header⟩,
              sent.bytes ++ buffer.drop sent.bytes.length), after)) ∧
    (∀ (sender : Machine (Interface rx tx)) (whole : Frame) (found : EthernetHeader),
      EthernetHeader.parse whole.bytes = some found →
      ∃ result after, (transmit whole (some found.request)).run hardware sender =
        (.ok (result, whole), after)) ∧
    ∀ bytes : List UInt8, EthernetHeader.parse bytes = none ↔ bytes.length < 14 := by
  intro header
  refine ⟨?sent, ?unchanged, EthernetHeader.parse_eq_none_iff⟩
  case unchanged =>
    intro sender whole found parsed
    exact run_transmit_of_parse parsed hardware sender
  case sent =>
    have fit : frame.Acceptable (some request) :=
      ⟨sized, by simp [named], by simp [typed], long, short⟩
    obtain ⟨result, after, ran, ends⟩ := run_transmit_of_acceptable initialized up fit hardware
    rw [frame.sentAs_of_complete named typed] at ran
    refine ⟨result, frame.withHeader (some header), after, ran, ends, rfl,
      Frame.length_withHeader fun _ => long, frame.parse_withHeader header,
      frame.drop_withHeader header, ?_⟩
    intro receiver before offset buffer serving loops room
    have received := receives_offered hardware room serving loops.offers
    rwa [frame.parse_withHeader] at received

/-- A frame of zeros is sent, and the device loops it back behind a fragment. -/
theorem headers_round_trip_of_zeros :
    let queues : Queues 2 2 :=
      Queues.blank ⟨0x1000, 0x2000, 0x4000⟩ (Nat.le_refl 2) (Nat.le_refl 2)
    let start : Machine (Interface 2 2) :=
      ⟨{ registers := .blank .reactive }, Interface.blank {} queues⟩
    let machine := (system 2 2).after start
      [.device (.registers fun file => file.setLink true), .call .idle (.bringUp 0 0),
        .call .idle .start]
    let frame : Frame := ⟨0x8000, List.replicate 60 0⟩
    let request : HeaderRequest := { destination := some .broadcast, etherType := some 0x0800 }
    let header : EthernetHeader := ⟨.broadcast, .fallback, 0x0800⟩
    let before := machine.state.queues.rx.close 0 Descriptor.firstOfFrame
    machine.state.lifecycle = .initialized ∧ linked machine.bus.registers = true ∧
      ∃ result sent after, (transmit frame (some request)).run .idle machine =
          (.ok (result, sent), after) ∧
        EthernetHeader.parse sent.bytes = some header ∧
        let looped := { machine.state.queues with rx := before.deliver 1 sent.bytes 0x300 }
        let receiver := { machine with state := { machine.state with queues := looped } }
        ∃ earlier ≤ 1, ∃ after,
          (receive (List.replicate 64 0)).run .idle
              (reading .idle (List.replicate 64 0) receiver earlier) =
            (.ok (.ok ⟨60, 14, some header⟩, sent.bytes ++ List.replicate 4 0), after) := by
  intro queues start machine frame request header before
  have initialized : machine.state.lifecycle = .initialized := by decide +kernel
  have up : linked machine.bus.registers = true := by decide +kernel
  have station : machine.state.address = .fallback := by decide +kernel
  have index : before.ring.index = 0 := by decide +kernel
  have free : before.owner 0 = .software := by decide +kernel
  -- from here on it does not matter which run has come to this state
  clear_value machine
  obtain ⟨⟨result, sent, after, ran, -, -, length, parsed, -, received⟩, -⟩ :=
    @headers_round_trip _ _ machine initialized up frame (by decide) (by decide) request rfl
      .broadcast 0x0800 rfl rfl .idle
  rw [station] at parsed received
  have length_eq : sent.bytes.length = 60 := length.trans List.length_replicate
  have loops : RxQueue.LoopsBack sent.bytes 1 before (before.deliver 1 sent.bytes 0x300) := by
    constructor
    case index_lt => simp [index]
    case offset_lt => decide
    case closed =>
      intro nearer within
      obtain rfl : nearer = 0 := by omega
      rwa [index]
    case fits =>
      rw [length_eq]
      decide
    case delivered =>
      rw [index]
      exact ⟨0x300, by decide, by decide, rfl⟩
  have comes := received
    { machine with state := { machine.state with
      queues := { machine.state.queues with rx := before.deliver 1 sent.bytes 0x300 } } }
    before 1 (List.replicate 64 0) initialized loops (by simp [length_eq])
  rw [length_eq] at comes
  exact ⟨initialized, up, result, sent, after, ran, parsed, comes⟩

end Interface

end EthernetMac
