import EthernetMac.Address
import EthernetMac.Notice

/-!
Ethernet headers: destination, source and type, the type with its more
significant octet first. Parsing reads back what the octets of a header say.
A caller's frame and its header request are checked here before anything is
done with them.
-/

namespace EthernetMac

@[ext] structure EthernetHeader where
  destination : MacAddress
  source : MacAddress
  etherType : UInt16
deriving DecidableEq, Repr

namespace EthernetHeader

abbrev size : Nat := 14

def octets (header : EthernetHeader) : List UInt8 :=
  header.destination.octets ++ header.source.octets ++
    [(header.etherType >>> 8).toUInt8, header.etherType.toUInt8]

/-- The header at the start of a frame, if the frame is long enough to have one. -/
def parse : List UInt8 → Option EthernetHeader
  | d0 :: d1 :: d2 :: d3 :: d4 :: d5 :: s0 :: s1 :: s2 :: s3 :: s4 :: s5 :: t0 :: t1 :: _ =>
    some
      { destination := ⟨d0, d1, d2, d3, d4, d5⟩
        source := ⟨s0, s1, s2, s3, s4, s5⟩
        etherType := (t0.toUInt16 <<< 8) ||| t1.toUInt16 }
  | _ => none

@[simp] theorem length_octets (header : EthernetHeader) : header.octets.length = size := rfl

private theorem join_octets (value : UInt16) :
    ((value >>> 8).toUInt8.toUInt16 <<< 8) ||| value.toUInt8.toUInt16 = value := by
  apply UInt16.toBitVec_inj.1
  apply BitVec.eq_of_getLsbD_eq
  intro i inside
  have aligned : i < 8 ∨ 8 + (i - 8) = i := by omega
  simp only [UInt16.toBitVec_or, UInt16.toBitVec_shiftLeft, UInt16.toBitVec_shiftRight,
    UInt8.toBitVec_toUInt16, UInt16.toBitVec_toUInt8, BitVec.getLsbD_or, BitVec.getLsbD_setWidth]
  simp
  grind

@[simp] theorem parse_octets (header : EthernetHeader) (rest : List UInt8) :
    parse (header.octets ++ rest) = some header := by
  simp only [octets, MacAddress.octets, List.cons_append, List.nil_append, parse, join_octets]

theorem isSome_parse (frame : List UInt8) : (parse frame).isSome ↔ size ≤ frame.length := by
  iterate 14
    cases frame with
    | nil => simp [parse, size]
    | cons octet frame => ?_
  simp [parse, size]

end EthernetHeader

/-- What a caller wants filled in at the start of a frame. -/
structure HeaderRequest where
  /-- The room that the caller left for the header. -/
  size : Nat := EthernetHeader.size
  source : Option MacAddress := none
  destination : Option MacAddress
  etherType : Option UInt16
deriving DecidableEq, Repr

namespace HeaderRequest

/-- The source is the station's unless the caller names one. -/
def resolve (request : HeaderRequest) (station : MacAddress) :
    Except Rejection EthernetHeader :=
  if request.size ≠ EthernetHeader.size then .error (.headerSize request.size)
  else
    match request.destination, request.etherType with
    | some destination, some etherType =>
      .ok { destination, source := request.source.getD station, etherType }
    | _, _ => .error .headerFields

end HeaderRequest

/-- A caller's frame: its memory stays the caller's, and the device reads it there. -/
@[ext] structure Frame where
  address : Nat
  bytes : List UInt8
deriving DecidableEq, Repr

namespace Frame

/-- The longest frame a descriptor can describe. -/
abbrev maxLength : Nat := 0x1FFF

def busAddress (frame : Frame) : UInt32 := UInt32.ofNat frame.address

/-- Accepts a frame of at least `least` bytes that a descriptor can describe. -/
def accept (frame : Frame) (least : Nat) (header : Option EthernetHeader) :
    Except Rejection (Option EthernetHeader) :=
  if frame.bytes.length < least ∨ maxLength < frame.bytes.length then
    .error (.frameLength frame.bytes.length)
  else .ok header

/-- The header to write, if any, or why the frame cannot be sent. The request
is looked at before the length; without one, any byte is a frame. -/
def check (frame : Frame) (request : Option HeaderRequest) (station : MacAddress) :
    Except Rejection (Option EthernetHeader) :=
  match request with
  | none => frame.accept 1 none
  | some request =>
    match request.resolve station with
    | .error reason => .error reason
    | .ok header => frame.accept EthernetHeader.size (some header)

end Frame

end EthernetMac
