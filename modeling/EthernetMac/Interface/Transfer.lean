import EthernetMac.Interface.Basic

/-!
Receiving and sending. Both answer at once, and both return the caller's memory
as they leave it.
-/

namespace EthernetMac

/-- A frame at the start of the caller's buffer. -/
@[ext] structure ReceivedFrame where
  length : Nat
  headerSize : Nat
  header : Option EthernetHeader
deriving DecidableEq, Repr

section Parse

variable {σ : Type}

/-- Copies the address that starts at that place. -/
def copyAddress (start : Nat) (header : List UInt8) : Program σ MacAddress := do
  let octets ← Program.slice start (start + 6) header
  match MacAddress.ofOctets? octets with
  | some address => return address
  | none => Program.fault (.slice 6 octets.length)

/-- Takes the header off the start of a frame, if the frame is long enough to have one. -/
def parseHeader (frame : List UInt8) : Program σ (Option EthernetHeader) := do
  if frame.length < EthernetHeader.size then return none
  else
    let header ← Program.firstBytes EthernetHeader.size frame
    let destination ← copyAddress 0 header
    let source ← copyAddress 6 header
    let high ← Program.byteAt 12 header
    let low ← Program.byteAt 13 header
    return some { destination, source, etherType := (high.toUInt16 <<< 8) ||| low.toUInt16 }

/-- Every octet that is looked for is there. -/
@[simp] theorem parseHeader_eq (frame : List UInt8) :
    (parseHeader frame : Program σ _) = pure (EthernetHeader.parse frame) := by
  iterate 14
    cases frame with
    | nil => rfl
    | cons octet frame => ?_
  have enough : EthernetHeader.size ≤ frame.length + 14 := Nat.le_add_left _ _
  unfold parseHeader Program.firstBytes
  simp only [List.length_cons, Nat.not_lt.2 enough, if_false, enough, if_true]
  rfl

end Parse

namespace Interface

variable {rx tx : Nat}

def receive (buffer : List UInt8) :
    Program (Interface rx tx) (Except Error ReceivedFrame × List UInt8) :=
  gated .receive (fun error => (.error error, buffer)) do
    let (received, buffer) ← onQueues (Queues.receive buffer)
    match received with
    | .error error => return (.error error, buffer)
    | .ok length =>
      let frame ← Program.firstBytes length buffer
      let header ← parseHeader frame
      return (.ok ⟨length, EthernetHeader.size, header⟩, buffer)

/-- Fills in the header, if there is one. -/
def writeHeader (header : Option EthernetHeader) (frame : Frame) :
    Program (Interface rx tx) Frame :=
  match header with
  | none => return frame
  | some header => do
    let bytes ← Program.overwrite header.octets frame.bytes
    return { frame with bytes }

/-- Makes sure that the device sends, whatever stopped it. -/
def nudge : Program (Interface rx tx) Unit := do
  Program.enable .txEngine
  Program.enable .transmitter
  Program.demandTx

/-- Publishes a frame that was found fit to send. -/
def dispatch (frame : Frame) : Program (Interface rx tx) (Except Error Unit) := do
  let result ← onQueues (Queues.transmit frame.busAddress frame.bytes.length)
  match result with
  | .ok () =>
    nudge
    return .ok ()
  | .error error =>
    let interface ← Program.get
    Program.note (.slotOwned interface.queues.tx.ring.index)
    nudge
    return .error error

/-- Sends a frame from the caller's memory. The link is looked at first, then
the request; a frame that passes has its header filled in and the device is
nudged even if the queue turns out to be full. -/
def transmit (frame : Frame) (request : Option HeaderRequest) :
    Program (Interface rx tx) (Except Error Unit × Frame) :=
  gated .transmit (fun error => (.error error, frame)) do
    let up ← sampleLink
    if up then
      let interface ← Program.get
      match frame.check request interface.address with
      | .error reason =>
        Program.note (.rejected reason)
        return (.error .invalidParameter, frame)
      | .ok header =>
        let frame ← writeHeader header frame
        let result ← dispatch frame
        return (result, frame)
    else
      Program.note .mediaAbsent
      return (.error .notReady, frame)

end Interface

end EthernetMac
