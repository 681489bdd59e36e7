import EthernetMac.Descriptor.Basic

/-!
Transmit descriptors. The driver publishes a frame by naming its buffer and
length and then setting the ownership bit; the device sends it, writes how that
went into the status and lets go of the descriptor.
-/

namespace EthernetMac.Descriptor

/-- A frame in one buffer, with an interrupt when it is sent, in a chain. -/
def singleFrame : UInt32 := 0xF0100000

/-- Underflow, deferral, collision, carrier, checksum, flush and jabber errors. -/
def transmitErrorMask : UInt32 := 0x17F06

def collisionMask : UInt32 := 0x78

variable (descriptor : Descriptor)

/-- Links an empty descriptor to its successor. -/
def linkTo (next : UInt32) : Descriptor :=
  { descriptor with status := 0, control := 0, buffer := 0, next }

def submit (buffer : UInt32) (length : Nat) : Descriptor :=
  { descriptor with status := singleFrame, control := sizeField length, buffer }

def transmitErrors : UInt32 := descriptor.status &&& transmitErrorMask

def collisions : UInt32 := (descriptor.status &&& collisionMask) >>> 3

/-- What the device does: it replaces ownership and error bits by those of `status`. -/
def complete (status : UInt32) : Descriptor :=
  { descriptor with
    status := (descriptor.status &&& ~~~(own ||| transmitErrorMask ||| errorSummary)) ||| status }

end EthernetMac.Descriptor
