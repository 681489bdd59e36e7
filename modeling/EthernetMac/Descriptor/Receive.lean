import EthernetMac.Descriptor.Basic

/-!
Receive descriptors. The device closes one by writing a status with the frame's
length and flags and with the ownership bit clear; the driver gives it back by
writing the ownership bit alone.
-/

namespace EthernetMac.Descriptor

def lastOfFrame : UInt32 := 0x100
def firstOfFrame : UInt32 := 0x200
def sourceFilterFailed : UInt32 := 0x2000
def destinationFilterFailed : UInt32 := 0x40000000
def lengthMask : UInt32 := 0x3FFF0000

/-- The next word holds the address of another descriptor, not of a second buffer. -/
def chained : UInt32 := 0x4000

/-- CRC, dribble, line, watchdog, late collision, overflow, length and descriptor errors. -/
def receiveErrorMask : UInt32 := 0x585E

variable (descriptor : Descriptor)

def giveToHardware : Descriptor := { descriptor with status := own }

/-- Points a descriptor at its buffer and its successor and hands it to the device. -/
def arm (buffer : UInt32) (size : Nat) (next : UInt32) : Descriptor :=
  { descriptor with status := own, control := chained ||| sizeField size, buffer, next }

/-- The first and the last part of a frame, so all of it. -/
def isWholeFrame : Bool :=
  descriptor.status &&& (firstOfFrame ||| lastOfFrame) = firstOfFrame ||| lastOfFrame

def receiveErrors : UInt32 := descriptor.status &&& receiveErrorMask

def frameLength : Nat := ((descriptor.status &&& lengthMask) >>> 16).toNat

def failedSourceFilter : Bool := descriptor.status &&& sourceFilterFailed != 0

def failedDestinationFilter : Bool := descriptor.status &&& destinationFilterFailed != 0

/-- What the device does: it writes a status and lets go of the descriptor. -/
def close (status : UInt32) : Descriptor := { descriptor with status := status &&& ~~~own }

end EthernetMac.Descriptor
