/-!
A DMA descriptor: eight words that the driver and the device share. Bit 31 of
the status word says whose it is; the side that owns it may change it, and
hands it over by changing that bit.
-/

namespace EthernetMac

inductive Owner where
  | software
  | hardware
deriving DecidableEq, Repr

/-- The owner that a status word names, where `mask` marks the ownership bit. -/
def Owner.ofStatus (status mask : UInt32) : Owner :=
  if status &&& mask = 0 then .software else .hardware

@[ext] structure Descriptor where
  status : UInt32 := 0
  control : UInt32 := 0
  buffer : UInt32 := 0
  next : UInt32 := 0
  word4 : UInt32 := 0
  word5 : UInt32 := 0
  word6 : UInt32 := 0
  word7 : UInt32 := 0
deriving DecidableEq, Repr, Inhabited

namespace Descriptor

/-- Size of a descriptor in memory. -/
abbrev bytes : Nat := 32

def own : UInt32 := 0x80000000

/-- Set by the device when something went wrong with the frame. -/
def errorSummary : UInt32 := 0x8000

/-- Sizes are kept in 13 bits. -/
def sizeMask : UInt32 := 0x1FFF

def sizeField (size : Nat) : UInt32 := UInt32.ofNat size &&& sizeMask

def owner (descriptor : Descriptor) : Owner := .ofStatus descriptor.status own

def hasError (descriptor : Descriptor) : Bool := descriptor.status &&& errorSummary != 0

def words (descriptor : Descriptor) : List UInt32 :=
  [descriptor.status, descriptor.control, descriptor.buffer, descriptor.next,
    descriptor.word4, descriptor.word5, descriptor.word6, descriptor.word7]

def setWord (descriptor : Descriptor) (index : Nat) (value : UInt32) : Descriptor :=
  match index with
  | 0 => { descriptor with status := value }
  | 1 => { descriptor with control := value }
  | 2 => { descriptor with buffer := value }
  | 3 => { descriptor with next := value }
  | 4 => { descriptor with word4 := value }
  | 5 => { descriptor with word5 := value }
  | 6 => { descriptor with word6 := value }
  | 7 => { descriptor with word7 := value }
  | _ => descriptor

end Descriptor

end EthernetMac
