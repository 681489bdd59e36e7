import EthernetMac.Descriptor.Transmit
import EthernetMac.SlotRing

/-!
The transmit queue: a ring of descriptors with an index to publish at, an index
to report from, and the number of frames published but not yet reported. An
empty and a full queue differ in that number alone.
-/

namespace EthernetMac

@[ext] structure TxQueue (n : Nat) where
  ring : SlotRing Descriptor Descriptor.bytes n
  release : Nat := 0
  pending : Nat := 0

namespace TxQueue

variable {n : Nat} (queue : TxQueue n)

/-- Empties the queue: every descriptor is cleared and chained to the next. -/
def rebuild : TxQueue n where
  ring :=
    let ring := queue.ring.rewind
    ring.mapSlots fun index descriptor => descriptor.linkTo (ring.busAddress (index + 1))

/-- Hands a frame to the device. -/
def publish (address : UInt32) (length : Nat) : TxQueue n :=
  { queue with
    ring := (queue.ring.modify queue.ring.index fun descriptor =>
      descriptor.submit address length).advance
    pending := queue.pending + 1 }

/-- The descriptor whose completion is reported next. -/
def oldest : Descriptor := queue.ring.get queue.release

/-- Drops the oldest frame from the account. -/
def retire : TxQueue n :=
  { queue with release := (queue.release + 1) % n, pending := queue.pending - 1 }

def owner (index : Nat) : Owner := (queue.ring.get index).owner

def owners : List Owner := (queue.ring.slots.map Descriptor.owner).toList

/-- The device is done with the frame in a slot. -/
def complete (slot : Nat) (status : UInt32) : TxQueue n :=
  { queue with ring := queue.ring.modify slot (Descriptor.complete · status) }

end TxQueue

end EthernetMac
