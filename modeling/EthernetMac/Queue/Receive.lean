import EthernetMac.Descriptor.Receive
import EthernetMac.SlotRing

/-!
The receive queue: a ring of descriptors, each with a buffer of its own. The
device fills buffers in ring order and closes their descriptors; the driver
reads at its index and gives each descriptor back.
-/

namespace EthernetMac

/-- Room for one received frame. -/
abbrev receiveBufferSize : Nat := 2048

abbrev Buffer := Vector UInt8 receiveBufferSize

namespace Buffer

def blank : Buffer := Vector.replicate receiveBufferSize 0

/-- Puts `bytes` at the start and keeps what lies behind them. -/
def fill (buffer : Buffer) (bytes : List UInt8) : Buffer :=
  let filling := bytes.toArray
  buffer.mapIdx fun index old => filling[index]?.getD old

@[simp] theorem getElem_fill (buffer : Buffer) (bytes : List UInt8) (index : Nat)
    (inside : index < receiveBufferSize) :
    (buffer.fill bytes)[index] = bytes[index]?.getD buffer[index] := by
  simp [fill]

end Buffer

@[ext] structure RxQueue (n : Nat) where
  ring : SlotRing Descriptor Descriptor.bytes n
  /-- Address of the first buffer. -/
  pool : Nat
  buffers : Vector Buffer n

namespace RxQueue

variable {n : Nat} (queue : RxQueue n)

/-- The buffers lie one behind the other. -/
def bufferAddress (index : Nat) : UInt32 :=
  UInt32.ofNat (queue.pool + receiveBufferSize * index)

def rewind : RxQueue n := { queue with ring := queue.ring.rewind }

/-- Arms the descriptor of a slot with that buffer and chains it to the next. -/
def arm (slot : Nat) (buffer : UInt32) : RxQueue n :=
  { queue with
    ring := queue.ring.modify slot fun descriptor =>
      descriptor.arm buffer receiveBufferSize (queue.ring.busAddress (slot + 1)) }

/-- Empties the queue: every descriptor is armed with its buffer and chained to the next. -/
def rebuild : RxQueue n :=
  let ring := queue.ring.rewind
  { queue with
    ring := ring.mapSlots fun index descriptor =>
      descriptor.arm (queue.bufferAddress index) receiveBufferSize (ring.busAddress (index + 1)) }

/-- Gives the current descriptor back and moves on. -/
def recycle : RxQueue n :=
  { queue with ring := (queue.ring.modify queue.ring.index Descriptor.giveToHardware).advance }

def owner (index : Nat) : Owner := (queue.ring.get index).owner

def owners : List Owner := (queue.ring.slots.map Descriptor.owner).toList

/-- The device writes a status without touching the buffer. -/
def close (slot : Nat) (status : UInt32) : RxQueue n :=
  { queue with ring := queue.ring.modify slot (Descriptor.close · status) }

/-- The device stores a frame in the buffer of a slot and closes the descriptor
with the given flags and the frame's length. -/
def deliver (slot : Nat) (frame : List UInt8) (flags : UInt32) : RxQueue n :=
  let filled := { queue with
    buffers := queue.buffers.set (queue.ring.slot slot)
      ((queue.buffers[queue.ring.slot slot]).fill frame) }
  filled.close slot (flags ||| (UInt32.ofNat frame.length <<< 16))

end RxQueue

end EthernetMac
