import EthernetMac.Proofs.Control
import EthernetMac.Proofs.Receive.Drain
import EthernetMac.Proofs.Run.Device

/-!
A frame as the device hands it over: its bytes in the buffer of a slot, and a
status made of flags and of the length, with the ownership bit clear.
-/

namespace EthernetMac

/-- Bytes that fit are found where they were put. -/
theorem Buffer.take_fill (buffer : Buffer) {bytes : List UInt8}
    (fits : bytes.length ≤ receiveBufferSize) :
    (buffer.fill bytes).toList.take bytes.length = bytes := by
  apply List.ext_getElem
  · simpa using fits
  · intro index _ inside
    simp [inside]

structure Arrival where
  flags : UInt32
  bytes : List UInt8
  /-- Flags leave ownership and length alone. -/
  flags_apart : flags &&& (Descriptor.own ||| Descriptor.lengthMask) = 0
  fits : bytes.length ≤ receiveBufferSize

namespace Arrival

open Descriptor (own lengthMask firstOfFrame lastOfFrame)

variable (arrival : Arrival)

def lengthField : UInt32 := UInt32.ofNat arrival.bytes.length <<< 16

def status : UInt32 := arrival.flags ||| arrival.lengthField

/-- All of a frame, in one buffer. -/
def isWhole : Bool :=
  arrival.flags &&& (firstOfFrame ||| lastOfFrame) = firstOfFrame ||| lastOfFrame

/-- Lengths take twelve bits. -/
theorem length_lt : arrival.bytes.length < 2 ^ 12 :=
  Nat.lt_of_le_of_lt arrival.fits (by decide)

private theorem toNat_length :
    (UInt32.ofNat arrival.bytes.length).toNat = arrival.bytes.length := by
  have := arrival.length_lt
  rw [UInt32.toNat_ofNat', Nat.mod_eq_of_lt (by omega)]

private theorem length_and_mask :
    UInt32.ofNat arrival.bytes.length &&& 0xFFF = UInt32.ofNat arrival.bytes.length := by
  apply UInt32.toNat_inj.1
  rw [UInt32.toNat_and, toNat_length]
  exact Nat.and_two_pow_sub_one_of_lt_two_pow arrival.length_lt

private theorem lengthField_and (mask : UInt32) :
    arrival.lengthField &&& mask =
      (UInt32.ofNat arrival.bytes.length <<< 16) &&& (((0xFFF : UInt32) <<< 16) &&& mask) := by
  unfold lengthField
  rw [← UInt32.and_assoc, ← UInt32.shiftLeft_and, length_and_mask]

private theorem flags_and {mask : UInt32} (covered : (own ||| lengthMask) &&& mask = mask) :
    arrival.flags &&& mask = 0 := by
  rw [← covered, ← UInt32.and_assoc, arrival.flags_apart, UInt32.zero_and]

theorem status_and_own : arrival.status &&& own = 0 := by
  have flags : arrival.flags &&& own = 0 := arrival.flags_and (by decide)
  have field : arrival.lengthField &&& own = 0 := by
    rw [lengthField_and]
    exact UInt32.and_zero
  rw [status, Word.or_and, flags, field, UInt32.or_zero]

variable {descriptor : Descriptor} (same : descriptor.status = arrival.status)

include same

theorem owner_eq : descriptor.owner = .software := by
  unfold Descriptor.owner Owner.ofStatus
  rw [same, if_pos arrival.status_and_own]

theorem isWholeFrame_eq : descriptor.isWholeFrame = arrival.isWhole := by
  have field : arrival.lengthField &&& (firstOfFrame ||| lastOfFrame) = 0 := by
    rw [lengthField_and]
    exact UInt32.and_zero
  unfold Descriptor.isWholeFrame isWhole
  rw [same, status, Word.or_and, field, UInt32.or_zero]

theorem frameLength_eq : descriptor.frameLength = arrival.bytes.length := by
  have flags : arrival.flags &&& lengthMask = 0 := arrival.flags_and (by decide)
  have field : arrival.lengthField &&& lengthMask = arrival.lengthField := by
    rw [lengthField_and]
    show _ &&& ((0xFFF : UInt32) <<< 16) = _
    rw [lengthField, ← UInt32.shiftLeft_and, length_and_mask]
  have shifted : arrival.bytes.length <<< 16 < 2 ^ 32 := by
    have := arrival.length_lt
    rw [Nat.shiftLeft_eq]
    omega
  have toNat_lengthField : arrival.lengthField.toNat = arrival.bytes.length <<< 16 := by
    rw [lengthField, UInt32.toNat_shiftLeft, toNat_length]
    exact Nat.mod_eq_of_lt shifted
  unfold Descriptor.frameLength
  rw [same, status, Word.or_and, flags, UInt32.zero_or, field, UInt32.toNat_shiftRight,
    toNat_lengthField]
  exact Nat.shiftLeft_shiftRight _ 16

end Arrival

namespace RxQueue

variable {n : Nat} (queue : RxQueue n)

/-- The device stores a frame in the buffer of a slot and lets go of the slot. -/
def place (slot : Nat) (arrival : Arrival) : RxQueue n :=
  (queue.writeBuffer slot ((queue.stored slot).fill arrival.bytes)).writeStatus slot arrival.status

/-- The status of an arrival has no ownership bit to be cleared. -/
theorem deliver_eq_place (slot : Nat) (arrival : Arrival) :
    queue.deliver slot arrival.bytes arrival.flags = queue.place slot arrival := by
  have cleared : arrival.status &&& ~~~Descriptor.own = arrival.status := by
    have whole : arrival.status &&& (Descriptor.own ||| ~~~Descriptor.own) = arrival.status :=
      UInt32.and_neg_one
    rw [UInt32.and_comm, Word.or_and, UInt32.and_comm, arrival.status_and_own,
      UInt32.zero_or, UInt32.and_comm] at whole
    exact whole
  show (queue.writeBuffer slot ((queue.stored slot).fill arrival.bytes)).writeStatus slot
    (arrival.status &&& ~~~Descriptor.own) = _
  rw [cleared]
  rfl

variable {queue}

theorem get_place (slot : Nat) (arrival : Arrival) (other : Nat) :
    (queue.place slot arrival).ring.get other =
      if other % n = slot % n then { queue.ring.get other with status := arrival.status }
      else queue.ring.get other :=
  queue.ring.get_modify slot other _

theorem stored_writeBuffer (slot : Nat) (content : Buffer) (other : Nat) :
    (queue.writeBuffer slot content).stored other =
      if other % n = slot % n then content else queue.stored other := by
  by_cases same : other % n = slot % n
  · simp [stored, writeBuffer, SlotRing.slot, same]
  · have different : ¬ slot % n = other % n := fun h => same h.symm
    simp [stored, writeBuffer, SlotRing.slot, same, different]

theorem stored_place (slot : Nat) (arrival : Arrival) (other : Nat) :
    (queue.place slot arrival).stored other =
      if other % n = slot % n then (queue.stored slot).fill arrival.bytes
      else queue.stored other :=
  stored_writeBuffer slot _ other

end RxQueue

end EthernetMac
