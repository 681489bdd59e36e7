import EthernetMac.Descriptor.Basic
import EthernetMac.Proofs.Ring.Window
import Mathlib.Data.List.Chain
import Mathlib.Data.List.Range

/-!
Chained rings. Each descriptor holds the address of the one after it, and the last that
of the first. So a device that goes where the descriptors point comes by every slot once
a round; it finds its way by addresses alone if 32 lines tell the slots apart.
-/

namespace EthernetMac

/-- Where the descriptors begin in the region of a ring: at the first multiple of their size
past its start. -/
def Ring.base (start : Nat) : Nat := start + (32 - start % 32)

namespace SlotRing

variable {n : Nat} (ring : SlotRing Descriptor Descriptor.bytes n)

theorem busAddress_eq (slot : Nat) :
    ring.busAddress slot = UInt32.ofNat (Ring.base ring.start + 32 * (slot % n)) := rfl

theorem busAddress_congr {index other : Nat} (same : index % n = other % n) :
    ring.busAddress index = ring.busAddress other :=
  congrArg UInt32.ofNat (ring.address_congr same)

/-- Where a slot lies depends on where its ring begins. -/
theorem busAddress_of_start {ring other : SlotRing Descriptor Descriptor.bytes n}
    (start : ring.start = other.start) (index : Nat) :
    ring.busAddress index = other.busAddress index := by
  unfold busAddress address base
  rw [start]

/-- The descriptor in one slot holds the address of the other. -/
def Points (slot other : Nat) : Prop := (ring.get slot).next = ring.busAddress other

def Chained : Prop := ∀ slot, ring.Points slot (slot + 1)

/-- Each descriptor of a ring in the region from `start` on holds the address of the next. -/
def ChainedFrom (start : Nat) : Prop :=
  ∀ slot, (ring.get slot).next = UInt32.ofNat (Ring.base start + 32 * ((slot + 1) % n))

theorem ChainedFrom.chained {ring : SlotRing Descriptor Descriptor.bytes n}
    (chained : ring.ChainedFrom ring.start) : ring.Chained := chained

theorem ChainedFrom.modify {ring : SlotRing Descriptor Descriptor.bytes n} {start : Nat}
    (chained : ring.ChainedFrom start) (index : Nat) {change : Descriptor → Descriptor}
    (keeps : ∀ descriptor, (change descriptor).next = descriptor.next) :
    (ring.modify index change).ChainedFrom start := by
  intro slot
  have linked := chained slot
  rw [get_modify]
  split
  · rw [keeps]
    exact linked
  · exact linked

/-- The descriptor that lies at an address, as the device sees it. -/
def at? (address : UInt32) : Option Descriptor :=
  ((List.range n).find? fun slot => ring.busAddress slot = address).map ring.get

/-- The address that the device has come to after so many descriptors, from slot 0 on. -/
def fetched? : Nat → Option UInt32
  | 0 => some (ring.busAddress 0)
  | count + 1 => do
    let address ← fetched? count
    let descriptor ← ring.at? address
    return descriptor.next

/-- 32 lines tell the slots of the ring apart. -/
def Addressable (_ring : SlotRing Descriptor Descriptor.bytes n) : Prop :=
  Descriptor.bytes * n ≤ 2 ^ 32

/-- Following the descriptors from slot 0 goes by every slot and back to slot 0. -/
structure Tours : Prop where
  chain : (List.range n ++ [0]).IsChain ring.Points
  busAddress_eq_iff : ring.Addressable → ∀ slot other,
    ring.busAddress slot = ring.busAddress other ↔ slot % n = other % n
  fetches : ring.Addressable → ∀ count, ring.fetched? count = some (ring.busAddress count)

section Addressable

variable {ring} (addressable : ring.Addressable)

include addressable

theorem slot_eq_of_busAddress {slot other : Nat}
    (same : ring.busAddress slot = ring.busAddress other) : slot % n = other % n := by
  have below (index : Nat) : Descriptor.bytes * (index % n) < 2 ^ 32 :=
    Nat.lt_of_lt_of_le (Nat.mul_lt_mul_of_pos_left (Nat.mod_lt index ring.pos) (by decide))
      addressable
  have wrapped : ring.address slot % 2 ^ 32 = ring.address other % 2 ^ 32 := by
    have toNat_eq := congrArg UInt32.toNat same
    simpa only [busAddress, UInt32.toNat_ofNat'] using toNat_eq
  have offset_eq : Descriptor.bytes * (slot % n) = Descriptor.bytes * (other % n) :=
    Ring.window_inj (below slot) (below other) wrapped
  exact Nat.eq_of_mul_eq_mul_left (by decide) offset_eq

theorem at?_busAddress (slot : Nat) : ring.at? (ring.busAddress slot) = some (ring.get slot) := by
  unfold at?
  cases found : (List.range n).find? fun other =>
      ring.busAddress other = ring.busAddress slot with
  | none =>
    rw [List.find?_eq_none] at found
    have missing := found (slot % n) (List.mem_range.2 (Nat.mod_lt slot ring.pos))
    rw [ring.busAddress_congr (Nat.mod_mod slot n)] at missing
    simp at missing
  | some other =>
    have same : ring.busAddress other = ring.busAddress slot := by
      simpa using List.find?_some found
    exact congrArg some (ring.get_congr (slot_eq_of_busAddress addressable same))

end Addressable

theorem Chained.tours {ring : SlotRing Descriptor Descriptor.bytes n} (chained : ring.Chained) :
    ring.Tours where
  chain := by
    obtain ⟨last, rfl⟩ : ∃ last, n = last + 1 := Nat.exists_eq_add_one.2 ring.pos
    have first_again : ring.busAddress (last + 1) = ring.busAddress 0 :=
      ring.busAddress_congr (by rw [Nat.mod_self, Nat.zero_mod])
    have closes : ring.Points last 0 := (chained last).trans first_again
    rw [List.isChain_append, List.isChain_range_succ]
    refine ⟨fun slot _ => chained slot, List.isChain_singleton 0, ?_⟩
    rw [List.range_succ]
    simpa using closes
  busAddress_eq_iff addressable slot other :=
    ⟨slot_eq_of_busAddress addressable, ring.busAddress_congr⟩
  fetches addressable count := by
    induction count with
    | zero => rfl
    | succ count ih =>
      rw [fetched?, ih]
      show (ring.at? (ring.busAddress count)).bind _ = _
      rw [at?_busAddress addressable]
      exact congrArg some (chained count)

end SlotRing

end EthernetMac
