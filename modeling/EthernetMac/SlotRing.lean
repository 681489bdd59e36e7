/-!
A ring of `n` slots of `stride` bytes each. The slots lie in a region of
`n + 1` strides, at the first multiple of the stride past its start, so that
they are aligned wherever the region begins. Every index is taken modulo `n`.
-/

namespace EthernetMac

@[ext] structure SlotRing (δ : Type) (stride n : Nat) where
  /-- Address of the region. -/
  start : Nat
  slots : Vector δ n
  index : Nat := 0
  two_le : 2 ≤ n

namespace SlotRing

variable {δ : Type} {stride n : Nat}

theorem pos (ring : SlotRing δ stride n) : 0 < n := by
  have := ring.two_le
  omega

variable (ring : SlotRing δ stride n)

def base : Nat := ring.start + (stride - ring.start % stride)

def address (index : Nat) : Nat := ring.base + stride * (index % n)

/-- The address as the device sees it, on 32 lines. -/
def busAddress (index : Nat) : UInt32 := UInt32.ofNat (ring.address index)

/-- The slot that an index stands for. -/
def slot (index : Nat) : Fin n := ⟨index % n, Nat.mod_lt _ ring.pos⟩

def get (index : Nat) : δ := ring.slots[ring.slot index]

def current : δ := ring.get ring.index

def modify (index : Nat) (change : δ → δ) : SlotRing δ stride n :=
  { ring with slots := ring.slots.set (ring.slot index) (change (ring.get index)) }

/-- Changes every slot, given its index. -/
def mapSlots (change : Nat → δ → δ) : SlotRing δ stride n :=
  { ring with slots := ring.slots.mapIdx change }

def advance : SlotRing δ stride n := { ring with index := (ring.index + 1) % n }

def rewind : SlotRing δ stride n := { ring with index := 0 }

@[simp] theorem slot_val (index : Nat) : (ring.slot index : Nat) = index % n := rfl

theorem get_eq_getElem (index : Nat) (inside : index < n) : ring.get index = ring.slots[index] := by
  simp [get, Nat.mod_eq_of_lt inside]

@[simp] theorem get_mod (index : Nat) : ring.get (index % n) = ring.get index := by
  simp [get]

theorem get_congr {first second : Nat} (same : first % n = second % n) :
    ring.get first = ring.get second := by
  rw [← get_mod, same, get_mod]

theorem address_congr {first second : Nat} (same : first % n = second % n) :
    ring.address first = ring.address second := by
  unfold address
  rw [same]

theorem get_of_replicate {ring : SlotRing δ stride n} {content : δ}
    (filled : ring.slots = Vector.replicate n content) (index : Nat) :
    ring.get index = content := by
  simp [get, filled]

theorem ext_get {ring other : SlotRing δ stride n} (start : ring.start = other.start)
    (get : ∀ slot, ring.get slot = other.get slot) (index : ring.index = other.index) :
    ring = other := by
  apply SlotRing.ext start _ index
  apply Vector.ext
  intro slot inside
  rw [← ring.get_eq_getElem slot inside, get, other.get_eq_getElem slot inside]

theorem get_modify (index other : Nat) (change : δ → δ) :
    (ring.modify index change).get other =
      if other % n = index % n then change (ring.get other) else ring.get other := by
  by_cases same : other % n = index % n
  · simp [get, modify, same]
  · have different : ¬ index % n = other % n := fun h => same h.symm
    simp [get, modify, same, different]

@[simp] theorem get_mapSlots (index : Nat) (change : Nat → δ → δ) :
    (ring.mapSlots change).get index = change (index % n) (ring.get index) := by
  simp [get, mapSlots]

@[simp] theorem get_advance (index : Nat) : ring.advance.get index = ring.get index := rfl

theorem index_advance_lt : ring.advance.index < n := Nat.mod_lt _ ring.pos

end SlotRing

end EthernetMac
