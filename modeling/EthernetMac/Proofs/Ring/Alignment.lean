import EthernetMac.SlotRing
import Mathlib.Data.Nat.Basic
import Mathlib.Order.CompletePartialOrder
import Mathlib.Order.Interval.Set.Disjoint

/-!
Where the slots of a ring lie. They begin at the first multiple of the stride past the start of
the region, so one stride more than they take up is always enough, whatever the stride is and
wherever the region starts. A region that starts at a multiple gives up a whole stride in front
of the slots and has nothing left behind them.
-/

namespace EthernetMac.SlotRing

variable {δ : Type} {stride n : Nat} (ring : SlotRing δ stride n)

/-- The addresses of the bytes in a slot. -/
def area (index : Nat) : Set Nat :=
  Set.Ico (ring.address index) (ring.address index + stride)

/-- A slot ends before the next one begins. -/
theorem address_add_le {first second : Nat} (before : first % n < second % n) :
    ring.address first + stride ≤ ring.address second := by
  have further : stride * (first % n + 1) ≤ stride * (second % n) :=
    Nat.mul_le_mul_left stride before
  rw [Nat.mul_succ] at further
  unfold address
  omega

theorem address_apart {first second : Nat} (distinct : first % n ≠ second % n) :
    ring.address first + stride ≤ ring.address second ∨
      ring.address second + stride ≤ ring.address first := by
  rcases Nat.lt_or_gt_of_ne distinct with before | after
  · exact .inl (ring.address_add_le before)
  · exact .inr (ring.address_add_le after)

theorem disjoint_area {first second : Nat} (distinct : first % n ≠ second % n) :
    Disjoint (ring.area first) (ring.area second) := by
  have apart := ring.address_apart distinct
  unfold area
  rw [Set.Ico_disjoint_Ico]
  omega

/-- The slots end no later than the region, which has a stride to spare. -/
theorem base_add_le : ring.base + stride * n ≤ ring.start + stride * (n + 1) := by
  have skipped : stride - ring.start % stride ≤ stride := Nat.sub_le stride _
  unfold base
  rw [Nat.mul_succ]
  omega

theorem address_add_le_limit (index : Nat) :
    ring.address index + stride ≤ ring.start + stride * (n + 1) := by
  have within : stride * (index % n + 1) ≤ stride * n :=
    Nat.mul_le_mul_left stride (Nat.mod_lt index ring.pos)
  have ends := ring.base_add_le
  rw [Nat.mul_succ] at within
  unfold address
  omega

section Aligned

variable (positive : 0 < stride)

include positive

/-- The base is the first multiple of the stride past the start. -/
theorem base_eq : ring.base = stride * (ring.start / stride + 1) := by
  have part : ring.start % stride < stride := Nat.mod_lt _ positive
  have whole : stride * (ring.start / stride) + ring.start % stride = ring.start :=
    Nat.div_add_mod ring.start stride
  rw [Nat.mul_succ]
  unfold base
  omega

/-- The spare stride is used up where the region starts at a multiple already. -/
theorem base_add_eq_iff :
    ring.base + stride * n = ring.start + stride * (n + 1) ↔ stride ∣ ring.start := by
  have part : ring.start % stride < stride := Nat.mod_lt _ positive
  rw [Nat.dvd_iff_mod_eq_zero, Nat.mul_succ]
  unfold base
  omega

theorem dvd_base : stride ∣ ring.base := by
  rw [ring.base_eq positive]
  exact Nat.dvd_mul_right stride _

theorem start_lt_base : ring.start < ring.base := by
  rw [ring.base_eq positive]
  exact Nat.lt_mul_div_succ ring.start positive

theorem dvd_address (index : Nat) : stride ∣ ring.address index :=
  Nat.dvd_add (ring.dvd_base positive) (Nat.dvd_mul_right stride _)

theorem start_lt_address (index : Nat) : ring.start < ring.address index :=
  Nat.lt_add_right _ (ring.start_lt_base positive)

end Aligned

end EthernetMac.SlotRing
