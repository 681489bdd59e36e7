import EthernetMac.SlotRing
import Mathlib.Data.Nat.ModEq

/-!
Windows of a ring: the slots that a run of consecutive indices stands for. A
window no longer than the ring has a slot for each of its indices, and a window
as long as the ring has every slot.
-/

namespace EthernetMac.Ring

variable {n : Nat}

/-- Indices less than a round apart that stand for one slot are equal. -/
theorem eq_of_mod_eq {first second : Nat} (same : first % n = second % n)
    (le : first ≤ second) (near : second < first + n) : first = second := by
  have divides : n ∣ second - first := (Nat.modEq_iff_dvd' le).1 same
  have zero : second - first = 0 := Nat.eq_zero_of_dvd_of_lt divides (by omega)
  omega

theorem window_inj {start first second : Nat} (first_lt : first < n) (second_lt : second < n)
    (same : (start + first) % n = (start + second) % n) : first = second := by
  rcases Nat.le_total first second with le | le
  · have := eq_of_mod_eq same (by omega) (by omega)
    omega
  · have := eq_of_mod_eq same.symm (by omega) (by omega)
    omega

/-- Every slot is some way ahead of any index. -/
theorem exists_offset (start slot : Nat) (pos : 0 < n) :
    ∃ offset < n, slot % n = (start + offset) % n := by
  have start_lt : start % n < n := Nat.mod_lt _ pos
  refine ⟨(slot + (n - start % n)) % n, Nat.mod_lt _ pos, ?_⟩
  have whole : start + (slot + (n - start % n)) = slot + n * (start / n + 1) := by
    have := Nat.mod_add_div start n
    rw [Nat.mul_add]
    omega
  rw [Nat.add_mod_mod, whole, Nat.add_mul_mod_self_left]

end EthernetMac.Ring
