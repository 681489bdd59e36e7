import EthernetMac.Filter
import EthernetMac.Status

/-!
What becomes of a control when a word is changed by masks. Bits that are put in set it if
they are its own; bits that are taken out clear it, or leave it alone. A filter request
changes no bits but its own and overrides the one before it, and the setting can be told
from the register but for plain multicast, which has no bit. What is acknowledged was pending.
-/

namespace EthernetMac

theorem Word.or_and (left right mask : UInt32) :
    (left ||| right) &&& mask = (left &&& mask) ||| (right &&& mask) :=
  UInt32.toBitVec_inj.1 BitVec.and_or_distrib_right

/-- A word is made up of the bits in a mask and the bits outside it. -/
theorem Word.and_or_and_not (value mask : UInt32) :
    value &&& mask ||| value &&& ~~~mask = value := by
  rw [← UInt32.toBitVec_inj]
  ext bit inside
  simp only [UInt32.toBitVec_or, UInt32.toBitVec_and, UInt32.toBitVec_not, BitVec.getElem_or,
    BitVec.getElem_and, BitVec.getElem_not]
  cases value.toBitVec[bit] <;> cases mask.toBitVec[bit] <;> rfl

theorem Word.not_and_of_apart {value mask : UInt32} (apart : value &&& mask = 0) :
    ~~~value &&& mask = mask := by
  calc ~~~value &&& mask
      = mask &&& value ||| mask &&& ~~~value := by
        rw [UInt32.and_comm mask value, apart, UInt32.zero_or, UInt32.and_comm]
    _ = mask := and_or_and_not mask value

theorem Word.eq_of_whole {value other mask : UInt32} (whole : ~~~mask = 0)
    (same : value &&& mask = other &&& mask) : value = other := by
  have all (word : UInt32) : word &&& mask = word := by
    have parts := and_or_and_not word mask
    rwa [whole, UInt32.and_zero, UInt32.or_zero] at parts
  rw [← all value, ← all other, same]

namespace Control

variable (control : Control) {bits : UInt32} (value : UInt32)

theorem isSetIn_or (bits : UInt32) :
    control.isSetIn (value ||| bits) = (control.isSetIn value || control.isSetIn bits) := by
  unfold isSetIn
  rw [Word.or_and, Bool.eq_iff_iff]
  simp [Decidable.imp_iff_not_or]

theorem isSetIn_and_not_of_apart (apart : ~~~bits &&& control.mask = control.mask) :
    control.isSetIn (value &&& ~~~bits) = control.isSetIn value := by
  unfold isSetIn
  rw [UInt32.and_assoc, apart]

theorem isSetIn_and_not_of_covered (covered : ~~~bits &&& control.mask = 0) :
    control.isSetIn (value &&& ~~~bits) = false := by
  unfold isSetIn
  rw [UInt32.and_assoc, covered, UInt32.and_zero]
  rfl

/-- To test a control one has to know no more than its own bits. -/
theorem isSetIn_congr {value other mask : UInt32} (known : control.mask &&& mask = control.mask)
    (same : value &&& mask = other &&& mask) : control.isSetIn value = control.isSetIn other := by
  have own (word : UInt32) : word &&& control.mask = (word &&& mask) &&& control.mask := by
    rw [UInt32.and_assoc, UInt32.and_comm mask, known]
  unfold isSetIn
  rw [own value, own other, same]

/-- A single bit is set as a whole or not at all. -/
theorem mask_and_of_isSetIn {control : Control} {value : UInt32}
    (single : ∃ bit, control.mask.toBitVec = .twoPow 32 bit)
    (set : control.isSetIn value = true) : control.mask &&& value = control.mask := by
  obtain ⟨bit, mask_eq⟩ := single
  have bits : value.toBitVec &&& control.mask.toBitVec =
      if value.toBitVec.getLsbD bit then control.mask.toBitVec else 0 := by
    rw [mask_eq]
    exact BitVec.and_twoPow ..
  apply UInt32.toBitVec_inj.1
  rw [UInt32.toBitVec_and, BitVec.and_comm, bits]
  split
  · rfl
  next clear =>
    rw [if_neg clear] at bits
    have none : value &&& control.mask = 0 := UInt32.toBitVec_inj.1 bits
    simp [isSetIn, none] at set

/-- So of a single bit a word holds what the test for it tells. -/
theorem and_mask {control : Control} (single : ∃ bit, control.mask.toBitVec = .twoPow 32 bit)
    (value : UInt32) :
    value &&& control.mask = if control.isSetIn value then control.mask else 0 := by
  cases set : control.isSetIn value with
  | true => simpa [UInt32.and_comm] using mask_and_of_isSetIn single set
  | false => simpa [isSetIn] using set

end Control

namespace ReceiveFilter

/-- The bits of the frame filter register that a request is about. -/
def mask : UInt32 :=
  Control.promiscuous.mask ||| Control.allMulticast.mask ||| Control.broadcastBlocked.mask

theorem put_and_of_apart {control : Control} {kept : UInt32} (apart : control.mask &&& kept = 0)
    (present : Bool) (raw : UInt32) : put control present raw &&& kept = raw &&& kept := by
  unfold put
  split
  · rw [Word.or_and, apart, UInt32.or_zero]
  · rw [UInt32.and_assoc, Word.not_and_of_apart apart]

theorem apply_and_not_mask (filter : ReceiveFilter) (raw : UInt32) :
    filter.apply raw &&& ~~~mask = raw &&& ~~~mask := by
  unfold apply
  rw [put_and_of_apart (by decide), put_and_of_apart (by decide), put_and_of_apart (by decide)]

theorem isSetIn_put {control : Control} (nonzero : control.mask ≠ 0) (present : Bool)
    (raw : UInt32) : control.isSetIn (put control present raw) = present := by
  unfold put
  cases present with
  | true =>
    rw [if_pos rfl, Control.isSetIn_or]
    simp [Control.isSetIn, nonzero]
  | false => exact control.isSetIn_and_not_of_covered _ (by simp)

theorem isSetIn_put_of_apart {control other : Control} (apart : control.mask &&& other.mask = 0)
    (present : Bool) (raw : UInt32) :
    other.isSetIn (put control present raw) = other.isSetIn raw := by
  unfold Control.isSetIn
  rw [put_and_of_apart apart]

section Apply

variable (request : ReceiveFilter) (raw : UInt32)

@[simp] theorem isSetIn_apply_promiscuous :
    Control.promiscuous.isSetIn (request.apply raw) = request.has promiscuous :=
  isSetIn_put (by decide) _ _

@[simp] theorem isSetIn_apply_allMulticast : Control.allMulticast.isSetIn (request.apply raw) =
    (request.has multicast || request.has promiscuousMulticast) := by
  unfold apply
  rw [isSetIn_put_of_apart (by decide), isSetIn_put (by decide)]

@[simp] theorem isSetIn_apply_broadcastBlocked :
    Control.broadcastBlocked.isSetIn (request.apply raw) = !request.has broadcast := by
  unfold apply
  rw [isSetIn_put_of_apart (by decide), isSetIn_put_of_apart (by decide), isSetIn_put (by decide)]

end Apply

/-- A frame filter register is the bits that requests are not about and three more. -/
theorem register_ext {raw other : UInt32} (outside : raw &&& ~~~mask = other &&& ~~~mask)
    (promiscuous : Control.promiscuous.isSetIn raw = Control.promiscuous.isSetIn other)
    (allMulticast : Control.allMulticast.isSetIn raw = Control.allMulticast.isSetIn other)
    (broadcastBlocked :
      Control.broadcastBlocked.isSetIn raw = Control.broadcastBlocked.isSetIn other) :
    raw = other := by
  have inside (raw : UInt32) : raw &&& mask =
      (if Control.promiscuous.isSetIn raw then Control.promiscuous.mask else 0) |||
        (if Control.allMulticast.isSetIn raw then Control.allMulticast.mask else 0) |||
        (if Control.broadcastBlocked.isSetIn raw then Control.broadcastBlocked.mask else 0) := by
    rw [← Control.and_mask ⟨0, by decide⟩, ← Control.and_mask ⟨4, by decide⟩,
      ← Control.and_mask ⟨5, by decide⟩]
    simp only [UInt32.and_comm raw, ← Word.or_and]
    rfl
  rw [← Word.and_or_and_not raw mask, ← Word.and_or_and_not other mask, outside, inside raw,
    inside other, promiscuous, allMulticast, broadcastBlocked]

/-- The second of two requests decides. -/
theorem apply_apply (request later : ReceiveFilter) (raw : UInt32) :
    later.apply (request.apply raw) = later.apply raw := by
  apply register_ext <;> simp [apply_and_not_mask]

theorem has_ofRegister (raw : UInt32) :
    (ofRegister raw).has broadcast = !Control.broadcastBlocked.isSetIn raw ∧
      (ofRegister raw).has promiscuous = Control.promiscuous.isSetIn raw ∧
      (ofRegister raw).has multicast = false ∧
      (ofRegister raw).has promiscuousMulticast = Control.allMulticast.isSetIn raw := by
  unfold ofRegister
  cases Control.broadcastBlocked.isSetIn raw <;> cases Control.promiscuous.isSetIn raw <;>
    cases Control.allMulticast.isSetIn raw <;> decide

/-- To ask for what is set changes nothing. -/
theorem apply_ofRegister (raw : UInt32) : (ofRegister raw).apply raw = raw := by
  obtain ⟨broadcast, promiscuous, multicast, allMulticast⟩ := has_ofRegister raw
  apply register_ext <;> simp [apply_and_not_mask, *]

/-- Of a set, a single flag. -/
def only (filter flag : ReceiveFilter) : ReceiveFilter := ⟨filter.bits &&& flag.bits⟩

/-- What an interface makes of a request: unicast is always on, and multicast is served by
receiving all of it. -/
def honoured (request : ReceiveFilter) : ReceiveFilter :=
  unicast ∪ request.only broadcast ∪ request.only promiscuous ∪
    if request.has multicast || request.has promiscuousMulticast then promiscuousMulticast else ⟨0⟩

theorem only_eq {flag : ReceiveFilter} (single : ∃ bit, flag.bits.toBitVec = .twoPow 8 bit)
    (filter : ReceiveFilter) : filter.only flag = if filter.has flag then flag else ⟨0⟩ := by
  obtain ⟨bit, bits_eq⟩ := single
  have bits : filter.bits.toBitVec &&& flag.bits.toBitVec =
      if filter.bits.toBitVec.getLsbD bit then flag.bits.toBitVec else 0 := by
    rw [bits_eq]
    exact BitVec.and_twoPow ..
  unfold only has
  split at bits
  next =>
    have whole : filter.bits &&& flag.bits = flag.bits := UInt8.toBitVec_inj.1 bits
    rw [whole]
    by_cases empty : flag.bits = 0 <;> simp [empty]
  next =>
    have none : filter.bits &&& flag.bits = 0 := UInt8.toBitVec_inj.1 bits
    simp [none]

/-- The setting after a request, whatever it was before. -/
theorem ofRegister_apply (request : ReceiveFilter) (raw : UInt32) :
    ofRegister (request.apply raw) = request.honoured := by
  unfold honoured
  rw [only_eq ⟨2, by decide⟩, only_eq ⟨3, by decide⟩]
  simp [ofRegister]

end ReceiveFilter

/-- The status bits that the driver acknowledges on their own. -/
def acknowledgeable : UInt32 :=
  Control.frameReceived.mask ||| Control.frameSent.mask ||| Control.rxUnavailable.mask

/-- Some of the bits that are acknowledged on their own, and that are set in `raw`. -/
structure Acknowledges (raw bits : UInt32) : Prop where
  some : bits ≠ 0
  pending : bits &&& raw = bits
  known : bits &&& acknowledgeable = bits

theorem InterruptStatus.acknowledges_toRegister {raw : UInt32} (any : (ofRegister raw).any) :
    Acknowledges raw (ofRegister raw).toRegister := by
  have received := @Control.mask_and_of_isSetIn .frameReceived raw ⟨6, by decide⟩
  have sent := @Control.mask_and_of_isSetIn .frameSent raw ⟨0, by decide⟩
  unfold InterruptStatus.any at any
  unfold toRegister
  unfold ofRegister at any ⊢
  dsimp only at any ⊢
  cases isReceived : Control.frameReceived.isSetIn raw <;>
    cases isSent : Control.frameSent.isSetIn raw
  · simp [isReceived, isSent] at any
  · refine ⟨by decide, ?_, by decide⟩
    simp only [Bool.false_eq_true, if_false, if_true, UInt32.zero_or]
    exact sent isSent
  · refine ⟨by decide, ?_, by decide⟩
    simp only [Bool.false_eq_true, if_false, if_true, UInt32.or_zero]
    exact received isReceived
  · refine ⟨by decide, ?_, by decide⟩
    simp only [if_true]
    rw [Word.or_and, received isReceived, sent isSent]

end EthernetMac
