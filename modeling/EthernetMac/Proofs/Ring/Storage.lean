import EthernetMac.Proofs.Ring.Alignment
import Mathlib.Algebra.Group.Nat.Defs
import Mathlib.Data.List.Basic
import Mathlib.Data.List.Induction

/-!
The memory behind a ring. A ring is given room for one slot more than it has, and its slots are
found in there by arithmetic on machine words: sums, products and the running index would wrap.
As long as the room does not run past the last address none of them ever does, and every access
is to the room's own bytes, those of one slot and no other.
-/

namespace EthernetMac

/-- A turn of the running index. -/
inductive Turn where
  | advance
  | rewind
deriving DecidableEq

namespace Turn

/-- The running index as a machine word, for a ring of `n` slots. -/
def count {width : Nat} (n : Nat) (index : BitVec width) : Turn → BitVec width
  | advance => (index + 1) % BitVec.ofNat width n
  | rewind => 0

/-- How often the index was advanced since it was last rewound, in turns listed from the first
to the last. -/
def advances (turns : List Turn) : Nat := (turns.reverse.takeWhile (· = advance)).length

@[simp] theorem advances_nil : advances [] = 0 := rfl

@[simp] theorem advances_concat_advance (turns : List Turn) :
    advances (turns ++ [advance]) = advances turns + 1 := by
  simp [advances]

@[simp] theorem advances_concat_rewind (turns : List Turn) :
    advances (turns ++ [rewind]) = 0 := by
  simp [advances]

end Turn

namespace SlotRing

variable {δ : Type} {stride n : Nat} (ring : SlotRing δ stride n)

def turn : Turn → SlotRing δ stride n
  | .advance => ring.advance
  | .rewind => ring.rewind

def turns (turns : List Turn) : SlotRing δ stride n := turns.foldl turn ring

theorem turns_concat (earlier : List Turn) (last : Turn) :
    ring.turns (earlier ++ [last]) = (ring.turns earlier).turn last :=
  List.foldl_concat turn ring last earlier

/-! Each induction is on the turns from their end, since the last rewinding is what counts. -/

/-- Turning changes nothing but the index. -/
theorem turns_eq (turns : List Turn) :
    ring.turns turns = { ring with index := (ring.turns turns).index } := by
  induction turns using List.reverseRecOn with
  | nil => rfl
  | append_singleton earlier last ih =>
    rw [turns_concat, ih]
    cases last <;> rfl

theorem index_turns (fresh : ring.index = 0) (turns : List Turn) :
    (ring.turns turns).index = Turn.advances turns % n := by
  induction turns using List.reverseRecOn with
  | nil =>
    rw [Turn.advances_nil, Nat.zero_mod]
    exact fresh
  | append_singleton earlier last ih =>
    rw [turns_concat]
    cases last with
    | advance =>
      rw [Turn.advances_concat_advance, ← Nat.mod_add_mod, ← ih]
      rfl
    | rewind =>
      rw [Turn.advances_concat_rewind, Nat.zero_mod]
      rfl

end SlotRing

namespace Word

theorem ofNat_mod {width value modulus : Nat} (value_lt : value < 2 ^ width)
    (modulus_lt : modulus < 2 ^ width) :
    BitVec.ofNat width value % BitVec.ofNat width modulus =
      BitVec.ofNat width (value % modulus) := by
  have below : value % modulus < 2 ^ width := Nat.lt_of_le_of_lt (Nat.mod_le _ _) value_lt
  apply BitVec.eq_of_toNat_eq
  rw [BitVec.toNat_umod, BitVec.toNat_ofNat, BitVec.toNat_ofNat, BitVec.toNat_ofNat,
    Nat.mod_eq_of_lt value_lt, Nat.mod_eq_of_lt modulus_lt, Nat.mod_eq_of_lt below]

theorem toNat_next {width n : Nat} {index : BitVec width} (inside : index.toNat < n)
    (count_lt : n < 2 ^ width) :
    ((index + 1) % BitVec.ofNat width n).toNat = (index.toNat + 1) % n := by
  have one_lt : 1 < 2 ^ width := by omega
  have one : (1 : BitVec width).toNat = 1 := Nat.mod_eq_of_lt one_lt
  have fits : index.toNat + (1 : BitVec width).toNat < 2 ^ width := by omega
  rw [BitVec.toNat_umod, BitVec.toNat_add_of_lt fits, one, BitVec.toNat_ofNat,
    Nat.mod_eq_of_lt count_lt]

end Word

/-- The memory in which a ring of `n` slots has room for them and a spare one. -/
structure Storage (stride n : Nat) where
  /-- Address of the room. -/
  start : Nat
  byte : Nat → UInt8

namespace Storage

variable {δ : Type} {stride n width : Nat}

section Access

variable (storage : Storage stride n)

/-- The bytes from an address on, as many as a slot has. -/
def content (address : Nat) : Vector UInt8 stride :=
  Vector.ofFn fun offset => storage.byte (address + offset)

/-- Puts the content of a slot at an address and leaves all other bytes alone. -/
def overwrite (address : Nat) (content : Vector UInt8 stride) : Storage stride n :=
  { storage with
    byte := fun position =>
      if address ≤ position then content[position - address]?.getD (storage.byte position)
      else storage.byte position }

/-- A slot at the address would be aligned and within the room. -/
def Allows (address : Nat) : Prop :=
  stride ∣ address ∧ storage.start ≤ address ∧
    address + stride ≤ storage.start + stride * (n + 1)

instance (address : Nat) : Decidable (storage.Allows address) := by
  unfold Allows
  infer_instance

/-- Reads a slot at an address, if that is allowed. -/
def load? (address : Nat) : Option (Vector UInt8 stride) :=
  if storage.Allows address then some (storage.content address) else none

/-- Writes a slot at an address, if that is allowed. -/
def store? (address : Nat) (content : Vector UInt8 stride) : Option (Storage stride n) :=
  if storage.Allows address then some (storage.overwrite address content) else none

/-- The address of a slot as a machine computes it whose words have `width` bits. -/
def pointer (index : BitVec width) : BitVec width :=
  let start := BitVec.ofNat width storage.start
  let size := BitVec.ofNat width stride
  start + (size - start % size) + size * (index % BitVec.ofNat width n)

theorem content_overwrite_same (address : Nat) (content : Vector UInt8 stride) :
    (storage.overwrite address content).content address = content := by
  apply Vector.ext
  intro offset inside
  simp [Storage.content, overwrite]

theorem content_overwrite_apart {address other : Nat} (content : Vector UInt8 stride)
    (apart : address + stride ≤ other ∨ other + stride ≤ address) :
    (storage.overwrite address content).content other = storage.content other := by
  apply Vector.ext
  intro offset inside
  rcases apart with after | before
  · have beyond : stride ≤ other + offset - address := by omega
    simp [Storage.content, overwrite, Vector.getElem?_eq_none beyond]
  · have short : ¬ address ≤ other + offset := by omega
    simp [Storage.content, overwrite, short]

end Access

/-- The ring that the memory holds: its slots lie one behind the other from the first multiple of
the stride past the start of the room. -/
def ring (storage : Storage stride n) (decode : Vector UInt8 stride → δ) (two_le : 2 ≤ n) :
    SlotRing δ stride n where
  start := storage.start
  slots := Vector.ofFn fun slot : Fin n =>
    decode (storage.content (stride * (storage.start / stride + 1) + stride * slot))
  two_le

section Ring

variable (storage : Storage stride n) (decode : Vector UInt8 stride → δ) (two_le : 2 ≤ n)
  (positive : 0 < stride)

include positive

theorem get_ring (index : Nat) : (storage.ring decode two_le).get index =
    decode (storage.content ((storage.ring decode two_le).address index)) := by
  unfold SlotRing.address
  rw [SlotRing.base_eq _ positive]
  simp [SlotRing.get, ring]

theorem ring_overwrite (index : Nat) (content : Vector UInt8 stride) :
    let ring := storage.ring decode two_le
    (storage.overwrite (ring.address index) content).ring decode two_le =
      ring.modify index fun _ => decode content := by
  intro ring
  refine SlotRing.ext_get rfl ?_ rfl
  intro slot
  rw [get_ring _ _ _ positive, SlotRing.get_modify]
  show decode ((storage.overwrite (ring.address index) content).content (ring.address slot)) = _
  by_cases here : slot % n = index % n
  · rw [if_pos here, ring.address_congr here, content_overwrite_same]
  · rw [if_neg here, content_overwrite_apart _ _ (ring.address_apart (Ne.symm here)),
      get_ring _ _ _ positive]

theorem allows_address (index : Nat) :
    storage.Allows ((storage.ring decode two_le).address index) := by
  let ring := storage.ring decode two_le
  exact ⟨ring.dvd_address positive index, Nat.le_of_lt (ring.start_lt_address positive index),
    ring.address_add_le_limit index⟩

end Ring

section Machine

variable (storage : Storage stride n) (decode : Vector UInt8 stride → δ) (two_le : 2 ≤ n)
  (positive : 0 < stride) (fits : storage.start + stride * (n + 1) ≤ 2 ^ width)

include positive two_le fits

theorem sizes_lt : storage.start < 2 ^ width ∧ stride < 2 ^ width ∧ n < 2 ^ width := by
  have at_least_two : stride * 2 ≤ stride * n := Nat.mul_le_mul_left stride two_le
  have at_least_count : n ≤ stride * n := Nat.le_mul_of_pos_left n positive
  rw [Nat.mul_succ] at fits
  omega

/-- The machine computes the address, but for multiples of the number of its words. -/
theorem pointer_eq (index : BitVec width) : storage.pointer index =
    BitVec.ofNat width ((storage.ring decode two_le).address index.toNat) := by
  obtain ⟨start_lt, stride_lt, count_lt⟩ := storage.sizes_lt two_le positive fits
  -- Sums and products of words need no bound; remainders and differences do.
  have slot : index % BitVec.ofNat width n = BitVec.ofNat width (index.toNat % n) := by
    rw [← Word.ofNat_mod index.isLt count_lt, BitVec.ofNat_toNat, BitVec.setWidth_eq]
  have skipped : BitVec.ofNat width stride - BitVec.ofNat width (storage.start % stride) =
      BitVec.ofNat width (stride - storage.start % stride) := by
    have part : storage.start % stride < stride := Nat.mod_lt _ positive
    exact BitVec.ofNat_sub_ofNat_of_le _ _ (Nat.lt_trans part stride_lt) (Nat.le_of_lt part)
  unfold pointer
  dsimp only
  rw [Word.ofNat_mod start_lt stride_lt, slot, skipped, ← BitVec.ofNat_mul, ← BitVec.ofNat_add,
    ← BitVec.ofNat_add]
  rfl

/-- Nothing wraps on the way to a slot. -/
theorem toNat_pointer (index : BitVec width) :
    (storage.pointer index).toNat = (storage.ring decode two_le).address index.toNat := by
  have ends : (storage.ring decode two_le).address index.toNat + stride ≤
      storage.start + stride * (n + 1) :=
    SlotRing.address_add_le_limit _ _
  rw [storage.pointer_eq decode two_le positive fits, BitVec.toNat_ofNat]
  exact Nat.mod_eq_of_lt (by omega)

/-- Nor does the running index. -/
theorem toNat_count (turns : List Turn) :
    (turns.foldl (Turn.count n) (0 : BitVec width)).toNat =
      ((storage.ring decode two_le).turns turns).index := by
  obtain ⟨-, -, count_lt⟩ := storage.sizes_lt two_le positive fits
  induction turns using List.reverseRecOn with
  | nil => rfl
  | append_singleton earlier last ih =>
    rw [List.foldl_concat, SlotRing.turns_concat]
    cases last with
    | advance =>
      have inside : ((storage.ring decode two_le).turns earlier).index < n := by
        rw [SlotRing.index_turns _ rfl]
        exact Nat.mod_lt _ (by omega)
      rw [← ih] at inside
      show ((earlier.foldl (Turn.count n) 0 + 1) % BitVec.ofNat width n).toNat = _
      rw [Word.toNat_next inside count_lt, ih]
      rfl
    | rewind => rfl

end Machine

/-- What an index stands for, whichever word it is: a slot of the ring that lies in the room,
aligned and apart from all others, and that the machine finds there to read and to write. -/
structure Reaches (storage : Storage stride n) (decode : Vector UInt8 stride → δ)
    (ring : SlotRing δ stride n) (index : BitVec width) : Prop where
  pointer : (storage.pointer index).toNat = ring.base + stride * (index.toNat % n)
  address : ring.address index.toNat = (storage.pointer index).toNat
  aligned : stride ∣ ring.address index.toNat
  above : storage.start < ring.address index.toNat
  below : ring.address index.toNat + stride ≤ storage.start + stride * (n + 1)
  bus : (ring.busAddress index.toNat).toNat = ring.address index.toNat % 2 ^ 32
  disjoint : ∀ other : BitVec width, other.toNat % n ≠ index.toNat % n →
    Disjoint (ring.area other.toNat) (ring.area index.toNat)
  load : (storage.load? (storage.pointer index).toNat).map decode = some (ring.get index.toNat)
  store : ∀ content,
    (storage.store? (storage.pointer index).toNat content).map (·.ring decode ring.two_le) =
      some (ring.modify index.toNat fun _ => decode content)

theorem reaches (storage : Storage stride n) (decode : Vector UInt8 stride → δ)
    (two_le : 2 ≤ n) (positive : 0 < stride)
    (fits : storage.start + stride * (n + 1) ≤ 2 ^ width) (index : BitVec width) :
    storage.Reaches decode (storage.ring decode two_le) index := by
  let ring := storage.ring decode two_le
  have found : (storage.pointer index).toNat = ring.address index.toNat :=
    storage.toNat_pointer decode two_le positive fits index
  have allowed : storage.Allows (ring.address index.toNat) :=
    storage.allows_address decode two_le positive index.toNat
  exact {
    pointer := found
    address := found.symm
    aligned := allowed.1
    above := ring.start_lt_address positive index.toNat
    below := allowed.2.2
    bus := UInt32.toNat_ofNat'
    disjoint := fun other distinct => ring.disjoint_area distinct
    load := by
      rw [found, load?, if_pos allowed, get_ring _ _ _ positive]
      rfl
    store := by
      intro content
      rw [found, store?, if_pos allowed, ← ring_overwrite _ _ _ positive]
      rfl }

/-- For every stride, every number of slots and every room that does not run past the last
address of a machine, the slots are a window of the room: they begin at a multiple of the stride
past its start and end no later than it does, just there if it starts at a multiple too. Each
word, taken as an index, reaches one of them. The running index counts the advances since the last
rewinding, so the current slot is always one of these as well. -/
theorem window_inside (storage : Storage stride n) (decode : Vector UInt8 stride → δ)
    (two_le : 2 ≤ n) (positive : 0 < stride)
    (fits : storage.start + stride * (n + 1) ≤ 2 ^ width) :
    let ring := storage.ring decode two_le
    (ring.base = storage.start + (stride - storage.start % stride) ∧ stride ∣ ring.base ∧
      storage.start < ring.base ∧ ring.base + stride * n ≤ storage.start + stride * (n + 1) ∧
      (ring.base + stride * n = storage.start + stride * (n + 1) ↔ stride ∣ storage.start)) ∧
    (∀ index : BitVec width, storage.Reaches decode ring index) ∧
    ∀ turns : List Turn,
      let counter : BitVec width := turns.foldl (Turn.count n) 0
      let turned := ring.turns turns
      turned.index = Turn.advances turns % n ∧
      turned = { ring with index := counter.toNat } ∧
      (storage.load? (storage.pointer counter).toNat).map decode = some turned.current := by
  intro ring
  refine ⟨⟨rfl, ring.dvd_base positive, ring.start_lt_base positive, ring.base_add_le,
    ring.base_add_eq_iff positive⟩, storage.reaches decode two_le positive fits, ?_⟩
  intro turns counter turned
  have counted : counter.toNat = turned.index :=
    storage.toNat_count decode two_le positive fits turns
  have same : turned = { ring with index := counter.toNat } := by
    rw [counted]
    exact ring.turns_eq turns
  refine ⟨ring.index_turns rfl turns, same, ?_⟩
  rw [(storage.reaches decode two_le positive fits counter).load, same]
  rfl

/-- The room starts at a multiple of the stride, so the slots begin a whole stride behind its start
and the last one, which the largest index reaches, ends where it does. -/
theorem window_inside_of_aligned :
    let storage : Storage 5 2 := ⟨15, UInt8.ofNat⟩
    let ring := storage.ring Vector.toList (Nat.le_refl 2)
    let largest : BitVec 5 := 31
    let turned := ring.turns [.advance, .advance, .rewind, .advance, .advance, .advance]
    (storage.pointer largest).toNat = 25 ∧ storage.start + 5 * 3 = 30 ∧
      (storage.load? (storage.pointer largest).toNat).map Vector.toList =
        some [25, 26, 27, 28, 29] ∧
      turned.index = 1 ∧ turned.current = [25, 26, 27, 28, 29] := by
  intro storage ring largest turned
  have fits : storage.start + 5 * (2 + 1) ≤ 2 ^ 5 := by decide
  obtain ⟨-, reaches, turning⟩ :=
    window_inside storage Vector.toList (Nat.le_refl 2) (by decide) fits
  obtain ⟨counted, -, loaded⟩ :=
    turning [.advance, .advance, .rewind, .advance, .advance, .advance]
  have located : (storage.pointer largest).toNat = 25 :=
    (reaches largest).pointer.trans (by decide)
  have stored : ring.get largest.toNat = [25, 26, 27, 28, 29] := by decide
  have current : turned.current = ring.get 1 :=
    Option.some.inj (loaded.symm.trans (reaches 1).load)
  exact ⟨located, rfl, (reaches largest).load.trans (congrArg some stored), counted,
    current.trans (by decide)⟩

end Storage

end EthernetMac
