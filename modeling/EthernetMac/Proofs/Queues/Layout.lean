import EthernetMac.Header
import EthernetMac.Proofs.Queues.Contracts
import EthernetMac.Proofs.Ring.Chain
import Mathlib.Order.CompletePartialOrder
import Mathlib.Order.Interval.Set.Disjoint

/-!
What the device may rely on when it fetches a descriptor. Building the queues lays the
descriptors out; giving one back, publishing and retiring keep them so, and so does a
device that only lets go of what it owns. Where the rings lie, and the words that neither
side uses, never change.
-/

namespace EthernetMac

theorem Descriptor.toNat_sizeField {size : Nat} (fits : size ≤ Frame.maxLength) :
    (Descriptor.sizeField size).toNat = size := by
  have below : size < 2 ^ 13 := Nat.lt_succ_of_le fits
  show (UInt32.ofNat size &&& 0x1FFF).toNat = size
  rw [UInt32.toNat_and, UInt32.toNat_ofNat_of_lt' (Nat.lt_trans below (by decide))]
  exact (Nat.and_two_pow_sub_one_eq_mod size 13).trans (Nat.mod_eq_of_lt below)

/-- Arming and linking overwrite all words that are used. -/
theorem Descriptor.arm_congr {descriptor other : Descriptor}
    (unused : descriptor.words.drop 4 = other.words.drop 4) (buffer : UInt32) (size : Nat)
    (next : UInt32) : descriptor.arm buffer size next = other.arm buffer size next := by
  simp only [words, List.drop_succ_cons, List.drop_zero, List.cons.injEq, and_true] at unused
  simp only [arm, unused]

theorem Descriptor.linkTo_congr {descriptor other : Descriptor}
    (unused : descriptor.words.drop 4 = other.words.drop 4) (next : UInt32) :
    descriptor.linkTo next = other.linkTo next := by
  simp only [words, List.drop_succ_cons, List.drop_zero, List.cons.injEq, and_true] at unused
  simp only [linkTo, unused]

namespace Placement

/-- What the device has to know of the receive ring. -/
def rxBase (placement : Placement) : UInt32 := UInt32.ofNat (Ring.base placement.rx)

def txBase (placement : Placement) : UInt32 := UInt32.ofNat (Ring.base placement.tx)

/-- The addresses of the bytes in a receive buffer. -/
def bufferArea (placement : Placement) (index : Nat) : Set Nat :=
  Set.Ico (placement.pool + 2048 * index) (placement.pool + 2048 * index + 2048)

end Placement

namespace RxQueue

variable {n : Nat} {queue : RxQueue n}

/-- Every descriptor is chained and has the buffer of its slot, and one that is the device's
says no more than that. -/
structure Armed (placement : Placement) (queue : RxQueue n) : Prop where
  chained : queue.ring.ChainedFrom placement.rx
  control : ∀ slot, (queue.ring.get slot).control = 0x4000 ||| 2048
  buffer : ∀ slot,
    (queue.ring.get slot).buffer = UInt32.ofNat (placement.pool + 2048 * (slot % n))
  owned : ∀ slot, queue.owner slot = .hardware → (queue.ring.get slot).status = 0x80000000

/-- The addresses that the device comes to as it fills a buffer, from the word in the
descriptor on. -/
def reach (queue : RxQueue n) (slot : Nat) : Set UInt32 :=
  {address | ∃ offset < 2048, address = (queue.ring.get slot).buffer + UInt32.ofNat offset}

/-- The device reaches the buffer of a slot and nothing else. The buffers share no byte, nor do
they for the device if 32 lines tell all their bytes apart. -/
structure Apart (placement : Placement) (queue : RxQueue n) : Prop where
  reach_eq : ∀ slot, queue.reach slot = UInt32.ofNat '' placement.bufferArea (slot % n)
  disjoint : ∀ first second, first ≠ second →
    Disjoint (placement.bufferArea first) (placement.bufferArea second)
  distinct : 2048 * n ≤ 2 ^ 32 → ∀ first < n, ∀ second < n, ∀ offset < 2048, ∀ other < 2048,
    (queue.ring.get first).buffer + UInt32.ofNat offset =
      (queue.ring.get second).buffer + UInt32.ofNat other → first = second ∧ offset = other

theorem Armed.apart {placement : Placement} (armed : queue.Armed placement) :
    queue.Apart placement where
  reach_eq slot := by
    ext address
    unfold Placement.bufferArea
    constructor
    · rintro ⟨offset, inside, rfl⟩
      refine ⟨placement.pool + 2048 * (slot % n) + offset, ⟨by omega, by omega⟩, ?_⟩
      rw [armed.buffer, UInt32.ofNat_add]
    · rintro ⟨byte, ⟨least, below⟩, rfl⟩
      refine ⟨byte - (placement.pool + 2048 * (slot % n)), by omega, ?_⟩
      rw [armed.buffer, ← UInt32.ofNat_add, Nat.add_sub_cancel' least]
  disjoint first second distinct := by
    unfold Placement.bufferArea
    rw [Set.Ico_disjoint_Ico]
    omega
  distinct bound first first_lt second second_lt offset offset_lt other other_lt same := by
    rw [armed.buffer, armed.buffer, Nat.mod_eq_of_lt first_lt, Nat.mod_eq_of_lt second_lt,
      ← UInt32.ofNat_add, ← UInt32.ofNat_add, Nat.add_assoc, Nat.add_assoc] at same
    have wrapped : (placement.pool + (2048 * first + offset)) % 2 ^ 32 =
        (placement.pool + (2048 * second + other)) % 2 ^ 32 := by
      simpa only [UInt32.toNat_ofNat'] using congrArg UInt32.toNat same
    have byte_eq := Ring.window_inj (by omega) (by omega) wrapped
    omega

section Armed

variable {placement : Placement}

theorem armed_rebuild (start : queue.ring.start = placement.rx)
    (pool : queue.pool = placement.pool) : queue.rebuild.Armed placement where
  chained slot := by
    rw [get_rebuild, ← start]
    exact queue.ring.busAddress_congr (Nat.mod_add_mod slot n 1)
  control slot := by
    rw [get_rebuild]
    rfl
  buffer slot := by
    rw [get_rebuild, ← pool]
    rfl
  owned slot _ := by
    rw [get_rebuild]
    rfl

theorem Armed.recycle (armed : queue.Armed placement) : queue.recycle.Armed placement where
  chained := armed.chained.modify _ fun _ => rfl
  control slot := by
    rw [get_recycle]
    split <;> exact armed.control slot
  buffer slot := by
    rw [get_recycle]
    split <;> exact armed.buffer slot
  owned slot := by
    unfold owner
    rw [get_recycle]
    split
    next => exact fun _ => rfl
    next => exact armed.owned slot

theorem Recycles.armed {count : Nat} {after : RxQueue n} (run : Recycles count queue after)
    (armed : queue.Armed placement) : after.Armed placement := by
  induction run with
  | none => exact armed
  | next _ _ ih => exact ih armed.recycle

theorem get_writeStatus (queue : RxQueue n) (slot : Nat) (status : UInt32) (other : Nat) :
    (queue.writeStatus slot status).ring.get other =
      if other % n = slot % n then { queue.ring.get other with status } else queue.ring.get other :=
  queue.ring.get_modify slot other _

theorem Armed.writeStatus (armed : queue.Armed placement) (slot : Nat) {status : UInt32}
    (free : Owner.ofStatus status Descriptor.own = .software) :
    (queue.writeStatus slot status).Armed placement where
  chained := armed.chained.modify slot fun _ => rfl
  control other := by
    rw [get_writeStatus]
    split <;> exact armed.control other
  buffer other := by
    rw [get_writeStatus]
    split <;> exact armed.buffer other
  owned other := by
    unfold owner
    rw [get_writeStatus]
    split
    next =>
      intro (hardware : Owner.ofStatus status Descriptor.own = .hardware)
      rw [free] at hardware
      contradiction
    next => exact armed.owned other

theorem Armed.writeBuffer (armed : queue.Armed placement) (slot : Nat) (content : Buffer) :
    (queue.writeBuffer slot content).Armed placement where
  chained := armed.chained
  control := armed.control
  buffer := armed.buffer
  owned := armed.owned

end Armed

end RxQueue

namespace TxQueue

variable {n : Nat} {queue : TxQueue n} {placement : Placement} {frames : Nat → Option Frame}

/-- What a descriptor of the device's says of the frame that it is to send. -/
structure Describes (descriptor : Descriptor) (frame : Frame) : Prop where
  status : descriptor.status = 0xF0100000
  control : descriptor.control.toNat = frame.bytes.length
  least : 1 ≤ frame.bytes.length
  most : frame.bytes.length ≤ 8191
  buffer : descriptor.buffer = UInt32.ofNat frame.address

/-- Every descriptor is chained, and one that is the device's describes the frame last
published in its slot. -/
structure Armed (placement : Placement) (frames : Nat → Option Frame) (queue : TxQueue n) :
    Prop where
  chained : queue.ring.ChainedFrom placement.tx
  owned : ∀ slot, queue.owner slot = .hardware →
    ∃ frame, frames slot = some frame ∧ Describes (queue.ring.get slot) frame

theorem armed_rebuild (start : queue.ring.start = placement.tx) :
    queue.rebuild.Armed placement frames where
  chained slot := by
    rw [get_rebuild, ← start]
    exact queue.ring.busAddress_congr (Nat.mod_add_mod slot n 1)
  owned slot hardware := by
    rw [owner_rebuild] at hardware
    contradiction

theorem Armed.publish (armed : queue.Armed placement frames) {frame : Frame}
    (least : 1 ≤ frame.bytes.length) (most : frame.bytes.length ≤ Frame.maxLength) :
    (queue.publish frame.busAddress frame.bytes.length).Armed placement fun slot =>
      if queue.ring.index % n = slot % n then some frame else frames slot where
  chained := by
    have linked : (queue.ring.modify queue.ring.index fun descriptor =>
        descriptor.submit frame.busAddress frame.bytes.length).ChainedFrom placement.tx :=
      armed.chained.modify _ fun _ => rfl
    exact linked
  owned slot := by
    rw [owner_publish, get_publish]
    by_cases here : slot % n = queue.ring.index % n
    · intro _
      rw [if_pos here, if_pos here.symm]
      exact ⟨frame, rfl, rfl, Descriptor.toNat_sizeField most, least, most, rfl⟩
    · have elsewhere : ¬ queue.ring.index % n = slot % n := fun same => here same.symm
      rw [if_neg here, if_neg here, if_neg elsewhere]
      exact armed.owned slot

theorem Armed.writeStatus (armed : queue.Armed placement frames) (slot : Nat) {status : UInt32}
    (free : Owner.ofStatus status Descriptor.own = .software) :
    (queue.writeStatus slot status).Armed placement frames where
  chained := armed.chained.modify slot fun _ => rfl
  owned other hardware := by
    rw [owner_writeStatus, free] at hardware
    rw [get_writeStatus]
    split at hardware
    next => contradiction
    next elsewhere =>
      rw [if_neg elsewhere]
      exact armed.owned other hardware

end TxQueue

namespace Queues

variable {rx tx : Nat} {placement : Placement}

/-- The rings and the buffers lie where they were placed, and the words of a descriptor that
neither side uses are zero. -/
structure Placed (placement : Placement) (queues : Queues rx tx) : Prop where
  inside : queues.rx.ring.index < rx
  rx_start : queues.rx.ring.start = placement.rx
  tx_start : queues.tx.ring.start = placement.tx
  pool : queues.rx.pool = placement.pool
  rx_unused : ∀ slot, (queues.rx.ring.get slot).words.drop 4 = [0, 0, 0, 0]
  tx_unused : ∀ slot, (queues.tx.ring.get slot).words.drop 4 = [0, 0, 0, 0]

theorem placed_blank (placement : Placement) (two_le_rx : 2 ≤ rx) (two_le_tx : 2 ≤ tx) :
    (Queues.blank placement two_le_rx two_le_tx).Placed placement where
  inside := (Queues.blank placement two_le_rx two_le_tx).rx.ring.pos
  rx_start := rfl
  tx_start := rfl
  pool := rfl
  rx_unused slot := by
    rw [SlotRing.get_of_replicate rfl]
    rfl
  tx_unused slot := by
    rw [SlotRing.get_of_replicate rfl]
    rfl

theorem Placed.rxBase_eq {queues : Queues rx tx} (placed : queues.Placed placement) :
    queues.rx.ring.busAddress 0 = placement.rxBase := by
  rw [SlotRing.busAddress_eq, placed.rx_start, Nat.zero_mod]
  rfl

theorem Placed.txBase_eq {queues : Queues rx tx} (placed : queues.Placed placement) :
    queues.tx.ring.busAddress 0 = placement.txBase := by
  rw [SlotRing.busAddress_eq, placed.tx_start, Nat.zero_mod]
  rfl

theorem Placed.touch {before after : Queues rx tx} (placed : before.Placed placement)
    (touch : Touch before after) : after.Placed placement := by
  cases touch with
  | recycle closed =>
    exact { placed with
      inside := SlotRing.index_advance_lt _
      rx_unused := by
        intro slot
        rw [RxQueue.get_recycle]
        split <;> exact placed.rx_unused slot }
  | publish room address length =>
    exact { placed with
      tx_unused := by
        intro slot
        rw [TxQueue.get_publish]
        split <;> exact placed.tx_unused slot }
  | retire due => exact { placed with }

theorem Placed.recycles {count : Nat} {queue after : RxQueue rx} {sender : TxQueue tx}
    (run : RxQueue.Recycles count queue after) (placed : Placed placement ⟨queue, sender⟩) :
    Placed placement ⟨after, sender⟩ := by
  induction run with
  | none => exact placed
  | next closed _ ih => exact ih (placed.touch (.recycle closed))

theorem Placed.rebuild {queues : Queues rx tx} (placed : queues.Placed placement) :
    queues.rebuild.Placed placement where
  inside := queues.rx.ring.pos
  rx_start := placed.rx_start
  tx_start := placed.tx_start
  pool := placed.pool
  rx_unused slot := by
    show (queues.rx.rebuild.ring.get slot).words.drop 4 = _
    rw [RxQueue.get_rebuild]
    exact placed.rx_unused slot
  tx_unused slot := by
    show (queues.tx.rebuild.ring.get slot).words.drop 4 = _
    rw [TxQueue.get_rebuild]
    exact placed.tx_unused slot

theorem Placed.device {queues : Queues rx tx} (placed : queues.Placed placement)
    (action : DeviceAction) : (action.onQueues queues).Placed placement := by
  cases action with
  | txStatus slot status =>
    exact { placed with
      tx_unused := by
        intro other
        show ((queues.tx.writeStatus slot status).ring.get other).words.drop 4 = _
        rw [TxQueue.get_writeStatus]
        split <;> exact placed.tx_unused other }
  | rxStatus slot status =>
    exact { placed with
      rx_unused := by
        intro other
        show ((queues.rx.writeStatus slot status).ring.get other).words.drop 4 = _
        rw [RxQueue.get_writeStatus]
        split <;> exact placed.rx_unused other }
  | rxBuffer | registers => exact { placed with }

/-- What is built depends on the place alone. -/
theorem Placed.rebuild_eq {queues other : Queues rx tx} (placed : queues.Placed placement)
    (placed_other : other.Placed placement) :
    queues.rebuild.rx.ring = other.rebuild.rx.ring ∧ queues.rebuild.tx = other.rebuild.tx := by
  have rx_start : queues.rx.ring.start = other.rx.ring.start :=
    placed.rx_start.trans placed_other.rx_start.symm
  have tx_start : queues.tx.ring.start = other.tx.ring.start :=
    placed.tx_start.trans placed_other.tx_start.symm
  have pool : queues.rx.pool = other.rx.pool := placed.pool.trans placed_other.pool.symm
  constructor
  · refine SlotRing.ext_get ?start ?get rfl
    case start => exact rx_start
    case get =>
      intro slot
      have unused := (placed.rx_unused slot).trans (placed_other.rx_unused slot).symm
      show queues.rx.rebuild.ring.get slot = other.rx.rebuild.ring.get slot
      rw [RxQueue.get_rebuild, RxQueue.get_rebuild, RxQueue.bufferAddress, RxQueue.bufferAddress,
        pool, SlotRing.busAddress_of_start rx_start]
      exact Descriptor.arm_congr unused _ _ _
  · refine TxQueue.ext (SlotRing.ext_get ?start ?get rfl) rfl rfl
    case start => exact tx_start
    case get =>
      intro slot
      have unused := (placed.tx_unused slot).trans (placed_other.tx_unused slot).symm
      show queues.tx.rebuild.ring.get slot = other.tx.rebuild.ring.get slot
      rw [TxQueue.get_rebuild, TxQueue.get_rebuild, SlotRing.busAddress_of_start tx_start]
      exact Descriptor.linkTo_congr unused _

end Queues

end EthernetMac
