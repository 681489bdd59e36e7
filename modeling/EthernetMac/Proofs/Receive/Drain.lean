import EthernetMac.Proofs.Program.Ensures
import EthernetMac.Proofs.Ring.Window
import EthernetMac.Queues

/-!
Receiving as a function on the receive queue. A drain gives back descriptors
from the read index on, each closed by the device and not given back before, so
at most one round of them; the program that drains computes this function.
-/

namespace EthernetMac

namespace RxQueue

variable {n : Nat} (queue : RxQueue n)

/-- The buffer that belongs to a slot. -/
def stored (index : Nat) : Buffer :=
  getElem queue.buffers (index % n) (Nat.mod_lt _ queue.ring.pos)

@[simp] theorem stored_mod (index : Nat) : queue.stored (index % n) = queue.stored index := by
  simp [stored]

theorem stored_eq_getElem (index : Nat) (inside : index < n) :
    queue.stored index = queue.buffers[index] := by
  simp [stored, Nat.mod_eq_of_lt inside]

theorem stored_congr {queue other : RxQueue n} (same : queue.buffers = other.buffers)
    (index : Nat) : queue.stored index = other.stored index := by
  unfold stored
  simp only [same]

/-- What the current descriptor amounts to for a caller with that buffer. -/
def verdict (buffer : List UInt8) : Queues.Verdict :=
  let descriptor := queue.ring.current
  let length := descriptor.frameLength
  if descriptor.isWholeFrame = false ∨ receiveBufferSize < length then none
  else if buffer.length < length then some (.error (.bufferTooSmall length), buffer)
  else some (.ok length,
    (queue.stored queue.ring.index).toList.take length ++ buffer.drop length)

/-- Gives back descriptors up to the first that has an answer for the caller. -/
def drain (buffer : List UInt8) : Nat → RxQueue n → (Except Error Nat × List UInt8) × RxQueue n
  | 0, queue => ((.error .notReady, buffer), queue)
  | budget + 1, queue =>
    match queue.ring.current.owner with
    | .hardware => ((.error .notReady, buffer), queue)
    | .software =>
      match queue.verdict buffer with
      | some answer => (answer, queue.recycle)
      | none => drain buffer budget queue.recycle

@[simp] theorem owner_giveToHardware (descriptor : Descriptor) :
    descriptor.giveToHardware.owner = .hardware := by
  show Owner.ofStatus Descriptor.own Descriptor.own = .hardware
  decide

@[simp] theorem index_recycle : queue.recycle.ring.index = (queue.ring.index + 1) % n := rfl

theorem get_recycle (slot : Nat) :
    queue.recycle.ring.get slot =
      if slot % n = queue.ring.index % n then (queue.ring.get slot).giveToHardware
      else queue.ring.get slot := by
  unfold recycle
  rw [SlotRing.get_advance, SlotRing.get_modify]

theorem get_rebuild (slot : Nat) :
    queue.rebuild.ring.get slot =
      (queue.ring.get slot).arm (queue.bufferAddress (slot % n)) receiveBufferSize
        (queue.ring.busAddress (slot % n + 1)) := by
  unfold rebuild
  rw [SlotRing.get_mapSlots]
  rfl

theorem owner_rebuild (slot : Nat) : queue.rebuild.owner slot = .hardware := by
  unfold owner
  rw [get_rebuild]
  show Owner.ofStatus Descriptor.own Descriptor.own = .hardware
  decide

/-- One of the first `count` slots from the read index on. -/
def Ahead (count slot : Nat) : Prop :=
  ∃ offset < count, slot % n = (queue.ring.index + offset) % n

theorem ahead_recycle (count slot : Nat) :
    queue.recycle.Ahead count slot ↔
      ∃ offset < count, slot % n = (queue.ring.index + (offset + 1)) % n := by
  unfold Ahead
  simp only [index_recycle, Nat.mod_add_mod, Nat.add_assoc, Nat.add_comm 1]

theorem ahead_succ (count slot : Nat) :
    queue.Ahead (count + 1) slot ↔
      slot % n = queue.ring.index % n ∨ queue.recycle.Ahead count slot := by
  rw [ahead_recycle]
  constructor
  · rintro ⟨offset, inside, same⟩
    cases offset with
    | zero => exact .inl same
    | succ offset => exact .inr ⟨offset, by omega, same⟩
  · rintro (here | ⟨offset, inside, same⟩)
    · exact ⟨0, by omega, here⟩
    · exact ⟨offset + 1, by omega, same⟩

/-- The driver gives back `count` descriptors in a row, each of which is its own
when its turn comes. -/
inductive Recycles : Nat → RxQueue n → RxQueue n → Prop
  | none (queue : RxQueue n) : Recycles 0 queue queue
  | next {count : Nat} {queue after : RxQueue n}
    (closed : queue.ring.current.owner = .software) (rest : Recycles count queue.recycle after) :
    Recycles (count + 1) queue after

namespace Recycles

variable {count : Nat} {queue after : RxQueue n}

theorem index_lt (run : Recycles count queue after) (inside : queue.ring.index < n) :
    after.ring.index < n := by
  induction run with
  | none => exact inside
  | next _ _ ih => exact ih (SlotRing.index_advance_lt _)

/-- Other slots than those ahead keep their descriptors. -/
theorem get_beyond (run : Recycles count queue after) {slot : Nat}
    (beyond : ¬ queue.Ahead count slot) : after.ring.get slot = queue.ring.get slot := by
  induction run with
  | none => rfl
  | @next count queue after _ _ ih =>
    rw [ahead_succ, not_or] at beyond
    rw [ih beyond.2, get_recycle, if_neg beyond.1]

/-- The slots ahead were the driver's, and what they lost is their status. -/
theorem get_ahead (run : Recycles count queue after) {slot : Nat} (ahead : queue.Ahead count slot) :
    (queue.ring.get slot).owner = .software ∧
      after.ring.get slot = (queue.ring.get slot).giveToHardware := by
  induction run with
  | none =>
    obtain ⟨offset, inside, _⟩ := ahead
    omega
  | @next count queue after closed rest ih =>
    rw [get_recycle] at ih
    by_cases here : slot % n = queue.ring.index % n
    · -- the slot is the device's after the first step, so it is not given back again
      have once : ¬ queue.recycle.Ahead count slot := by
        intro again
        have owned := (ih again).1
        rw [if_pos here, owner_giveToHardware] at owned
        contradiction
      constructor
      · rw [queue.ring.get_congr here]
        exact closed
      · rw [rest.get_beyond once, get_recycle, if_pos here]
    · rw [if_neg here] at ih
      rcases (queue.ahead_succ count slot).1 ahead with first | later
      · exact absurd first here
      · exact ih later

/-- After a whole round the slot at the read index is the device's. -/
theorem count_le (run : Recycles count queue after) : count ≤ n := by
  induction run with
  | none => exact Nat.zero_le n
  | @next count queue after closed rest ih =>
    by_contra more
    have round : count = n := by omega
    obtain ⟨offset, inside, same⟩ :=
      Ring.exists_offset queue.recycle.ring.index queue.ring.index queue.ring.pos
    have again := (rest.get_ahead ⟨offset, by omega, same⟩).1
    rw [get_recycle, if_pos rfl, owner_giveToHardware] at again
    contradiction

end Recycles

theorem drain_recycles (buffer : List UInt8) (budget : Nat) (queue : RxQueue n) :
    ∃ count, Recycles count queue (queue.drain buffer budget).2 := by
  induction budget generalizing queue with
  | zero => exact ⟨0, .none queue⟩
  | succ budget ih =>
    cases owner : queue.ring.current.owner with
    | hardware => exact ⟨0, by simpa only [drain, owner] using Recycles.none queue⟩
    | software =>
      cases answer : queue.verdict buffer with
      | some answer =>
        exact ⟨1, by simpa only [drain, owner, answer] using Recycles.next owner (.none _)⟩
      | none =>
        obtain ⟨count, rest⟩ := ih queue.recycle
        exact ⟨count + 1, by simpa only [drain, owner, answer] using Recycles.next owner rest⟩

/-- An answer to a caller with that buffer: a failure leaves the buffer as it was, and a
frame lies at its start, no longer than it or than a receive buffer. -/
inductive Fills (buffer : List UInt8) : Except Error Nat × List UInt8 → Prop
  | failed (error : Error) : Fills buffer (.error error, buffer)
  | delivered (frame : List UInt8) (fits : frame.length ≤ receiveBufferSize)
    (room : frame.length ≤ buffer.length) :
    Fills buffer (.ok frame.length, frame ++ buffer.drop frame.length)

theorem Fills.length_eq {buffer filled : List UInt8} {result : Except Error Nat}
    (fills : Fills buffer (result, filled)) : filled.length = buffer.length := by
  cases fills with
  | failed error => rfl
  | delivered frame fits room =>
    rw [List.length_append, List.length_drop]
    omega

theorem fills_verdict {queue : RxQueue n} {buffer : List UInt8}
    {answer : Except Error Nat × List UInt8} (given : queue.verdict buffer = some answer) :
    Fills buffer answer := by
  unfold verdict at given
  dsimp only at given
  split at given
  next => contradiction
  next fits =>
    split at given
    next =>
      injection given with same
      rw [← same]
      exact .failed _
    next room =>
      injection given with same
      rw [not_or, Nat.not_lt] at fits
      have length_eq : ((queue.stored queue.ring.index).toList.take
          queue.ring.current.frameLength).length = queue.ring.current.frameLength := by
        rw [List.length_take, Vector.length_toList]
        omega
      have delivered := @Fills.delivered buffer _ (length_eq.trans_le fits.2)
        (length_eq.trans_le (Nat.le_of_not_lt room))
      rw [length_eq] at delivered
      rw [← same]
      exact delivered

theorem fills_drain (buffer : List UInt8) (budget : Nat) (queue : RxQueue n) :
    Fills buffer (queue.drain buffer budget).1 := by
  induction budget generalizing queue with
  | zero => exact .failed _
  | succ budget ih =>
    unfold drain
    cases owner : queue.ring.current.owner with
    | hardware => exact .failed _
    | software =>
      cases given : queue.verdict buffer with
      | some answer => exact fills_verdict given
      | none => exact ih queue.recycle

/-- A frame that was delivered lies in the caller's buffer as a whole. -/
theorem length_le_of_drain {queue : RxQueue n} {buffer filled : List UInt8}
    {budget length : Nat} (delivered : (queue.drain buffer budget).1 = (.ok length, filled)) :
    length ≤ filled.length := by
  have fills := fills_drain buffer budget queue
  rw [delivered] at fills
  cases fills with
  | delivered frame fits room =>
    rw [List.length_append]
    omega

end RxQueue

end EthernetMac
