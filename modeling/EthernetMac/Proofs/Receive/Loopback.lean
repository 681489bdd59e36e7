import EthernetMac.Proofs.Program.Keeps
import EthernetMac.Proofs.Receive.Arrival
import EthernetMac.Proofs.Receive.Scan

/-!
A frame that the device loops back. It lies in one slot, as a whole, and the driver owns the slots
before it. Then it will be received: each call to receive takes one answer out of the slots before
it, or none is left there and the frame is the answer.
-/

namespace EthernetMac

open Descriptor (own lengthMask firstOfFrame lastOfFrame)

namespace RxQueue

variable {n : Nat}

/-- The device has put bytes into one slot, `offset` ahead of the read index, as a whole frame. The
slots before it are the driver's. -/
structure LoopsBack (bytes : List UInt8) (offset : Nat) (before after : RxQueue n) : Prop where
  index_lt : before.ring.index < n
  offset_lt : offset < n
  closed : ∀ nearer < offset, before.owner (before.ring.index + nearer) = .software
  fits : bytes.length ≤ receiveBufferSize
  delivered : ∃ flags : UInt32, flags &&& (own ||| lengthMask) = 0 ∧
    flags &&& (firstOfFrame ||| lastOfFrame) = firstOfFrame ||| lastOfFrame ∧
    after = before.deliver (before.ring.index + offset) bytes flags

/-- Bytes wait for a caller, `offset` slots ahead of the read index. -/
structure Offers (queue : RxQueue n) (offset : Nat) (bytes : List UInt8) : Prop where
  index_lt : queue.ring.index < n
  offset_lt : offset < n
  closed : ∀ nearer ≤ offset, queue.owner (queue.ring.index + nearer) = .software
  whole : (queue.ring.get (queue.ring.index + offset)).isWholeFrame = true
  length_eq : (queue.ring.get (queue.ring.index + offset)).frameLength = bytes.length
  fits : bytes.length ≤ receiveBufferSize
  stored_eq : (queue.stored (queue.ring.index + offset)).toList.take bytes.length = bytes

theorem LoopsBack.offers {bytes : List UInt8} {offset : Nat} {before after : RxQueue n}
    (loops : LoopsBack bytes offset before after) : after.Offers offset bytes := by
  obtain ⟨flags, apart, whole, rfl⟩ := loops.delivered
  let arrival : Arrival := ⟨flags, bytes, apart, loops.fits⟩
  let slot := before.ring.index + offset
  have placed : before.deliver slot bytes flags = before.place slot arrival :=
    before.deliver_eq_place slot arrival
  have status : ((before.place slot arrival).ring.get slot).status = arrival.status := by
    rw [get_place, if_pos rfl]
  rw [placed]
  constructor
  case index_lt => exact loops.index_lt
  case offset_lt => exact loops.offset_lt
  case closed =>
    intro nearer within
    show (((before.place slot arrival).ring.get (before.ring.index + nearer))).owner = .software
    rw [get_place]
    split
    next => exact arrival.owner_eq rfl
    next elsewhere =>
      apply loops.closed
      apply Nat.lt_of_le_of_ne within
      rintro rfl
      exact elsewhere rfl
  case whole =>
    rw [← show arrival.isWhole = true from decide_eq_true whole]
    exact arrival.isWholeFrame_eq status
  case length_eq => exact arrival.frameLength_eq status
  case fits => exact loops.fits
  case stored_eq =>
    show ((before.place slot arrival).stored slot).toList.take bytes.length = bytes
    rw [stored_place, if_pos rfl]
    exact Buffer.take_fill _ loops.fits

section Offers

variable {queue after : RxQueue n} {offset : Nat} {bytes : List UInt8}

/-- No more slots are skipped than lie before the frame. -/
theorem Offers.skips_le (offers : queue.Offers offset bytes) : queue.skips ≤ offset := by
  by_contra beyond
  obtain ⟨-, fragment | long⟩ := queue.skippable_of_lt_skips (Nat.lt_of_not_le beyond)
  · simp [offers.whole] at fragment
  · rw [offers.length_eq] at long
    exact Nat.not_le_of_lt long offers.fits

/-- A scan finds one frame, and passes its slot. -/
theorem Offers.scan_eq (offers : queue.Offers offset bytes) (buffer : List UInt8) :
    let last := queue.ring.index + queue.skips
    let length := (queue.ring.get last).frameLength
    queue.scan buffer = if length ≤ buffer.length then
      ⟨.ok length, (queue.stored last).toList.take length ++ buffer.drop length, queue.skips + 1⟩
    else ⟨.error (.bufferTooSmall length), buffer, queue.skips + 1⟩ := by
  have near := offers.skips_le
  have short := offers.offset_lt
  have free := offers.closed queue.skips near
  apply if_neg
  rw [free]
  simp
  omega

theorem Offers.count_eq (offers : queue.Offers offset bytes) (buffer : List UInt8) :
    (queue.scan buffer).count = queue.skips + 1 := by
  rw [offers.scan_eq]
  split <;> rfl

theorem Offers.scan_of_reached (offers : queue.Offers offset bytes) (reached : queue.skips = offset)
    {buffer : List UInt8} (room : bytes.length ≤ buffer.length) :
    queue.scan buffer = ⟨.ok bytes.length, bytes ++ buffer.drop bytes.length, offset + 1⟩ := by
  rw [offers.scan_eq, reached, offers.length_eq, if_pos room, offers.stored_eq]

/-- What a scan passes before the frame brings it nearer. -/
theorem Offers.givesBack {count : Nat} (offers : queue.Offers offset bytes)
    (gives : queue.GivesBack count after) (before : count ≤ offset) :
    after.Offers (offset - count) bytes := by
  have positive := queue.ring.pos
  have same (ahead : Nat) :
      (after.ring.index + ahead) % n = (queue.ring.index + (count + ahead)) % n := by
    rw [gives.index_eq, Nat.mod_add_mod, Nat.add_assoc]
  have kept (ahead : Nat) (within : count + ahead ≤ offset) :
      after.ring.get (after.ring.index + ahead) =
        queue.ring.get (queue.ring.index + (count + ahead)) := by
    rw [after.ring.get_congr (same ahead)]
    exact gives.kept _ (by have := offers.offset_lt; omega) (by omega)
  have there : count + (offset - count) = offset := by omega
  have frame := kept (offset - count) (by omega)
  rw [there] at frame
  constructor
  case index_lt =>
    rw [gives.index_eq]
    exact Nat.mod_lt _ positive
  case offset_lt => exact Nat.lt_of_le_of_lt (Nat.sub_le _ _) offers.offset_lt
  case closed =>
    intro nearer within
    unfold owner
    rw [kept nearer (by omega)]
    exact offers.closed _ (by omega)
  case whole => rw [frame, offers.whole]
  case length_eq => rw [frame, offers.length_eq]
  case fits => exact offers.fits
  case stored_eq =>
    have stored : after.stored (after.ring.index + (offset - count)) =
        queue.stored (queue.ring.index + offset) := by
      rw [← after.stored_mod, same, there, after.stored_mod]
      simp [stored, gives.buffers_eq]
    rw [stored, offers.stored_eq]

end Offers

end RxQueue

namespace Interface

variable {rx tx : Nat}

/-- The machine after that many calls to receive. -/
def reading (hardware : Hardware) (buffer : List UInt8) (machine : Machine (Interface rx tx))
    (calls : Nat) : Machine (Interface rx tx) :=
  (system rx tx).after machine (List.replicate calls (.call hardware (.receive buffer)))

theorem reading_succ (hardware : Hardware) (buffer : List UInt8)
    (machine : Machine (Interface rx tx)) (calls : Nat) :
    reading hardware buffer machine (calls + 1) =
      reading hardware buffer ((receive buffer).run hardware machine).2 calls := by
  unfold reading
  rw [List.replicate_succ', System.after_append]
  congr 1
  exact Program.machine_map _ _ hardware machine

/-- A frame that waits is received, at the latest when as many calls have come before as there are
slots before its own. -/
theorem receives_offered (hardware : Hardware) {bytes buffer : List UInt8}
    (room : bytes.length ≤ buffer.length) {offset : Nat} {machine : Machine (Interface rx tx)}
    (initialized : machine.state.lifecycle = .initialized)
    (offers : machine.state.queues.rx.Offers offset bytes) :
    ∃ earlier ≤ offset, ∃ after,
      (receive buffer).run hardware (reading hardware buffer machine earlier) =
        (.ok (.ok ⟨bytes.length, EthernetHeader.size, EthernetHeader.parse bytes⟩,
          bytes ++ buffer.drop bytes.length), after) := by
  induction offset using Nat.strong_induction_on generalizing machine with
  | _ offset ih =>
    obtain ⟨after, ran, gives, state⟩ :=
      run_receive_of_initialized initialized offers.index_lt buffer hardware
    by_cases reached : machine.state.queues.rx.skips = offset
    · have found : frameIn (bytes ++ buffer.drop bytes.length) bytes.length =
          ⟨bytes.length, EthernetHeader.size, EthernetHeader.parse bytes⟩ := by simp [frameIn]
      rw [offers.scan_of_reached reached room] at ran
      exact ⟨0, Nat.zero_le _, after, by rw [← found]; exact ran⟩
    · have nearer := Nat.lt_of_le_of_ne offers.skips_le reached
      rw [offers.count_eq] at gives
      have later : after.state.lifecycle = .initialized := by rw [state, initialized]
      obtain ⟨earlier, few, last, received⟩ := ih (offset - (machine.state.queues.rx.skips + 1))
        (by omega) later (offers.givesBack gives nearer)
      refine ⟨earlier + 1, by omega, last, ?_⟩
      rw [reading_succ, ran]
      exact received

end Interface

end EthernetMac
