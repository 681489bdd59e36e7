import EthernetMac.Proofs.Receive.Drain
import EthernetMac.Proofs.Transmit.Account

/-!
What the calls on the queues do, whatever the registers read. Each sets the
queues only in `Touch` steps, so it hands descriptors over one at a time and
never one that the device owns; each ends without a fault, and its end is given
by a function of the queues before it.
-/

namespace EthernetMac.Queues

variable {rx tx : Nat}

/-- All that the driver does to the queues in one go, short of building them. -/
inductive Touch : Queues rx tx → Queues rx tx → Prop
  | recycle {queues : Queues rx tx} (closed : queues.rx.ring.current.owner = .software) :
    Touch queues { queues with rx := queues.rx.recycle }
  | publish {queues : Queues rx tx} (room : queues.tx.HasRoom) (address : UInt32) (length : Nat) :
    Touch queues { queues with tx := queues.tx.publish address length }
  | retire {queues : Queues rx tx} (due : queues.tx.HasReport) :
    Touch queues { queues with tx := queues.tx.retire }

section Receive

variable {allowed : Queues rx tx → Queues rx tx → Prop} {queues : Queues rx tx}

theorem ensures_copyOut (inside : queues.rx.ring.index < rx) {length : Nat}
    (fits : length ≤ receiveBufferSize) {buffer : List UInt8} (room : length ≤ buffer.length)
    (post : List UInt8 → Queues rx tx → Prop) :
    (copyOut length buffer).Ensures allowed post queues ↔
      post ((queues.rx.stored queues.rx.ring.index).toList.take length ++ buffer.drop length)
        queues := by
  have stored := queues.rx.stored_eq_getElem queues.rx.ring.index inside
  have enough : length ≤ (queues.rx.stored queues.rx.ring.index).toList.length := by
    simpa using fits
  unfold copyOut
  simp only [Program.ensures_bind, Program.ensures_get, Program.element, inside, dite_true,
    Program.ensures_done, ← stored, Program.firstBytes, enough, if_true, Program.overwrite,
    List.length_take, Nat.min_eq_left enough, room]

theorem ensures_inspect (inside : queues.rx.ring.index < rx) (buffer : List UInt8)
    (post : Verdict → Queues rx tx → Prop) :
    (inspect queues.rx.ring.current buffer).Ensures allowed post queues ↔
      post (queues.rx.verdict buffer) queues := by
  unfold inspect RxQueue.verdict
  cases whole : queues.rx.ring.current.isWholeFrame with
  | false => simp [whole]
  | true =>
    by_cases oversized : receiveBufferSize < queues.rx.ring.current.frameLength
    · simp [whole, inspectFrame, oversized]
    · by_cases small : buffer.length < queues.rx.ring.current.frameLength
      · simp [whole, inspectFrame, oversized, small]
      · simp [whole, inspectFrame, oversized, small,
          ensures_copyOut inside (Nat.le_of_not_lt oversized) (Nat.le_of_not_lt small)]

theorem ensures_resumeReceive (post : Unit → Queues rx tx → Prop) :
    resumeReceive.Ensures allowed post queues ↔ post () queues := by
  unfold resumeReceive
  rw [Program.ensures_bind, Program.ensures_read]
  constructor
  · intro holds
    simpa [Control.isSetIn] using holds 0
  · intro holds status
    split <;> exact holds

theorem ensures_recycle (post : Unit → Queues rx tx → Prop) :
    recycle.Ensures allowed post queues ↔
      allowed queues { queues with rx := queues.rx.recycle } ∧
        post () { queues with rx := queues.rx.recycle } := by
  unfold recycle
  simp only [Program.ensures_bind, Program.ensures_modify, ensures_resumeReceive]

theorem ensures_drain (inside : queues.rx.ring.index < rx) (buffer : List UInt8) (budget : Nat) :
    (drain buffer budget).Ensures Touch
      (fun answer after => (answer, after.rx) = queues.rx.drain buffer budget ∧
        after.tx = queues.tx) queues := by
  induction budget generalizing queues with
  | zero => exact ⟨rfl, rfl⟩
  | succ budget ih =>
    unfold drain RxQueue.drain
    rw [Program.ensures_bind, Program.ensures_get]
    cases owner : queues.rx.ring.current.owner with
    | hardware => exact ⟨rfl, rfl⟩
    | software =>
      simp only [Program.ensures_bind, ensures_inspect inside, ensures_recycle]
      refine ⟨.recycle owner, ?_⟩
      cases queues.rx.verdict buffer with
      | some answer => exact ⟨rfl, rfl⟩
      | none =>
        have next : queues.rx.recycle.ring.index < rx := SlotRing.index_advance_lt _
        exact @ih { queues with rx := queues.rx.recycle } next

theorem ensures_receive (inside : queues.rx.ring.index < rx) (buffer : List UInt8) :
    (receive buffer).Ensures Touch
      (fun answer after => (answer, after.rx) = queues.rx.drain buffer rx ∧ after.tx = queues.tx)
      queues :=
  ensures_drain inside buffer rx

end Receive

section Transmit

variable (queues : Queues rx tx)

theorem ensures_transmit (address : UInt32) (length : Nat) :
    (transmit address length).Ensures Touch
      (fun result after =>
        (queues.tx.HasRoom ∧ result = .ok () ∧
          after = { queues with tx := queues.tx.publish address length }) ∨
        (¬ queues.tx.HasRoom ∧ result = .error .notReady ∧ after = queues)) queues := by
  unfold transmit
  rw [Program.ensures_bind, Program.ensures_get]
  by_cases full : queues.tx.pending = tx
  · simp [full, TxQueue.HasRoom]
  · rw [if_neg full]
    cases owner : queues.tx.ring.current.owner with
    | hardware => simp [TxQueue.HasRoom, owner]
    | software =>
      have room : queues.tx.HasRoom := ⟨full, owner⟩
      simpa [room] using Touch.publish room address length

theorem ensures_reclaim :
    reclaim.Ensures Touch
      (fun answer after =>
        (queues.tx.HasReport ∧ answer = some queues.tx.oldest.buffer ∧
          after = { queues with tx := queues.tx.retire }) ∨
        (¬ queues.tx.HasReport ∧ answer = none ∧ after = queues)) queues := by
  unfold reclaim
  rw [Program.ensures_bind, Program.ensures_get]
  by_cases empty : queues.tx.pending = 0
  · simp [empty, TxQueue.HasReport]
  · rw [if_neg empty]
    dsimp only
    cases owner : queues.tx.oldest.owner with
    | hardware => simp [TxQueue.HasReport, owner]
    | software =>
      have due : queues.tx.HasReport := ⟨empty, owner⟩
      simpa [retire, empty, due] using Touch.retire due

end Transmit

end EthernetMac.Queues
