import EthernetMac.Access
import EthernetMac.Queue.Receive
import EthernetMac.Queue.Transmit

/-!
Both queues of an interface and what the driver does with them. Receiving
drains the queue up to the first frame it can hand over, giving every
descriptor back on the way; sending publishes one frame; reclaiming reports the
oldest frame that the device is done with.
-/

namespace EthernetMac

/-- Where the rings and the receive buffers lie in memory. -/
structure Placement where
  rx : Nat
  tx : Nat
  pool : Nat
deriving DecidableEq, Repr

@[ext] structure Queues (rx tx : Nat) where
  rx : RxQueue rx
  tx : TxQueue tx

namespace Queues

variable {rx tx : Nat}

/-- Descriptors and buffers all zero, and nothing handed to the device. -/
def blank (placement : Placement) (two_le_rx : 2 ≤ rx) (two_le_tx : 2 ≤ tx) : Queues rx tx where
  rx :=
    { ring := { start := placement.rx, slots := Vector.replicate rx default, two_le := two_le_rx }
      pool := placement.pool
      buffers := Vector.replicate rx Buffer.blank }
  tx :=
    { ring := { start := placement.tx, slots := Vector.replicate tx default, two_le := two_le_tx } }

def rebuild (queues : Queues rx tx) : Queues rx tx := ⟨queues.rx.rebuild, queues.tx.rebuild⟩

section Build

/-- The address of the receive buffer with that index, which has to exist. -/
def locate (queue : RxQueue rx) (index : Nat) : Program (Queues rx tx) UInt32 := do
  let _buffer ← Program.element queue.buffers index
  return queue.bufferAddress index

/-- Rewinds the receive queue and arms its first `count` descriptors, one after the other. -/
def armFirst (queue : RxQueue rx) : Nat → Program (Queues rx tx) (RxQueue rx)
  | 0 => return queue.rewind
  | count + 1 => do
    let armed ← armFirst queue count
    let buffer ← locate queue count
    return armed.arm count buffer

/-- Builds both queues anew. -/
def build : Program (Queues rx tx) Unit := do
  let queues ← Program.get
  let armed ← armFirst queues.rx rx
  Program.put ⟨armed, queues.tx.rebuild⟩

theorem locate_of_lt (queue : RxQueue rx) {index : Nat} (inside : index < rx) :
    (locate queue index : Program (Queues rx tx) UInt32) = pure (queue.bufferAddress index) := by
  unfold locate Program.element
  rw [dif_pos inside]
  rfl

/-- The loop as far as it has come: the first `count` descriptors are those of a queue that is
built, the others are as they were. -/
theorem armFirst_of_le (queue : RxQueue rx) {count : Nat} (inside : count ≤ rx) :
    (armFirst queue count : Program (Queues rx tx) (RxQueue rx)) =
      pure { queue with
        ring := queue.ring.rewind.mapSlots fun slot descriptor =>
          if slot < count then
            descriptor.arm (queue.bufferAddress slot) receiveBufferSize
              (queue.ring.busAddress (slot + 1))
          else descriptor } := by
  induction count with
  | zero =>
    unfold armFirst RxQueue.rewind
    congr 2
    refine SlotRing.ext_get rfl (fun slot => ?_) rfl
    rw [SlotRing.get_mapSlots, if_neg (Nat.not_lt_zero _)]
  | succ count ih =>
    unfold armFirst
    rw [ih (Nat.le_of_succ_le inside), pure_bind, locate_of_lt queue inside, pure_bind]
    unfold RxQueue.arm
    congr 2
    refine SlotRing.ext_get rfl (fun slot => ?_) rfl
    rw [SlotRing.get_modify, SlotRing.get_mapSlots, SlotRing.get_mapSlots,
      Nat.mod_eq_of_lt inside]
    by_cases here : slot % rx = count
    · rw [here, if_pos rfl, if_neg (Nat.lt_irrefl count), if_pos (Nat.lt_succ_self count)]
      rfl
    · have same : slot % rx < count + 1 ↔ slot % rx < count := by omega
      simp only [here, same, if_false]

/-- Every buffer that is looked for is there. -/
theorem build_eq : (build : Program (Queues rx tx) Unit) = Program.modify rebuild := by
  have armed (queues : Queues rx tx) :
      (armFirst queues.rx rx : Program (Queues rx tx) _) = pure queues.rx.rebuild := by
    rw [armFirst_of_le queues.rx (Nat.le_refl rx)]
    unfold RxQueue.rebuild
    congr 2
    refine SlotRing.ext_get rfl (fun slot => ?_) rfl
    rw [SlotRing.get_mapSlots, SlotRing.get_mapSlots, if_pos (Nat.mod_lt _ queues.rx.ring.pos)]
    rfl
  unfold build
  simp only [armed, pure_bind]
  rfl

end Build

section Receive

/-- What a closed descriptor amounts to, with the caller's buffer afterwards: a
frame delivered, a frame too long for the caller, or (`none`) nothing. -/
abbrev Verdict := Option (Except Error Nat × List UInt8)

/-- Copies the current frame to the start of the caller's buffer. -/
def copyOut (length : Nat) (buffer : List UInt8) : Program (Queues rx tx) (List UInt8) := do
  let queues ← Program.get
  let stored ← Program.element queues.rx.buffers queues.rx.ring.index
  let frame ← Program.firstBytes length stored.toList
  Program.overwrite frame buffer

/-- Looks at a whole frame. -/
def inspectFrame (descriptor : Descriptor) (buffer : List UInt8) :
    Program (Queues rx tx) Verdict := do
  let length := descriptor.frameLength
  Program.noteWhen descriptor.hasError
    (.rxFrameError descriptor.status descriptor.receiveErrors descriptor.failedSourceFilter
      descriptor.failedDestinationFilter)
  if receiveBufferSize < length then
    Program.note (.rxFrameOversized length)
    return none
  else if buffer.length < length then
    Program.note (.rxBufferTooSmall buffer.length length)
    return some (.error (.bufferTooSmall length), buffer)
  else
    let filled ← copyOut length buffer
    return some (.ok length, filled)

/-- Looks at a descriptor that the device has closed. -/
def inspect (descriptor : Descriptor) (buffer : List UInt8) :
    Program (Queues rx tx) Verdict := do
  if descriptor.isWholeFrame then inspectFrame descriptor buffer
  else
    let queues ← Program.get
    Program.note (.rxFragmentDropped queues.rx.ring.index)
    return none

/-- Wakes the receive engine if it ran out of descriptors. -/
def resumeReceive : Program (Queues rx tx) Unit := do
  let status ← Program.read .dmaStatus
  if Control.rxUnavailable.isSetIn status then
    Program.acknowledge Control.rxUnavailable.mask
    Program.demandRx
  else return

/-- Gives the current descriptor back. -/
def recycle : Program (Queues rx tx) Unit := do
  Program.modify fun queues => { queues with rx := queues.rx.recycle }
  resumeReceive

/-- Drains at most the given number of descriptors. -/
def drain (buffer : List UInt8) :
    Nat → Program (Queues rx tx) (Except Error Nat × List UInt8)
  | 0 => return (.error .notReady, buffer)
  | budget + 1 => do
    let queues ← Program.get
    match queues.rx.ring.current.owner with
    | .hardware => return (.error .notReady, buffer)
    | .software =>
      let verdict ← inspect queues.rx.ring.current buffer
      recycle
      match verdict with
      | some answer => return answer
      | none => drain buffer budget

/-- Takes the next frame into the caller's buffer. After one round every
descriptor is the device's again, so a drain of the whole ring has seen all. -/
def receive (buffer : List UInt8) : Program (Queues rx tx) (Except Error Nat × List UInt8) :=
  drain buffer rx

end Receive

section Transmit

/-- Publishes a frame. A slot whose completion was not reported yet is not free,
whoever owns it. -/
def transmit (address : UInt32) (length : Nat) :
    Program (Queues rx tx) (Except Error Unit) := do
  let queues ← Program.get
  if queues.tx.pending = tx then
    Program.note (.txRingFull queues.tx.pending)
    return .error .notReady
  else
    match queues.tx.ring.current.owner with
    | .hardware => return .error .notReady
    | .software =>
      Program.modify fun queues => { queues with tx := queues.tx.publish address length }
      return .ok ()

def retire : Program (Queues rx tx) Unit := do
  let queues ← Program.get
  if queues.tx.pending = 0 then Program.fault .counterBelowZero
  else Program.modify fun queues => { queues with tx := queues.tx.retire }

/-- The buffer address of the oldest frame, once the device is done with it. -/
def reclaim : Program (Queues rx tx) (Option UInt32) := do
  let queues ← Program.get
  if queues.tx.pending = 0 then return none
  else
    let oldest := queues.tx.oldest
    match oldest.owner with
    | .hardware => return none
    | .software =>
      Program.noteWhen oldest.hasError
        (.txFrameError oldest.status oldest.transmitErrors oldest.collisions)
      retire
      return some oldest.buffer

end Transmit

end Queues

end EthernetMac
