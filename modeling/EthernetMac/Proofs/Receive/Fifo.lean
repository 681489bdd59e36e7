import EthernetMac.Proofs.Receive.Arrival
import EthernetMac.Proofs.Run.System

/-!
A bounded queue of received frames, as a list. A frame that arrives is accepted
if there is room; a receive drops what is not a whole frame and takes the first
that is. Nothing is delivered but what was accepted, once and in order.
-/

namespace EthernetMac

inductive FifoStep where
  | arrive (arrival : Arrival)
  | receive (hardware : Hardware) (buffer : List UInt8)
  | registers (change : RegisterFile → RegisterFile)

inductive FifoAnswer where
  | arrived (accepted : Bool)
  | received (answer : Except Fault (Except Error Nat × List UInt8))
  | changed

namespace Fifo

/-- What a caller gets to hear of a whole frame, with the buffer afterwards. -/
def offer (frame : Arrival) (buffer : List UInt8) : Except Error Nat × List UInt8 :=
  let length := frame.bytes.length
  if buffer.length < length then (.error (.bufferTooSmall length), buffer)
  else (.ok length, frame.bytes ++ buffer.drop length)

/-- Drops what is not a whole frame and takes the first that is. -/
def take (buffer : List UInt8) (frames : List Arrival) :
    (Except Error Nat × List UInt8) × List Arrival :=
  match frames.dropWhile fun frame => !frame.isWhole with
  | [] => ((.error .notReady, buffer), [])
  | frame :: rest => (offer frame buffer, rest)

def system (capacity : Nat) : System (List Arrival) FifoStep FifoAnswer where
  step
    | .arrive arrival, frames =>
      if frames.length < capacity then (.arrived true, frames ++ [arrival])
      else (.arrived false, frames)
    | .receive _ buffer, frames => (.received (.ok (take buffer frames).1), (take buffer frames).2)
    | .registers _, frames => (.changed, frames)

/-- The frames that found room, oldest first. -/
def accepted : List (FifoStep × FifoAnswer) → List Arrival
  | [] => []
  | (.arrive arrival, .arrived true) :: earlier => accepted earlier ++ [arrival]
  | _ :: earlier => accepted earlier

/-- The frame in a caller's buffer, if there is one. -/
def found : Except Error Nat × List UInt8 → List (List UInt8)
  | (.ok length, buffer) => [buffer.take length]
  | (.error _, _) => []

/-- The frames that callers found in their buffers, oldest first. -/
def delivered : List (FifoStep × FifoAnswer) → List (List UInt8)
  | [] => []
  | (_, .received (.ok answer)) :: earlier => delivered earlier ++ found answer
  | _ :: earlier => delivered earlier

section Take

variable {frame : Arrival} {rest : List Arrival} (buffer : List UInt8)

theorem take_of_whole (whole : frame.isWhole = true) :
    take buffer (frame :: rest) = (offer frame buffer, rest) := by
  simp [take, whole]

theorem take_of_fragment (fragment : frame.isWhole = false) :
    take buffer (frame :: rest) = take buffer rest := by
  simp [take, fragment]

theorem found_offer :
    (found (offer frame buffer)).Sublist [frame.bytes] := by
  unfold offer
  dsimp only
  split
  · exact List.nil_sublist _
  · simp [found]

/-- Taking consumes a prefix of the frames; what it delivers is one of these. -/
theorem exists_consumed (frames : List Arrival) :
    ∃ consumed, frames = consumed ++ (take buffer frames).2 ∧
      (found (take buffer frames).1).Sublist (consumed.map Arrival.bytes) := by
  induction frames with
  | nil => exact ⟨[], rfl, .slnil⟩
  | cons frame rest ih =>
    cases whole : frame.isWhole with
    | true =>
      rw [take_of_whole buffer whole]
      exact ⟨[frame], rfl, found_offer buffer⟩
    | false =>
      rw [take_of_fragment buffer whole]
      obtain ⟨consumed, split, among⟩ := ih
      exact ⟨frame :: consumed, congrArg (frame :: ·) split, among.cons _⟩

end Take

/-- Of the frames that found room, those not in the queue any more come before those
that are, and those that were delivered are some of the former, in order. -/
theorem accepted_eq (capacity : Nat) (steps : List FifoStep) :
    let trace := (system capacity).trace [] steps
    ∃ consumed, accepted trace = consumed ++ (system capacity).after [] steps ∧
      (delivered trace).Sublist (consumed.map Arrival.bytes) := by
  induction steps with
  | nil => exact ⟨[], rfl, .slnil⟩
  | cons step earlier ih =>
    obtain ⟨consumed, conserved, among⟩ := ih
    rw [System.trace_cons]
    generalize (system capacity).trace [] earlier = trace at conserved among
    show ∃ consumed, accepted _ = consumed ++ ((system capacity).step step _).2 ∧ _
    generalize (system capacity).after [] earlier = frames at conserved
    cases step with
    | arrive arrival =>
      by_cases room : frames.length < capacity
      · refine ⟨consumed, ?_, ?_⟩
        · simp [system, room, accepted, conserved]
        · simpa [system, room, delivered] using among
      · refine ⟨consumed, ?_, ?_⟩
        · simp [system, room, accepted, conserved]
        · simpa [system, room, delivered] using among
    | receive hardware buffer =>
      obtain ⟨taken, split, last⟩ := exists_consumed buffer frames
      refine ⟨consumed ++ taken, ?_, ?_⟩
      · show accepted trace = consumed ++ taken ++ (take buffer frames).2
        rw [conserved, List.append_assoc, ← split]
      · show (delivered trace ++ found (take buffer frames).1).Sublist _
        rw [List.map_append]
        exact among.append last
    | registers change => exact ⟨consumed, conserved, among⟩

end Fifo

end EthernetMac
