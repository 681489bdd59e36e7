import EthernetMac.Proofs.Queues.Contracts
import EthernetMac.Proofs.Receive.Fifo

/-!
The receive ring is a bounded queue of frames: a device that closes its slots in
ring order and a driver that receives look together like the queue as a list.
-/

namespace EthernetMac

/-- The queues beside a device that goes round the receive ring. -/
structure Reception (rx tx : Nat) where
  machine : Machine (Queues rx tx)
  /-- The slot that the device closes next. -/
  producer : Nat

namespace Reception

variable {rx tx : Nat}

/-- The device waits at a slot until it owns it. -/
def arrive (arrival : Arrival) (reception : Reception rx tx) : FifoAnswer × Reception rx tx :=
  let queues := reception.machine.state
  match queues.rx.owner reception.producer with
  | .software => (.arrived false, reception)
  | .hardware =>
    (.arrived true,
      { machine := { reception.machine with
          state := { queues with rx := queues.rx.place reception.producer arrival } }
        producer := (reception.producer + 1) % rx })

def system (rx tx : Nat) : System (Reception rx tx) FifoStep FifoAnswer where
  step
    | .arrive arrival, reception => reception.arrive arrival
    | .receive hardware buffer, reception =>
      let result := (Queues.receive buffer).run hardware reception.machine
      (.received result.1, { reception with machine := result.2 })
    | .registers change, reception =>
      let bus := reception.machine.bus
      let changed := { bus with registers := change bus.registers }
      (.changed, { reception with machine := { reception.machine with bus := changed } })

end Reception

namespace RxQueue

variable {n : Nat} {queue : RxQueue n} {producer : Nat} {frames : List Arrival}

/-- The slots from the read index to the producer's hold the frames, in order, and the
device owns the others. -/
structure Represents (queue : RxQueue n) (producer : Nat) (frames : List Arrival) : Prop where
  inside : queue.ring.index < n
  length_le : frames.length ≤ n
  producer_eq : producer = (queue.ring.index + frames.length) % n
  status_eq : ∀ number (within : number < frames.length),
    (queue.ring.get (queue.ring.index + number)).status = frames[number].status
  stored_eq : ∀ number (within : number < frames.length),
    (queue.stored (queue.ring.index + number)).toList.take frames[number].bytes.length =
      frames[number].bytes
  free : ∀ number, frames.length ≤ number → number < n →
    queue.owner (queue.ring.index + number) = .hardware

theorem represents_rebuild (queue : RxQueue n) : queue.rebuild.Represents 0 [] where
  inside := queue.ring.pos
  length_le := Nat.zero_le n
  producer_eq := (Nat.zero_mod n).symm
  status_eq := by
    intro number within
    contradiction
  stored_eq := by
    intro number within
    contradiction
  free := by
    intro number _ _
    exact queue.owner_rebuild _

/-- The device finds its slot its own exactly if there is room for a frame. -/
theorem Represents.owner_producer (represents : queue.Represents producer frames) :
    queue.owner producer = .hardware ↔ frames.length < n := by
  have slot : queue.owner producer = queue.owner (queue.ring.index + frames.length) := by
    unfold owner
    rw [represents.producer_eq, SlotRing.get_mod]
  rw [slot]
  constructor
  · intro hardware
    by_contra full
    -- a full ring has the producer at the read index, where a closed frame lies
    have length_eq : frames.length = n := Nat.le_antisymm represents.length_le (by omega)
    have within : 0 < frames.length := by
      have := queue.ring.pos
      omega
    have same : queue.ring.get (queue.ring.index + frames.length) =
        queue.ring.get (queue.ring.index + 0) := by
      rw [length_eq]
      exact queue.ring.get_congr (Nat.add_mod_right _ n)
    unfold owner at hardware
    rw [same, frames[0].owner_eq (represents.status_eq 0 within)] at hardware
    contradiction
  · exact represents.free frames.length (Nat.le_refl _)

/-- Two slots of a window that holds no more than a round. -/
private theorem slot_ne {start first second : Nat} (first_lt : first < n) (second_lt : second < n)
    (different : first ≠ second) : ¬ (start + first) % n = (start + second) % n :=
  fun same => different (Ring.window_inj first_lt second_lt same)

theorem Represents.place (represents : queue.Represents producer frames) (room : frames.length < n)
    (arrival : Arrival) :
    (queue.place producer arrival).Represents ((producer + 1) % n) (frames ++ [arrival]) := by
  have producer_mod : producer % n = (queue.ring.index + frames.length) % n := by
    rw [represents.producer_eq, Nat.mod_mod]
  have ahead {number : Nat} (near : number < n) (other : number ≠ frames.length) :
      ¬ (queue.ring.index + number) % n = producer % n := by
    rw [producer_mod]
    exact slot_ne near room other
  have last {number : Nat} (within : number < (frames ++ [arrival]).length)
      (late : ¬ number < frames.length) : number = frames.length := by
    rw [List.length_append, List.length_singleton] at within
    omega
  constructor
  case inside => exact represents.inside
  case length_le =>
    rw [List.length_append, List.length_singleton]
    exact room
  case producer_eq =>
    show (producer + 1) % n = (queue.ring.index + (frames ++ [arrival]).length) % n
    rw [represents.producer_eq, Nat.mod_add_mod, List.length_append, List.length_singleton,
      Nat.add_assoc]
  case status_eq =>
    intro number within
    show ((queue.place producer arrival).ring.get (queue.ring.index + number)).status = _
    by_cases early : number < frames.length
    · rw [get_place, if_neg (ahead (by omega) (by omega)), represents.status_eq number early,
        List.getElem_append_left early]
    · obtain rfl := last within early
      rw [get_place, if_pos producer_mod.symm]
      simp
  case stored_eq =>
    intro number within
    show ((queue.place producer arrival).stored (queue.ring.index + number)).toList.take _ = _
    by_cases early : number < frames.length
    · rw [stored_place, if_neg (ahead (by omega) (by omega)), List.getElem_append_left early,
        represents.stored_eq number early]
    · obtain rfl := last within early
      rw [stored_place, if_pos producer_mod.symm, List.getElem_append_right (Nat.le_refl _)]
      simp [Buffer.take_fill _ arrival.fits]
  case free =>
    intro number late near
    rw [List.length_append, List.length_singleton] at late
    show ((queue.place producer arrival).ring.get (queue.ring.index + number)).owner = _
    rw [get_place, if_neg (ahead near (by omega))]
    exact represents.free number (by omega) near

theorem Represents.recycle {frame : Arrival} {rest : List Arrival}
    (represents : queue.Represents producer (frame :: rest)) :
    queue.recycle.Represents producer rest := by
  have length_le : rest.length + 1 ≤ n := represents.length_le
  have slot_eq (number : Nat) :
      (queue.recycle.ring.index + number) % n = (queue.ring.index + (number + 1)) % n := by
    rw [index_recycle, Nat.mod_add_mod]
    congr 1
    omega
  have beyond {number : Nat} (near : number + 1 < n) :
      ¬ (queue.ring.index + (number + 1)) % n = queue.ring.index % n := by
    have apart : ¬ (queue.ring.index + (number + 1)) % n = (queue.ring.index + 0) % n :=
      slot_ne near queue.ring.pos (Nat.succ_ne_zero number)
    exact apart
  have get_next {number : Nat} (near : number + 1 < n) :
      queue.recycle.ring.get (queue.recycle.ring.index + number) =
        queue.ring.get (queue.ring.index + (number + 1)) := by
    rw [SlotRing.get_congr _ (slot_eq number), get_recycle, if_neg (beyond near)]
  constructor
  case inside => exact SlotRing.index_advance_lt _
  case length_le => exact Nat.le_of_succ_le length_le
  case producer_eq =>
    rw [slot_eq]
    exact represents.producer_eq
  case status_eq =>
    intro number within
    rw [get_next (by omega)]
    exact represents.status_eq (number + 1) (Nat.succ_lt_succ within)
  case stored_eq =>
    intro number within
    rw [← stored_mod, slot_eq, stored_mod]
    exact represents.stored_eq (number + 1) (Nat.succ_lt_succ within)
  case free =>
    intro number late near
    unfold owner
    by_cases last : number + 1 = n
    · -- the slot given back is now the last of the round
      have here : (queue.ring.index + (number + 1)) % n = queue.ring.index % n := by
        rw [last, Nat.add_mod_right]
      rw [SlotRing.get_congr _ (slot_eq number), get_recycle, if_pos here]
      exact owner_giveToHardware _
    · rw [get_next (by omega)]
      exact represents.free (number + 1) (Nat.succ_le_succ late) (by omega)

section Drain

variable {frame : Arrival} {rest : List Arrival}
  (represents : queue.Represents producer (frame :: rest))

include represents

theorem Represents.status_current : queue.ring.current.status = frame.status :=
  represents.status_eq 0 (Nat.succ_pos _)

theorem Represents.verdict_eq (buffer : List UInt8) :
    queue.verdict buffer = if frame.isWhole then some (Fifo.offer frame buffer) else none := by
  have stored : (queue.stored queue.ring.index).toList.take frame.bytes.length = frame.bytes :=
    represents.stored_eq 0 (Nat.succ_pos _)
  have fits : ¬ receiveBufferSize < frame.bytes.length := Nat.not_lt.2 frame.fits
  unfold verdict Fifo.offer
  dsimp only
  rw [frame.isWholeFrame_eq represents.status_current,
    frame.frameLength_eq represents.status_current]
  cases frame.isWhole with
  | false => rfl
  | true =>
    simp only [fits, Bool.true_eq_false, or_self, if_false, if_true]
    split
    · rfl
    · rw [stored]

end Drain

/-- A drain that may go once round the ring takes from the frames what a queue of
them would give. -/
theorem Represents.drain (represents : queue.Represents producer frames) (buffer : List UInt8)
    {budget : Nat} (enough : frames.length ≤ budget) :
    (queue.drain buffer budget).1 = (Fifo.take buffer frames).1 ∧
      (queue.drain buffer budget).2.Represents producer (Fifo.take buffer frames).2 := by
  induction frames generalizing queue budget with
  | nil =>
    have owner : queue.ring.current.owner = .hardware :=
      represents.free 0 (Nat.le_refl 0) queue.ring.pos
    cases budget with
    | zero => exact ⟨rfl, represents⟩
    | succ budget =>
      rw [drain, owner]
      exact ⟨rfl, represents⟩
  | cons frame rest ih =>
    have owner : queue.ring.current.owner = .software := frame.owner_eq represents.status_current
    cases budget with
    | zero => contradiction
    | succ budget =>
      rw [drain, owner]
      dsimp only
      rw [represents.verdict_eq buffer]
      cases whole : frame.isWhole with
      | true =>
        rw [Fifo.take_of_whole buffer whole]
        exact ⟨rfl, represents.recycle⟩
      | false =>
        rw [Fifo.take_of_fragment buffer whole]
        exact ih represents.recycle (Nat.le_of_succ_le_succ enough)

end RxQueue

namespace Reception

variable {rx tx : Nat}

/-- A reception that represents some frames answers like the queue of them. -/
theorem step_represents {reception : Reception rx tx} {frames : List Arrival}
    (represents : reception.machine.state.rx.Represents reception.producer frames)
    (step : FifoStep) :
    ((system rx tx).step step reception).1 = ((Fifo.system rx).step step frames).1 ∧
      let after := ((system rx tx).step step reception).2
      after.machine.state.rx.Represents after.producer ((Fifo.system rx).step step frames).2 := by
  cases step with
  | arrive arrival =>
    cases owner : reception.machine.state.rx.owner reception.producer with
    | software =>
      have full : ¬ frames.length < rx := by
        rw [← represents.owner_producer, owner]
        decide
      simp only [system, arrive, owner, Fifo.system, if_neg full]
      exact ⟨trivial, represents⟩
    | hardware =>
      have room : frames.length < rx := represents.owner_producer.1 owner
      simp only [system, arrive, owner, Fifo.system, if_pos room]
      exact ⟨trivial, represents.place room arrival⟩
  | receive hardware buffer =>
    obtain ⟨answer, after, ran, ⟨drained, -⟩, -⟩ :=
      Program.ensures_run (Queues.ensures_receive represents.inside buffer) hardware
    obtain ⟨same, next⟩ := represents.drain buffer represents.length_le
    rw [← drained] at same next
    simp only [system, Fifo.system, ran]
    exact ⟨congrArg (FifoAnswer.received ∘ Except.ok) same, next⟩
  | registers change => exact ⟨rfl, represents⟩

/-- Whatever order frames arrive and are received in, on any hardware, the receive ring
answers like a queue of at most as many frames as it has slots. The device finds its slot
its own exactly if there is room in that queue, and what is delivered are frames that
arrived, each once, whole and in order. -/
theorem receive_refines_fifo (bus : Bus) (queues : Queues rx tx) (steps : List FifoStep) :
    let start : Reception rx tx := ⟨⟨bus, queues.rebuild⟩, 0⟩
    let reception := (system rx tx).after start steps
    let trace := (system rx tx).trace start steps
    let frames := (Fifo.system rx).after [] steps
    trace = (Fifo.system rx).trace [] steps ∧ frames.length ≤ rx ∧
      (reception.machine.state.rx.owner reception.producer = .hardware ↔ frames.length < rx) ∧
      ∃ consumed, Fifo.accepted trace = consumed ++ frames ∧
        (Fifo.delivered trace).Sublist (consumed.map Arrival.bytes) := by
  intro start reception trace frames
  have initial : start.machine.state.rx.Represents start.producer [] :=
    queues.rx.represents_rebuild
  obtain ⟨same, represents⟩ := System.trace_eq_of_simulation
    (fun (reception : Reception rx tx) (frames : List Arrival) =>
      reception.machine.state.rx.Represents reception.producer frames)
    initial (fun _ _ step related => step_represents related step) steps
  refine ⟨same, represents.length_le, represents.owner_producer, ?_⟩
  have conserved := Fifo.accepted_eq rx steps
  rw [← same] at conserved
  exact conserved

end Reception

end EthernetMac
