import EthernetMac.Proofs.Interface.Contracts

/-!
Receiving as a scan of the ring. From the read index on, descriptors with no frame for any
caller are skipped, up to the first that the device owns or that has an answer; those that were
passed are given back. The loop that does this need not count its turns: what it has given back
is the device's, so it ends where it began at the latest.
-/

namespace EthernetMac

/-- A loop that keeps no count: its body runs over and over until it has an answer. -/
inductive Program.Repeats {σ α : Type} (hardware : Hardware) (body : Program σ (Option α)) :
    Machine σ → α → Machine σ → Prop
  | last {machine after : Machine σ} {answer : α}
    (ran : body.run hardware machine = (.ok (some answer), after)) :
    Repeats hardware body machine answer after
  | again {machine next after : Machine σ} {answer : α}
    (ran : body.run hardware machine = (.ok none, next))
    (rest : Repeats hardware body next answer after) : Repeats hardware body machine answer after

namespace RxQueue

variable {n : Nat} (queue : RxQueue n)

/-- The driver's, and no frame for any caller: a fragment, or too long for a receive buffer. -/
def Skippable (slot : Nat) : Prop :=
  queue.owner slot = .software ∧
    ((queue.ring.get slot).isWholeFrame = false ∨
      receiveBufferSize < (queue.ring.get slot).frameLength)

instance (slot : Nat) : Decidable (queue.Skippable slot) := inferInstanceAs (Decidable (_ ∧ _))

/-- The number of skippable slots in a row, from the read index on. -/
def skips : Nat :=
  (List.range n).findIdx fun offset => ¬ queue.Skippable (queue.ring.index + offset)

theorem skips_le : queue.skips ≤ n :=
  calc queue.skips ≤ (List.range n).length := List.findIdx_le_length
    _ = n := List.length_range

theorem skippable_of_lt_skips {offset : Nat} (near : offset < queue.skips) :
    queue.Skippable (queue.ring.index + offset) := by
  simpa using List.not_of_lt_findIdx near

theorem not_skippable_skips (short : queue.skips < n) :
    ¬ queue.Skippable (queue.ring.index + queue.skips) := by
  unfold skips at short ⊢
  have inside := short.trans_eq List.length_range.symm
  simpa using @List.findIdx_getElem _ _ _ inside

/-- What receiving comes to: the result, the caller's buffer afterwards, and how many slots are
given back. -/
structure Scan where
  result : Except Error Nat
  filled : List UInt8
  count : Nat
deriving DecidableEq

def scan (buffer : List UInt8) : Scan :=
  let last := queue.ring.index + queue.skips
  let length := (queue.ring.get last).frameLength
  if queue.skips = n ∨ queue.owner last = .hardware then
    ⟨.error .notReady, buffer, queue.skips⟩
  else if length ≤ buffer.length then
    ⟨.ok length, (queue.stored last).toList.take length ++ buffer.drop length, queue.skips + 1⟩
  else ⟨.error (.bufferTooSmall length), buffer, queue.skips + 1⟩

/-- Of the queue only the read index has changed, and the status of the `count` slots it passed. -/
structure GivesBack (count : Nat) (queue after : RxQueue n) : Prop where
  index_eq : after.ring.index = (queue.ring.index + count) % n
  given : ∀ offset < count, after.ring.get (queue.ring.index + offset) =
    { queue.ring.get (queue.ring.index + offset) with status := Descriptor.own }
  kept : ∀ offset < n, count ≤ offset →
    after.ring.get (queue.ring.index + offset) = queue.ring.get (queue.ring.index + offset)
  start_eq : after.ring.start = queue.ring.start
  pool_eq : after.pool = queue.pool
  buffers_eq : after.buffers = queue.buffers

section Drain

variable {queue after : RxQueue n} {count : Nat} {buffer : List UInt8}

namespace Recycles

theorem index_eq (run : Recycles count queue after) (inside : queue.ring.index < n) :
    after.ring.index = (queue.ring.index + count) % n := by
  induction run with
  | none => exact (Nat.mod_eq_of_lt inside).symm
  | @next count queue after _ _ ih =>
    rw [ih (SlotRing.index_advance_lt _), index_recycle, Nat.mod_add_mod, Nat.add_assoc,
      Nat.add_comm 1]

/-- Nothing but descriptors is given back. -/
theorem same_place (run : Recycles count queue after) :
    after.ring.start = queue.ring.start ∧ after.pool = queue.pool ∧
      after.buffers = queue.buffers := by
  induction run with
  | none => exact ⟨rfl, rfl, rfl⟩
  | next _ _ ih => exact ih

theorem snoc (run : Recycles count queue after) (closed : after.ring.current.owner = .software) :
    Recycles (count + 1) queue after.recycle := by
  induction run with
  | none => exact .next closed (.none _)
  | next first _ ih => exact .next first (ih closed)

theorem givesBack (run : Recycles count queue after) (inside : queue.ring.index < n) :
    GivesBack count queue after := by
  obtain ⟨start, pool, buffers⟩ := run.same_place
  refine ⟨run.index_eq inside, ?_, ?_, start, pool, buffers⟩
  · exact fun offset near => (run.get_ahead ⟨offset, near, rfl⟩).2
  · intro offset within far
    apply run.get_beyond
    rintro ⟨other, near, same⟩
    have := Ring.window_inj within (near.trans_le run.count_le) same
    omega

/-- Short of a round, a slot is as it was when its turn comes. -/
theorem current_eq (run : Recycles count queue after) (inside : queue.ring.index < n)
    (short : count < n) : after.ring.current = queue.ring.get (queue.ring.index + count) := by
  show after.ring.get after.ring.index = _
  rw [run.index_eq inside, SlotRing.get_mod]
  exact (run.givesBack inside).kept count short (Nat.le_refl count)

theorem stored_eq (run : Recycles count queue after) (inside : queue.ring.index < n) :
    after.stored after.ring.index = queue.stored (queue.ring.index + count) := by
  rw [run.index_eq inside, stored_mod]
  exact stored_congr run.same_place.2.2 _

/-- After a whole round the driver has no slot left. -/
theorem owner_of_round (run : Recycles n queue after) :
    after.ring.current.owner = .hardware := by
  obtain ⟨offset, near, same⟩ := Ring.exists_offset queue.ring.index after.ring.index queue.ring.pos
  show (after.ring.get after.ring.index).owner = .hardware
  rw [(run.get_ahead ⟨offset, near, same⟩).2, owner_giveToHardware]

end Recycles

theorem drain_of_hardware (owned : queue.ring.current.owner = .hardware) (budget : Nat) :
    queue.drain buffer budget = ((.error .notReady, buffer), queue) := by
  cases budget with
  | zero => rfl
  | succ budget => simp only [drain, owned]

theorem drain_of_nothing (closed : queue.ring.current.owner = .software)
    (nothing : queue.verdict buffer = none) (budget : Nat) :
    queue.drain buffer (budget + 1) = queue.recycle.drain buffer budget := by
  simp only [drain, closed, nothing]

theorem drain_of_answer (closed : queue.ring.current.owner = .software)
    {answer : Except Error Nat × List UInt8} (given : queue.verdict buffer = some answer)
    (budget : Nat) : queue.drain buffer (budget + 1) = (answer, queue.recycle) := by
  simp only [drain, closed, given]

theorem verdict_eq_none_iff : queue.verdict buffer = none ↔
    queue.ring.current.isWholeFrame = false ∨
      receiveBufferSize < queue.ring.current.frameLength := by
  unfold verdict
  dsimp only
  split
  next nothing => exact iff_of_true rfl nothing
  next frame => split <;> exact iff_of_false nofun frame

/-- A drain passes over what is skippable. -/
theorem drain_of_skippable (count : Nat) (queue : RxQueue n) (within : count ≤ n)
    (skippable : ∀ offset < count, queue.Skippable (queue.ring.index + offset)) :
    ∃ reached, Recycles count queue reached ∧
      ∀ budget, queue.drain buffer (count + budget) = reached.drain buffer budget := by
  induction count generalizing queue with
  | zero => exact ⟨queue, .none queue, fun budget => by rw [Nat.zero_add]⟩
  | succ count ih =>
    obtain ⟨closed, nothing⟩ := skippable 0 (Nat.succ_pos count)
    -- giving back the first slot leaves the later ones of the round alone
    have beyond : ∀ offset < count,
        queue.recycle.Skippable (queue.recycle.ring.index + offset) := by
      intro offset near
      have later := skippable (offset + 1) (Nat.succ_lt_succ near)
      have slot : (queue.recycle.ring.index + offset) % n =
          (queue.ring.index + (offset + 1)) % n := by
        rw [index_recycle, Nat.mod_add_mod, Nat.add_assoc, Nat.add_comm 1]
      have elsewhere : ¬ (queue.ring.index + (offset + 1)) % n = queue.ring.index % n := by
        intro same
        have := Ring.window_inj (by omega) queue.ring.pos same
        omega
      unfold Skippable owner
      rw [queue.recycle.ring.get_congr slot, get_recycle, if_neg elsewhere]
      exact later
    obtain ⟨reached, run, drains⟩ := ih queue.recycle (Nat.le_of_succ_le within) beyond
    refine ⟨reached, .next closed run, fun budget => ?_⟩
    rw [← drains, Nat.add_right_comm]
    exact drain_of_nothing closed (verdict_eq_none_iff.2 nothing) _

/-- A drain that may go once around is the scan. -/
theorem drain_scan (inside : queue.ring.index < n) (buffer : List UInt8) {budget : Nat}
    (enough : n ≤ budget) :
    let scan := queue.scan buffer
    (queue.drain buffer budget).1 = (scan.result, scan.filled) ∧
      Recycles scan.count queue (queue.drain buffer budget).2 := by
  intro scan
  obtain ⟨reached, run, drains⟩ := @drain_of_skippable _ buffer queue.skips queue queue.skips_le
    fun offset near => queue.skippable_of_lt_skips near
  obtain ⟨rest, rfl⟩ := Nat.exists_eq_add_of_le (queue.skips_le.trans enough)
  rw [drains]
  -- past the skippable slots the drain stands at one that was given back a round ago, one that
  -- was the device's all along, or one with an answer
  by_cases ends : queue.skips = n ∨ queue.owner (queue.ring.index + queue.skips) = .hardware
  · have owned : reached.ring.current.owner = .hardware := by
      by_cases round : queue.skips = n
      · rw [round] at run
        exact run.owner_of_round
      · rw [run.current_eq inside (Nat.lt_of_le_of_ne queue.skips_le round)]
        exact ends.resolve_left round
    have stops : scan = ⟨.error .notReady, buffer, queue.skips⟩ := if_pos ends
    rw [drain_of_hardware owned, stops]
    exact ⟨rfl, run⟩
  · obtain ⟨round, released⟩ := not_or.1 ends
    have short : queue.skips < n := Nat.lt_of_le_of_ne queue.skips_le round
    have current := run.current_eq inside short
    have free : queue.owner (queue.ring.index + queue.skips) = .software := by
      cases owner : queue.owner (queue.ring.index + queue.skips) with
      | software => rfl
      | hardware => contradiction
    have frame := fun nothing => queue.not_skippable_skips short ⟨free, nothing⟩
    have given : reached.verdict buffer = some (scan.result, scan.filled) ∧
        scan.count = queue.skips + 1 := by
      unfold verdict
      simp only [scan, RxQueue.scan, current, run.stored_eq inside, if_neg ends, if_neg frame]
      split
      next small => simp [Nat.not_le_of_lt small]
      next room => simp [Nat.le_of_not_lt room]
    obtain ⟨answers, counts⟩ := given
    obtain ⟨rest, rfl⟩ : ∃ other, rest = other + 1 := Nat.exists_eq_add_one.2 (by omega)
    have closed : reached.ring.current.owner = .software := by
      rw [current]
      exact free
    rw [drain_of_answer closed answers, counts]
    exact ⟨rfl, run.snoc closed⟩

end Drain

end RxQueue

namespace Queues

variable {rx tx : Nat}

/-- What is done with one descriptor, in a loop that drains the ring. -/
def turn (buffer : List UInt8) : Program (Queues rx tx) Verdict := do
  let queues ← Program.get
  match queues.rx.ring.current.owner with
  | .hardware => return some (.error .notReady, buffer)
  | .software =>
    let verdict ← inspect queues.rx.ring.current buffer
    recycle
    return verdict

theorem drain_succ (buffer : List UInt8) (budget : Nat) :
    (drain buffer (budget + 1) : Program (Queues rx tx) _) =
      turn buffer >>= fun verdict => verdict.elim (drain buffer budget) pure := by
  unfold turn
  rw [drain, bind_assoc]
  congr 1
  funext queues
  cases queues.rx.ring.current.owner with
  | hardware => rfl
  | software =>
    refine Eq.trans (bind_congr fun verdict => ?_) (bind_assoc _ _ _).symm
    rw [bind_assoc]
    cases verdict <;> rfl

theorem ensures_turn {queues : Queues rx tx} (inside : queues.rx.ring.index < rx)
    (buffer : List UInt8) :
    (turn buffer).Ensures Touch
      (fun verdict after =>
        (queues.rx.ring.current.owner = .hardware ∧ verdict = some (.error .notReady, buffer) ∧
          after = queues) ∨
        (queues.rx.ring.current.owner = .software ∧ verdict = queues.rx.verdict buffer ∧
          after = { queues with rx := queues.rx.recycle })) queues := by
  unfold turn
  rw [Program.ensures_bind, Program.ensures_get]
  cases owner : queues.rx.ring.current.owner with
  | hardware => exact .inl ⟨rfl, rfl, rfl⟩
  | software =>
    simp only [Program.ensures_bind, ensures_inspect inside, ensures_recycle]
    exact ⟨.recycle owner, .inr ⟨trivial, rfl, rfl⟩⟩

theorem run_turn_of_hardware {hardware : Hardware} {machine : Machine (Queues rx tx)}
    (owned : machine.state.rx.ring.current.owner = .hardware) (buffer : List UInt8) :
    (turn buffer).run hardware machine = (.ok (some (.error .notReady, buffer)), machine) := by
  unfold turn
  rw [Program.run_bind, Program.run_get]
  simp only [owned]
  rfl

/-- With a budget that leaves the driver no slot, a drain is a loop without one. -/
theorem repeats_drain (buffer : List UInt8) (budget : Nat) (hardware : Hardware)
    (machine : Machine (Queues rx tx)) (inside : machine.state.rx.ring.index < rx)
    (exhausts : ∀ after, RxQueue.Recycles budget machine.state.rx after →
      after.ring.current.owner = .hardware) :
    ∃ answer after, (drain buffer budget).run hardware machine = (.ok answer, after) ∧
      Program.Repeats hardware (turn buffer) machine answer after := by
  -- what the budget exhausts is what is left of it after a turn, so `exhausts` goes along
  induction budget generalizing machine with
  | zero => exact ⟨_, machine, rfl, .last (run_turn_of_hardware (exhausts _ (.none _)) buffer)⟩
  | succ budget ih =>
    obtain ⟨verdict, next, ran, turned, -⟩ :=
      Program.ensures_run (ensures_turn inside buffer) hardware
    rw [drain_succ, Program.run_bind, ran]
    cases verdict with
    | some answer => exact ⟨answer, next, rfl, .last ran⟩
    | none =>
      obtain ⟨-, absurd, -⟩ | ⟨free, -, recycled⟩ := turned
      · contradiction
      · have recycled_rx : next.state.rx = machine.state.rx.recycle := congrArg Queues.rx recycled
        obtain ⟨answer, after, drained, rest⟩ := ih next
          (by rw [recycled_rx]; exact SlotRing.index_advance_lt _)
          (by rw [recycled_rx]; exact fun after run => exhausts after (.next free run))
        exact ⟨answer, after, drained, .again ran rest⟩

theorem run_receive (buffer : List UInt8) (hardware : Hardware) (machine : Machine (Queues rx tx))
    (inside : machine.state.rx.ring.index < rx) :
    let scan := machine.state.rx.scan buffer
    ∃ after, (receive buffer).run hardware machine = (.ok (scan.result, scan.filled), after) ∧
      Program.Repeats hardware (turn buffer) machine (scan.result, scan.filled) after ∧
      machine.state.rx.GivesBack scan.count after.state.rx ∧
      after.state.tx = machine.state.tx := by
  intro scan
  obtain ⟨answers, recycles⟩ := RxQueue.drain_scan inside buffer (Nat.le_refl rx)
  obtain ⟨answer, after, ran, ⟨drained, same⟩, -⟩ :=
    Program.ensures_run (ensures_receive inside buffer) hardware
  obtain ⟨again, other, rerun, repeats⟩ := repeats_drain buffer rx hardware machine inside
    fun after round => round.owner_of_round
  obtain ⟨rfl, rfl⟩ : again = answer ∧ other = after := by
    rw [receive, rerun] at ran
    simpa using ran
  rw [← drained] at answers recycles
  dsimp only at answers recycles
  subst answers
  exact ⟨other, ran, repeats, recycles.givesBack inside, same⟩

end Queues

namespace Interface

variable {rx tx : Nat}

/-- An interface in service receives what the scan finds and keeps everything but its queue. -/
theorem run_receive_of_initialized {machine : Machine (Interface rx tx)}
    (initialized : machine.state.lifecycle = .initialized)
    (inside : machine.state.queues.rx.ring.index < rx) (buffer : List UInt8)
    (hardware : Hardware) :
    let queues := machine.state.queues
    let scan := queues.rx.scan buffer
    ∃ after, (receive buffer).run hardware machine =
        (.ok (scan.result.map (frameIn scan.filled), scan.filled), after) ∧
      queues.rx.GivesBack scan.count after.state.queues.rx ∧
      after.state = { machine.state with queues := ⟨after.state.queues.rx, queues.tx⟩ } := by
  intro queues scan
  obtain ⟨answers, recycles⟩ := RxQueue.drain_scan inside buffer (Nat.le_refl rx)
  obtain ⟨answer, after, ran, ⟨served, -⟩, -⟩ :=
    Program.ensures_run (ensures_receive inside buffer) hardware
  obtain ⟨rfl, state⟩ := served initialized
  have same : after.state.queues.rx = (queues.rx.drain buffer rx).2 := by rw [state]
  refine ⟨after, ?_, ?_, ?_⟩
  · rw [ran, answers]
  · rw [same]
    exact recycles.givesBack inside
  · rw [same, state]

/-- Whatever the descriptors hold, and all may be the driver's at once, receiving answers what the
scan does and gives back as many slots. The loop without a count ends the same way. -/
theorem receive_scans (interface : Interface rx tx) (inside : interface.queues.rx.ring.index < rx)
    (buffer : List UInt8) (hardware : Hardware) (bus : Bus) :
    let queues := interface.queues
    let scan := queues.rx.scan buffer
    (∃ after, (Queues.receive buffer).run hardware ⟨bus, queues⟩ =
        (.ok (scan.result, scan.filled), after) ∧
      Program.Repeats hardware (Queues.turn buffer) ⟨bus, queues⟩ (scan.result, scan.filled) after ∧
      queues.rx.GivesBack scan.count after.state.rx ∧ after.state.tx = queues.tx) ∧
    (interface.lifecycle = .initialized →
      ∃ after, (receive buffer).run hardware ⟨bus, interface⟩ =
          (.ok (scan.result.map (frameIn scan.filled), scan.filled), after) ∧
        queues.rx.GivesBack scan.count after.state.queues.rx ∧
        after.state = { interface with queues := ⟨after.state.queues.rx, queues.tx⟩ }) := by
  intro queues scan
  refine ⟨Queues.run_receive buffer hardware ⟨bus, queues⟩ inside, fun initialized => ?_⟩
  exact @run_receive_of_initialized _ _ ⟨bus, interface⟩ initialized inside buffer hardware

/-- A fragment lies before a frame, and then a fragment lies in every slot. -/
theorem receive_scans_of_fragments :
    let bus : Bus := { registers := .blank .reactive }
    let rebuilt : Queues 2 2 :=
      (Queues.blank ⟨0x1000, 0x2000, 0x4000⟩ (Nat.le_refl 2) (Nat.le_refl 2)).rebuild
    let fragment := rebuilt.rx.close 0 Descriptor.firstOfFrame
    let framed := (fragment.writeBuffer 1 (Vector.replicate receiveBufferSize 7)).close 1 0x30300
    let holding (rx : RxQueue 2) : Interface 2 2 :=
      { Interface.blank {} { rebuilt with rx } with lifecycle := .initialized }
    (∃ after, (receive [1, 2, 3, 4]).run .idle ⟨bus, holding framed⟩ =
      (.ok (.ok ⟨3, 14, none⟩, [7, 7, 7, 4]), after) ∧
        framed.GivesBack 2 after.state.queues.rx) ∧
    ∃ after, (receive [1]).run .idle ⟨bus, holding (fragment.close 1 Descriptor.lastOfFrame)⟩ =
      (.ok (.error .notReady, [1]), after) ∧
        (fragment.close 1 Descriptor.lastOfFrame).GivesBack 2 after.state.queues.rx := by
  intro bus rebuilt fragment framed holding
  constructor
  · have scanned : (holding framed).queues.rx.scan [1, 2, 3, 4] = ⟨.ok 3, [7, 7, 7, 4], 2⟩ := by
      decide +kernel
    obtain ⟨after, ran, gives, -⟩ :=
      (receive_scans (holding framed) (by decide +kernel) [1, 2, 3, 4] .idle bus).2 rfl
    rw [scanned] at ran gives
    exact ⟨after, ran, gives⟩
  · have scanned : (holding (fragment.close 1 Descriptor.lastOfFrame)).queues.rx.scan [1] =
        ⟨.error .notReady, [1], 2⟩ := by decide +kernel
    obtain ⟨after, ran, gives, -⟩ :=
      (receive_scans (holding (fragment.close 1 Descriptor.lastOfFrame)) (by decide +kernel) [1]
        .idle bus).2 rfl
    rw [scanned] at ran gives
    exact ⟨after, ran, gives⟩

end Interface

end EthernetMac
