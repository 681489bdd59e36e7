import EthernetMac.Proofs.Transmit.Moves

/-!
Transmit completions are reported exactly once and in order, by the queues alone
and by an interface: the account of the transmit queue holds after every run, and
the next report is the oldest publication that was not reported yet.
-/

namespace EthernetMac

variable {rx tx : Nat}

open TxEvent (publications reports)

/-- The moments of a history that are events of the transmit queue. -/
def txHistory {σ ι ω : Type} (event : Moment σ ι ω → Option TxEvent)
    (history : List (Moment σ ι ω)) : List TxEvent := history.filterMap event

theorem txHistory_cons {σ ι ω : Type} (event : Moment σ ι ω → Option TxEvent)
    (moment : Moment σ ι ω) (history : List (Moment σ ι ω)) :
    txHistory event (moment :: history) = (event moment).toList ++ txHistory event history := by
  unfold txHistory
  rw [List.filterMap_cons]
  cases event moment <;> rfl

namespace Queues

/-- The read index lies in its ring and the transmit queue agrees with its history. -/
structure Accounted (events : List TxEvent) (queues : Queues rx tx) : Prop where
  inside : queues.rx.ring.index < rx
  account : TxQueue.Accounts events queues.tx

theorem accounted_blank (placement : Placement) (two_le_rx : 2 ≤ rx) (two_le_tx : 2 ≤ tx) :
    Accounted [] (Queues.blank placement two_le_rx two_le_tx) where
  inside := by
    show 0 < rx
    omega
  account := .blank rfl rfl rfl

theorem Accounted.device {events : List TxEvent} {queues : Queues rx tx}
    (accounted : Accounted events queues) (action : DeviceAction) :
    Accounted ((action.txEvent queues.tx).toList ++ events) (action.onQueues queues) where
  inside := by
    rw [action.index_onQueues]
    exact accounted.inside
  account := by
    cases action with
    | txStatus slot status => exact accounted.account.write slot status
    | rxStatus | rxBuffer | registers => exact accounted.account

end Queues

section Driver

open Queues (Accounted)

variable {σ κ α : Type} {program : κ → Program σ α} {onState : DeviceAction → σ → σ}
  {queues : σ → Queues rx tx} {event : κ → σ → α → Option TxEvent}
  (moves : CallsMove queues event program)
  (acts : ∀ action state, queues (onState action state) = action.onQueues (queues state))

include moves acts

theorem step_accounted {events : List TxEvent} {machine : Machine σ}
    (accounted : Accounted events (queues machine.state)) (step : Step κ) :
    Accounted
      ((stepEvent queues event ((driver program onState).moment machine step)).toList ++ events)
      (queues ((driver program onState).step step machine).2.state) := by
  cases step with
  | device action =>
    show Accounted _ (queues (onState action machine.state))
    rw [acts]
    exact accounted.device action
  | call hardware call =>
    obtain ⟨reply, after, stepped, inside, move⟩ :=
      driver_call onState (moves call machine.state accounted.inside) hardware
    unfold System.moment
    rw [stepped]
    exact ⟨inside, accounted.account.move move⟩

/-- The account holds after every run of a driver whose calls are moves. -/
theorem run_accounted {start : Machine σ} (fresh : Accounted [] (queues start.state))
    (steps : List (Step κ)) :
    Accounted (txHistory (stepEvent queues event) ((driver program onState).history start steps))
      (queues ((driver program onState).after start steps).state) := by
  apply System.holds_of_run fun (history : List (Moment (Machine σ) (Step κ)
    (Option (Except Fault α)))) machine =>
      Accounted (txHistory (stepEvent queues event) history) (queues machine.state)
  · exact fresh
  · intro history machine step accounted
    rw [txHistory_cons]
    exact step_accounted moves acts accounted step

end Driver

theorem Queues.run_accounted {start : Machine (Queues rx tx)}
    (fresh : Accounted [] start.state) (steps : List (Step Call)) :
    Accounted (txHistory txEvent ((system rx tx).history start steps))
      ((system rx tx).after start steps).state :=
  EthernetMac.run_accounted (fun call _ inside => ensures_move inside call) (fun _ _ => rfl)
    fresh steps

theorem Interface.run_accounted {start : Machine (Interface rx tx)}
    (fresh : Queues.Accounted [] start.state.queues) (steps : List (Step Call)) :
    Queues.Accounted (txHistory txEvent ((system rx tx).history start steps))
      ((system rx tx).after start steps).state.queues :=
  EthernetMac.run_accounted (fun call _ inside => ensures_move inside call) (fun _ _ => rfl)
    fresh steps

namespace TxQueue

variable {n : Nat}

/-- The answer to a question for the oldest frame. There is one exactly if a frame waits
for its report and the device let go of its slot, and it is the oldest publication not
reported yet. -/
def Answers (events : List TxEvent) (queue : TxQueue n) (answer : Option UInt32) : Prop :=
  (answer.isSome ↔ 0 < queue.pending ∧ queue.owner queue.release = .software) ∧
    ∀ address, answer = some address →
      (publications events)[(reports events).length]? = some address

variable {events : List TxEvent} {queue : TxQueue n}

theorem Accounts.answers_oldest (account : Accounts events queue) (due : queue.HasReport) :
    Answers events queue (some queue.oldest.buffer) := by
  have waiting : 0 < queue.pending := Nat.pos_of_ne_zero due.1
  constructor
  · exact ⟨fun _ => ⟨waiting, due.2⟩, fun _ => rfl⟩
  · rintro address ⟨⟩
    have inside : (reports events).length < (publications events).length := by
      have := account.length_publications
      omega
    rw [List.getElem?_eq_getElem inside, ← account.kept _ (Nat.le_refl _) inside]
    unfold oldest
    rw [account.release_eq, SlotRing.get_mod]

theorem answers_none (idle : ¬ queue.HasReport) : Answers events queue none := by
  constructor
  · constructor
    · intro some
      contradiction
    · rintro ⟨waiting, free⟩
      exact absurd ⟨Nat.ne_of_gt waiting, free⟩ idle
  · intro address some
    contradiction

end TxQueue

open TxQueue (Accounts Answers)

theorem Queues.reclaim_answers {events : List TxEvent} {machine : Machine (Queues rx tx)}
    (account : Accounts events machine.state.tx) (hardware : Hardware) :
    ∃ answer after, Queues.reclaim.run hardware machine = (.ok answer, after) ∧
      Answers events machine.state.tx answer := by
  obtain ⟨answer, after, ran, outcome, -⟩ :=
    Program.ensures_run (Queues.ensures_reclaim machine.state) hardware
  refine ⟨answer, after, ran, ?_⟩
  rcases outcome with ⟨due, rfl, -⟩ | ⟨waiting, rfl, -⟩
  · exact account.answers_oldest due
  · exact TxQueue.answers_none waiting

/-- The reply to a status query, in an interface with that history: nothing is said of
frames that were sent unless the question is asked. -/
def Interface.StatusAnswers (events : List TxEvent) (interface : Interface rx tx)
    (query : StatusQuery) (reply : Except Error DeviceStatus) : Prop :=
  match reply with
  | .ok status => interface.lifecycle = .initialized ∧
      if query.asks .completion then Answers events interface.queues.tx status.completed
      else status.completed = none
  | .error _ => interface.lifecycle ≠ .initialized

theorem Interface.status_answers {events : List TxEvent} {machine : Machine (Interface rx tx)}
    (account : Accounts events machine.state.queues.tx) (hardware : Hardware)
    (query : StatusQuery) :
    ∃ reply after, (Interface.status query).run hardware machine = (.ok reply, after) ∧
      machine.state.StatusAnswers events query reply := by
  obtain ⟨reply, after, ran, outcome, -⟩ :=
    Program.ensures_run (Interface.ensures_status query) hardware
  refine ⟨reply, after, ran, ?_⟩
  rcases outcome with ⟨initialized, status, rfl, answered⟩ | ⟨refused, ⟨error, rfl⟩, -⟩
  · refine ⟨initialized, ?_⟩
    rcases answered with ⟨asked, due, completed, -⟩ | ⟨idle, completed, -⟩
    · rw [if_pos asked, completed]
      exact account.answers_oldest due
    · rw [completed]
      split
      next asked => exact TxQueue.answers_none fun due => idle ⟨asked, due⟩
      next => rfl
  · exact refused

/-- After every run of a user of the queues and of a user of an interface, beside any
device, the reports are the oldest publications, each made once, in order and after the
device released its slot; and the next answer is the oldest publication not reported yet. -/
theorem completions_exactly_once (placement : Placement) (two_le_rx : 2 ≤ rx)
    (two_le_tx : 2 ≤ tx) (bus : Bus) :
    (∀ steps : List (Step Queues.Call),
      let start : Machine (Queues rx tx) := ⟨bus, Queues.blank placement two_le_rx two_le_tx⟩
      let machine := (Queues.system rx tx).after start steps
      let events := txHistory Queues.txEvent ((Queues.system rx tx).history start steps)
      Accounts events machine.state.tx ∧
        ∀ hardware, ∃ answer after, Queues.reclaim.run hardware machine = (.ok answer, after) ∧
          Answers events machine.state.tx answer) ∧
    (∀ (config : Config) (steps : List (Step Interface.Call)),
      let start : Machine (Interface rx tx) :=
        ⟨bus, Interface.blank config (Queues.blank placement two_le_rx two_le_tx)⟩
      let machine := (Interface.system rx tx).after start steps
      let events := txHistory Interface.txEvent ((Interface.system rx tx).history start steps)
      Accounts events machine.state.queues.tx ∧
        ∀ hardware query, ∃ reply after,
          (Interface.status query).run hardware machine = (.ok reply, after) ∧
            machine.state.StatusAnswers events query reply) := by
  have fresh : Queues.Accounted [] (Queues.blank placement two_le_rx two_le_tx) :=
    Queues.accounted_blank placement two_le_rx two_le_tx
  constructor
  · intro steps start machine events
    have account : Accounts events machine.state.tx := (Queues.run_accounted fresh steps).account
    exact ⟨account, Queues.reclaim_answers account⟩
  · intro config steps start machine events
    have account : Accounts events machine.state.queues.tx :=
      (Interface.run_accounted fresh steps).account
    exact ⟨account, Interface.status_answers account⟩

/-- A frame is published, the device lets go of it, and it is reported. -/
theorem completions_exactly_once_of_two :
    let steps : List (Step Queues.Call) :=
      [.call .idle .reclaim, .device (.txStatus 0 0), .call .idle (.transmit 0x1000 60)]
    let start : Machine (Queues 2 2) :=
      ⟨{ registers := .blank .reactive }, Queues.blank ⟨0, 0, 0⟩ (Nat.le_refl 2) (Nat.le_refl 2)⟩
    let machine := (Queues.system 2 2).after start steps
    let events := txHistory Queues.txEvent ((Queues.system 2 2).history start steps)
    events = [.reported 0x1000, .released 0, .published 0x1000] ∧
      Accounts events machine.state.tx := by
  have once := completions_exactly_once ⟨0, 0, 0⟩ (Nat.le_refl 2) (Nat.le_refl 2)
    { registers := .blank .reactive }
  exact ⟨by decide +kernel, (once.1 _).1⟩

end EthernetMac
