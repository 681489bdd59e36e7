import EthernetMac.Proofs.Interface.BringUp
import EthernetMac.Proofs.Interface.Reach

/-!
The lifecycle of an interface. It goes the way of an automaton that knows of a
call only whether it starts, stops or brings up, and of the device only whether it
leaves a reset. A call that is turned away says so and does nothing else.
-/

namespace EthernetMac

/-- The lifecycle as an automaton; `resets` says whether the device leaves a reset
that it is asked for now. -/
def Lifecycle.next (resets : Prop) [Decidable resets] : Lifecycle → Interface.Call → Lifecycle
  | .stopped, .start => .started
  | .started, .bringUp extraRx extraTx =>
    if extraRx = 0 ∧ extraTx = 0 ∧ resets then .initialized else .started
  | .started, .stop | .initialized, .stop => .stopped
  | lifecycle, _ => lifecycle

/-- Only bringing up leads into the initialized state. -/
theorem Lifecycle.initialized_of_next {resets : Prop} [Decidable resets] {lifecycle : Lifecycle}
    {call : Interface.Call} (prompt : ∀ extraRx extraTx, call ≠ .bringUp extraRx extraTx)
    (next : lifecycle.next resets call = .initialized) : lifecycle = .initialized := by
  cases call with
  | bringUp => exact absurd rfl (prompt _ _)
  | _ => cases lifecycle <;> first | rfl | contradiction

namespace Interface

variable {rx tx : Nat}

/-- The lifecycle that the automaton has come to, from the calls of a run and from what
the device did during them. -/
def lifecycleAfter : List (Moment rx tx) → Lifecycle
  | [] => .stopped
  | ⟨machine, .call hardware call, _⟩ :: earlier =>
    (lifecycleAfter earlier).next
      (machine.bus.LeavesReset hardware machine.state.config.timing) call
  | ⟨_, .device _, _⟩ :: earlier => lifecycleAfter earlier

section Dwell

/-- The calls that the lifecycle does not depend on. -/
def Call.Dwells : Call → Prop
  | .start | .stop | .bringUp .. => False
  | _ => True

theorem keeps_lifecycle (call : Call) (dwells : call.Dwells) :
    (call.program : Program (Interface rx tx) Reply).Keeps lifecycle := by
  cases call with
  | start | stop | bringUp => exact dwells.elim
  | setAddress restore address => exact (keeps_setAddress (fun _ _ => rfl) restore address).map _
  | _ => exact keeps_of_serves (fun _ _ => rfl) (fun _ _ => rfl) _ trivial

end Dwell

section BringUp

/-- Whether a started interface goes into service is up to the device alone: it does if
the device leaves its reset, and stays as it is if not. -/
theorem run_bringUpDevice (hardware : Hardware) (machine : Machine (Interface rx tx)) :
    ∃ bus, bringUpDevice.run hardware machine =
      if machine.bus.LeavesReset hardware machine.state.config.timing then
        (.ok (.ok ()), ⟨bus, machine.state.inService⟩)
      else (.ok (.error .deviceError), ⟨bus, machine.state⟩) := by
  by_cases leaves : machine.bus.LeavesReset hardware machine.state.config.timing
  · obtain ⟨bus, -, -, -, -, ran, -⟩ := run_bringUpDevice_of_leaves leaves
    exact ⟨bus, by rw [if_pos leaves, ran]⟩
  · exact ⟨_, by rw [if_neg leaves, run_bringUpDevice_of_stays leaves]⟩

/-- Where a call to bring up does not find a started interface, or asks for more than the
interface has, it has an answer without asking the device. -/
theorem run_bringUp_of_extra {extraRx extraTx : Nat} (extra : extraRx ≠ 0 ∨ extraTx ≠ 0)
    (hardware : Hardware) (machine : Machine (Interface rx tx)) :
    (bringUp extraRx extraTx).run hardware machine = (.ok (.error .unsupported), machine) := by
  unfold bringUp
  rw [if_pos extra]
  rfl

theorem run_bringUp_of_initialized {machine : Machine (Interface rx tx)}
    (initialized : machine.state.lifecycle = .initialized) (hardware : Hardware) :
    (bringUp 0 0).run hardware machine =
      (.ok (.ok ()), { machine with bus := machine.bus.note .alreadyInitialized }) := by
  unfold bringUp
  rw [if_neg (by simp), Program.run_bind, Program.run_get]
  simp only [initialized]
  rfl

theorem run_bringUp_of_stopped {machine : Machine (Interface rx tx)}
    (stopped : machine.state.lifecycle = .stopped) (hardware : Hardware) :
    (bringUp 0 0).run hardware machine =
      (.ok (.error .notStarted),
        { machine with bus := machine.bus.note (.notStarted .bringUp) }) := by
  unfold bringUp
  rw [if_neg (by simp), Program.run_bind, Program.run_get]
  simp only [stopped]
  rfl

theorem run_bringUp_of_started {machine : Machine (Interface rx tx)}
    (started : machine.state.lifecycle = .started) (hardware : Hardware) :
    (bringUp 0 0).run hardware machine = bringUpDevice.run hardware machine := by
  unfold bringUp
  rw [if_neg (by simp), Program.run_bind, Program.run_get]
  simp only [started]

theorem lifecycle_bringUp (extraRx extraTx : Nat) (hardware : Hardware)
    (machine : Machine (Interface rx tx)) :
    ((bringUp extraRx extraTx).run hardware machine).2.state.lifecycle =
      machine.state.lifecycle.next
        (machine.bus.LeavesReset hardware machine.state.config.timing)
        (.bringUp extraRx extraTx) := by
  by_cases extra : extraRx ≠ 0 ∨ extraTx ≠ 0
  · rw [run_bringUp_of_extra extra]
    have unanswered : ¬ (extraRx = 0 ∧ extraTx = 0 ∧
        machine.bus.LeavesReset hardware machine.state.config.timing) := by
      rintro ⟨rfl, rfl, -⟩
      simp at extra
    cases state : machine.state.lifecycle with
    | started => simp only [Lifecycle.next, if_neg unanswered]
    | stopped | initialized => rfl
  · obtain ⟨rfl, rfl⟩ : extraRx = 0 ∧ extraTx = 0 := by omega
    cases state : machine.state.lifecycle with
    | stopped =>
      rw [run_bringUp_of_stopped state]
      exact state
    | initialized =>
      rw [run_bringUp_of_initialized state]
      exact state
    | started =>
      obtain ⟨bus, ran⟩ := run_bringUpDevice hardware machine
      rw [run_bringUp_of_started state, ran]
      by_cases leaves : machine.bus.LeavesReset hardware machine.state.config.timing
      · simp [Lifecycle.next, leaves, inService]
      · simp [Lifecycle.next, leaves, state]

end BringUp

theorem run_start (hardware : Hardware) (machine : Machine (Interface rx tx)) :
    start.run hardware machine =
      if machine.state.lifecycle = .stopped then
        (.ok (.ok ()), { machine with state := { machine.state with lifecycle := .started } })
      else (.ok (.error .alreadyStarted), machine) := by
  cases state : machine.state.lifecycle <;>
    simp [start, moveTo, Program.run_bind, Program.run_map, state]

theorem run_stop (hardware : Hardware) (machine : Machine (Interface rx tx)) :
    stop.run hardware machine =
      if machine.state.lifecycle = .stopped then (.ok (.error .notStarted), machine)
      else
        (.ok (.ok ()), { machine with state := { machine.state with lifecycle := .stopped } }) := by
  cases state : machine.state.lifecycle <;>
    simp [stop, moveTo, Program.run_bind, Program.run_map, state]

/-- Every call takes the lifecycle one step of the automaton. -/
theorem lifecycle_run (call : Call) (hardware : Hardware) (machine : Machine (Interface rx tx)) :
    (call.program.run hardware machine).2.state.lifecycle =
      machine.state.lifecycle.next
        (machine.bus.LeavesReset hardware machine.state.config.timing) call := by
  have dwells {call : Call} (dwells : call.Dwells)
      (rests : ∀ resets [Decidable resets], machine.state.lifecycle.next resets call =
        machine.state.lifecycle) :
      (call.program.run hardware machine).2.state.lifecycle =
        machine.state.lifecycle.next
          (machine.bus.LeavesReset hardware machine.state.config.timing) call := by
    rw [rests]
    exact keeps_lifecycle call dwells hardware machine
  cases call with
  | bringUp extraRx extraTx =>
    rw [Call.program, Program.machine_map]
    exact lifecycle_bringUp extraRx extraTx hardware machine
  | start =>
    rw [Call.program, Program.machine_map, run_start]
    cases state : machine.state.lifecycle <;> simp [Lifecycle.next, state]
  | stop =>
    rw [Call.program, Program.machine_map, run_stop]
    cases state : machine.state.lifecycle <;> simp [Lifecycle.next, state]
  | _ => exact dwells trivial fun _ _ => by cases machine.state.lifecycle <;> rfl

theorem lifecycle_step (step : Step Call) (machine : Machine (Interface rx tx))
    {history : List (Moment rx tx)} (agrees : machine.state.lifecycle = lifecycleAfter history) :
    ((system rx tx).step step machine).2.state.lifecycle =
      lifecycleAfter ((system rx tx).moment machine step :: history) := by
  cases step with
  | device action => exact agrees
  | call hardware call =>
    show (call.program.run hardware machine).2.state.lifecycle =
      (lifecycleAfter history).next _ call
    rw [← agrees]
    exact lifecycle_run call hardware machine

section Refuse

/-- The operation that a call is, if it needs an initialized interface. -/
def Call.operation? : Call → Option Operation
  | reset _ => some .reset
  | shutdown => some .shutdown
  | statistics _ => some .statistics
  | multicastAddress .. => some .multicastAddress
  | nonVolatile .. => some .nonVolatile
  | receive _ => some .receive
  | transmit .. => some .transmit
  | status _ => some .status
  | setFilters .. => some .setFilters
  | setAddress .. => some .setAddress
  | start | stop | bringUp .. | filterSetting | mode => none

/-- The reply to a call that failed, with the caller's memory as it was handed over. -/
def Call.failure (error : Error) : Call → Reply
  | multicastAddress .. => .address (.error error)
  | nonVolatile _ _ buffer => .stored (.error error) buffer
  | receive buffer => .received (.error error) buffer
  | transmit frame _ => .sent (.error error) frame
  | status _ => .status (.error error)
  | _ => .plain (.error error)

/-- All that an interface which is not initialized does on a call that needs one is to
write a notice. -/
theorem run_of_refusal {call : Call} {operation : Operation}
    (needs : call.operation? = some operation) {machine : Machine (Interface rx tx)}
    {notice : Notice} {error : Error}
    (refused : refusal? machine.state.lifecycle operation = some (notice, error))
    (hardware : Hardware) :
    call.program.run hardware machine =
      (.ok (call.failure error), { machine with bus := machine.bus.note notice }) := by
  have gated {α : Type} (refuse : Error → α) (body : Program (Interface rx tx) α)
      (answer : α → Reply) : (answer <$> gated operation refuse body).run hardware machine =
        (.ok (answer (refuse error)), { machine with bus := machine.bus.note notice }) := by
    rw [Program.run_map, run_gated_of_refusal refused]
  cases call with
  | start | stop | bringUp | filterSetting | mode => contradiction
  | _ =>
    injection needs with named
    subst named
    exact gated _ _ _

theorem exists_refusal {lifecycle : Lifecycle} (unready : lifecycle ≠ .initialized)
    (operation : Operation) : ∃ refusal, refusal? lifecycle operation = some refusal := by
  cases lifecycle <;> simp_all [refusal?]

theorem events_of_refusal {call : Call} {operation : Operation}
    (needs : call.operation? = some operation) {machine : Machine (Interface rx tx)}
    {notice : Notice} {error : Error}
    (refused : refusal? machine.state.lifecycle operation = some (notice, error))
    (hardware : Hardware) : call.program.events hardware machine = [.notice notice] := by
  rw [← Program.since_run, run_of_refusal needs refused]
  exact Bus.since_of_append rfl

end Refuse

/-- The lifecycle of an interface is the automaton's after every run, beside any device.
Outside the initialized state a call that needs it fails with a notice and does nothing
else. Bringing up is up to the device where the interface is started, and touches nothing
where it is not. -/
theorem follows_lifecycle :
    (∀ (config : Config) (queues : Queues rx tx) (bus : Bus) (steps : List (Step Call)),
      let start : Machine (Interface rx tx) := ⟨bus, Interface.blank config queues⟩
      ((system rx tx).after start steps).state.lifecycle =
        lifecycleAfter ((system rx tx).history start steps)) ∧
    ∀ (hardware : Hardware) (machine : Machine (Interface rx tx)),
      let lifecycle := machine.state.lifecycle
      let noting (notice : Notice) : Machine (Interface rx tx) :=
        { machine with bus := machine.bus.note notice }
      start.run hardware machine =
        (if lifecycle = .stopped then
          (.ok (.ok ()), { machine with state := { machine.state with lifecycle := .started } })
        else (.ok (.error .alreadyStarted), machine)) ∧
      stop.run hardware machine =
        (if lifecycle = .stopped then (.ok (.error .notStarted), machine)
        else
          (.ok (.ok ()), { machine with state := { machine.state with lifecycle := .stopped } })) ∧
      (∀ (call : Call) (operation : Operation), call.operation? = some operation →
        (lifecycle = .stopped → call.program.run hardware machine =
          (.ok (call.failure .notStarted), noting (.notStarted operation))) ∧
        (lifecycle = .started → call.program.run hardware machine =
          (.ok (call.failure .deviceError), noting (.notInitialized operation)))) ∧
      (∀ extraRx extraTx, extraRx ≠ 0 ∨ extraTx ≠ 0 →
        (bringUp extraRx extraTx).run hardware machine = (.ok (.error .unsupported), machine)) ∧
      (lifecycle = .initialized →
        (bringUp 0 0).run hardware machine = (.ok (.ok ()), noting .alreadyInitialized)) ∧
      (lifecycle = .stopped →
        (bringUp 0 0).run hardware machine =
          (.ok (.error .notStarted), noting (.notStarted .bringUp))) ∧
      (lifecycle = .started → ∃ bus, (bringUp 0 0).run hardware machine =
        if machine.bus.LeavesReset hardware machine.state.config.timing then
          (.ok (.ok ()), ⟨bus, machine.state.inService⟩)
        else (.ok (.error .deviceError), ⟨bus, machine.state⟩)) := by
  constructor
  · intro config queues bus steps start
    exact System.holds_of_run
      (fun history (machine : Machine (Interface rx tx)) =>
        machine.state.lifecycle = lifecycleAfter history)
      rfl (fun _ machine step agrees => lifecycle_step step machine agrees) steps
  · intro hardware machine lifecycle noting
    refine ⟨run_start hardware machine, run_stop hardware machine, ?gated, ?extra, ?initialized,
      ?stopped, ?started⟩
    case gated =>
      intro call operation needs
      constructor
      · intro (stopped : machine.state.lifecycle = .stopped)
        exact run_of_refusal needs (by rw [stopped]; rfl) hardware
      · intro (started : machine.state.lifecycle = .started)
        exact run_of_refusal needs (by rw [started]; rfl) hardware
    case extra =>
      intro extraRx extraTx extra
      exact run_bringUp_of_extra extra hardware machine
    case initialized =>
      intro initialized
      exact run_bringUp_of_initialized initialized hardware
    case stopped =>
      intro stopped
      exact run_bringUp_of_stopped stopped hardware
    case started =>
      intro started
      rw [run_bringUp_of_started started]
      exact run_bringUpDevice hardware machine

/-- An interface is brought up, stopped and started again; then the device does not come out
of its reset, and a frame stays unsent. -/
theorem follows_lifecycle_of_stuck :
    let start : Machine (Interface 2 2) :=
      ⟨{ registers := .blank .reactive }, Interface.blank { resetTimeoutMs := 2 }
        (Queues.blank ⟨0, 0, 0⟩ (Nat.le_refl 2) (Nat.le_refl 2))⟩
    let steps : List (Step Call) :=
      [.call .idle (.bringUp 0 0), .device (.registers fun file => file.setStuck true),
        .call .idle .start, .call .idle .stop, .call .idle (.bringUp 0 0), .call .idle .start]
    let machine := (system 2 2).after start steps
    let frame : Frame := ⟨0x1000, List.replicate 60 0⟩
    lifecycleAfter ((system 2 2).history start steps) = .started ∧
      machine.state.lifecycle = .started ∧
      Call.operation? (.transmit frame none) = some .transmit ∧
      (Call.transmit frame none).program.run .idle machine =
        (.ok (.sent (.error .deviceError) frame),
          { machine with bus := machine.bus.note (.notInitialized .transmit) }) := by
  intro start steps machine frame
  have started : machine.state.lifecycle = .started := by decide +kernel
  obtain ⟨-, -, gated, -⟩ := follows_lifecycle.2 .idle machine
  exact ⟨by decide +kernel, started, rfl, (gated (.transmit frame none) .transmit rfl).2 started⟩

end Interface

end EthernetMac
