import EthernetMac.Proofs.Program.Silent
import Mathlib.Tactic.ByContra

/-!
What a wait finds out. The registers evolve with every pause; a wait looks at
them before the first and after each of the pauses that fit into its budget, and
stops at the first look that finds what it waits for. So a soft reset succeeds
exactly if a look finds the reset bit clear, and no wait is longer than its timeout.
-/

namespace EthernetMac

/-- The registers after `count` pauses more than the `pauses` made so far. -/
def Hardware.evolve (hardware : Hardware) (pauses : Nat) (file : RegisterFile) :
    Nat → RegisterFile
  | 0 => file
  | count + 1 => hardware (pauses + count + 1) (hardware.evolve pauses file count)

theorem Hardware.evolve_succ (hardware : Hardware) (pauses : Nat) (file : RegisterFile)
    (count : Nat) :
    hardware.evolve pauses file (count + 1) =
      hardware.evolve (pauses + 1) (hardware (pauses + 1) file) count := by
  induction count with
  | zero => rfl
  | succ count ih =>
    rw [evolve, ih, evolve]
    congr 1
    omega

@[simp] theorem Hardware.evolve_idle (pauses : Nat) (file : RegisterFile) (count : Nat) :
    Hardware.idle.evolve pauses file count = file := by
  induction count with
  | zero => rfl
  | succ count ih => exact ih

namespace Bus

/-- What a look finds in a register after `count` pauses. -/
def finds (bus : Bus) (hardware : Hardware) (offset count : Nat) : UInt32 :=
  (hardware.evolve bus.pauses bus.registers count).read offset

/-- A look after `count` pauses finds no bit of the control set. -/
def clears (bus : Bus) (hardware : Hardware) (control : Control) (count : Nat) : Bool :=
  !control.isSetIn (bus.finds hardware control.register.offset count)

/-- Looks at a register `count + 1` times, with a pause between two looks. -/
def poll (hardware : Hardware) (offset : Nat) (microseconds : UInt32) : Nat → Bus → Bus
  | 0, bus => bus.read offset
  | count + 1, bus =>
    poll hardware offset microseconds count ((bus.read offset).pause hardware microseconds)

section Poll

variable (hardware : Hardware) (offset : Nat) (microseconds : UInt32) (count : Nat) (bus : Bus)

@[simp] theorem finds_zero : bus.finds hardware offset 0 = bus.registers.read offset := rfl

@[simp] theorem finds_pause :
    ((bus.read offset).pause hardware microseconds).finds hardware offset count =
      bus.finds hardware offset (count + 1) := by
  rw [finds, finds, Hardware.evolve_succ]
  rfl

@[simp] theorem registers_poll :
    (poll hardware offset microseconds count bus).registers =
      hardware.evolve bus.pauses bus.registers count := by
  induction count generalizing bus with
  | zero => rfl
  | succ count ih =>
    rw [poll, ih, Hardware.evolve_succ]
    rfl

@[simp] theorem pauses_poll :
    (poll hardware offset microseconds count bus).pauses = bus.pauses + count := by
  induction count generalizing bus with
  | zero => rfl
  | succ count ih =>
    simp only [poll, ih, pauses_pause, pauses_read]
    omega

@[simp] theorem pausedMicroseconds_poll :
    (poll hardware offset microseconds count bus).pausedMicroseconds =
      bus.pausedMicroseconds + count * microseconds.toNat := by
  induction count generalizing bus with
  | zero => simp [poll]
  | succ count ih =>
    simp only [poll, ih, pausedMicroseconds_pause, pausedMicroseconds_read, Nat.succ_mul]
    omega

/-- The events of a poll. -/
def polled : List Event :=
  (List.range count).flatMap (fun look =>
      [.read offset (bus.finds hardware offset look), .pause microseconds]) ++
    [.read offset (bus.finds hardware offset count)]

theorem journal_poll :
    (poll hardware offset microseconds count bus).journal =
      (polled hardware offset microseconds count bus).reverse ++ bus.journal := by
  induction count generalizing bus with
  | zero => rfl
  | succ count ih =>
    have first : ((bus.read offset).pause hardware microseconds).journal =
        [.pause microseconds, .read offset (bus.finds hardware offset 0)] ++ bus.journal := rfl
    simp [poll, ih, polled, List.range_succ_eq_map, List.flatMap_map, first]

end Poll

/-- Notes that what was waited for was not found. -/
def noteUnless (bus : Bus) (found : Bool) (notice : Notice) : Bus :=
  if found then bus else bus.note notice

section Notice

variable (bus : Bus) (found : Bool) (notice : Notice)

@[simp] theorem registers_noteUnless :
    (bus.noteUnless found notice).registers = bus.registers := by
  cases found <;> rfl

@[simp] theorem pausedMicroseconds_noteUnless :
    (bus.noteUnless found notice).pausedMicroseconds = bus.pausedMicroseconds := by
  cases found <;> simp [noteUnless]

theorem journal_noteUnless :
    (bus.noteUnless found notice).journal =
      (if found then [] else [.notice notice]) ++ bus.journal := by
  cases found <;> rfl

end Notice

end Bus

namespace Program

variable {σ : Type}

/-- The program reads one register and answers with a test of it. -/
def Probes (offset : Nat) (test : UInt32 → Bool) (program : Program σ Bool) : Prop :=
  ∀ hardware machine, program.run hardware machine =
    (.ok (test (machine.bus.registers.read offset)),
      { machine with bus := machine.bus.read offset })

theorem probes_isResetComplete : (isResetComplete : Program σ Bool).Probes
    Control.softReset.register.offset (fun value => !Control.softReset.isSetIn value) :=
  fun _ _ => rfl

theorem probes_isBusIdle : (isBusIdle : Program σ Bool).Probes
    Control.axiChannels.register.offset (fun value => !Control.axiChannels.isSetIn value) :=
  fun _ _ => rfl

/-- Some look of a wait with that budget finds what the test asks for. -/
def Sees (hardware : Hardware) (bus : Bus) (offset : Nat) (test : UInt32 → Bool)
    (budget : Nat) : Prop :=
  ∃ count ≤ budget, test ((hardware.evolve bus.pauses bus.registers count).read offset) = true

instance (hardware : Hardware) (bus : Bus) (offset : Nat) (test : UInt32 → Bool) (budget : Nat) :
    Decidable (Sees hardware bus offset test budget) :=
  inferInstanceAs (Decidable (∃ count, count ≤ budget ∧ _))

section Wait

variable {hardware : Hardware} {offset : Nat} {test : UInt32 → Bool} {budget count : Nat}

/-- A wait stops at the first look that finds what it waits for, or else at the last. -/
structure Stops (hardware : Hardware) (bus : Bus) (offset : Nat) (test : UInt32 → Bool)
    (budget count : Nat) : Prop where
  within : count ≤ budget
  unseen : ∀ look < count, test (bus.finds hardware offset look) = false
  spent : test (bus.finds hardware offset count) = false → count = budget

theorem Stops.sees_iff {bus : Bus} (stops : Stops hardware bus offset test budget count) :
    Sees hardware bus offset test budget ↔ test (bus.finds hardware offset count) = true := by
  constructor
  · rintro ⟨look, within, found⟩
    by_contra missing
    have last : count = budget := stops.spent (by simpa using missing)
    have earlier : look < count := by
      have different : look ≠ count := fun same => missing (same ▸ found)
      omega
    have unseen := stops.unseen look earlier
    simp [Bus.finds, found] at unseen
  · intro found
    exact ⟨count, stops.within, found⟩

theorem run_await {look : Program σ Bool} (probes : look.Probes offset test)
    (microseconds : UInt32) (budget : Nat) (hardware : Hardware) (machine : Machine σ) :
    ∃ count, Stops hardware machine.bus offset test budget count ∧
      (await look microseconds budget).run hardware machine =
        (.ok (test (machine.bus.finds hardware offset count)),
          ⟨.poll hardware offset microseconds count machine.bus, machine.state⟩) := by
  induction budget generalizing machine with
  | zero =>
    refine ⟨0, ⟨Nat.le_refl 0, by simp, fun _ => rfl⟩, ?_⟩
    rw [await, probes]
    rfl
  | succ budget ih =>
    rw [await, run_bind, probes]
    cases found : test (machine.bus.registers.read offset) with
    | true => exact ⟨0, ⟨Nat.zero_le _, by simp, by simp [found]⟩, by simp [found, Bus.poll]⟩
    | false =>
      obtain ⟨count, stops, ran⟩ := ih
        { machine with bus := (machine.bus.read offset).pause hardware microseconds }
      simp only [Bus.finds_pause] at ran
      refine ⟨count + 1, ⟨Nat.succ_le_succ stops.within, ?unseen, ?spent⟩, ?_⟩
      case unseen =>
        intro look earlier
        cases look with
        | zero => exact found
        | succ look => simpa using stops.unseen look (by omega)
      case spent =>
        intro missing
        have spent := stops.spent (by simpa using missing)
        omega
      · simpa [run_bind, Bus.poll] using ran

/-- A wait for a control to be clear. -/
theorem run_await_clear {control : Control} {look : Program σ Bool}
    (probes : look.Probes control.register.offset (fun value => !control.isSetIn value))
    (microseconds : UInt32) (budget : Nat) (hardware : Hardware) (machine : Machine σ) :
    ∃ count, Stops hardware machine.bus control.register.offset
        (fun value => !control.isSetIn value) budget count ∧
      (await look microseconds budget).run hardware machine =
        (.ok (machine.bus.clears hardware control count),
          ⟨.poll hardware control.register.offset microseconds count machine.bus,
            machine.state⟩) :=
  run_await probes microseconds budget hardware machine

end Wait

end Program

namespace Timing

/-- The number of pauses that fit into a timeout. -/
def budget (timing : Timing) (timeoutMs : UInt32) : Nat :=
  limitUs timeoutMs / max timing.pollUs.toNat 1

theorem polls_eq {σ : Type} (timing : Timing) (timeoutMs : UInt32) :
    (timing.polls timeoutMs : Program σ Nat) = pure (timing.budget timeoutMs) := by
  have divisor : max timing.pollUs.toNat 1 ≠ 0 := by omega
  unfold polls Program.divide
  rw [if_neg divisor]
  rfl

/-- Pauses within the budget take no longer than the timeout. -/
theorem mul_pollUs_le (timing : Timing) {timeoutMs : UInt32} {count : Nat}
    (within : count ≤ timing.budget timeoutMs) :
    count * timing.pollUs.toNat ≤ 1000 * timeoutMs.toNat := by
  calc count * timing.pollUs.toNat
      ≤ timing.budget timeoutMs * max timing.pollUs.toNat 1 :=
        Nat.mul_le_mul within (Nat.le_max_left _ _)
    _ ≤ limitUs timeoutMs := Nat.div_mul_le_self _ _
    _ ≤ 1000 * timeoutMs.toNat := Nat.min_le_left _ _

end Timing

namespace Bus

/-- The bus when a soft reset has been asked for and is looked at first. -/
def askReset (bus : Bus) : Bus :=
  let asked := bus.write Control.softReset.register.offset Control.softReset.mask
  let offset := Control.generalOutput.register.offset
  (asked.read offset).write offset (asked.registers.read offset ||| Control.generalOutput.mask)

/-- A look that the timing allows for finds the reset bit clear. -/
def LeavesReset (hardware : Hardware) (timing : Timing) (bus : Bus) : Prop :=
  Program.Sees hardware bus.askReset Control.softReset.register.offset
    (fun value => !Control.softReset.isSetIn value) (timing.budget timing.timeoutMs)

instance (hardware : Hardware) (timing : Timing) (bus : Bus) :
    Decidable (bus.LeavesReset hardware timing) :=
  inferInstanceAs (Decidable (Program.Sees ..))

/-- The bus after the looks of a soft reset. -/
def pollReset (bus : Bus) (hardware : Hardware) (timing : Timing) (count : Nat) : Bus :=
  poll hardware Control.softReset.register.offset timing.pollUs count bus.askReset

@[simp] theorem pausedMicroseconds_pollReset (bus : Bus) (hardware : Hardware) (timing : Timing)
    (count : Nat) : (bus.pollReset hardware timing count).pausedMicroseconds =
      bus.pausedMicroseconds + count * timing.pollUs.toNat := by
  simp [pollReset, askReset]

end Bus

section Run

variable {σ : Type} {hardware : Hardware} {timing : Timing} {machine : Machine σ}

/-- A soft reset asks for the reset and then waits for it. -/
theorem Program.run_softReset_eq :
    (softReset timing : Program σ (Except Error Unit)).run hardware machine =
      (do
        let complete ← await isResetComplete timing.pollUs (timing.budget timing.timeoutMs)
        if complete then return .ok ()
        else
          note (.resetTimedOut timing.timeoutMs)
          return .error .deviceError : Program σ (Except Error Unit)).run hardware
        ⟨machine.bus.askReset, machine.state⟩ := by
  unfold softReset
  rw [Timing.polls_eq]
  rfl

variable (timing hardware machine) in
/-- What a soft reset comes to is decided by the look at which it stops. -/
theorem Program.run_softReset :
    ∃ count, Stops hardware machine.bus.askReset Control.softReset.register.offset
        (fun value => !Control.softReset.isSetIn value) (timing.budget timing.timeoutMs) count ∧
      let complete := machine.bus.askReset.clears hardware .softReset count
      (softReset timing).run hardware machine =
        (.ok (if complete then .ok () else .error .deviceError),
          ⟨(machine.bus.pollReset hardware timing count).noteUnless complete
            (.resetTimedOut timing.timeoutMs), machine.state⟩) := by
  obtain ⟨count, stops, ran⟩ := run_await_clear probes_isResetComplete timing.pollUs
    (timing.budget timing.timeoutMs) hardware ⟨machine.bus.askReset, machine.state⟩
  refine ⟨count, stops, ?_⟩
  rw [run_softReset_eq, run_bind, ran]
  cases machine.bus.askReset.clears hardware .softReset count <;> rfl

theorem Program.run_softReset_of_leaves (leaves : machine.bus.LeavesReset hardware timing) :
    ∃ count ≤ timing.budget timing.timeoutMs,
      Control.softReset.isSetIn (machine.bus.askReset.finds hardware
        Control.softReset.register.offset count) = false ∧
      (softReset timing).run hardware machine =
        (.ok (.ok ()), ⟨machine.bus.pollReset hardware timing count, machine.state⟩) := by
  obtain ⟨count, stops, ran⟩ := run_softReset hardware timing machine
  have seen : machine.bus.askReset.clears hardware .softReset count = true :=
    stops.sees_iff.1 leaves
  refine ⟨count, stops.within, by simpa [Bus.clears] using seen, ?_⟩
  rw [ran, seen]
  rfl

/-- A reset that is not left in time is looked at as often as the timing allows for. -/
theorem Program.run_softReset_of_stays (stays : ¬ machine.bus.LeavesReset hardware timing) :
    (softReset timing).run hardware machine =
      (.ok (.error .deviceError),
        ⟨(machine.bus.pollReset hardware timing (timing.budget timing.timeoutMs)).note
          (.resetTimedOut timing.timeoutMs), machine.state⟩) := by
  obtain ⟨count, stops, ran⟩ := run_softReset hardware timing machine
  have unseen : machine.bus.askReset.clears hardware .softReset count = false :=
    Bool.eq_false_iff.2 (mt stops.sees_iff.2 stays)
  rw [ran, unseen, stops.spent unseen]
  rfl

variable (timing hardware machine) in
/-- A bus that stays busy is worth a notice, and no more. -/
theorem Program.run_awaitBusIdle_eq (timeoutMs : UInt32) :
    let offset := Control.axiChannels.register.offset
    ∃ count, Stops hardware machine.bus offset (fun value => !Control.axiChannels.isSetIn value)
        (timing.budget timeoutMs) count ∧
      let idle := machine.bus.clears hardware .axiChannels count
      (awaitBusIdle timing timeoutMs).run hardware machine =
        (.ok idle, ⟨(machine.bus.poll hardware offset timing.pollUs count).noteUnless idle
          (.busStillBusy timeoutMs), machine.state⟩) := by
  obtain ⟨count, stops, ran⟩ := run_await_clear probes_isBusIdle timing.pollUs
    (timing.budget timeoutMs) hardware machine
  have start : (awaitBusIdle timing timeoutMs : Program σ Bool) =
      (do
        let idle ← await isBusIdle timing.pollUs (timing.budget timeoutMs)
        noteWhen (!idle) (.busStillBusy timeoutMs)
        return idle : Program σ Bool) := by
    unfold awaitBusIdle
    rw [Timing.polls_eq]
    rfl
  refine ⟨count, stops, ?_⟩
  rw [start, run_bind, ran]
  cases machine.bus.clears hardware .axiChannels count <;> rfl

variable (timing hardware machine) in
theorem Program.run_awaitBusIdle (timeoutMs : UInt32) :
    ∃ idle bus, ∃ count ≤ timing.budget timeoutMs,
      (awaitBusIdle timing timeoutMs).run hardware machine = (.ok idle, ⟨bus, machine.state⟩) ∧
      bus.registers = hardware.evolve machine.bus.pauses machine.bus.registers count ∧
      bus.pausedMicroseconds =
        machine.bus.pausedMicroseconds + count * timing.pollUs.toNat := by
  obtain ⟨count, stops, ran⟩ := run_awaitBusIdle_eq hardware timing machine timeoutMs
  exact ⟨_, _, count, stops.within, ran, by simp, by simp⟩

end Run

end EthernetMac
