import EthernetMac.Proofs.Program.Await
import EthernetMac.Proofs.Program.Emits
import Mathlib.Order.Bounds.Defs

/-!
What a wait costs, and whether it is long enough. A wait that finds what it waits for has
paused as often as that takes and no more; one that does not has spent its budget. All
pauses have one length, with one look more than pauses. The budget is worth its timeout as
far as 32 bits count the microseconds, and beyond that a wait gives up too early.
-/

namespace EthernetMac

namespace Bus

/-- The events of asking for a reset. -/
def asking (bus : Bus) : List Event :=
  let asked := bus.write Register.busMode.offset Control.softReset.mask
  let offset := Register.generalPurpose.offset
  let value := asked.registers.read offset
  [.write Register.busMode.offset Control.softReset.mask, .read offset value,
    .write offset (value ||| Control.generalOutput.mask)]

theorem journal_askReset (bus : Bus) :
    bus.askReset.journal = bus.asking.reverse ++ bus.journal := rfl

theorem journal_pollReset (bus : Bus) (hardware : Hardware) (timing : Timing) (count : Nat) :
    (bus.pollReset hardware timing count).journal =
      (bus.asking ++ polled hardware Register.busMode.offset timing.pollUs count
        bus.askReset).reverse ++ bus.journal := by
  unfold pollReset
  rw [journal_poll, journal_askReset, List.reverse_append, List.append_assoc]
  rfl

theorem read_mem_polled {bus : Bus} {hardware : Hardware} {offset count : Nat}
    {microseconds value : UInt32} :
    .read offset value ∈ polled hardware offset microseconds count bus ↔
      ∃ look ≤ count, value = bus.finds hardware offset look := by
  simp only [polled, List.mem_append, List.mem_flatMap, List.mem_range, List.mem_cons,
    Event.read.injEq, true_and, reduceCtorEq, List.not_mem_nil, or_false]
  constructor
  · rintro (⟨look, earlier, found⟩ | found)
    · exact ⟨look, by omega, found⟩
    · exact ⟨count, by omega, found⟩
  · rintro ⟨look, within, found⟩
    by_cases last : look = count
    · exact .inr (last ▸ found)
    · exact .inl ⟨look, by omega, found⟩

theorem since_noteUnless {bus earlier : Bus} {gained : List Event}
    (added : bus.journal = gained.reverse ++ earlier.journal) (found : Bool) (notice : Notice) :
    (bus.noteUnless found notice).since earlier =
      gained ++ if found then [] else [.notice notice] := by
  apply since_of_append
  rw [journal_noteUnless, added]
  cases found <;> simp

end Bus

/-- So many pauses of one length, and one look more than pauses. -/
structure Paces (events : List Event) (offset : Nat) (microseconds : UInt32) (count : Nat) :
    Prop where
  pauses : events.filterMap Event.pause? = .replicate count microseconds
  looks : events.countP (Event.looksAt offset) = count + 1

/-- No pause, and no look at that register. -/
def Event.Beside (offset : Nat) (event : Event) : Prop :=
  event.pause? = none ∧ event.looksAt offset = false

theorem Paces.frame {before events later : List Event} {offset count : Nat}
    {microseconds : UInt32} (paces : Paces events offset microseconds count)
    (ahead : ∀ event ∈ before, event.Beside offset)
    (behind : ∀ event ∈ later, event.Beside offset) :
    Paces (before ++ events ++ later) offset microseconds count where
  pauses := by
    have none (extra : List Event) (beside : ∀ event ∈ extra, event.Beside offset) :
        extra.filterMap Event.pause? = [] :=
      List.filterMap_eq_nil_iff.2 fun event inside => (beside event inside).1
    rw [List.filterMap_append, List.filterMap_append, none _ ahead, none _ behind, paces.pauses,
      List.nil_append, List.append_nil]
  looks := by
    have none (extra : List Event) (beside : ∀ event ∈ extra, event.Beside offset) :
        extra.countP (Event.looksAt offset) = 0 :=
      List.countP_eq_zero.2 fun event inside => by simp [(beside event inside).2]
    rw [List.countP_append, List.countP_append, none _ ahead, none _ behind, paces.looks]
    omega

theorem Bus.paces_polled (bus : Bus) (hardware : Hardware) (offset : Nat)
    (microseconds : UInt32) (count : Nat) :
    Paces (polled hardware offset microseconds count bus) offset microseconds count := by
  let looked (look : Nat) : List Event :=
    [.read offset (bus.finds hardware offset look), .pause microseconds]
  have turns (count : Nat) :
      ((List.range count).flatMap looked).filterMap Event.pause? =
          .replicate count microseconds ∧
        ((List.range count).flatMap looked).countP (Event.looksAt offset) = count := by
    induction count with
    | zero => exact ⟨rfl, rfl⟩
    | succ count ih =>
      rw [List.range_succ, List.flatMap_append, List.filterMap_append, List.countP_append, ih.1,
        ih.2, List.replicate_succ']
      exact ⟨rfl, by simp [looked, Event.looksAt]⟩
  constructor
  · rw [polled, List.filterMap_append, (turns count).1]
    exact List.append_nil _
  · rw [polled, List.countP_append, (turns count).2]
    simp [Event.looksAt]

/-- What a wait does after some other events and what it costs, told from where those began. -/
theorem Bus.wait_costs (start asked : Bus) {before : List Event} {offset count : Nat}
    {timing : Timing} {timeoutMs : UInt32}
    (journal : asked.journal = before.reverse ++ start.journal)
    (ahead : ∀ event ∈ before, event.Beside offset)
    (prompt : asked.pausedMicroseconds = start.pausedMicroseconds)
    (within : count ≤ timing.budget timeoutMs) (hardware : Hardware) (found : Bool)
    (notice : Notice) :
    let after := (poll hardware offset timing.pollUs count asked).noteUnless found notice
    after.since start = before ++ polled hardware offset timing.pollUs count asked ++
        (if found then [] else [.notice notice]) ∧
      Paces (after.since start) offset timing.pollUs count ∧
      after.pausedMicroseconds ≤ start.pausedMicroseconds + 1000 * timeoutMs.toNat := by
  intro after
  have polled_journal : (poll hardware offset timing.pollUs count asked).journal =
      (before ++ polled hardware offset timing.pollUs count asked).reverse ++ start.journal := by
    rw [journal_poll, journal, List.reverse_append, List.append_assoc]
  have since := since_noteUnless polled_journal found notice
  have behind : ∀ event ∈ (if found then [] else [.notice notice] : List Event),
      event.Beside offset := by
    cases found <;> simp [Event.Beside, Event.pause?, Event.looksAt]
  refine ⟨since, ?_, ?_⟩
  · rw [since]
    exact (paces_polled ..).frame ahead behind
  · have time := timing.mul_pollUs_le within
    simp only [after, pausedMicroseconds_noteUnless, pausedMicroseconds_poll, prompt]
    omega

/-- How a wait with that budget ends, and after how many pauses, if `holds look` says whether
a look after so many pauses finds what is waited for. -/
structure Awaits (holds : Nat → Bool) (budget : Nat) (found : Bool) (count : Nat) : Prop where
  found_iff : found = true ↔ ∃ look ≤ budget, holds look = true
  least : found = true → IsLeast {look | holds look = true} count
  spent : found = false → count = budget

theorem Program.Stops.awaits {hardware : Hardware} {bus : Bus} {control : Control}
    {budget count : Nat} (stops : Stops hardware bus control.register.offset
      (fun value => !control.isSetIn value) budget count) :
    Awaits (bus.clears hardware control) budget (bus.clears hardware control count) count where
  found_iff := stops.sees_iff.symm
  least found := by
    refine ⟨found, fun look holds => ?_⟩
    by_contra early
    have unseen : bus.clears hardware control look = false := stops.unseen look (by omega)
    exact absurd holds (Bool.eq_false_iff.1 unseen)
  spent := stops.spent

namespace Program

variable {σ : Type} {hardware : Hardware} {timing : Timing} {machine : Machine σ}

/-- A reset is left in time if and only if one of the looks made finds its bit clear. -/
theorem leavesReset_iff_read :
    machine.bus.LeavesReset hardware timing ↔
      ∃ value, .read Register.busMode.offset value ∈
          ((softReset timing).run hardware machine).2.bus.since machine.bus ∧
        Control.softReset.isSetIn value = false := by
  obtain ⟨count, stops, ran⟩ := run_softReset hardware timing machine
  rw [ran, Bus.since_noteUnless (machine.bus.journal_pollReset ..)]
  constructor
  · intro leaves
    have clear := stops.sees_iff.1 leaves
    refine ⟨_, List.mem_append_left _ (List.mem_append_right _ ?_), by simpa using clear⟩
    exact Bus.read_mem_polled.2 ⟨count, Nat.le_refl count, rfl⟩
  · rintro ⟨value, read, clear⟩
    have told (found : Bool) : .read Register.busMode.offset value ∉
        (if found then [] else [.notice (.resetTimedOut timing.timeoutMs)] : List Event) := by
      cases found <;> simp
    obtain ⟨look, within, rfl⟩ : ∃ look ≤ count,
        value = machine.bus.askReset.finds hardware Register.busMode.offset look := by
      simpa [told, Bus.asking, Register.offset, Bus.read_mem_polled] using read
    exact ⟨look, within.trans stops.within, congrArg Bool.not clear⟩

/-- Waiting writes nothing, so all that a reset writes is written before its first look. -/
theorem writes_softReset :
    ((softReset timing).writes hardware machine).map Write.entry =
      [(Register.busMode.offset, Control.softReset.mask),
        (Register.generalPurpose.offset,
          machine.bus.registers.read Register.generalPurpose.offset |||
            Control.generalOutput.mask)] := by
  let waiting : Program σ (Except Error Unit) := do
    let budget ← timing.polls timing.timeoutMs
    let complete ← await isResetComplete timing.pollUs budget
    if complete then return .ok ()
    else
      note (.resetTimedOut timing.timeoutMs)
      return .error .deviceError
  have emits : waiting.Emits (fun _ event => event.Passive) (fun _ _ => True) (.pause 0) :=
    emits_awaitReset waits_passive timing
  have silent : waiting.writes hardware ⟨machine.bus.askReset, machine.state⟩ = [] :=
    emits.writes_eq_nil _
  have asked : (softReset timing).writes hardware machine =
      ⟨machine, Register.busMode.offset, Control.softReset.mask⟩ ::
      ⟨⟨(machine.bus.write Register.busMode.offset Control.softReset.mask).read
          Register.generalPurpose.offset, machine.state⟩, Register.generalPurpose.offset,
        (machine.bus.write Register.busMode.offset Control.softReset.mask).registers.read
          Register.generalPurpose.offset ||| Control.generalOutput.mask⟩ ::
      waiting.writes hardware ⟨machine.bus.askReset, machine.state⟩ := rfl
  rw [asked, silent]
  simp (disch := decide) [Write.entry, RegisterFile.read_write_other]

theorem writes_awaitBusIdle (timing : Timing) (timeoutMs : UInt32) :
    (awaitBusIdle timing timeoutMs).writes hardware machine = [] := by
  have emits : (awaitBusIdle timing timeoutMs : Program σ Bool).Emits
      (fun _ event => event.Passive) (fun _ _ => True) (.pause 0) :=
    emits_awaitBusIdle waits_passive timing timeoutMs
  exact emits.writes_eq_nil machine

/-- Both waits to the read, on any hardware: what they answer, after how many pauses, and
what they do on the way. -/
theorem waits_exactly (timing : Timing) (timeoutMs : UInt32) (hardware : Hardware)
    (machine : Machine σ) :
    let budget (timeoutMs : UInt32) : Nat :=
      min (1000 * timeoutMs.toNat) 0xFFFFFFFF / max timing.pollUs.toNat 1
    (∃ complete count after,
      (softReset timing).run hardware machine =
        (.ok (if complete then .ok () else .error .deviceError), ⟨after, machine.state⟩) ∧
      Awaits (machine.bus.askReset.clears hardware .softReset) (budget timing.timeoutMs)
        complete count ∧
      after.since machine.bus = machine.bus.asking ++
        Bus.polled hardware Register.busMode.offset timing.pollUs count machine.bus.askReset ++
        (if complete then [] else [.notice (.resetTimedOut timing.timeoutMs)]) ∧
      Paces (after.since machine.bus) Register.busMode.offset timing.pollUs count ∧
      after.pausedMicroseconds ≤
        machine.bus.pausedMicroseconds + 1000 * timing.timeoutMs.toNat ∧
      ((softReset timing).writes hardware machine).map Write.entry =
        [(Register.busMode.offset, Control.softReset.mask),
          (Register.generalPurpose.offset,
            machine.bus.registers.read Register.generalPurpose.offset |||
              Control.generalOutput.mask)]) ∧
    ∃ idle count after,
      (awaitBusIdle timing timeoutMs).run hardware machine = (.ok idle, ⟨after, machine.state⟩) ∧
      Awaits (machine.bus.clears hardware .axiChannels) (budget timeoutMs) idle count ∧
      after.since machine.bus =
        Bus.polled hardware Register.axiStatus.offset timing.pollUs count machine.bus ++
        (if idle then [] else [.notice (.busStillBusy timeoutMs)]) ∧
      Paces (after.since machine.bus) Register.axiStatus.offset timing.pollUs count ∧
      after.pausedMicroseconds ≤ machine.bus.pausedMicroseconds + 1000 * timeoutMs.toNat ∧
      (awaitBusIdle timing timeoutMs).writes hardware machine = [] := by
  intro budget
  constructor
  · obtain ⟨count, stops, ran⟩ := run_softReset hardware timing machine
    have aside : ∀ event ∈ machine.bus.asking, event.Beside Register.busMode.offset := by
      simp [Bus.asking, Event.Beside, Event.pause?, Event.looksAt, Register.offset]
    have prompt : machine.bus.askReset.pausedMicroseconds = machine.bus.pausedMicroseconds := by
      simp [Bus.askReset]
    obtain ⟨since, paces, time⟩ := Bus.wait_costs machine.bus machine.bus.askReset
      machine.bus.journal_askReset aside prompt stops.within hardware
      (machine.bus.askReset.clears hardware .softReset count) (.resetTimedOut timing.timeoutMs)
    exact ⟨_, count, _, ran, stops.awaits, since, paces, time, writes_softReset⟩
  · obtain ⟨count, stops, ran⟩ := run_awaitBusIdle_eq hardware timing machine timeoutMs
    obtain ⟨since, paces, time⟩ := Bus.wait_costs machine.bus machine.bus rfl
      (List.forall_mem_nil _) rfl stops.within hardware
      (machine.bus.clears hardware .axiChannels count) (.busStillBusy timeoutMs)
    exact ⟨_, count, _, ran, stops.awaits, since, paces, time, writes_awaitBusIdle ..⟩

end Program

/-- From that many pauses on, every look finds the control clear. -/
def Bus.StaysClear (bus : Bus) (hardware : Hardware) (control : Control) (count : Nat) : Prop :=
  ∀ look, count ≤ look → bus.clears hardware control look = true

/-- Clears a register at every pause from that one on. -/
def Hardware.late (offset count : Nat) : Hardware := fun pause file =>
  if count ≤ pause then file.store offset 0 else file

theorem Hardware.evolve_late {offset count look : Nat} (file : RegisterFile)
    (early : look < count) : (late offset count).evolve 0 file look = file := by
  induction look with
  | zero => rfl
  | succ look ih =>
    rw [evolve, ih (by omega), late, if_neg (by omega)]

theorem Bus.staysClear_late {bus : Bus} (fresh : bus.pauses = 0) (control : Control) {count : Nat}
    (some : 0 < count) : bus.StaysClear (.late control.register.offset count) control count := by
  intro look late
  obtain ⟨before, rfl⟩ : ∃ before, look = before + 1 := ⟨look - 1, by omega⟩
  have due : count ≤ bus.pauses + before + 1 := by omega
  simp [clears, finds, Hardware.evolve, Hardware.late, due, Control.isSetIn]

/-- Pauses that fit into the timeout are within the budget as far as 32 bits count their
microseconds. -/
theorem Timing.le_budget_iff {timing : Timing} (paced : 1 ≤ timing.pollUs) {timeoutMs : UInt32}
    {count : Nat} (fits : count * timing.pollUs.toNat ≤ 1000 * timeoutMs.toNat) :
    count ≤ timing.budget timeoutMs ↔ count * timing.pollUs.toNat ≤ 0xFFFFFFFF := by
  have positive : 1 ≤ timing.pollUs.toNat := UInt32.le_iff_toNat_le.1 paced
  unfold budget limitUs
  rw [Nat.max_eq_left positive, Nat.le_div_iff_mul_le positive]
  omega

/-- A budget is enough for whatever clears in time if and only if it allows for that many
pauses: if it does not, the latest clearing is missed. -/
theorem Bus.long_enough_iff (prepare : Bus → Bus) (start : Bus) {control : Control}
    {budget count : Nat} (fresh : (prepare start).pauses = 0)
    (set : (prepare start).clears .idle control 0 = false) :
    (∀ hardware bus, (prepare bus).StaysClear hardware control count →
      ∃ look ≤ budget, (prepare bus).clears hardware control look = true) ↔ count ≤ budget := by
  constructor
  · intro enough
    by_contra short
    let late : Hardware := .late control.register.offset count
    obtain ⟨look, within, clear⟩ :=
      enough late start (staysClear_late fresh control (by omega))
    have early : look < count := by omega
    have same : (prepare start).clears late control look =
        (prepare start).clears .idle control 0 := by
      simp [clears, finds, late, fresh, Hardware.evolve_late _ early]
    simp [same, set] at clear
  · intro within hardware bus stays
    exact ⟨count, within, stays count (Nat.le_refl _)⟩

namespace Program

variable {σ : Type} {hardware : Hardware} {timing : Timing} {machine : Machine σ}

theorem softReset_succeeds_iff :
    (∃ after, (softReset timing).run hardware machine = (.ok (.ok ()), after)) ↔
      ∃ look ≤ timing.budget timing.timeoutMs,
        machine.bus.askReset.clears hardware .softReset look = true := by
  obtain ⟨stop, stops, ran⟩ := run_softReset hardware timing machine
  rw [← stops.awaits.found_iff]
  cases found : machine.bus.askReset.clears hardware .softReset stop <;> simp [ran, found]

theorem awaitBusIdle_succeeds_iff {timeoutMs : UInt32} :
    (∃ after, (awaitBusIdle timing timeoutMs).run hardware machine = (.ok true, after)) ↔
      ∃ look ≤ timing.budget timeoutMs,
        machine.bus.clears hardware .axiChannels look = true := by
  obtain ⟨stop, stops, ran⟩ := run_awaitBusIdle_eq hardware timing machine timeoutMs
  rw [← stops.awaits.found_iff]
  cases found : machine.bus.clears hardware .axiChannels stop <;> simp [ran, found]

/-- What clears at some pause within the timeout and stays clear is found in time, on all
hardware, if and only if 32 bits count the microseconds until that pause. -/
theorem waits_long_enough_iff (timing : Timing) (paced : 1 ≤ timing.pollUs) (timeoutMs : UInt32)
    (state : σ) (count : Nat) :
    (count * timing.pollUs.toNat ≤ 1000 * timing.timeoutMs.toNat →
      ((∀ hardware bus, bus.askReset.StaysClear hardware .softReset count →
          ∃ after, (softReset timing).run hardware ⟨bus, state⟩ = (.ok (.ok ()), after)) ↔
        count * timing.pollUs.toNat ≤ 0xFFFFFFFF)) ∧
    (count * timing.pollUs.toNat ≤ 1000 * timeoutMs.toNat →
      ((∀ hardware bus, bus.StaysClear hardware .axiChannels count →
          ∃ after, (awaitBusIdle timing timeoutMs).run hardware ⟨bus, state⟩ =
            (.ok true, after)) ↔
        count * timing.pollUs.toNat ≤ 0xFFFFFFFF)) := by
  let bus : Bus := ⟨.blank .plain, 0, []⟩
  let busy : Bus := ⟨(RegisterFile.blank .plain).store Register.axiStatus.offset 1, 0, []⟩
  constructor
  · intro fits
    rw [← timing.le_budget_iff paced fits]
    simp only [softReset_succeeds_iff]
    exact Bus.long_enough_iff Bus.askReset bus rfl (by decide)
  · intro fits
    rw [← timing.le_budget_iff paced fits]
    simp only [awaitBusIdle_succeeds_iff]
    exact Bus.long_enough_iff id busy rfl (by decide)

/-- With a timeout of some 72 minutes and two pauses of just half of it, the first of them is
still counted and the second is not. -/
theorem waits_long_enough_iff_of_slow :
    let timing : Timing := ⟨4294968, 2147484000⟩
    let resets (count : Nat) : Prop := ∀ hardware bus,
      bus.askReset.StaysClear hardware .softReset count →
        ∃ after, (softReset timing).run hardware (⟨bus, ()⟩ : Machine Unit) =
          (.ok (.ok ()), after)
    let falls (count : Nat) : Prop := ∀ hardware bus,
      bus.StaysClear hardware .axiChannels count →
        ∃ after, (awaitBusIdle timing timing.timeoutMs).run hardware
          (⟨bus, ()⟩ : Machine Unit) = (.ok true, after)
    (resets 1 ∧ ¬ resets 2) ∧ falls 1 ∧ ¬ falls 2 := by
  intro timing resets falls
  have paced : 1 ≤ timing.pollUs := by decide
  have once := waits_long_enough_iff timing paced timing.timeoutMs () 1
  have twice := waits_long_enough_iff timing paced timing.timeoutMs () 2
  exact ⟨⟨(once.1 (by decide)).2 (by decide), mt (twice.1 (by decide)).1 (by decide)⟩,
    (once.2 (by decide)).2 (by decide), mt (twice.2 (by decide)).1 (by decide)⟩

/-- The reset is complete after the second pause, which ends with the timeout, but the wait is
over after the first. -/
theorem softReset_gives_up_early :
    let timing : Timing := ⟨4294968, 2147484000⟩
    let bus : Bus := ⟨(RegisterFile.blank .reactive).setStuck true, 0, []⟩
    let late : Hardware := .late Register.busMode.offset 2
    2 * timing.pollUs.toNat = 1000 * timing.timeoutMs.toNat ∧
    bus.askReset.StaysClear late .softReset 2 ∧
    ∃ after, (softReset timing).run late (⟨bus, ()⟩ : Machine Unit) =
      (.ok (.error .deviceError), after) := by
  intro timing bus late
  have stays : ¬ bus.LeavesReset late timing := by decide +kernel
  exact ⟨by decide, Bus.staysClear_late rfl .softReset (by decide), _,
    run_softReset_of_stays stays⟩

end Program

end EthernetMac
