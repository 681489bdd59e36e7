import EthernetMac.Proofs.Interface.Lifecycle
import EthernetMac.Proofs.Interface.Sending
import Mathlib.Data.List.Destutter

/-!
What an interface remembers of the link and what it tells of it. Sending and asking for the
status look at the link first, if the interface is in service, and nothing else does. What was
seen last is remembered, through all stops and starts, and a notice is written where it differs
from what was seen before: the notices of a run are its looks without their repetitions.
-/

namespace EthernetMac

namespace Event

/-- What a look at the link finds. -/
def sample? : Event → Option Bool
  | read offset value =>
    if offset = Control.linkUp.register.offset then some (Control.linkUp.isSetIn value) else none
  | _ => none

/-- What a notice says of the link. -/
def link? : Event → Option Bool
  | notice (.link up) => some up
  | _ => none

/-- Neither a look at the link nor a word on it. -/
def Unlinked (event : Event) : Prop := event.sample? = none ∧ event.link? = none

@[simp] theorem unlinked_read {offset : Nat} {value : UInt32} :
    (read offset value).Unlinked ↔ offset ≠ Register.miiStatus.offset := by
  by_cases here : offset = Register.miiStatus.offset <;>
    simp [Unlinked, sample?, link?, Control.linkUp, here]

@[simp] theorem unlinked_write (offset : Nat) (value : UInt32) : (write offset value).Unlinked :=
  ⟨rfl, rfl⟩

@[simp] theorem unlinked_pause (microseconds : UInt32) : (pause microseconds).Unlinked :=
  ⟨rfl, rfl⟩

theorem unlinked_notice {message : Notice} (other : ∀ up, message ≠ .link up) :
    (notice message).Unlinked := by
  cases message with
  | link up => exact absurd rfl (other up)
  | _ => exact ⟨rfl, rfl⟩

theorem notes_unlinked : Program.Notes fun _ event => event.Unlinked :=
  fun _ _ => unlinked_notice

theorem waits_unlinked : Program.Waits fun _ event => event.Unlinked where
  read _ _ _ elsewhere := unlinked_read.2 elsewhere
  pause _ _ := unlinked_pause _
  note := notes_unlinked

end Event

section Changes

variable {α : Type} [DecidableEq α] (first : α) (samples : List α)

/-- One more sample is kept if it differs from the one before. -/
theorem destutter_concat (next : α) :
    (first :: (samples ++ [next])).destutter (· ≠ ·) =
      (first :: samples).destutter (· ≠ ·) ++
        if next = samples.getLastD first then [] else [next] := by
  induction samples generalizing first with
  | nil => by_cases same : next = first <;> simp [same, eq_comm]
  | cons sample samples ih =>
    simp only [List.destutter_cons', List.cons_append, List.destutter'_cons,
      List.getLastD_cons] at ih ⊢
    by_cases same : first = sample
    · subst same
      simpa using ih first
    · simpa [same] using ih sample

/-- As many are kept as differ from the one before, and the first. -/
theorem length_destutter_cons :
    ((first :: samples).destutter (· ≠ ·)).length =
      ((first :: samples).zip samples).countP (fun pair => pair.1 ≠ pair.2) + 1 := by
  induction samples generalizing first with
  | nil => rfl
  | cons sample samples ih =>
    have rest := ih sample
    simp only [List.destutter_cons', List.destutter'_cons, List.zip_cons_cons,
      List.countP_cons] at rest ⊢
    by_cases same : first = sample
    · subst same
      simpa using rest
    · simp [same, rest]

end Changes

namespace Interface

variable {rx tx : Nat} {hardware : Hardware} {machine : Machine (Interface rx tx)} {last : Event}

/-- The calls that look at the link. -/
def Call.Looks : Call → Prop
  | transmit .. | status _ => True
  | _ => False

section Aside

theorem unlinked_nudge : (nudge : Program (Interface rx tx) Unit).Emits
    (fun _ event => event.Unlinked) (fun _ _ => True) last := by
  simp [nudge, Program.enable, Program.setBitsAt, Program.demandTx, Control.txEngine,
    Control.transmitter, Register.offset]

theorem unlinked_bringUp (extraRx extraTx : Nat) :
    (bringUp extraRx extraTx : Program (Interface rx tx) _).Emits
      (fun _ event => event.Unlinked) (fun _ _ => True) last := by
  apply emits_bringUp_of_parts Event.waits_unlinked
  case reset =>
    intro timing last
    exact Program.emits_softReset Event.waits_unlinked timing (Event.unlinked_write _ _)
      fun _ => Event.unlinked_write _ _
  case programs =>
    intro last
    simp [programDevice, Program.writeAddress, Program.enable, Program.setBitsAt,
      Control.wideDescriptors, Register.offset]
  case enables =>
    intro last
    simp [enableDevice, Program.acknowledgeAll, Program.acknowledge, Program.enable,
      Program.setBitsAt, Program.demandRx, Control.txEngine, Control.rxEngine, Control.transmitter,
      Control.receiver, Register.offset]

theorem unlinked_resumeReceive : (Queues.resumeReceive : Program (Queues rx tx) Unit).Emits
    (fun _ event => event.Unlinked) (fun _ _ => True) last := by
  unfold Queues.resumeReceive
  rw [Program.emits_bind, Program.emits_read]
  intro status
  split <;> simp [Program.acknowledge, Program.demandRx, Register.offset]

theorem unlinked_takeInterrupts : (takeInterrupts : Program (Interface rx tx) _).Emits
    (fun _ event => event.Unlinked) (fun _ _ => True) last := by
  unfold takeInterrupts
  rw [Program.emits_bind, Program.emits_read]
  intro raw
  dsimp only
  split <;> simp [Program.acknowledge, Register.offset]

theorem unlinked_setFilters (enable disable : ReceiveFilter) (clear : Bool)
    (multicast : List MacAddress) :
    (setFilters enable disable clear multicast : Program (Interface rx tx) _).Emits
      (fun _ event => event.Unlinked) (fun _ _ => True) last := by
  apply emits_gated Event.notes_unlinked (by simp)
  simp only [Program.emits_bind, Program.emits_note]
  refine ⟨Event.unlinked_notice (by simp), ?_⟩
  apply Program.emits_noteWhen (Event.unlinked_notice (by simp))
  intro last
  simp [Program.update, filterSetting, Event.unlinked_notice, Register.offset]

theorem unlinked_setAddress (restore : Bool) (address : Option MacAddress) :
    (setAddress restore address : Program (Interface rx tx) _).Emits
      (fun _ event => event.Unlinked) (fun _ _ => True) last := by
  apply emits_gated Event.notes_unlinked (by simp)
  cases restore <;> cases address <;>
    simp [useAddress, Program.writeAddress, Event.unlinked_notice]

/-- All other calls have nothing to do with the link, -/
theorem unlinked_of_not_looks (call : Call) (blind : ¬ call.Looks) :
    (call.program : Program (Interface rx tx) Reply).Emits (fun _ event => event.Unlinked)
      (fun _ _ => True) last := by
  cases call with
  | transmit | status => exact absurd trivial blind
  | bringUp extraRx extraTx => simpa [Call.program] using unlinked_bringUp extraRx extraTx
  | receive buffer =>
    simpa [Call.program] using
      emits_receive_of_parts Event.notes_unlinked fun _ => unlinked_resumeReceive
  | setFilters enable disable clear multicast =>
    simpa [Call.program] using unlinked_setFilters enable disable clear multicast
  | setAddress restore address => simpa [Call.program] using unlinked_setAddress restore address
  | start =>
    simp only [Call.program, start, Program.emits_map, Program.emits_bind, Program.emits_get]
    intro interface
    cases interface.lifecycle <;> simp [moveTo]
  | stop =>
    simp only [Call.program, stop, Program.emits_map, Program.emits_bind, Program.emits_get]
    intro interface
    cases interface.lifecycle <;> simp [moveTo]
  | filterSetting => simp [Call.program, filterSetting, Register.offset]
  | mode => simp [Call.program, mode, filterSetting, Register.offset]
  | reset extended =>
    simp only [Call.program, Program.emits_map]
    apply emits_gated Event.notes_unlinked (by simp)
    rw [Program.emits_bind]
    exact Program.emits_noteWhen (Event.unlinked_notice (by simp)) (by simp)
  | shutdown | statistics | multicastAddress =>
    simp only [Call.program, Program.emits_map]
    exact emits_gated Event.notes_unlinked (by simp) (by simp)
  | nonVolatile =>
    simp only [Call.program, Program.emits_map]
    exact emits_gated Event.notes_unlinked (by simp) ⟨Event.unlinked_notice (by simp), trivial⟩

/-- and remember of it what they found. -/
theorem keeps_mediaPresent (call : Call) (blind : ¬ call.Looks) :
    (call.program : Program (Interface rx tx) Reply).Keeps mediaPresent := by
  cases call with
  | transmit | status => exact absurd trivial blind
  | start => exact (keeps_start fun _ _ => rfl).map _
  | stop => exact (keeps_stop fun _ _ => rfl).map _
  | bringUp extraRx extraTx =>
    exact (keeps_bringUp (fun _ _ => rfl) (fun _ _ => rfl) extraRx extraTx).map _
  | receive buffer => exact (keeps_receive (fun _ _ _ => rfl) buffer).map _
  | setAddress restore address => exact (keeps_setAddress (fun _ _ => rfl) restore address).map _
  | _ => exact .of_silent (silent_idle _ trivial)

end Aside

/-- What a call that found this link, or none if it did not look, leaves behind: the look, a
notice if the link is not as it was remembered, and a new memory. -/
structure Sees (found : Option Bool) (events : List Event) (before after : Bool) : Prop where
  samples : events.filterMap Event.sample? = found.toList
  notices : events.filterMap Event.link? = found.toList.filter (· ≠ before)
  remembered : after = found.getD before

section Look

theorem sees_nothing {events : List Event} (unlinked : ∀ event ∈ events, event.Unlinked)
    (media : Bool) : Sees none events media media where
  samples := List.filterMap_eq_nil_iff.2 fun event happened => (unlinked event happened).1
  notices := List.filterMap_eq_nil_iff.2 fun event happened => (unlinked event happened).2
  remembered := rfl

theorem Sees.append {found : Option Bool} {events later : List Event} {before after : Bool}
    (sees : Sees found events before after) (unlinked : ∀ event ∈ later, event.Unlinked) :
    Sees found (events ++ later) before after := by
  have rest := sees_nothing unlinked before
  refine ⟨?_, ?_, sees.remembered⟩
  · rw [List.filterMap_append, sees.samples, rest.samples]
    simp
  · rw [List.filterMap_append, sees.notices, rest.notices]
    simp

theorem unlinked_events {σ α : Type} {program : Program σ α} {last : Event}
    (emits : program.Emits (fun _ event => event.Unlinked) (fun _ _ => True) last)
    (machine : Machine σ) : ∀ event ∈ program.events hardware machine, event.Unlinked := by
  intro event happened
  obtain ⟨_, unlinked⟩ := emits.allowed_of_mem_events machine event happened
  exact unlinked

theorem sees_sampleLink (hardware : Hardware) (machine : Machine (Interface rx tx)) :
    Sees (some (linked machine.bus.registers)) (sampleLink.events hardware machine)
      machine.state.mediaPresent (linked machine.bus.registers) := by
  rw [events_sampleLink]
  refine ⟨?samples, ?notices, rfl⟩
  case samples => split <;> simp [Event.sample?] <;> rfl
  case notices =>
    split
    next same => simp [same, Event.link?]
    next different =>
      simp [different, Event.link?]
      rfl

/-- A look at the link, and what comes after it. -/
theorem sees_sampling {α : Type} {rest : Bool → Program (Interface rx tx) α}
    (unlinked : ∀ up last, (rest up).Emits (fun _ event => event.Unlinked) (fun _ _ => True) last)
    (keeps : ∀ up, (rest up).Keeps mediaPresent) (hardware : Hardware)
    (machine : Machine (Interface rx tx)) :
    Sees (some (linked machine.bus.registers)) ((sampleLink >>= rest).events hardware machine)
      machine.state.mediaPresent
      ((sampleLink >>= rest).run hardware machine).2.state.mediaPresent := by
  obtain ⟨bus, sampled, -⟩ := run_sampleLink hardware machine
  rw [Program.events_bind, Program.run_bind, sampled]
  dsimp only
  rw [keeps]
  exact (sees_sampleLink hardware machine).append (unlinked_events (unlinked _ (.pause 0)) _)

theorem not_link_of_refusal {lifecycle : Lifecycle} {operation : Operation} {notice : Notice}
    {error : Error} (refused : refusal? lifecycle operation = some (notice, error)) (up : Bool) :
    notice ≠ .link up := by
  cases lifecycle <;> simp [refusal?] at refused <;> simp [← refused.1]

/-- What a call finds out about the link, if it looks: it does where the interface is in service. -/
def lookOf (call : Call) (machine : Machine (Interface rx tx)) : Option Bool :=
  match call with
  | .transmit .. | .status _ =>
    if machine.state.lifecycle = .initialized then some (linked machine.bus.registers) else none
  | _ => none

/-- Each call sees what it finds and nothing else. -/
theorem sees_run (call : Call) (hardware : Hardware) (machine : Machine (Interface rx tx)) :
    Sees (lookOf call machine) (call.program.events hardware machine) machine.state.mediaPresent
      (call.program.run hardware machine).2.state.mediaPresent := by
  have blind {call : Call} (blind : ¬ call.Looks) :
      Sees none (call.program.events hardware machine) machine.state.mediaPresent
        (call.program.run hardware machine).2.state.mediaPresent := by
    rw [keeps_mediaPresent call blind]
    exact sees_nothing (unlinked_events (@unlinked_of_not_looks _ _ (.pause 0) call blind) _) _
  have refused {call : Call} {operation : Operation} (needs : call.operation? = some operation)
      (unready : machine.state.lifecycle ≠ .initialized) :
      Sees none (call.program.events hardware machine) machine.state.mediaPresent
        (call.program.run hardware machine).2.state.mediaPresent := by
    obtain ⟨⟨notice, error⟩, refused⟩ := exists_refusal unready operation
    rw [events_of_refusal needs refused, run_of_refusal needs refused]
    apply sees_nothing
    simpa using Event.unlinked_notice (not_link_of_refusal refused)
  cases call with
  | transmit frame request =>
    by_cases initialized : machine.state.lifecycle = .initialized
    · rw [lookOf, if_pos initialized, Call.program, Program.events_map, Program.machine_map,
        transmit_eq, events_gated_of_initialized initialized, run_gated_of_initialized initialized]
      apply sees_sampling _ (keeps_submit (fun _ _ _ => rfl) frame request)
      exact fun up _ => emits_submit Event.notes_unlinked (fun _ => unlinked_nudge) up
    · rw [lookOf, if_neg initialized]
      exact refused rfl initialized
  | status query =>
    by_cases initialized : machine.state.lifecycle = .initialized
    · rw [lookOf, if_pos initialized, Call.program, Program.events_map, Program.machine_map,
        status_eq, events_gated_of_initialized initialized, run_gated_of_initialized initialized]
      apply sees_sampling _ (keeps_report (fun _ _ _ => rfl) query)
      exact fun up _ => emits_report Event.notes_unlinked (fun _ _ => unlinked_takeInterrupts) up
    · rw [lookOf, if_neg initialized]
      exact refused rfl initialized
  | _ => exact blind id

end Look

/-! From one call to a run. -/

section History

/-- What was found out about the link in a moment. -/
def sampleIn : Moment rx tx → Option Bool
  | ⟨machine, .call _ call, _⟩ => lookOf call machine
  | ⟨_, .device _, _⟩ => none

/-- All that was found out about the link, the earliest first. -/
def samples (history : List (Moment rx tx)) : List Bool := (history.filterMap sampleIn).reverse

theorem samples_cons (moment : Moment rx tx) (history : List (Moment rx tx)) :
    samples (moment :: history) = samples history ++ (sampleIn moment).toList := by
  unfold samples
  cases found : sampleIn moment <;> simp [found]

/-- The events tell of these samples, once for each change, and the last one is remembered. -/
structure Reported (events : List Event) (samples : List Bool) (media : Bool) : Prop where
  samples_eq : events.filterMap Event.sample? = samples
  remembered : media = samples.getLastD false
  notices_eq : false :: events.filterMap Event.link? = (false :: samples).destutter (· ≠ ·)

theorem Reported.append {events later : List Event} {samples : List Bool} {before after : Bool}
    {found : Option Bool} (reported : Reported events samples before)
    (sees : Sees found later before after) :
    Reported (events ++ later) (samples ++ found.toList) after := by
  have remembered := reported.remembered
  refine ⟨?samples, ?remembered, ?notices⟩
  case samples => rw [List.filterMap_append, reported.samples_eq, sees.samples]
  case remembered => cases found <;> simp [sees.remembered, remembered]
  case notices =>
    rw [List.filterMap_append, sees.notices, ← List.cons_append, reported.notices_eq]
    cases found with
    | none => simp
    | some up =>
      rw [Option.toList_some, destutter_concat, ← remembered]
      by_cases same : up = before <;> simp [same]

/-- What the journal holds since `bus` tells of the history, and the interface remembers it. -/
def Recorded (bus : Bus) (history : List (Moment rx tx)) (machine : Machine (Interface rx tx)) :
    Prop :=
  ∃ events, machine.bus.journal = events.reverse ++ bus.journal ∧
    Reported events (samples history) machine.state.mediaPresent

theorem Recorded.step {bus : Bus} {history : List (Moment rx tx)}
    {machine : Machine (Interface rx tx)} (step : Step Call)
    (recorded : Recorded bus history machine) :
    Recorded bus ((system rx tx).moment machine step :: history)
      ((system rx tx).step step machine).2 := by
  obtain ⟨events, gained, reported⟩ := recorded
  unfold Recorded
  rw [samples_cons]
  cases step with
  | device action =>
    have unseen : (sampleIn ((system rx tx).moment machine (.device action))).toList = [] := rfl
    rw [unseen, List.append_nil]
    exact ⟨events, gained, reported⟩
  | call hardware call =>
    refine ⟨events ++ call.program.events hardware machine, ?_, ?_⟩
    · show (call.program.run hardware machine).2.bus.journal = _
      rw [Program.journal_run, gained]
      simp
    · exact reported.append (sees_run call hardware machine)

theorem reported_of_steps (config : Config) (queues : Queues rx tx) (bus : Bus)
    (steps : List (Step Call)) :
    let start : Machine (Interface rx tx) := ⟨bus, Interface.blank config queues⟩
    let machine := (system rx tx).after start steps
    Reported (machine.bus.since bus) (samples ((system rx tx).history start steps))
      machine.state.mediaPresent := by
  intro start machine
  have initial : Recorded bus [] start := ⟨[], rfl, rfl, rfl, rfl⟩
  obtain ⟨events, gained, reported⟩ :=
    System.holds_of_run (Recorded bus) initial (fun _ _ step => Recorded.step step) steps
  rw [Bus.since_of_append gained]
  exact reported

end History

/-- In every run from a new interface, beside any device, the link is looked at in the calls that
send or ask for the status while the interface is in service, and in no others. What was seen last
is remembered and reported. The notices of the link alternate, beginning with that it is up, and
are as many as the changes from one look to the next, the first being a change if the link is up.
A call that is refused neither looks nor tells of the link. -/
theorem link_changes_told_once (config : Config) (queues : Queues rx tx) (bus : Bus)
    (steps : List (Step Call)) :
    let start : Machine (Interface rx tx) := ⟨bus, Interface.blank config queues⟩
    let machine := (system rx tx).after start steps
    let seen := samples ((system rx tx).history start steps)
    let told := (machine.bus.since bus).filterMap Event.link?
    (machine.bus.since bus).filterMap Event.sample? = seen ∧
      machine.state.mediaPresent = seen.getLastD false ∧
      (∀ hardware, ∃ report after, mode.run hardware machine = (.ok report, after) ∧
        report.mediaPresent = seen.getLastD false) ∧
      false :: told = (false :: seen).destutter (· ≠ ·) ∧
      (false :: told).IsChain (· ≠ ·) ∧
      told.length = ((false :: seen).zip seen).countP (fun pair => pair.1 ≠ pair.2) ∧
      ∀ (hardware : Hardware) (unready : Machine (Interface rx tx)) (call : Call)
        (operation : Operation),
        call.operation? = some operation → unready.state.lifecycle ≠ .initialized →
        ∃ notice, (∀ up, notice ≠ .link up) ∧
          call.program.events hardware unready = [.notice notice] ∧
          (call.program.run hardware unready).2.state = unready.state := by
  intro start machine seen told
  obtain ⟨samples_eq, remembered, notices_eq⟩ := reported_of_steps config queues bus steps
  refine ⟨samples_eq, remembered, ?reports, notices_eq, ?alternates, ?counts, ?refused⟩
  case reports => exact fun hardware => ⟨_, _, rfl, remembered⟩
  case alternates =>
    rw [notices_eq]
    exact List.isChain_destutter _ _
  case counts =>
    have length := congrArg List.length notices_eq
    rw [length_destutter_cons, List.length_cons] at length
    exact Nat.succ.inj length
  case refused =>
    intro hardware unready call operation needs outside
    obtain ⟨⟨notice, error⟩, refused⟩ := exists_refusal outside operation
    rw [events_of_refusal needs refused, run_of_refusal needs refused]
    exact ⟨notice, not_link_of_refusal refused, rfl, rfl⟩

/-- The link is seen down, up twice, down and up again, with a second bringing up in between. A
query that comes after the interface was stopped is not among the looks. -/
theorem link_changes_told_once_of_restarted :
    let queues : Queues 2 2 :=
      Queues.blank ⟨0x1000, 0x2000, 0x4000⟩ (Nat.le_refl 2) (Nat.le_refl 2)
    let bus : Bus := { registers := .blank .reactive }
    let start : Machine (Interface 2 2) := ⟨bus, Interface.blank {} queues⟩
    let link (up : Bool) : Step Call := .device (.registers fun file => file.setLink up)
    let look : Step Call := .call .idle (.status .all)
    let send : Step Call := .call .idle (.transmit ⟨0x8000, List.replicate 60 0⟩ none)
    let begin : List (Step Call) := [.call .idle (.bringUp 0 0), .call .idle .start]
    let first : List (Step Call) := [look, send, link true, look]
    let second : List (Step Call) := [.call .idle .stop, look, link true, send, link false]
    let steps := second ++ begin ++ [.call .idle .stop] ++ first ++ begin
    let machine := (system 2 2).after start steps
    samples ((system 2 2).history start steps) = [false, true, true, false, true] ∧
      machine.state.mediaPresent = true ∧
      (machine.bus.since bus).filterMap Event.link? = [true, false, true] ∧
      machine.state.lifecycle ≠ .initialized ∧
      ∃ notice, (∀ up, notice ≠ .link up) ∧
        (Call.status .all).program.events .idle machine = [.notice notice] ∧
        ((Call.status .all).program.run .idle machine).2.state = machine.state := by
  intro queues bus start link look send begin first second steps machine
  have seen : samples ((system 2 2).history start steps) = [false, true, true, false, true] := by
    decide +kernel
  have stopped : machine.state.lifecycle ≠ .initialized := by decide +kernel
  obtain ⟨-, remembered, -, told, -, -, refused⟩ := link_changes_told_once {} queues bus steps
  rw [seen] at remembered told
  have remembers : machine.state.mediaPresent = true := by
    rw [remembered]
    rfl
  exact ⟨seen, remembers, List.tail_eq_of_cons_eq told, stopped,
    refused .idle machine (.status .all) .status rfl stopped⟩

end Interface

end EthernetMac
