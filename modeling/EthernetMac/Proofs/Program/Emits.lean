import EthernetMac.Proofs.Program.Trace
import EthernetMac.Reset

/-!
Which events a program may cause, whatever it reads and whatever the shared state is.
`Emits` follows a program step by step with the latest event at hand, so that a write may
be tied to the read before it. A program that may not pause takes no time, and every write
of a run is one that its program may cause.
-/

namespace EthernetMac

/-- Nothing is written. -/
def Event.Passive : Event → Prop
  | write .. => False
  | _ => True

/-- Nothing but reading and telling. -/
def Event.Observes : Event → Prop
  | write .. | pause _ => False
  | _ => True

/-- Nothing but telling. -/
def Event.Tells : Event → Prop
  | notice _ => True
  | _ => False

theorem Event.Observes.passive {event : Event} (observes : event.Observes) : event.Passive := by
  cases event <;> trivial

theorem Event.Tells.observes {event : Event} (tells : event.Tells) : event.Observes := by
  cases event <;> trivial

theorem Event.Tells.not_looksAt {event : Event} (tells : event.Tells) (offset : Nat) :
    ¬ event.looksAt offset := by
  cases event with
  | notice notice => nofun
  | read | write | pause => contradiction

namespace Program

variable {σ τ α β : Type}

/-- Every event is allowed after the one before it, the first after `last`, and at the end
value and latest event are as `post` says. -/
def Emits (allowed : Event → Event → Prop) (post : α → Event → Prop) :
    Program σ α → Event → Prop
  | done value, last => post value last
  | fault _, _ => True
  | readThen offset next, last => ∀ value, allowed last (.read offset value) ∧
      (next value).Emits allowed post (.read offset value)
  | writeThen offset value next, last => allowed last (.write offset value) ∧
      next.Emits allowed post (.write offset value)
  | pauseThen microseconds next, last => allowed last (.pause microseconds) ∧
      next.Emits allowed post (.pause microseconds)
  | noteThen notice next, last => allowed last (.notice notice) ∧
      next.Emits allowed post (.notice notice)
  | getThen next, last => ∀ state, (next state).Emits allowed post last
  | setThen _ next, last => next.Emits allowed post last

section Rules

variable (allowed : Event → Event → Prop) (post : α → Event → Prop) (last : Event)

@[simp] theorem emits_pure (value : α) :
    (pure value : Program σ α).Emits allowed post last ↔ post value last := Iff.rfl

@[simp] theorem emits_done (value : α) :
    (done value : Program σ α).Emits allowed post last ↔ post value last := Iff.rfl

@[simp] theorem emits_fault (cause : Fault) :
    (fault cause : Program σ α).Emits allowed post last := trivial

@[simp] theorem emits_bind (program : Program σ β) (rest : β → Program σ α) :
    (program >>= rest).Emits allowed post last ↔
      program.Emits allowed (fun value last => (rest value).Emits allowed post last) last := by
  show (program.bind rest).Emits allowed post last ↔ _
  induction program generalizing last with
  | done value => rfl
  | fault cause => rfl
  | readThen offset next ih => exact forall_congr' fun value => and_congr_right fun _ => ih value _
  | writeThen offset value next ih => exact and_congr_right fun _ => ih _
  | pauseThen microseconds next ih => exact and_congr_right fun _ => ih _
  | noteThen notice next ih => exact and_congr_right fun _ => ih _
  | getThen next ih => exact forall_congr' fun state => ih state _
  | setThen new next ih => exact ih _

@[simp] theorem emits_map (program : Program σ β) (f : β → α) :
    (f <$> program).Emits allowed post last ↔
      program.Emits allowed (fun value last => post (f value) last) last := by
  rw [← bind_pure_comp, emits_bind]
  rfl

@[simp] theorem emits_get (post : σ → Event → Prop) :
    (get : Program σ σ).Emits allowed post last ↔ ∀ state, post state last := Iff.rfl

@[simp] theorem emits_modify (change : σ → σ) (post : Unit → Event → Prop) :
    (modify change).Emits allowed post last ↔ ∀ _ : σ, post () last := Iff.rfl

@[simp] theorem emits_readAt (offset : Nat) (post : UInt32 → Event → Prop) :
    (readAt offset : Program σ UInt32).Emits allowed post last ↔
      ∀ value, allowed last (.read offset value) ∧ post value (.read offset value) := Iff.rfl

@[simp] theorem emits_writeAt (offset : Nat) (value : UInt32) (post : Unit → Event → Prop) :
    (writeAt offset value : Program σ Unit).Emits allowed post last ↔
      allowed last (.write offset value) ∧ post () (.write offset value) := Iff.rfl

@[simp] theorem emits_read (register : Register) (post : UInt32 → Event → Prop) :
    (read register : Program σ UInt32).Emits allowed post last ↔
      ∀ value, allowed last (.read register.offset value) ∧
        post value (.read register.offset value) := Iff.rfl

@[simp] theorem emits_write (register : Register) (value : UInt32) (post : Unit → Event → Prop) :
    (write register value : Program σ Unit).Emits allowed post last ↔
      allowed last (.write register.offset value) ∧ post () (.write register.offset value) :=
  Iff.rfl

@[simp] theorem emits_pause (microseconds : UInt32) (post : Unit → Event → Prop) :
    (pause microseconds : Program σ Unit).Emits allowed post last ↔
      allowed last (.pause microseconds) ∧ post () (.pause microseconds) := Iff.rfl

@[simp] theorem emits_note (notice : Notice) (post : Unit → Event → Prop) :
    (note notice : Program σ Unit).Emits allowed post last ↔
      allowed last (.notice notice) ∧ post () (.notice notice) := Iff.rfl

@[simp] theorem emits_updateAt (offset : Nat) (change : UInt32 → UInt32)
    (post : Unit → Event → Prop) :
    (updateAt offset change : Program σ Unit).Emits allowed post last ↔
      ∀ value, allowed last (.read offset value) ∧
        allowed (.read offset value) (.write offset (change value)) ∧
        post () (.write offset (change value)) := Iff.rfl

@[simp] theorem emits_isSet (control : Control) (post : Bool → Event → Prop) :
    (isSet control : Program σ Bool).Emits allowed post last ↔
      ∀ value, allowed last (.read control.register.offset value) ∧
        post (control.isSetIn value) (.read control.register.offset value) := Iff.rfl

end Rules

section Derived

variable {allowed : Event → Event → Prop} {post : α → Event → Prop} {last : Event}

theorem Emits.mono {allowed' : Event → Event → Prop} {post' : α → Event → Prop}
    {program : Program σ α} (emits : program.Emits allowed post last)
    (allow : ∀ last event, allowed last event → allowed' last event)
    (promise : ∀ value last, post value last → post' value last) :
    program.Emits allowed' post' last := by
  induction program generalizing last with
  | done value => exact promise value last emits
  | fault cause => trivial
  | readThen offset next ih => exact fun value => ⟨allow _ _ (emits value).1, ih _ (emits value).2⟩
  | writeThen offset value next ih => exact ⟨allow _ _ emits.1, ih emits.2⟩
  | pauseThen microseconds next ih => exact ⟨allow _ _ emits.1, ih emits.2⟩
  | noteThen notice next ih => exact ⟨allow _ _ emits.1, ih emits.2⟩
  | getThen next ih => exact fun state => ih state (emits state)
  | setThen new next ih => exact ih emits

theorem Emits.imp {post' : α → Event → Prop} {program : Program σ α}
    (emits : program.Emits allowed post last)
    (promise : ∀ value last, post value last → post' value last) :
    program.Emits allowed post' last :=
  emits.mono (fun _ _ => id) promise

theorem emits_noteWhen {condition : Bool} {notice : Notice} {post : Unit → Event → Prop}
    (allow : allowed last (.notice notice)) (promise : ∀ last, post () last) :
    (noteWhen condition notice : Program σ Unit).Emits allowed post last := by
  unfold noteWhen
  split
  · exact ⟨allow, promise _⟩
  · exact promise _

theorem emits_element {n : Nat} {items : Vector α n} {index : Nat}
    (promise : ∀ item, post item last) :
    (element items index : Program σ α).Emits allowed post last := by
  unfold element
  split <;> simp [promise]

theorem emits_firstBytes {count : Nat} {bytes : List UInt8} {post : List UInt8 → Event → Prop}
    (promise : ∀ bytes, post bytes last) :
    (firstBytes count bytes : Program σ _).Emits allowed post last := by
  unfold firstBytes
  split <;> simp [promise]

theorem emits_overwrite {bytes target : List UInt8} {post : List UInt8 → Event → Prop}
    (promise : ∀ bytes, post bytes last) :
    (overwrite bytes target : Program σ _).Emits allowed post last := by
  unfold overwrite
  split <;> simp [promise]

theorem emits_within {part : τ → σ} {update : σ → τ → τ} {program : Program σ α}
    (emits : program.Emits allowed post last) :
    (program.within part update).Emits allowed post last := by
  induction program generalizing last with
  | done value => exact emits
  | fault cause => trivial
  | readThen offset next ih => exact fun value => ⟨(emits value).1, ih value (emits value).2⟩
  | writeThen offset value next ih => exact ⟨emits.1, ih emits.2⟩
  | pauseThen microseconds next ih => exact ⟨emits.1, ih emits.2⟩
  | noteThen notice next ih => exact ⟨emits.1, ih emits.2⟩
  | getThen next ih => exact fun whole => ih _ (emits _)
  | setThen new next ih => exact fun whole => ih emits

end Derived

section Wait

/-- All notices are allowed, other than one on the link. -/
def Notes (allowed : Event → Event → Prop) : Prop :=
  ∀ last notice, (∀ up, notice ≠ .link up) → allowed last (.notice notice)

/-- Looking, pausing and telling what came of it are allowed; it has nothing to do with the
link. -/
structure Waits (allowed : Event → Event → Prop) : Prop where
  read : ∀ last offset value, offset ≠ Register.miiStatus.offset → allowed last (.read offset value)
  pause : ∀ last microseconds, allowed last (.pause microseconds)
  note : Notes allowed

theorem waits_passive : Waits fun _ event => event.Passive where
  read _ _ _ _ := trivial
  pause _ _ := trivial
  note _ _ _ := trivial

variable {allowed : Event → Event → Prop} (waits : Waits allowed) {last : Event}

theorem emits_polls (timing : Timing) (timeoutMs : UInt32) {post : Nat → Event → Prop}
    (promise : ∀ budget, post budget last) :
    (timing.polls timeoutMs : Program σ Nat).Emits allowed post last := by
  unfold Timing.polls divide
  split <;> simp [promise]

include waits

theorem emits_await {look : Program σ Bool} {microseconds : UInt32} {post : Bool → Event → Prop}
    (looks : ∀ last, look.Emits allowed (fun _ _ => True) last)
    (promise : ∀ found last, post found last) (budget : Nat) :
    (await look microseconds budget).Emits allowed post last := by
  induction budget generalizing last with
  | zero => exact (looks last).imp fun _ _ _ => promise _ _
  | succ budget ih =>
    unfold await
    rw [emits_bind]
    apply (looks last).imp
    intro now after _
    cases now <;> simp [promise, waits.pause, ih]

theorem emits_awaitReset (timing : Timing) :
    (do
      let budget ← timing.polls timing.timeoutMs
      let complete ← await isResetComplete timing.pollUs budget
      if complete then return .ok ()
      else
        note (.resetTimedOut timing.timeoutMs)
        return .error .deviceError : Program σ (Except Error Unit)).Emits allowed
      (fun _ _ => True) last := by
  rw [emits_bind]
  apply emits_polls
  intro budget
  rw [emits_bind]
  refine emits_await waits ?_ ?_ budget
  · exact fun last value => ⟨waits.read _ _ _ (by decide), trivial⟩
  · intro found last
    cases found with
    | true => trivial
    | false => exact ⟨waits.note _ _ (by simp), trivial⟩

theorem emits_softReset (timing : Timing)
    (ask : allowed last (.write Register.busMode.offset Control.softReset.mask))
    (output : ∀ value, allowed (.read Register.generalPurpose.offset value)
      (.write Register.generalPurpose.offset (value ||| Control.generalOutput.mask))) :
    (softReset timing : Program σ (Except Error Unit)).Emits allowed (fun _ _ => True) last :=
  ⟨ask, fun value => ⟨waits.read _ _ _ (by decide), output value, emits_awaitReset waits timing⟩⟩

theorem emits_awaitBusIdle (timing : Timing) (timeoutMs : UInt32) :
    (awaitBusIdle timing timeoutMs : Program σ Bool).Emits allowed (fun _ _ => True) last := by
  unfold awaitBusIdle
  rw [emits_bind]
  apply emits_polls
  intro budget
  rw [emits_bind]
  refine emits_await waits ?_ ?_ budget
  · exact fun last value => ⟨waits.read _ _ _ (by decide), trivial⟩
  · intro found last
    rw [emits_bind]
    exact emits_noteWhen (waits.note _ _ (by simp)) (by simp)

end Wait

section Run

variable {allowed : Event → Event → Prop} {post : α → Event → Prop} {program : Program σ α}
  {last : Event} {hardware : Hardware}

/-- Without pauses nothing waits. -/
theorem Emits.pauses_run (emits : program.Emits allowed post last)
    (never : ∀ last microseconds, ¬ allowed last (.pause microseconds)) (machine : Machine σ) :
    (program.run hardware machine).2.bus.pauses = machine.bus.pauses := by
  induction program generalizing last machine with
  | done value => rfl
  | fault cause => rfl
  | readThen offset next ih => exact ih _ (emits _).2 _
  | writeThen offset value next ih => exact ih emits.2 _
  | pauseThen microseconds next ih => exact absurd emits.1 (never _ _)
  | noteThen notice next ih => exact ih emits.2 _
  | getThen next ih => exact ih _ (emits _) _
  | setThen new next ih => exact ih emits _

theorem Emits.allowed_of_mem (emits : program.Emits allowed post last) (machine : Machine σ) :
    ∀ write ∈ program.writes hardware machine,
      ∃ last, allowed last (.write write.offset write.value) := by
  induction program generalizing last machine with
  | done value => simp [writes]
  | fault cause => simp [writes]
  | readThen offset next ih => exact ih _ (emits _).2 _
  | writeThen offset value next ih =>
    rw [writes, List.forall_mem_cons]
    exact ⟨⟨last, emits.1⟩, ih emits.2 _⟩
  | pauseThen microseconds next ih => exact ih emits.2 _
  | noteThen notice next ih => exact ih emits.2 _
  | getThen next ih => exact ih _ (emits _) _
  | setThen new next ih => exact ih emits _

/-- Not only the writes of a run but all its events are allowed. -/
theorem Emits.allowed_of_mem_events (emits : program.Emits allowed post last)
    (machine : Machine σ) :
    ∀ event ∈ program.events hardware machine, ∃ last, allowed last event := by
  induction program generalizing last machine with
  | done value => simp [events]
  | fault cause => simp [events]
  | readThen offset next ih =>
    rw [events, List.forall_mem_cons]
    exact ⟨⟨last, (emits _).1⟩, ih _ (emits _).2 _⟩
  | writeThen offset value next ih =>
    rw [events, List.forall_mem_cons]
    exact ⟨⟨last, emits.1⟩, ih emits.2 _⟩
  | pauseThen microseconds next ih =>
    rw [events, List.forall_mem_cons]
    exact ⟨⟨last, emits.1⟩, ih emits.2 _⟩
  | noteThen notice next ih =>
    rw [events, List.forall_mem_cons]
    exact ⟨⟨last, emits.1⟩, ih emits.2 _⟩
  | getThen next ih => exact ih _ (emits _) _
  | setThen new next ih => exact ih emits _

theorem Emits.writes_eq_nil (emits : program.Emits (fun _ event => event.Passive) post last)
    (machine : Machine σ) : program.writes hardware machine = [] := by
  rw [List.eq_nil_iff_forall_not_mem]
  intro write made
  obtain ⟨_, allow⟩ := emits.allowed_of_mem machine write made
  exact allow

end Run

end Program

end EthernetMac
