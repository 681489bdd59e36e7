import EthernetMac.Proofs.Program.Ensures

/-!
What a run leaves behind besides its result: the events since it began, and the register
writes it made, each with the machine that makes it. So one can speak of every moment of
a run and not of its ends alone.
-/

namespace EthernetMac

namespace Event

/-- A look at that register. -/
def looksAt (offset : Nat) : Event → Bool
  | read other _ => other == offset
  | _ => false

/-- How long an event pauses, if it is a pause. -/
def pause? : Event → Option UInt32
  | pause microseconds => some microseconds
  | _ => none

end Event

namespace Bus

/-- What happened since `earlier`, in order. -/
def since (bus earlier : Bus) : List Event :=
  (bus.journal.take (bus.journal.length - earlier.journal.length)).reverse

theorem since_of_append {bus earlier : Bus} {gained : List Event}
    (added : bus.journal = gained.reverse ++ earlier.journal) : bus.since earlier = gained := by
  simp [since, added]

end Bus

/-- A register write, and the machine that makes it. -/
structure Write (σ : Type) where
  before : Machine σ
  offset : Nat
  value : UInt32

namespace Write

variable {σ : Type} (write : Write σ)

def after : Machine σ :=
  { write.before with bus := write.before.bus.write write.offset write.value }

/-- What is written, and where. -/
def entry : Nat × UInt32 := (write.offset, write.value)

/-- What is written is made from what was read there right before, in a run that began with
`start`, and what was read is still there. -/
def Revises (start : Bus) (relates : UInt32 → UInt32 → Prop) : Prop :=
  ∃ value, (write.before.bus.since start).getLast? = some (.read write.offset value) ∧
    write.before.bus.registers.read write.offset = value ∧ relates value write.value

end Write

/-- Whoever makes the change leaves a cell alone. -/
def LeavesAlone (offset : Nat) (change : RegisterFile → RegisterFile) : Prop :=
  ∀ file, (change file).read offset = file.read offset

namespace Program

variable {σ τ α β : Type}

/-- The events of a run, in order. -/
def events (hardware : Hardware) : Program σ α → Machine σ → List Event
  | done _, _ => []
  | fault _, _ => []
  | readThen offset next, machine =>
    .read offset (machine.bus.registers.read offset) ::
      (next (machine.bus.registers.read offset)).events hardware
        { machine with bus := machine.bus.read offset }
  | writeThen offset value next, machine =>
    .write offset value ::
      next.events hardware { machine with bus := machine.bus.write offset value }
  | pauseThen microseconds next, machine =>
    .pause microseconds ::
      next.events hardware { machine with bus := machine.bus.pause hardware microseconds }
  | noteThen notice next, machine =>
    .notice notice :: next.events hardware { machine with bus := machine.bus.note notice }
  | getThen next, machine => (next machine.state).events hardware machine
  | setThen state next, machine => next.events hardware { machine with state := state }

theorem journal_run (hardware : Hardware) (program : Program σ α) (machine : Machine σ) :
    (program.run hardware machine).2.bus.journal =
      (program.events hardware machine).reverse ++ machine.bus.journal := by
  induction program generalizing machine with
  | done value => rfl
  | fault cause => rfl
  | readThen offset next ih => simp [run, events, ih, Bus.read, Bus.record]
  | writeThen offset value next ih => simp [run, events, ih, Bus.write, Bus.record]
  | pauseThen microseconds next ih => simp [run, events, ih, Bus.pause, Bus.record]
  | noteThen notice next ih => simp [run, events, ih, Bus.note, Bus.record]
  | getThen next ih => exact ih _ _
  | setThen state next ih => exact ih _

theorem since_run (hardware : Hardware) (program : Program σ α) (machine : Machine σ) :
    (program.run hardware machine).2.bus.since machine.bus = program.events hardware machine :=
  Bus.since_of_append (journal_run hardware program machine)

theorem events_bind (hardware : Hardware) (machine : Machine σ) (program : Program σ α)
    (rest : α → Program σ β) :
    (program >>= rest).events hardware machine =
      program.events hardware machine ++
        match program.run hardware machine with
        | (.ok value, after) => (rest value).events hardware after
        | (.error _, _) => [] := by
  show (program.bind rest).events hardware machine = _
  induction program generalizing machine with
  | done value => rfl
  | fault cause => rfl
  | readThen offset next ih =>
    exact congrArg (.read offset (machine.bus.registers.read offset) :: ·) (ih _ _)
  | writeThen offset value next ih => exact congrArg (.write offset value :: ·) (ih _)
  | pauseThen microseconds next ih => exact congrArg (.pause microseconds :: ·) (ih _)
  | noteThen notice next ih => exact congrArg (.notice notice :: ·) (ih _)
  | getThen next ih => exact ih _ _
  | setThen state next ih => exact ih _

theorem events_map (hardware : Hardware) (machine : Machine σ) (program : Program σ α) (f : α → β) :
    (f <$> program).events hardware machine = program.events hardware machine := by
  rw [← bind_pure_comp, events_bind]
  split <;> exact List.append_nil _

/-- A program on a part of the state does the same on the whole. -/
theorem events_within {part : τ → σ} {update : σ → τ → τ}
    (part_update : ∀ state whole, part (update state whole) = state) (hardware : Hardware)
    (program : Program σ α) (machine : Machine τ) :
    (program.within part update).events hardware machine =
      program.events hardware ⟨machine.bus, part machine.state⟩ := by
  induction program generalizing machine with
  | done value => rfl
  | fault cause => rfl
  | readThen offset next ih => simp [within, events, ih]
  | writeThen offset value next ih => simp [within, events, ih]
  | pauseThen microseconds next ih => simp [within, events, ih]
  | noteThen notice next ih => simp [within, events, ih]
  | getThen next ih => exact ih _ _
  | setThen state next ih => simp [within, events, ih, part_update]

/-- The register writes of a run, in order. -/
def writes (hardware : Hardware) : Program σ α → Machine σ → List (Write σ)
  | done _, _ => []
  | fault _, _ => []
  | readThen offset next, machine =>
    (next (machine.bus.registers.read offset)).writes hardware
      { machine with bus := machine.bus.read offset }
  | writeThen offset value next, machine =>
    ⟨machine, offset, value⟩ ::
      next.writes hardware { machine with bus := machine.bus.write offset value }
  | pauseThen microseconds next, machine =>
    next.writes hardware { machine with bus := machine.bus.pause hardware microseconds }
  | noteThen notice next, machine =>
    next.writes hardware { machine with bus := machine.bus.note notice }
  | getThen next, machine => (next machine.state).writes hardware machine
  | setThen state next, machine => next.writes hardware { machine with state := state }

@[simp] theorem writes_pure (hardware : Hardware) (machine : Machine σ) (value : α) :
    (pure value : Program σ α).writes hardware machine = [] := rfl

@[simp] theorem writes_get (hardware : Hardware) (machine : Machine σ) :
    (get : Program σ σ).writes hardware machine = [] := rfl

theorem writes_bind (hardware : Hardware) (machine : Machine σ) (program : Program σ α)
    (rest : α → Program σ β) :
    (program >>= rest).writes hardware machine =
      program.writes hardware machine ++
        match program.run hardware machine with
        | (.ok value, after) => (rest value).writes hardware after
        | (.error _, _) => [] := by
  show (program.bind rest).writes hardware machine = _
  induction program generalizing machine with
  | done value => rfl
  | fault cause => rfl
  | readThen offset next ih => exact ih _ _
  | writeThen offset value next ih => exact congrArg (⟨machine, offset, value⟩ :: ·) (ih _)
  | pauseThen microseconds next ih => exact ih _
  | noteThen notice next ih => exact ih _
  | getThen next ih => exact ih _ _
  | setThen state next ih => exact ih _

theorem writes_map (hardware : Hardware) (machine : Machine σ) (program : Program σ α) (f : α → β) :
    (f <$> program).writes hardware machine = program.writes hardware machine := by
  rw [← bind_pure_comp, writes_bind]
  split <;> exact List.append_nil _

/-- Who makes a write was set by the run or found by it. -/
theorem state_mem_of_mem_writes (hardware : Hardware) (program : Program σ α)
    (machine : Machine σ) : ∀ write ∈ program.writes hardware machine,
      write.before.state ∈ machine.state :: program.saves hardware machine := by
  induction program generalizing machine with
  | done value => simp [writes]
  | fault cause => simp [writes]
  | readThen offset next ih => exact ih _ _
  | writeThen offset value next ih =>
    rw [writes, List.forall_mem_cons]
    exact ⟨List.mem_cons_self, ih _⟩
  | pauseThen microseconds next ih => exact ih _
  | noteThen notice next ih => exact ih _
  | getThen next ih => exact ih _ _
  | setThen state next ih => exact fun write made => List.mem_cons_of_mem _ (ih _ write made)

/-- A cell that is not written keeps its content, if the hardware leaves it alone. -/
theorem read_run_of_unwritten {hardware : Hardware} {offset : Nat}
    (spares : ∀ pause, LeavesAlone offset (hardware pause)) (program : Program σ α)
    (machine : Machine σ)
    (unwritten : ∀ write ∈ program.writes hardware machine, write.offset ≠ offset) :
    (program.run hardware machine).2.bus.registers.read offset =
      machine.bus.registers.read offset := by
  induction program generalizing machine with
  | done value => rfl
  | fault cause => rfl
  | readThen other next ih => exact ih _ _ unwritten
  | writeThen other value next ih =>
    rw [writes, List.forall_mem_cons] at unwritten
    exact (ih _ unwritten.2).trans (RegisterFile.read_write_other unwritten.1.symm)
  | pauseThen microseconds next ih => exact (ih _ unwritten).trans (spares _ _)
  | noteThen notice next ih => exact ih _ unwritten
  | getThen next ih => exact ih _ _ unwritten
  | setThen state next ih => exact ih _ unwritten

end Program

end EthernetMac
