import EthernetMac.Proofs.Program.Emits
import EthernetMac.Proofs.Program.Silent

/-!
What holds all through a run. `Upholds` follows a run on its machine and asks for a property
of the registers after each single write and pause; so it holds at every moment, and not only
where the run ends. What the writes that a program may cause keep, the program upholds.
-/

namespace EthernetMac

/-- What was just read is still there. -/
def Event.Recalls (file : RegisterFile) : Event → Prop
  | read offset value => file.read offset = value
  | _ => True

namespace Program

variable {σ α β : Type} {hardware : Hardware} {holds : RegisterFile → Prop} {machine : Machine σ}

/-- Every change of the registers in the run leaves them as they should be. -/
def Upholds (hardware : Hardware) (holds : RegisterFile → Prop) :
    Program σ α → Machine σ → Prop
  | done _, _ => True
  | fault _, _ => True
  | readThen offset next, machine =>
    (next (machine.bus.registers.read offset)).Upholds hardware holds
      { machine with bus := machine.bus.read offset }
  | writeThen offset value next, machine =>
    holds (machine.bus.registers.write offset value) ∧
      next.Upholds hardware holds { machine with bus := machine.bus.write offset value }
  | pauseThen microseconds next, machine =>
    holds (hardware (machine.bus.pauses + 1) machine.bus.registers) ∧
      next.Upholds hardware holds { machine with bus := machine.bus.pause hardware microseconds }
  | noteThen notice next, machine =>
    next.Upholds hardware holds { machine with bus := machine.bus.note notice }
  | getThen next, machine => (next machine.state).Upholds hardware holds machine
  | setThen state next, machine => next.Upholds hardware holds { machine with state := state }

theorem Upholds.bind {program : Program σ α} {rest : α → Program σ β}
    (first : program.Upholds hardware holds machine)
    (second : ∀ value after, program.run hardware machine = (.ok value, after) →
      (rest value).Upholds hardware holds after) :
    (program >>= rest).Upholds hardware holds machine := by
  show (program.bind rest).Upholds hardware holds machine
  induction program generalizing machine with
  | done value => exact second value machine rfl
  | fault cause => trivial
  | readThen offset next ih => exact ih _ first second
  | writeThen offset value next ih => exact ⟨first.1, ih first.2 second⟩
  | pauseThen microseconds next ih => exact ⟨first.1, ih first.2 second⟩
  | noteThen notice next ih => exact ih first second
  | getThen next ih => exact ih _ first second
  | setThen state next ih => exact ih first second

theorem Upholds.bind_get {rest : σ → Program σ α}
    (later : (rest machine.state).Upholds hardware holds machine) :
    (get >>= rest).Upholds hardware holds machine := later

theorem Upholds.imp {other : RegisterFile → Prop} {program : Program σ α}
    (upholds : program.Upholds hardware holds machine)
    (implies : ∀ file, holds file → other file) : program.Upholds hardware other machine := by
  induction program generalizing machine with
  | done value => trivial
  | fault cause => trivial
  | readThen offset next ih => exact ih _ upholds
  | writeThen offset value next ih => exact ⟨implies _ upholds.1, ih upholds.2⟩
  | pauseThen microseconds next ih => exact ⟨implies _ upholds.1, ih upholds.2⟩
  | noteThen notice next ih => exact ih upholds
  | getThen next ih => exact ih _ upholds
  | setThen state next ih => exact ih upholds

theorem Upholds.map {program : Program σ α} (upholds : program.Upholds hardware holds machine)
    (f : α → β) : (f <$> program).Upholds hardware holds machine := by
  rw [← bind_pure_comp]
  exact upholds.bind fun _ _ _ => trivial

/-- The property holds after each write. -/
theorem Upholds.writes {program : Program σ α} (upholds : program.Upholds hardware holds machine) :
    ∀ write ∈ program.writes hardware machine, holds write.after.bus.registers := by
  induction program generalizing machine with
  | done value => simp [Program.writes]
  | fault cause => simp [Program.writes]
  | readThen offset next ih => exact ih _ upholds
  | writeThen offset value next ih =>
    rw [Program.writes, List.forall_mem_cons]
    exact ⟨upholds.1, ih upholds.2⟩
  | pauseThen microseconds next ih => exact ih upholds.2
  | noteThen notice next ih => exact ih upholds
  | getThen next ih => exact ih _ upholds
  | setThen state next ih => exact ih upholds

/-- If it held at the beginning, it holds at the end. -/
theorem Upholds.run {program : Program σ α} (upholds : program.Upholds hardware holds machine)
    (start : holds machine.bus.registers) :
    holds (program.run hardware machine).2.bus.registers := by
  induction program generalizing machine with
  | done value => exact start
  | fault cause => exact start
  | readThen offset next ih => exact ih _ upholds start
  | writeThen offset value next ih => exact ih upholds.2 upholds.1
  | pauseThen microseconds next ih => exact ih upholds.2 upholds.1
  | noteThen notice next ih => exact ih upholds start
  | getThen next ih => exact ih _ upholds start
  | setThen state next ih => exact ih upholds start

/-- After a silent program the state is what it was. -/
theorem Upholds.bind_of_silent {program : Program σ α} {rest : α → Program σ β}
    (quiet : program.Silent) (first : program.Upholds hardware holds machine)
    (start : holds machine.bus.registers)
    (second : ∀ value bus, holds bus.registers →
      (rest value).Upholds hardware holds ⟨bus, machine.state⟩) :
    (program >>= rest).Upholds hardware holds machine := by
  apply first.bind
  intro value after ran
  have kept := first.run start
  obtain ⟨_, bus, silent, -⟩ := quiet.run hardware machine
  rw [silent] at ran kept
  obtain ⟨-, rfl⟩ := Prod.mk.inj ran
  exact second value bus kept

/-- What the allowed writes keep, and the hardware in the allowed pauses, holds throughout. -/
theorem Emits.upholds {allowed : Event → Event → Prop} {post : α → Event → Prop}
    {program : Program σ α} {last : Event} (emits : program.Emits allowed post last)
    (write : ∀ last offset value (file : RegisterFile), allowed last (.write offset value) →
      last.Recalls file → holds file → holds (file.write offset value))
    (pause : ∀ last microseconds, allowed last (.pause microseconds) →
      ∀ count file, holds file → holds (hardware count file))
    (recalls : last.Recalls machine.bus.registers) (start : holds machine.bus.registers) :
    program.Upholds hardware holds machine := by
  induction program generalizing last machine with
  | done value => trivial
  | fault cause => trivial
  | readThen offset next ih => exact ih _ (emits _).2 rfl start
  | writeThen offset value next ih =>
    have kept := write _ _ _ _ emits.1 recalls start
    exact ⟨kept, ih emits.2 trivial kept⟩
  | pauseThen microseconds next ih =>
    have kept := pause _ _ emits.1 (machine.bus.pauses + 1) _ start
    exact ⟨kept, ih emits.2 trivial kept⟩
  | noteThen notice next ih => exact ih emits.2 trivial start
  | getThen next ih => exact ih _ (emits _) recalls start
  | setThen state next ih => exact ih emits recalls start

/-- Looking at the registers and telling of them changes none. -/
theorem registers_of_observing {program : Program σ α} (hardware : Hardware) (machine : Machine σ)
    (emits : program.Emits (fun _ event => event.Observes) (fun _ _ => True) (.pause 0)) :
    (program.run hardware machine).2.bus.registers = machine.bus.registers := by
  have upholds : program.Upholds hardware (· = machine.bus.registers) machine :=
    emits.upholds (fun _ _ _ _ writes => writes.elim) (fun _ _ waits => waits.elim) trivial rfl
  exact upholds.run rfl

section Recent

variable {allowed : Event → Event → Prop} {post : α → Event → Prop} {program : Program σ α}

/-- Each write of a run is allowed after the event before it, and what that event read is
still there; `gained` are the events of the run up to then, the latest first. -/
theorem Emits.allowed_after {initial : Event} {start : Bus} (gained : List Event)
    (emits : program.Emits allowed post (gained.headD initial))
    (ran : machine.bus.journal = gained ++ start.journal)
    (recalls : (gained.headD initial).Recalls machine.bus.registers) :
    ∀ write ∈ program.writes hardware machine, ∃ gained,
      write.before.bus.journal = gained ++ start.journal ∧
        allowed (gained.headD initial) (.write write.offset write.value) ∧
        (gained.headD initial).Recalls write.before.bus.registers := by
  induction program generalizing machine gained with
  | done value => simp [Program.writes]
  | fault cause => simp [Program.writes]
  | readThen offset next ih =>
    exact ih _ (.read offset _ :: gained) (emits _).2 (congrArg (_ :: ·) ran) rfl
  | writeThen offset value next ih =>
    rw [Program.writes, List.forall_mem_cons]
    refine ⟨⟨gained, ran, emits.1, recalls⟩, ?_⟩
    exact ih (.write offset value :: gained) emits.2 (congrArg (_ :: ·) ran) trivial
  | pauseThen microseconds next ih =>
    exact ih (.pause microseconds :: gained) emits.2 (congrArg (_ :: ·) ran) trivial
  | noteThen notice next ih =>
    exact ih (.notice notice :: gained) emits.2 (congrArg (_ :: ·) ran) trivial
  | getThen next ih => exact ih _ gained (emits _) ran recalls
  | setThen state next ih => exact ih gained emits ran recalls

/-- A write that is allowed only after a read of its register revises what was read. -/
theorem Emits.revises (emits : program.Emits allowed post (.pause 0)) :
    ∀ write ∈ program.writes hardware machine, ∃ last,
      allowed last (.write write.offset write.value) ∧
        ∀ value, last = .read write.offset value → ∀ relates, relates value write.value →
          write.Revises machine.bus relates := by
  intro write made
  have begun : machine.bus.journal = [] ++ machine.bus.journal := rfl
  obtain ⟨gained, journal, allow, recalls⟩ := emits.allowed_after [] begun trivial write made
  refine ⟨_, allow, ?_⟩
  intro value read relates related
  cases gained with
  | nil => contradiction
  | cons last earlier =>
    obtain rfl : last = .read write.offset value := read
    have recent : write.before.bus.since machine.bus =
        (Event.read write.offset value :: earlier).reverse :=
      Bus.since_of_append (by rw [List.reverse_reverse, journal])
    refine ⟨value, ?_, recalls, related⟩
    rw [recent, List.getLast?_reverse]
    rfl

end Recent

end Program

end EthernetMac
