import EthernetMac.Error
import EthernetMac.Notice
import EthernetMac.RegisterFile

/-!
Driver code as a value. A `Program σ α` reads and writes registers, pauses,
writes notices and changes shared state `σ` before it ends with an `α` or a
fault. `Program.run` is its meaning on a machine whose hardware may change the
registers during each pause, and only then. Statements: `run` takes `bind` to
composition, and a program on a part of the state leaves the rest alone.
-/

namespace EthernetMac

/-- What a run did, as seen from outside. -/
inductive Event where
  | read (offset : Nat) (value : UInt32)
  | write (offset : Nat) (value : UInt32)
  | pause (microseconds : UInt32)
  | notice (notice : Notice)
deriving DecidableEq, Repr

/-- The time an event takes; only pauses take any. -/
def Event.microseconds : Event → Nat
  | pause microseconds => microseconds.toNat
  | _ => 0

def Event.notice? : Event → Option Notice
  | notice message => some message
  | _ => none

/-- The registers, the pauses made so far, and all events, newest first. -/
@[ext] structure Bus where
  registers : RegisterFile
  pauses : Nat := 0
  journal : List Event := []

@[ext] structure Machine (σ : Type) where
  bus : Bus
  state : σ

/-- What the hardware makes of the registers during the pause with that number,
counted from one. -/
abbrev Hardware := Nat → RegisterFile → RegisterFile

def Hardware.idle : Hardware := fun _ file => file

namespace Bus

def record (bus : Bus) (event : Event) : Bus := { bus with journal := event :: bus.journal }

def read (bus : Bus) (offset : Nat) : Bus :=
  bus.record (.read offset (bus.registers.read offset))

def write (bus : Bus) (offset : Nat) (value : UInt32) : Bus :=
  { bus.record (.write offset value) with registers := bus.registers.write offset value }

def pause (bus : Bus) (hardware : Hardware) (microseconds : UInt32) : Bus :=
  { bus.record (.pause microseconds) with
    registers := hardware (bus.pauses + 1) bus.registers
    pauses := bus.pauses + 1 }

def note (bus : Bus) (notice : Notice) : Bus := bus.record (.notice notice)

/-- The notices in the order they were written. -/
def notices (bus : Bus) : List Notice := bus.journal.reverse.filterMap Event.notice?

/-- The time paused in all. -/
def pausedMicroseconds (bus : Bus) : Nat :=
  bus.journal.foldr (fun event total => event.microseconds + total) 0

section Fields

variable (bus : Bus) (offset : Nat) (value : UInt32) (notice : Notice) (hardware : Hardware)

@[simp] theorem registers_read : (bus.read offset).registers = bus.registers := rfl

@[simp] theorem registers_write :
    (bus.write offset value).registers = bus.registers.write offset value := rfl

@[simp] theorem registers_note : (bus.note notice).registers = bus.registers := rfl

@[simp] theorem registers_pause :
    (bus.pause hardware value).registers = hardware (bus.pauses + 1) bus.registers := rfl

@[simp] theorem pauses_read : (bus.read offset).pauses = bus.pauses := rfl

@[simp] theorem pauses_write : (bus.write offset value).pauses = bus.pauses := rfl

@[simp] theorem pauses_note : (bus.note notice).pauses = bus.pauses := rfl

@[simp] theorem pauses_pause : (bus.pause hardware value).pauses = bus.pauses + 1 := rfl

@[simp] theorem pausedMicroseconds_read :
    (bus.read offset).pausedMicroseconds = bus.pausedMicroseconds := Nat.zero_add _

@[simp] theorem pausedMicroseconds_write :
    (bus.write offset value).pausedMicroseconds = bus.pausedMicroseconds := Nat.zero_add _

@[simp] theorem pausedMicroseconds_note :
    (bus.note notice).pausedMicroseconds = bus.pausedMicroseconds := Nat.zero_add _

@[simp] theorem pausedMicroseconds_pause :
    (bus.pause hardware value).pausedMicroseconds = bus.pausedMicroseconds + value.toNat :=
  Nat.add_comm _ _

end Fields

end Bus

inductive Program (σ α : Type) : Type where
  | done (value : α)
  | fault (cause : Fault)
  | readThen (offset : Nat) (next : UInt32 → Program σ α)
  | writeThen (offset : Nat) (value : UInt32) (next : Program σ α)
  | pauseThen (microseconds : UInt32) (next : Program σ α)
  | noteThen (notice : Notice) (next : Program σ α)
  | getThen (next : σ → Program σ α)
  | setThen (state : σ) (next : Program σ α)

namespace Program

variable {σ τ α β : Type}

def run (hardware : Hardware) : Program σ α → Machine σ → Except Fault α × Machine σ
  | done value, machine => (.ok value, machine)
  | fault cause, machine => (.error cause, machine)
  | readThen offset next, machine =>
    (next (machine.bus.registers.read offset)).run hardware
      { machine with bus := machine.bus.read offset }
  | writeThen offset value next, machine =>
    next.run hardware { machine with bus := machine.bus.write offset value }
  | pauseThen microseconds next, machine =>
    next.run hardware { machine with bus := machine.bus.pause hardware microseconds }
  | noteThen notice next, machine =>
    next.run hardware { machine with bus := machine.bus.note notice }
  | getThen next, machine => (next machine.state).run hardware machine
  | setThen state next, machine => next.run hardware { machine with state := state }

def bind : Program σ α → (α → Program σ β) → Program σ β
  | done value, rest => rest value
  | fault cause, _ => fault cause
  | readThen offset next, rest => readThen offset fun value => (next value).bind rest
  | writeThen offset value next, rest => writeThen offset value (next.bind rest)
  | pauseThen microseconds next, rest => pauseThen microseconds (next.bind rest)
  | noteThen notice next, rest => noteThen notice (next.bind rest)
  | getThen next, rest => getThen fun state => (next state).bind rest
  | setThen state next, rest => setThen state (next.bind rest)

instance : Monad (Program σ) where
  pure := done
  bind := bind

def readAt (offset : Nat) : Program σ UInt32 := readThen offset done

def writeAt (offset : Nat) (value : UInt32) : Program σ Unit := writeThen offset value (done ())

def read (register : Register) : Program σ UInt32 := readAt register.offset

def write (register : Register) (value : UInt32) : Program σ Unit := writeAt register.offset value

def pause (microseconds : UInt32) : Program σ Unit := pauseThen microseconds (done ())

def note (notice : Notice) : Program σ Unit := noteThen notice (done ())

def noteWhen (condition : Bool) (notice : Notice) : Program σ Unit :=
  if condition then note notice else done ()

def get : Program σ σ := getThen done

def put (state : σ) : Program σ Unit := setThen state (done ())

def modify (change : σ → σ) : Program σ Unit := getThen fun state => put (change state)

/-- Lets a program on a part of the state run on the whole. -/
def within (part : τ → σ) (update : σ → τ → τ) : Program σ α → Program τ α
  | done value => done value
  | fault cause => fault cause
  | readThen offset next => readThen offset fun value => (next value).within part update
  | writeThen offset value next => writeThen offset value (next.within part update)
  | pauseThen microseconds next => pauseThen microseconds (next.within part update)
  | noteThen notice next => noteThen notice (next.within part update)
  | getThen next => getThen fun whole => (next (part whole)).within part update
  | setThen state next => getThen fun whole =>
    setThen (update state whole) (next.within part update)

/-! Steps that fault where an access would be out of range. -/

def divide (dividend divisor : Nat) : Program σ Nat :=
  if divisor = 0 then fault .zeroDivisor else done (dividend / divisor)

/-- The bytes from `start` up to `stop`. -/
def slice (start stop : Nat) (bytes : List UInt8) : Program σ (List UInt8) :=
  if start ≤ stop ∧ stop ≤ bytes.length then done ((bytes.take stop).drop start)
  else fault (.slice stop bytes.length)

def byteAt (index : Nat) (bytes : List UInt8) : Program σ UInt8 :=
  if inside : index < bytes.length then done bytes[index] else fault (.index index bytes.length)

/-- The first `count` bytes. -/
def firstBytes (count : Nat) (bytes : List UInt8) : Program σ (List UInt8) :=
  if count ≤ bytes.length then done (bytes.take count)
  else fault (.slice count bytes.length)

/-- `target` with its first bytes replaced by `bytes`. -/
def overwrite (bytes target : List UInt8) : Program σ (List UInt8) :=
  if bytes.length ≤ target.length then done (bytes ++ target.drop bytes.length)
  else fault (.slice bytes.length target.length)

def element {n : Nat} (items : Vector α n) (index : Nat) : Program σ α :=
  if inside : index < n then done items[index] else fault (.index index n)

theorem bind_assoc {γ : Type} (program : Program σ α) (first : α → Program σ β)
    (second : β → Program σ γ) :
    (program.bind first).bind second = program.bind fun value => (first value).bind second := by
  induction program with
  | done value => rfl
  | fault cause => rfl
  | readThen offset next ih => exact congrArg (readThen offset) (funext ih)
  | writeThen offset value next ih => exact congrArg (writeThen offset value) ih
  | pauseThen microseconds next ih => exact congrArg (pauseThen microseconds) ih
  | noteThen notice next ih => exact congrArg (noteThen notice) ih
  | getThen next ih => exact congrArg getThen (funext ih)
  | setThen state next ih => exact congrArg (setThen state) ih

theorem bind_done (program : Program σ α) : program.bind done = program := by
  induction program with
  | done value => rfl
  | fault cause => rfl
  | readThen offset next ih => exact congrArg (readThen offset) (funext ih)
  | writeThen offset value next ih => exact congrArg (writeThen offset value) ih
  | pauseThen microseconds next ih => exact congrArg (pauseThen microseconds) ih
  | noteThen notice next ih => exact congrArg (noteThen notice) ih
  | getThen next ih => exact congrArg getThen (funext ih)
  | setThen state next ih => exact congrArg (setThen state) ih

instance : LawfulMonad (Program σ) :=
  LawfulMonad.mk' (Program σ) bind_done (fun _ _ => rfl) bind_assoc

/-! The meaning of the steps. -/

section Run

variable (hardware : Hardware) (machine : Machine σ)

@[simp] theorem run_pure (value : α) :
    (pure value : Program σ α).run hardware machine = (.ok value, machine) := rfl

@[simp] theorem run_done (value : α) :
    (done value : Program σ α).run hardware machine = (.ok value, machine) := rfl

@[simp] theorem run_fault (cause : Fault) :
    (fault cause : Program σ α).run hardware machine = (.error cause, machine) := rfl

theorem run_bind (program : Program σ α) (rest : α → Program σ β) :
    (program >>= rest).run hardware machine =
      match program.run hardware machine with
      | (.ok value, after) => (rest value).run hardware after
      | (.error cause, after) => (.error cause, after) := by
  show (program.bind rest).run hardware machine = _
  induction program generalizing machine with
  | done value => rfl
  | fault cause => rfl
  | readThen offset next ih => exact ih _ _
  | writeThen offset value next ih => exact ih _
  | pauseThen microseconds next ih => exact ih _
  | noteThen notice next ih => exact ih _
  | getThen next ih => exact ih _ _
  | setThen state next ih => exact ih _

theorem run_map (program : Program σ α) (f : α → β) :
    (f <$> program).run hardware machine =
      match program.run hardware machine with
      | (.ok value, after) => (.ok (f value), after)
      | (.error cause, after) => (.error cause, after) := by
  rw [← bind_pure_comp, run_bind]
  rfl

@[simp] theorem run_readAt (offset : Nat) :
    (readAt offset : Program σ UInt32).run hardware machine =
      (.ok (machine.bus.registers.read offset),
        { machine with bus := machine.bus.read offset }) := rfl

@[simp] theorem run_writeAt (offset : Nat) (value : UInt32) :
    (writeAt offset value : Program σ Unit).run hardware machine =
      (.ok (), { machine with bus := machine.bus.write offset value }) := rfl

@[simp] theorem run_read (register : Register) :
    (read register : Program σ UInt32).run hardware machine =
      (.ok (machine.bus.registers.read register.offset),
        { machine with bus := machine.bus.read register.offset }) := rfl

@[simp] theorem run_write (register : Register) (value : UInt32) :
    (write register value : Program σ Unit).run hardware machine =
      (.ok (), { machine with bus := machine.bus.write register.offset value }) := rfl

@[simp] theorem run_pause (microseconds : UInt32) :
    (pause microseconds : Program σ Unit).run hardware machine =
      (.ok (), { machine with bus := machine.bus.pause hardware microseconds }) := rfl

@[simp] theorem run_note (notice : Notice) :
    (note notice : Program σ Unit).run hardware machine =
      (.ok (), { machine with bus := machine.bus.note notice }) := rfl

@[simp] theorem run_get :
    (get : Program σ σ).run hardware machine = (.ok machine.state, machine) := rfl

@[simp] theorem run_modify (change : σ → σ) :
    (modify change).run hardware machine =
      (.ok (), { machine with state := change machine.state }) := rfl

@[simp] theorem run_noteWhen (condition : Bool) (notice : Notice) :
    (noteWhen condition notice : Program σ Unit).run hardware machine =
      (.ok (), if condition then { machine with bus := machine.bus.note notice } else machine) := by
  cases condition <;> rfl

end Run

theorem run_within {part : τ → σ} {update : σ → τ → τ}
    (part_update : ∀ state whole, part (update state whole) = state)
    (update_part : ∀ whole, update (part whole) whole = whole)
    (update_update : ∀ first second whole,
      update first (update second whole) = update first whole)
    (hardware : Hardware) (program : Program σ α) (machine : Machine τ) :
    (program.within part update).run hardware machine =
      let result := program.run hardware ⟨machine.bus, part machine.state⟩
      (result.1, ⟨result.2.bus, update result.2.state machine.state⟩) := by
  induction program generalizing machine with
  | done value => simp [within, run, update_part]
  | fault cause => simp [within, run, update_part]
  | readThen offset next ih => exact ih _ _
  | writeThen offset value next ih => exact ih _
  | pauseThen microseconds next ih => exact ih _
  | noteThen notice next ih => exact ih _
  | getThen next ih => exact ih _ _
  | setThen state next ih => simp [within, run, ih, part_update, update_update]

end Program

end EthernetMac
