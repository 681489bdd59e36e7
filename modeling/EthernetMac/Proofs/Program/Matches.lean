import EthernetMac.Proofs.Program.Share
import EthernetMac.Proofs.Program.Trace

/-!
What a program does, as far as it is told by one who sees no more than a share of the registers
and a part of the state. `Matches` relates two programs step by step: what they read and find
may differ where it cannot be seen, and still they do the same. A program that matches itself
depends on what can be seen alone; the rules say so of every way to build one.
-/

namespace EthernetMac

/-- The share of the registers and the part of the state that are seen. -/
def Machine.seen {σ κ : Type} (share : Share) (part : σ → κ) (machine : Machine σ) :
    RegisterFile × κ :=
  (share.see machine.bus.registers, part machine.state)

namespace Program

variable {σ τ κ μ α β : Type}

/-- Alike in what is seen, the two do alike. A pause would let the hardware in, so there is
none. -/
inductive Matches (share : Share) (part : σ → κ) : Program σ α → Program σ α → Prop
  | done (value : α) : Matches share part (done value) (done value)
  | fault (cause : Fault) : Matches share part (fault cause) (fault cause)
  | read (offset : Nat) {next other : UInt32 → Program σ α}
    (later : ∀ value image, value &&& share.mask offset = image &&& share.mask offset →
      Matches share part (next value) (other image)) :
    Matches share part (readThen offset next) (readThen offset other)
  | write (offset : Nat) (value : UInt32) {next other : Program σ α}
    (later : Matches share part next other) :
    Matches share part (writeThen offset value next) (writeThen offset value other)
  | note (notice : Notice) {next other : Program σ α} (later : Matches share part next other) :
    Matches share part (noteThen notice next) (noteThen notice other)
  | get {next other : σ → Program σ α}
    (later : ∀ state image, part state = part image →
      Matches share part (next state) (other image)) :
    Matches share part (getThen next) (getThen other)
  | set {state image : σ} {next other : Program σ α} (same : part state = part image)
    (later : Matches share part next other) :
    Matches share part (setThen state next) (setThen image other)

/-- What the program does depends on no more than what is seen. -/
abbrev Heeds (share : Share) (part : σ → κ) (program : Program σ α) : Prop :=
  Matches share part program program

namespace Matches

variable {share : Share} {part : σ → κ}

section Rules

theorem bind {program other : Program σ α} {rest follow : α → Program σ β}
    (first : Matches share part program other)
    (second : ∀ value, Matches share part (rest value) (follow value)) :
    Matches share part (program >>= rest) (other >>= follow) := by
  show Matches share part (program.bind rest) (other.bind follow)
  induction first with
  | done value => exact second value
  | fault cause => exact .fault cause
  | read offset _ ih => exact .read offset ih
  | write offset value _ ih => exact .write offset value ih
  | note notice _ ih => exact .note notice ih
  | get _ ih => exact .get ih
  | set same _ ih => exact .set same ih

theorem map {program other : Program σ α} (first : Matches share part program other) (f : α → β) :
    Matches share part (f <$> program) (f <$> other) := by
  rw [← bind_pure_comp, ← bind_pure_comp]
  exact first.bind fun _ => .done _

theorem bind_get {rest follow : σ → Program σ α}
    (later : ∀ state image, part state = part image →
      Matches share part (rest state) (follow image)) :
    Matches share part (Program.get >>= rest) (Program.get >>= follow) := .get later

theorem bind_read (register : Register) {rest follow : UInt32 → Program σ α}
    (later : ∀ value image,
      value &&& share.mask register.offset = image &&& share.mask register.offset →
      Matches share part (rest value) (follow image)) :
    Matches share part (Program.read register >>= rest) (Program.read register >>= follow) :=
  .read _ later

theorem modify {change : σ → σ}
    (alike : ∀ state image, part state = part image → part (change state) = part (change image)) :
    (modify change).Heeds share part :=
  .get fun state image same => .set (alike state image same) (.done ())

theorem writeAt (offset : Nat) (value : UInt32) :
    (writeAt offset value).Heeds share part :=
  .write offset value (.done ())

theorem noteWhen (condition : Bool) (notice : Notice) :
    (noteWhen condition notice).Heeds share part := by
  cases condition with
  | true => exact .note notice (.done ())
  | false => exact .done ()

/-- Whoever sees a control can test it. -/
theorem isSet {control : Control}
    (known : control.mask &&& share.mask control.register.offset = control.mask) :
    (isSet control).Heeds share part := by
  refine .read _ fun value image same => ?_
  show Matches share part (.done (control.isSetIn value)) (.done (control.isSetIn image))
  rw [control.isSetIn_congr known same]
  exact .done _

/-- Bits may be set by one who sees the whole register. -/
theorem enable {control : Control} (whole : ~~~share.mask control.register.offset = 0) :
    (enable control).Heeds share part := by
  refine .read _ fun value image same => ?_
  rw [Word.eq_of_whole whole same]
  exact .writeAt _ _

theorem element {n : Nat} (items : Vector α n) (index : Nat) :
    (element items index).Heeds share part := by
  unfold Program.element
  split
  · exact .done _
  · exact .fault _

theorem firstBytes (count : Nat) (bytes : List UInt8) :
    (firstBytes count bytes).Heeds share part := by
  unfold Program.firstBytes
  split
  · exact .done _
  · exact .fault _

theorem overwrite (bytes target : List UInt8) :
    (overwrite bytes target).Heeds share part := by
  unfold Program.overwrite
  split
  · exact .done _
  · exact .fault _

/-- A program on a part of the state that is itself seen in part. -/
theorem within {inner : τ → σ} {update : σ → τ → τ} {seen : τ → μ} {program other : Program σ α}
    (inner_alike : ∀ whole image, seen whole = seen image → part (inner whole) = part (inner image))
    (update_alike : ∀ state image whole other, part state = part image → seen whole = seen other →
      seen (update state whole) = seen (update image other))
    (first : Matches share part program other) :
    Matches share seen (program.within inner update) (other.within inner update) := by
  induction first with
  | done value => exact .done value
  | fault cause => exact .fault cause
  | read offset _ ih => exact .read offset ih
  | write offset value _ ih => exact .write offset value ih
  | note notice _ ih => exact .note notice ih
  | get _ ih =>
    exact .get fun whole image same => ih _ _ (inner_alike whole image same)
  | set same _ ih =>
    exact .get fun whole image alike => .set (update_alike _ _ _ _ same alike) ih

end Rules

/-- Programs that match, run on machines that look the same, end the same way, write the same
notices, and leave machines that look the same. -/
theorem run {program other : Program σ α} (first : Matches share part program other)
    (hardware : Hardware) {machine image : Machine σ}
    (same : machine.seen share part = image.seen share part) :
    (program.run hardware machine).1 = (other.run hardware image).1 ∧
      (program.events hardware machine).filterMap Event.notice? =
        (other.events hardware image).filterMap Event.notice? ∧
      (program.run hardware machine).2.seen share part =
        (other.run hardware image).2.seen share part := by
  -- Reads give values that agree in the share, and what is written there depends on it alone.
  induction first generalizing machine image with
  | done value => exact ⟨rfl, rfl, same⟩
  | fault cause => exact ⟨rfl, rfl, same⟩
  | read offset _ ih => exact ih _ _ (share.read_of_see (Prod.mk.inj same).1 offset) same
  | write offset value _ ih =>
    obtain ⟨registers, state⟩ := Prod.mk.inj same
    have written : share.see (machine.bus.registers.write offset value) =
        share.see (image.bus.registers.write offset value) := by
      rw [← share.see_write, registers, share.see_write]
    exact ih (Prod.ext written state)
  | note notice _ ih =>
    obtain ⟨outcome, notices, after⟩ :=
      @ih { machine with bus := machine.bus.note notice }
        { image with bus := image.bus.note notice } same
    exact ⟨outcome, congrArg (notice :: ·) notices, after⟩
  | get _ ih => exact ih _ _ (Prod.mk.inj same).2 same
  | @set state other _ _ alike _ ih =>
    exact @ih { machine with state := state } { image with state := other }
      (Prod.ext (Prod.mk.inj same).1 alike)

end Matches

end Program

end EthernetMac
