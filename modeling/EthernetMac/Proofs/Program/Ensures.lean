import EthernetMac.Program
import Mathlib.Data.List.Chain

/-!
What a program does to the shared state, whatever the registers read. `Ensures`
follows a program step by step; `ensures_run` carries its three parts over to
runs: there is no fault, every state that is set is reached by an allowed step
from the one before, and the end is as promised.
-/

namespace EthernetMac.Program

variable {σ τ α β : Type}

/-- For all values that reads may give, the program sets the state only in
`allowed` steps and ends, without a fault, as `post` says. -/
def Ensures (allowed : σ → σ → Prop) (post : α → σ → Prop) : Program σ α → σ → Prop
  | done value, state => post value state
  | fault _, _ => False
  | readThen _ next, state => ∀ value, (next value).Ensures allowed post state
  | writeThen _ _ next, state => next.Ensures allowed post state
  | pauseThen _ next, state => next.Ensures allowed post state
  | noteThen _ next, state => next.Ensures allowed post state
  | getThen next, state => (next state).Ensures allowed post state
  | setThen new next, state => allowed state new ∧ next.Ensures allowed post new

/-- The states that a run sets, in order. -/
def saves (hardware : Hardware) : Program σ α → Machine σ → List σ
  | done _, _ => []
  | fault _, _ => []
  | readThen offset next, machine =>
    (next (machine.bus.registers.read offset)).saves hardware
      { machine with bus := machine.bus.read offset }
  | writeThen offset value next, machine =>
    next.saves hardware { machine with bus := machine.bus.write offset value }
  | pauseThen microseconds next, machine =>
    next.saves hardware { machine with bus := machine.bus.pause hardware microseconds }
  | noteThen notice next, machine =>
    next.saves hardware { machine with bus := machine.bus.note notice }
  | getThen next, machine => (next machine.state).saves hardware machine
  | setThen state next, machine => state :: next.saves hardware { machine with state := state }

theorem saves_bind (hardware : Hardware) (machine : Machine σ) (program : Program σ α)
    (rest : α → Program σ β) :
    (program >>= rest).saves hardware machine =
      program.saves hardware machine ++
        match program.run hardware machine with
        | (.ok value, after) => (rest value).saves hardware after
        | (.error _, _) => [] := by
  show (program.bind rest).saves hardware machine = _
  induction program generalizing machine with
  | done value => rfl
  | fault cause => rfl
  | readThen offset next ih => exact ih _ _
  | writeThen offset value next ih => exact ih _
  | pauseThen microseconds next ih => exact ih _
  | noteThen notice next ih => exact ih _
  | getThen next ih => exact ih _ _
  | setThen state next ih => exact congrArg (state :: ·) (ih _)

theorem saves_map (hardware : Hardware) (machine : Machine σ) (program : Program σ α) (f : α → β) :
    (f <$> program).saves hardware machine = program.saves hardware machine := by
  rw [← bind_pure_comp, saves_bind]
  split <;> exact List.append_nil _

/-- A run ends in the state in which it began or in one that it set. -/
theorem state_mem_saves (hardware : Hardware) (program : Program σ α) (machine : Machine σ) :
    (program.run hardware machine).2.state ∈ machine.state :: program.saves hardware machine := by
  induction program generalizing machine with
  | done value => exact List.mem_singleton_self _
  | fault cause => exact List.mem_singleton_self _
  | readThen offset next ih => exact ih _ _
  | writeThen offset value next ih => exact ih _
  | pauseThen microseconds next ih => exact ih _
  | noteThen notice next ih => exact ih _
  | getThen next ih => exact ih _ _
  | setThen state next ih => exact List.mem_cons_of_mem _ (ih _)

section Rules

variable (allowed : σ → σ → Prop) (post : α → σ → Prop) (state : σ)

@[simp] theorem ensures_pure (value : α) :
    (pure value : Program σ α).Ensures allowed post state ↔ post value state := Iff.rfl

@[simp] theorem ensures_done (value : α) :
    (done value : Program σ α).Ensures allowed post state ↔ post value state := Iff.rfl

@[simp] theorem ensures_fault (cause : Fault) :
    ¬ (fault cause : Program σ α).Ensures allowed post state := id

@[simp] theorem ensures_bind (program : Program σ β) (rest : β → Program σ α) :
    (program >>= rest).Ensures allowed post state ↔
      program.Ensures allowed (fun value after => (rest value).Ensures allowed post after)
        state := by
  show (program.bind rest).Ensures allowed post state ↔ _
  induction program generalizing state with
  | done value => rfl
  | fault cause => rfl
  | readThen offset next ih => exact forall_congr' fun value => ih value state
  | writeThen offset value next ih => exact ih state
  | pauseThen microseconds next ih => exact ih state
  | noteThen notice next ih => exact ih state
  | getThen next ih => exact ih state state
  | setThen new next ih => exact and_congr_right fun _ => ih new

@[simp] theorem ensures_map (program : Program σ β) (f : β → α) :
    (f <$> program).Ensures allowed post state ↔
      program.Ensures allowed (fun value after => post (f value) after) state := by
  rw [← bind_pure_comp, ensures_bind]
  rfl

@[simp] theorem ensures_get (post : σ → σ → Prop) :
    (get : Program σ σ).Ensures allowed post state ↔ post state state := Iff.rfl

@[simp] theorem ensures_modify (change : σ → σ) (post : Unit → σ → Prop) :
    (modify change).Ensures allowed post state ↔
      allowed state (change state) ∧ post () (change state) := Iff.rfl

@[simp] theorem ensures_readAt (offset : Nat) (post : UInt32 → σ → Prop) :
    (readAt offset).Ensures allowed post state ↔ ∀ value, post value state := Iff.rfl

@[simp] theorem ensures_writeAt (offset : Nat) (value : UInt32) (post : Unit → σ → Prop) :
    (writeAt offset value).Ensures allowed post state ↔ post () state := Iff.rfl

@[simp] theorem ensures_read (register : Register) (post : UInt32 → σ → Prop) :
    (read register).Ensures allowed post state ↔ ∀ value, post value state := Iff.rfl

@[simp] theorem ensures_write (register : Register) (value : UInt32) (post : Unit → σ → Prop) :
    (write register value).Ensures allowed post state ↔ post () state := Iff.rfl

@[simp] theorem ensures_pause (microseconds : UInt32) (post : Unit → σ → Prop) :
    (pause microseconds).Ensures allowed post state ↔ post () state := Iff.rfl

@[simp] theorem ensures_note (notice : Notice) (post : Unit → σ → Prop) :
    (note notice).Ensures allowed post state ↔ post () state := Iff.rfl

@[simp] theorem ensures_noteWhen (condition : Bool) (notice : Notice) (post : Unit → σ → Prop) :
    (noteWhen condition notice).Ensures allowed post state ↔ post () state := by
  cases condition <;> rfl

end Rules

/-- More may be allowed, and less may be promised. -/
theorem Ensures.mono {allowed allowed' : σ → σ → Prop} {post post' : α → σ → Prop}
    {program : Program σ α} {state : σ} (holds : program.Ensures allowed post state)
    (allow : ∀ before after, allowed before after → allowed' before after)
    (promise : ∀ value after, post value after → post' value after) :
    program.Ensures allowed' post' state := by
  induction program generalizing state with
  | done value => exact promise value state holds
  | fault cause => exact holds
  | readThen offset next ih => exact fun value => ih value (holds value)
  | writeThen offset value next ih => exact ih holds
  | pauseThen microseconds next ih => exact ih holds
  | noteThen notice next ih => exact ih holds
  | getThen next ih => exact ih state holds
  | setThen new next ih => exact ⟨allow _ _ holds.1, ih holds.2⟩

theorem Ensures.imp {allowed : σ → σ → Prop} {post post' : α → σ → Prop}
    {program : Program σ α} {state : σ} (holds : program.Ensures allowed post state)
    (promise : ∀ value after, post value after → post' value after) :
    program.Ensures allowed post' state :=
  holds.mono (fun _ _ => id) promise

section Within

variable {part : τ → σ} {update : σ → τ → τ}
  (part_update : ∀ state whole, part (update state whole) = state)
  (update_part : ∀ whole, update (part whole) whole = whole)
  (update_update : ∀ first second whole, update first (update second whole) = update first whole)
  {allowed : τ → τ → Prop} {post : α → τ → Prop} {program : Program σ α} {whole : τ}

include part_update update_update

private theorem ensures_within_update {state : σ}
    (holds : program.Ensures
      (fun before after => allowed (update before whole) (update after whole))
      (fun value after => post value (update after whole)) state) :
    (program.within part update).Ensures allowed post (update state whole) := by
  induction program generalizing state with
  | done value => exact holds
  | fault cause => exact holds
  | readThen offset next ih => exact fun value => ih value (holds value)
  | writeThen offset value next ih => exact ih holds
  | pauseThen microseconds next ih => exact ih holds
  | noteThen notice next ih => exact ih holds
  | getThen next ih =>
    show ((next (part (update state whole))).within part update).Ensures allowed post _
    rw [part_update]
    exact ih state holds
  | setThen new next ih =>
    show allowed _ (update new (update state whole)) ∧
      (next.within part update).Ensures allowed post (update new (update state whole))
    rw [update_update]
    exact ⟨holds.1, ih holds.2⟩

include update_part

/-- A program on a part of the state sets only that part. -/
theorem ensures_within
    (holds : program.Ensures
      (fun before after => allowed (update before whole) (update after whole))
      (fun value after => post value (update after whole)) (part whole)) :
    (program.within part update).Ensures allowed post whole := by
  have start := ensures_within_update part_update update_update holds
  rwa [update_part] at start

end Within

/-- What is ensured holds of every run, on any hardware. -/
theorem ensures_run {allowed : σ → σ → Prop} {post : α → σ → Prop} {program : Program σ α}
    {machine : Machine σ} (holds : program.Ensures allowed post machine.state)
    (hardware : Hardware) :
    ∃ value after, program.run hardware machine = (.ok value, after) ∧
      post value after.state ∧
      (machine.state :: program.saves hardware machine).IsChain allowed := by
  induction program generalizing machine with
  | done value => exact ⟨value, machine, rfl, holds, List.IsChain.singleton _⟩
  | fault cause => exact holds.elim
  | readThen offset next ih => exact ih _ (holds _)
  | writeThen offset value next ih => exact ih holds
  | pauseThen microseconds next ih => exact ih holds
  | noteThen notice next ih => exact ih holds
  | getThen next ih => exact ih _ holds
  | setThen new next ih =>
    have later : next.Ensures allowed post ({ machine with state := new } : Machine σ).state :=
      holds.2
    obtain ⟨value, after, ran, promised, chain⟩ := ih later
    exact ⟨value, after, ran, promised, List.IsChain.cons_cons holds.1 chain⟩

end EthernetMac.Program
