/-!
Systems that take one step at a time. A run is a list of steps with the latest
first, as events stand in a journal; its history says, for each step, in which
state it was taken and how it was answered. What every step keeps, every run
keeps.
-/

namespace EthernetMac

structure System (σ ι ω : Type) where
  step : ι → σ → ω × σ

/-- A step as it was taken. -/
structure Moment (σ ι ω : Type) where
  before : σ
  step : ι
  answer : ω

namespace System

variable {σ ι ω : Type} (system : System σ ι ω) (start : σ)

/-- The state after a run. -/
def after : List ι → σ
  | [] => start
  | step :: earlier => (system.step step (after earlier)).2

theorem after_append (later earlier : List ι) :
    system.after start (later ++ earlier) = system.after (system.after start earlier) later := by
  induction later with
  | nil => rfl
  | cons step later ih => simp [after, ih]

/-- The next moment of a run that has come to `state`. -/
def moment (state : σ) (step : ι) : Moment σ ι ω := ⟨state, step, (system.step step state).1⟩

/-- The moments of a run, the latest first. -/
def history : List ι → List (Moment σ ι ω)
  | [] => []
  | step :: earlier => system.moment (system.after start earlier) step :: history earlier

/-- What the latest moment with anything to tell tells. -/
def latest {α : Type} (tells : Moment σ ι ω → Option α) (history : List (Moment σ ι ω)) :
    Option α := history.findSome? tells

theorem latest_cons {α : Type} (tells : Moment σ ι ω → Option α) (moment : Moment σ ι ω)
    (history : List (Moment σ ι ω)) :
    latest tells (moment :: history) = (tells moment).or (latest tells history) := by
  unfold latest
  rw [List.findSome?_cons]
  cases tells moment <;> rfl

theorem latest_cons_of_none {α : Type} {tells : Moment σ ι ω → Option α} {moment : Moment σ ι ω}
    (silent : tells moment = none) (history : List (Moment σ ι ω)) :
    latest tells (moment :: history) = latest tells history := by
  rw [latest_cons, silent]
  rfl

/-- What a run looks like from outside. -/
def trace (steps : List ι) : List (ι × ω) :=
  (system.history start steps).map fun moment => (moment.step, moment.answer)

theorem trace_cons (step : ι) (earlier : List ι) :
    system.trace start (step :: earlier) =
      (step, (system.step step (system.after start earlier)).1) :: system.trace start earlier := rfl

/-- Each step of the run is `allowed` in the state in which it is taken. -/
def Follows (allowed : ι → σ → Prop) : List ι → Prop
  | [] => True
  | step :: earlier => allowed step (system.after start earlier) ∧ Follows allowed earlier

variable {system start} {allowed : ι → σ → Prop} (Holds : List (Moment σ ι ω) → σ → Prop)

/-- An invariant of states together with their histories. -/
theorem holds_of_follows (initial : Holds [] start)
    (preserved : ∀ history state step, allowed step state → Holds history state →
      Holds (system.moment state step :: history) (system.step step state).2)
    (steps : List ι) (follows : system.Follows start allowed steps) :
    Holds (system.history start steps) (system.after start steps) := by
  induction steps with
  | nil => exact initial
  | cons step earlier ih => exact preserved _ _ step follows.1 (ih follows.2)

omit Holds in
theorem follows_of_forall (free : ∀ step state, allowed step state) (steps : List ι) :
    system.Follows start allowed steps := by
  induction steps with
  | nil => trivial
  | cons step earlier ih => exact ⟨free step _, ih⟩

theorem holds_of_run (initial : Holds [] start)
    (preserved : ∀ history state step, Holds history state →
      Holds (system.moment state step :: history) (system.step step state).2)
    (steps : List ι) : Holds (system.history start steps) (system.after start steps) := by
  have free : system.Follows start (fun _ _ => True) steps :=
    follows_of_forall (fun _ _ => trivial) steps
  have kept := fun history state step (_ : True) => preserved history state step
  exact holds_of_follows Holds initial kept steps free

/-- Related states that answer alike and stay related look alike from outside. -/
theorem trace_eq_of_simulation {τ : Type} {other : System τ ι ω} {begin : τ}
    (relates : σ → τ → Prop) (initial : relates start begin)
    (preserved : ∀ state image step, relates state image →
      (system.step step state).1 = (other.step step image).1 ∧
        relates (system.step step state).2 (other.step step image).2)
    (steps : List ι) :
    system.trace start steps = other.trace begin steps ∧
      relates (system.after start steps) (other.after begin steps) := by
  induction steps with
  | nil => exact ⟨rfl, initial⟩
  | cons step earlier ih =>
    obtain ⟨same, related⟩ := ih
    obtain ⟨answer, next⟩ := preserved _ _ step related
    refine ⟨?_, next⟩
    rw [trace_cons, trace_cons, answer, same]

end System

end EthernetMac
