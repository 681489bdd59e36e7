import EthernetMac.Proofs.Run.System
import Mathlib.Data.List.Basic

/-!
Systems that two parties share. What a party sees of the state is its view. If its steps
depend on its view alone and the steps of the other leave that view as it is, then a party
cannot tell whether the other is there: in every interleaving it gets the answers that it gets
when it is alone, and its view ends up the same.
-/

namespace EthernetMac

namespace System

variable {σ ι ω ν : Type} {system : System σ ι ω} {good : σ → Prop} {mine : ι → Bool}
  {view : σ → ν} {start : σ}

/-- In good states one party has its steps and its view to itself. -/
structure Separates (system : System σ ι ω) (good : σ → Prop) (mine : ι → Bool)
    (view : σ → ν) : Prop where
  kept : ∀ step state, good state → good (system.step step state).2
  determined : ∀ step state other, mine step = true → good state → good other →
    view state = view other →
      (system.step step state).1 = (system.step step other).1 ∧
        view (system.step step state).2 = view (system.step step other).2
  spared : ∀ step state, mine step = false → good state →
    view (system.step step state).2 = view state

theorem Separates.good_after (separates : system.Separates good mine view) (initial : good start)
    (steps : List ι) : good (system.after start steps) := by
  induction steps with
  | nil => exact initial
  | cons step earlier ih => exact separates.kept step _ ih

/-- The other party's steps may be left out of a run. -/
theorem Separates.alone (separates : system.Separates good mine view) (initial : good start)
    (steps : List ι) :
    view (system.after start steps) = view (system.after start (steps.filter mine)) ∧
      (system.trace start steps).filter (fun entry => mine entry.1) =
        system.trace start (steps.filter mine) := by
  induction steps with
  | nil => exact ⟨rfl, rfl⟩
  | cons step earlier ih =>
    obtain ⟨same, answers⟩ := ih
    -- The two runs have come to different states, but to one view.
    have together := separates.good_after initial earlier
    have apart := separates.good_after initial (earlier.filter mine)
    cases whose : mine step with
    | true =>
      obtain ⟨answer, next⟩ := separates.determined step _ _ whose together apart same
      rw [List.filter_cons_of_pos whose]
      refine ⟨next, ?_⟩
      simp only [trace_cons, List.filter_cons, whose, answers, answer, ↓reduceIte]
    | false =>
      have others : ¬ mine step = true := by simp [whose]
      rw [List.filter_cons_of_neg others]
      refine ⟨(separates.spared step _ whose together).trans same, ?_⟩
      simp [trace_cons, whose, answers]

end System

/-- The third list has the steps of both others, each party's in their own order. -/
inductive Interleaves {α β : Type} : List α → List β → List (α ⊕ β) → Prop
  | none : Interleaves [] [] []
  | left {own : List α} {others : List β} {steps : List (α ⊕ β)} (step : α)
    (earlier : Interleaves own others steps) : Interleaves (step :: own) others (.inl step :: steps)
  | right {own : List α} {others : List β} {steps : List (α ⊕ β)} (step : β)
    (earlier : Interleaves own others steps) : Interleaves own (step :: others) (.inr step :: steps)

theorem Interleaves.filter_isLeft {α β : Type} {own : List α} {others : List β}
    {steps : List (α ⊕ β)} (interleaves : Interleaves own others steps) :
    steps.filter Sum.isLeft = own.map .inl := by
  induction interleaves with
  | none => rfl
  | left step earlier ih => simp [List.filter_cons, ih]
  | right step earlier ih => simp [ih]

theorem Interleaves.filter_isRight {α β : Type} {own : List α} {others : List β}
    {steps : List (α ⊕ β)} (interleaves : Interleaves own others steps) :
    steps.filter Sum.isRight = others.map .inr := by
  induction interleaves with
  | none => rfl
  | left step earlier ih => simp [ih]
  | right step earlier ih => simp [List.filter_cons, ih]

end EthernetMac
