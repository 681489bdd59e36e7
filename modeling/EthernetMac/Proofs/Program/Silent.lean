import EthernetMac.Proofs.Program.Ensures
import EthernetMac.Reset

/-!
Programs that leave the shared state alone: all that only access registers, pause
and write notices, the waits among them.
-/

namespace EthernetMac.Program

variable {σ α β : Type}

/-- The program neither sets the state nor faults, and promises nothing of its value. -/
def Silent (program : Program σ α) : Prop :=
  ∀ (allowed : σ → σ → Prop) (post : α → σ → Prop) (state : σ),
    (∀ value, post value state) → program.Ensures allowed post state

namespace Silent

theorem pure (value : α) : (pure value : Program σ α).Silent := fun _ _ _ promise => promise value

theorem bind {program : Program σ α} {rest : α → Program σ β} (first : program.Silent)
    (second : ∀ value, (rest value).Silent) : (program >>= rest).Silent := by
  intro allowed post state promise
  rw [ensures_bind]
  exact first allowed _ state fun value => second value allowed post state promise

theorem map {program : Program σ α} (quiet : program.Silent) (f : α → β) :
    (f <$> program).Silent := by
  rw [← bind_pure_comp]
  exact quiet.bind fun _ => pure _

theorem readAt (offset : Nat) : (readAt offset : Program σ UInt32).Silent :=
  fun _ _ _ promise value => promise value

theorem writeAt (offset : Nat) (value : UInt32) : (writeAt offset value : Program σ Unit).Silent :=
  fun _ _ _ promise => promise ()

theorem pause (microseconds : UInt32) : (pause microseconds : Program σ Unit).Silent :=
  fun _ _ _ promise => promise ()

theorem get : (get : Program σ σ).Silent := fun _ _ _ promise => promise _

theorem note (notice : Notice) : (note notice : Program σ Unit).Silent :=
  fun _ _ _ promise => promise ()

theorem noteWhen (condition : Bool) (notice : Notice) :
    (noteWhen condition notice : Program σ Unit).Silent := by
  intro allowed post state promise
  rw [ensures_noteWhen]
  exact promise ()

theorem updateAt (offset : Nat) (change : UInt32 → UInt32) :
    (updateAt offset change : Program σ Unit).Silent :=
  (readAt offset).bind fun _ => writeAt offset _

theorem enable (control : Control) : (enable control : Program σ Unit).Silent := updateAt _ _

theorem isSet (control : Control) : (isSet control : Program σ Bool).Silent :=
  (readAt _).bind fun _ => pure _

theorem writeAddress (slot : Nat) (address : MacAddress) :
    (writeAddress slot address : Program σ Unit).Silent :=
  (writeAt _ _).bind fun _ => writeAt _ _

theorem await {holds : Program σ Bool} (quiet : holds.Silent) (microseconds : UInt32)
    (budget : Nat) : (await holds microseconds budget).Silent := by
  induction budget with
  | zero => exact quiet
  | succ budget ih =>
    refine quiet.bind fun now => ?_
    cases now with
    | true => exact pure true
    | false => exact (pause microseconds).bind fun _ => ih

/-- An interval of zero counts as one, so the division that counts the polls is never by zero. -/
theorem polls (timing : Timing) (timeoutMs : UInt32) :
    (timing.polls timeoutMs : Program σ Nat).Silent := by
  intro allowed post state promise
  have divisor : max timing.pollUs.toNat 1 ≠ 0 := by omega
  unfold Timing.polls divide
  rw [if_neg divisor]
  exact promise _

theorem softReset (timing : Timing) :
    (softReset timing : Program σ (Except Error Unit)).Silent := by
  have complete : (isResetComplete : Program σ Bool).Silent := (isSet _).bind fun _ => pure _
  refine (writeAt _ _).bind fun _ => (enable _).bind fun _ => (polls timing _).bind fun budget =>
    (complete.await timing.pollUs budget).bind fun done => ?_
  cases done with
  | true => exact pure _
  | false => exact (note _).bind fun _ => pure _

theorem awaitBusIdle (timing : Timing) (timeoutMs : UInt32) :
    (awaitBusIdle timing timeoutMs : Program σ Bool).Silent := by
  have idle : (isBusIdle : Program σ Bool).Silent := (isSet _).bind fun _ => pure _
  exact (polls timing timeoutMs).bind fun budget =>
    (idle.await timing.pollUs budget).bind fun _ => (noteWhen _ _).bind fun _ => pure _

/-- A silent program ends, in the state in which it began, and sets none on the way. -/
theorem run {program : Program σ α} (quiet : program.Silent) (hardware : Hardware)
    (machine : Machine σ) :
    ∃ value bus, program.run hardware machine = (.ok value, ⟨bus, machine.state⟩) ∧
      program.saves hardware machine = [] := by
  have ensured : program.Ensures (fun _ _ => False) (fun _ after => after = machine.state)
      machine.state := quiet _ _ _ fun _ => rfl
  obtain ⟨value, ⟨bus, state⟩, ran, kept, chain⟩ := ensures_run ensured hardware
  have same : state = machine.state := kept
  refine ⟨value, bus, ?_, ?_⟩
  · rw [ran, same]
  · cases saved : program.saves hardware machine with
    | nil => rfl
    | cons first later =>
      rw [saved] at chain
      exact (List.isChain_cons_cons.1 chain).1.elim

end Silent

/-- A silent program before another may have any value, and changes nothing else. -/
theorem ensures_bind_of_silent {program : Program σ β} (quiet : program.Silent)
    {rest : β → Program σ α} {allowed : σ → σ → Prop} {post : α → σ → Prop} {state : σ}
    (holds : ∀ value, (rest value).Ensures allowed post state) :
    (program >>= rest).Ensures allowed post state := by
  rw [ensures_bind]
  exact quiet allowed _ state holds

end EthernetMac.Program
