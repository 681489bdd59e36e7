import EthernetMac.Proofs.Program.Silent

/-!
Frames of programs. What a program keeps is after each of its runs what it was
before, on any hardware and also where the run faults; a program keeps what its
steps keep.
-/

namespace EthernetMac.Program

variable {σ α β κ : Type}

/-- No run of the program changes that part of the state. -/
def Keeps (part : σ → κ) (program : Program σ α) : Prop :=
  ∀ hardware machine, part (program.run hardware machine).2.state = part machine.state

theorem machine_map (program : Program σ α) (f : α → β) (hardware : Hardware)
    (machine : Machine σ) :
    ((f <$> program).run hardware machine).2 = (program.run hardware machine).2 := by
  rw [run_map]
  split
  next ran => rw [ran]
  next ran => rw [ran]

theorem answer_map (program : Program σ α) (f : α → β) (hardware : Hardware)
    (machine : Machine σ) :
    ((f <$> program).run hardware machine).1 = (program.run hardware machine).1.map f := by
  rw [run_map]
  split
  next ran => rw [ran]; rfl
  next ran => rw [ran]; rfl

namespace Keeps

variable {part : σ → κ}

theorem pure (value : α) : (pure value : Program σ α).Keeps part := fun _ _ => rfl

theorem fault (cause : Fault) : (fault cause : Program σ α).Keeps part := fun _ _ => rfl

theorem bind {program : Program σ α} {rest : α → Program σ β} (first : program.Keeps part)
    (second : ∀ value, (rest value).Keeps part) : (program >>= rest).Keeps part := by
  intro hardware machine
  have kept := first hardware machine
  rw [run_bind]
  generalize program.run hardware machine = result at kept ⊢
  obtain ⟨outcome, after⟩ := result
  cases outcome with
  | ok value => exact (second value hardware after).trans kept
  | error cause => exact kept

theorem map {program : Program σ α} (keeps : program.Keeps part) (f : α → β) :
    (f <$> program).Keeps part := by
  intro hardware machine
  rw [machine_map]
  exact keeps hardware machine

theorem of_silent {program : Program σ α} (quiet : program.Silent) : program.Keeps part := by
  intro hardware machine
  obtain ⟨value, bus, ran, -⟩ := quiet.run hardware machine
  rw [ran]

theorem modify {change : σ → σ} (keeps : ∀ state, part (change state) = part state) :
    (modify change).Keeps part := fun _ machine => keeps machine.state

theorem element {n : Nat} (items : Vector α n) (index : Nat) :
    (element items index : Program σ α).Keeps part := by
  unfold Program.element
  split
  · exact .pure _
  · exact .fault _

theorem firstBytes (count : Nat) (bytes : List UInt8) :
    (firstBytes count bytes : Program σ _).Keeps part := by
  unfold Program.firstBytes
  split
  · exact .pure _
  · exact .fault _

theorem overwrite (bytes target : List UInt8) :
    (overwrite bytes target : Program σ _).Keeps part := by
  unfold Program.overwrite
  split
  · exact .pure _
  · exact .fault _

end Keeps

end EthernetMac.Program
