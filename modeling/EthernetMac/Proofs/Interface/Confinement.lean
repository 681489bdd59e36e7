import EthernetMac.Proofs.Control
import EthernetMac.Proofs.Interface.Footprint

/-!
Where the driver writes, and what. It writes a dozen registers. Filters, outputs and engines
share theirs with bits that are not its business, so there it changes single bits of what it
has just read; and it acknowledges nothing that it has not seen pending. Whatever else the
device has is kept through every run.
-/

namespace EthernetMac

namespace Interface

variable {rx tx : Nat} {call : Call}

/-- The registers that the driver writes. -/
def writable : List Register :=
  [.configuration, .frameFilter, .addressHigh 0, .addressLow 0, .generalPurpose, .busMode,
    .txPollDemand, .rxPollDemand, .rxListBase, .txListBase, .dmaStatus, .operationMode]

theorem eq_of_offset : ∀ register ∈ writable, ∀ other ∈ writable,
    register.offset = other.offset → register = other := by decide

/-- What a call may make of a register in which others have bits, from what it has just read
there. -/
def Call.revision? (call : Call) : Register → Option (UInt32 → UInt32 → Prop)
  | .frameFilter => some fun old new =>
    new &&& ~~~ReceiveFilter.mask = old &&& ~~~ReceiveFilter.mask
  | .generalPurpose => some fun old new => new = old ||| Control.generalOutput.mask
  | .operationMode =>
    match call with
    | transmit .. => some fun old new => new = old ||| Control.txEngine.mask
    | _ => none
  | .configuration =>
    match call with
    | transmit .. => some fun old new => new = old ||| Control.transmitter.mask
    | _ => none
  | .dmaStatus =>
    match call with
    | bringUp .. => none
    | _ => some Acknowledges
  | _ => none

/-- Whether a call may make that write, in a run that began with `start`. -/
structure Confined (call : Call) (start : Bus) (write : Write (Interface rx tx)) : Prop where
  listed : write.offset ∈ writable.map Register.offset
  filters : write.offset = Register.frameFilter.offset →
    ∃ enable disable clear multicast, call = .setFilters enable disable clear multicast
  revises : ∀ register ∈ writable, write.offset = register.offset →
    ∀ relates, call.revision? register = some relates → write.Revises start relates

section Register

variable {start : Bus} {before : Machine (Interface rx tx)} {register : Register} {value : UInt32}

theorem Confined.of_register (listed : register ∈ writable)
    (filters : register = .frameFilter →
      ∃ enable disable clear multicast, call = .setFilters enable disable clear multicast)
    (revises : ∀ relates, call.revision? register = some relates →
      Write.Revises ⟨before, register.offset, value⟩ start relates) :
    Confined call start ⟨before, register.offset, value⟩ where
  listed := List.mem_map_of_mem listed
  filters there := filters (eq_of_offset register listed _ (by decide) there)
  revises other also there := by
    obtain rfl := eq_of_offset register listed other also there
    exact revises

/-- In a register that it has to itself a call may write what it likes. -/
theorem Confined.of_own (listed : register ∈ writable) (own : call.revision? register = none) :
    Confined call start ⟨before, register.offset, value⟩ := by
  refine .of_register listed (fun same => ?_) (fun relates given => ?_)
  · rw [same] at own
    exact absurd own (Option.some_ne_none _)
  · rw [own] at given
    contradiction

theorem Confined.of_revised (listed : register ∈ writable)
    (filters : register = .frameFilter →
      ∃ enable disable clear multicast, call = .setFilters enable disable clear multicast)
    {relates : UInt32 → UInt32 → Prop} (given : call.revision? register = some relates)
    (revised : Write.Revises ⟨before, register.offset, value⟩ start relates) :
    Confined call start ⟨before, register.offset, value⟩ := by
  refine .of_register listed filters fun other same => ?_
  rw [given] at same
  injection same with same
  rw [← same]
  exact revised

end Register

/-- Every write of a call is confined. -/
theorem confined (call : Call) (hardware : Hardware) (machine : Machine (Interface rx tx)) :
    ∀ write ∈ call.program.writes hardware machine, Confined call machine.bus write := by
  intro write made
  obtain ⟨last, permits, revises⟩ := (emits_permits call).revises write made
  obtain ⟨before, offset, value⟩ := write
  dsimp only at permits revises
  cases permits with
  | constant listed =>
    cases call with
    | bringUp =>
      simp only [Call.constants, List.mem_cons, Prod.mk.injEq, List.not_mem_nil, or_false] at listed
      rcases listed with ⟨rfl, -⟩ | ⟨rfl, -⟩ | ⟨rfl, -⟩ | ⟨rfl, -⟩ | ⟨rfl, -⟩ <;>
        exact .of_own (by decide) rfl
    | receive | transmit =>
      obtain ⟨rfl, -⟩ : offset = _ ∧ value = 0 := by simpa [Call.constants] using listed
      exact .of_own (by decide) rfl
    | _ => contradiction
  | @enable _ control old listed =>
    have revised := revises old rfl (fun old new => new = old ||| control.mask) rfl
    cases call with
    | bringUp =>
      rcases List.mem_cons.1 listed with rfl | listed
      · exact .of_revised (by decide) (fun same => absurd same (by decide)) rfl revised
      · simp only [List.mem_cons, List.not_mem_nil, or_false] at listed
        rcases listed with rfl | rfl | rfl | rfl | rfl <;> exact .of_own (by decide) rfl
    | transmit =>
      rcases List.mem_pair.1 listed with rfl | rfl <;>
        exact .of_revised (by decide) (fun same => absurd same (by decide)) rfl revised
    | _ => contradiction
  | addressHigh | addressLow | rxList | txList => exact .of_own (by decide) rfl
  | @resume buffer raw starved =>
    have single : Control.rxUnavailable.mask &&& raw = Control.rxUnavailable.mask :=
      Control.mask_and_of_isSetIn ⟨7, by decide⟩ starved
    have revised := revises raw rfl Acknowledges ⟨by decide, single, by decide⟩
    exact .of_revised (by decide) (fun same => absurd same (by decide)) rfl revised
  | @take query raw asked pending =>
    have revised := revises raw rfl Acknowledges (InterruptStatus.acknowledges_toRegister pending)
    exact .of_revised (by decide) (fun same => absurd same (by decide)) rfl revised
  | @filter enable disable clear multicast raw =>
    have revised := revises raw rfl (fun old new =>
      new &&& ~~~ReceiveFilter.mask = old &&& ~~~ReceiveFilter.mask)
      ((enable \ disable).apply_and_not_mask raw)
    exact .of_revised (by decide) (fun _ => ⟨_, _, _, _, rfl⟩) rfl revised

section Run

/-- Nobody but the driver writes the cells. -/
def SparesCells (cells : List Nat) : Step Call → Machine (Interface rx tx) → Prop
  | .call hardware _, _ => ∀ offset ∈ cells, ∀ pause, LeavesAlone offset (hardware pause)
  | .device action, _ => ∀ offset ∈ cells, LeavesAlone offset action.onRegisters

/-- A cell that no register of the driver lies in keeps its content. -/
theorem read_step_of_unwritable {offset : Nat} (outside : offset ∉ writable.map Register.offset)
    {step : Step Call} {machine : Machine (Interface rx tx)}
    (spares : SparesCells [offset] step machine) :
    ((system rx tx).step step machine).2.bus.registers.read offset =
      machine.bus.registers.read offset := by
  cases step with
  | device action => exact spares offset (List.mem_singleton_self _) _
  | call hardware call =>
    apply Program.read_run_of_unwritten (spares offset (List.mem_singleton_self _))
    intro write made
    exact ne_of_mem_of_not_mem (confined call hardware machine write made).listed outside

theorem read_steps_of_unwritable {offset : Nat} (outside : offset ∉ writable.map Register.offset)
    {start : Machine (Interface rx tx)} (steps : List (Step Call))
    (follows : (system rx tx).Follows start (SparesCells [offset]) steps) :
    ((system rx tx).after start steps).bus.registers.read offset =
      start.bus.registers.read offset :=
  System.holds_of_follows
    (fun (_ : List (Moment rx tx)) (machine : Machine (Interface rx tx)) =>
      machine.bus.registers.read offset = start.bus.registers.read offset)
    rfl (fun _ _ _ spares kept => (read_step_of_unwritable outside spares).trans kept) steps
    follows

end Run

/-- From whatever registers a run begins, every write of the driver goes to one of its
registers, and where others have bits there it changes only its own; what it acknowledges
outside of bringing up was pending. So all other registers hold what they held, unless somebody
else writes them. -/
theorem writes_confined (start : Machine (Interface rx tx)) (steps : List (Step Call)) :
    (∀ moment ∈ (system rx tx).history start steps, ∀ hardware call,
      moment.step = .call hardware call →
        ∀ write ∈ call.program.writes hardware moment.before,
          Confined call moment.before.bus write) ∧
    ∀ offset ∉ writable.map Register.offset,
      (system rx tx).Follows start (SparesCells [offset]) steps →
        ((system rx tx).after start steps).bus.registers.read offset =
          start.bus.registers.read offset := by
  constructor
  · intro moment _ hardware call _
    exact confined call hardware moment.before
  · intro offset outside follows
    exact read_steps_of_unwritable outside steps follows

/-- An interface is brought up and its receive engine starves; then the caller looks for a
frame. What the device is to interrupt for stays as it was. -/
theorem writes_confined_of_starved :
    let start : Machine (Interface 2 2) :=
      ⟨{ registers :=
          (RegisterFile.blank .reactive).store Register.interruptEnable.offset 0x10041 },
        Interface.blank {} (Queues.blank ⟨0x1000, 0x2000, 0x4000⟩ (Nat.le_refl 2) (Nat.le_refl 2))⟩
    let earlier : List (Step Call) :=
      [.device (.rxStatus 0 0), .device (.registers fun file => file.raise 0x80),
        .call .idle (.bringUp 0 0), .call .idle .start]
    let call : Call := .receive []
    let machine := (system 2 2).after start earlier
    (call.program.writes .idle machine).map Write.entry =
        [(Register.dmaStatus.offset, 0x80), (Register.rxPollDemand.offset, 0)] ∧
      (∀ write ∈ call.program.writes .idle machine, Confined call machine.bus write) ∧
      ((system 2 2).after start (.call .idle call :: earlier)).bus.registers.read
        Register.interruptEnable.offset = 0x10041 := by
  intro start earlier call machine
  have idle (offset : Nat) (_ : offset ∈ [Register.interruptEnable.offset]) (pause : Nat) :
      LeavesAlone offset (Hardware.idle pause) := fun _ => rfl
  have raises (bits : UInt32) : LeavesAlone Register.interruptEnable.offset fun file =>
      file.raise bits := fun _ => RegisterFile.read_store_other (by decide)
  have follows : (system 2 2).Follows start (SparesCells [Register.interruptEnable.offset])
      (.call .idle call :: earlier) :=
    ⟨idle, fun _ _ _ => rfl, List.forall_mem_singleton.2 (raises 0x80), idle, idle, trivial⟩
  obtain ⟨confines, keeps⟩ := writes_confined start (.call .idle call :: earlier)
  refine ⟨by decide +kernel, ?_, ?_⟩
  · exact confines _ List.mem_cons_self .idle call rfl
  · exact keeps _ (by decide) follows

example : writable.map Register.offset =
    [0x0000, 0x0004, 0x0040, 0x0044, 0x00E0, 0x1000, 0x1004, 0x1008, 0x100C, 0x1010, 0x1014,
      0x1018] := rfl

example : Register.interruptEnable.offset ∉ writable.map Register.offset ∧
    (∀ register ∈ [Register.hashHigh, .hashLow], register.offset ∉ writable.map Register.offset) ∧
    ∀ slot < 16, slot ≠ 0 →
      (Register.addressHigh slot).offset ∉ writable.map Register.offset ∧
        (Register.addressLow slot).offset ∉ writable.map Register.offset := by decide

end Interface

end EthernetMac
