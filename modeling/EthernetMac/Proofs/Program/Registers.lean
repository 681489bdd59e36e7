import EthernetMac.Proofs.Program.Await

/-!
What the registers hold after a series of writes. A cell holds what was written last,
except for the few that react; a reactive window that is not stuck stays so, and leaves
every reset at once.
-/

namespace EthernetMac

namespace RegisterFile

/-- The window reacts to writes, and a soft reset completes. -/
structure Live (file : RegisterFile) : Prop where
  reactive : file.behaviour = .reactive
  free : file.resetStuck = false

@[simp] theorem resetStuck_write (file : RegisterFile) (offset : Nat) (value : UInt32) :
    (file.write offset value).resetStuck = file.resetStuck := by
  unfold write writeReactive
  split <;> (repeat' split) <;> rfl

theorem Live.write {file : RegisterFile} (live : file.Live) (offset : Nat) (value : UInt32) :
    (file.write offset value).Live where
  reactive := (behaviour_write file offset value).trans live.reactive
  free := (resetStuck_write file offset value).trans live.free

/-- The cells that react to a write. -/
def reacting : List Nat :=
  [Register.dmaStatus.offset, Register.txPollDemand.offset, Register.rxPollDemand.offset,
    Register.busMode.offset]

theorem write_of_inert {offset : Nat} (inert : offset ∉ reacting) (file : RegisterFile)
    (value : UInt32) : file.write offset value = file.store offset value := by
  simp only [reacting, List.mem_cons, List.not_mem_nil, or_false, not_or] at inert
  obtain ⟨status, txDemand, rxDemand, busMode⟩ := inert
  unfold RegisterFile.write writeReactive
  rw [if_neg status, if_neg txDemand, if_neg rxDemand, if_neg fun both => busMode both.1]
  split <;> rfl

theorem read_write_same {file : RegisterFile} {offset : Nat} (inert : offset ∉ reacting)
    (value : UInt32) : (file.write offset value).read offset = value := by
  rw [write_of_inert inert, read_store_same]

theorem Live.read_busMode {file : RegisterFile} (live : file.Live) (value : UInt32) :
    (file.write Register.busMode.offset value).read Register.busMode.offset =
      value &&& ~~~Control.softReset.mask := by
  rw [write_of_reactive live.reactive, writeReactive, if_neg (by decide), if_neg (by decide),
    if_neg (by decide), if_pos ⟨rfl, live.free⟩]
  exact read_store_same _ _ _

/-- The status bits, pending until they are acknowledged. -/
def status (file : RegisterFile) : UInt32 := file.read Register.dmaStatus.offset

/-- Status bits are cleared by writing them. -/
theorem status_write {file : RegisterFile} (reactive : file.behaviour = .reactive)
    (value : UInt32) :
    (file.write Register.dmaStatus.offset value).status = file.status &&& ~~~value := by
  rw [write_of_reactive reactive, writeReactive, if_pos rfl]
  exact read_store_same _ _ _

theorem status_write_other {file : RegisterFile} {offset : Nat}
    (elsewhere : Register.dmaStatus.offset ≠ offset) (value : UInt32) :
    (file.write offset value).status = file.status := read_write_other elsewhere

@[simp] theorem status_raise (file : RegisterFile) (bits : UInt32) :
    (file.raise bits).status = file.status ||| bits := read_store_same _ _ _

/-- The bits of a control are set, the others stay. -/
def enable (file : RegisterFile) (control : Control) : RegisterFile :=
  file.write control.register.offset (file.read control.register.offset ||| control.mask)

theorem Live.enable {file : RegisterFile} (live : file.Live) (control : Control) :
    (file.enable control).Live := live.write _ _

theorem read_enable_other {file : RegisterFile} {control : Control} {other : Nat}
    (distinct : other ≠ control.register.offset) :
    (file.enable control).read other = file.read other := read_write_other distinct

theorem read_enable_same {file : RegisterFile} {control : Control} {offset : Nat}
    (here : control.register.offset = offset) (inert : offset ∉ reacting) :
    (file.enable control).read offset = file.read offset ||| control.mask := by
  subst here
  exact read_write_same inert _

/-- All pending status is acknowledged. -/
theorem status_acknowledged {file : RegisterFile} (reactive : file.behaviour = .reactive) :
    (file.write Register.dmaStatus.offset 0xFFFFFFFF).status = 0 := by
  rw [status_write reactive]
  exact UInt32.and_zero

end RegisterFile

namespace Bus

variable {bus : Bus}

/-- The reset bit is clear before the first pause. -/
theorem leavesReset_of_live (live : bus.registers.Live) (hardware : Hardware) (timing : Timing) :
    bus.LeavesReset hardware timing := by
  refine ⟨0, Nat.zero_le _, ?_⟩
  show (!Control.softReset.isSetIn (bus.askReset.registers.read Register.busMode.offset)) = true
  unfold askReset Bus.write Bus.read Bus.record
  dsimp only
  rw [RegisterFile.read_write_other (by decide), Control.softReset, live.read_busMode]
  decide

end Bus

end EthernetMac
