import EthernetMac.Proofs.Control
import EthernetMac.Proofs.Program.Registers

/-!
What may be enabled when, as a property of the registers. The MAC relies on its DMA engines,
and they on the bases of their rings; the writes that enable, disable and set bases keep that
order under conditions of their own.
-/

namespace EthernetMac

/-- Enabling the one sets the other. -/
def Control.Sets (added control : Control) : Prop :=
  control.register.offset = added.register.offset ∧ control.isSetIn added.mask = true

instance (added control : Control) : Decidable (added.Sets control) :=
  inferInstanceAs (Decidable (_ ∧ _))

namespace RegisterFile

/-- The registers that say what is enabled and which rings it works on. -/
def steering : List Nat :=
  [Register.configuration.offset, Register.operationMode.offset, Register.rxListBase.offset,
    Register.txListBase.offset]

/-- The same is enabled, on the same rings. -/
def Agrees (file other : RegisterFile) : Prop :=
  ∀ offset ∈ steering, file.read offset = other.read offset

def Enabled (file : RegisterFile) (control : Control) : Prop :=
  control.isSetIn (file.read control.register.offset) = true

/-- The engines know where the rings are. -/
structure Based (rxBase txBase : UInt32) (file : RegisterFile) : Prop where
  rx : file.read Register.rxListBase.offset = rxBase
  tx : file.read Register.txListBase.offset = txBase

/-- Nothing is enabled ahead of what it relies on. -/
structure Orderly (rxBase txBase : UInt32) (file : RegisterFile) : Prop where
  transmitter : file.Enabled .transmitter → file.Enabled .txEngine
  receiver : file.Enabled .receiver → file.Enabled .rxEngine
  based : file.Enabled .txEngine ∨ file.Enabled .rxEngine → file.Based rxBase txBase

/-- The engine that sends is running. -/
structure Engaged (rxBase txBase : UInt32) (file : RegisterFile) : Prop where
  runs : file.Enabled .txEngine
  based : file.Based rxBase txBase

variable {file other : RegisterFile} {rxBase txBase : UInt32}

theorem agrees_write {offset : Nat} (outside : offset ∉ steering) (value : UInt32) :
    (file.write offset value).Agrees file := by
  intro steers listed
  apply read_write_other
  rintro rfl
  exact outside listed

theorem Agrees.trans {third : RegisterFile} (first : file.Agrees other)
    (second : other.Agrees third) : file.Agrees third :=
  fun offset listed => (first offset listed).trans (second offset listed)

theorem Agrees.enabled (agrees : file.Agrees other) {control : Control}
    (steers : control.register.offset ∈ steering) :
    file.Enabled control ↔ other.Enabled control := by
  unfold Enabled
  rw [agrees _ steers]

theorem Agrees.based (agrees : file.Agrees other) (based : other.Based rxBase txBase) :
    file.Based rxBase txBase where
  rx := (agrees _ (by decide)).trans based.rx
  tx := (agrees _ (by decide)).trans based.tx

theorem Agrees.orderly (agrees : file.Agrees other) (orderly : other.Orderly rxBase txBase) :
    file.Orderly rxBase txBase where
  transmitter := by
    rw [agrees.enabled (by decide), agrees.enabled (by decide)]
    exact orderly.transmitter
  receiver := by
    rw [agrees.enabled (by decide), agrees.enabled (by decide)]
    exact orderly.receiver
  based := by
    rw [agrees.enabled (by decide), agrees.enabled (by decide)]
    exact fun runs => agrees.based (orderly.based runs)

theorem Agrees.engaged (agrees : file.Agrees other) (engaged : other.Engaged rxBase txBase) :
    file.Engaged rxBase txBase where
  runs := (agrees.enabled (by decide)).2 engaged.runs
  based := agrees.based engaged.based

section Write

variable {control added : Control} {offset : Nat} {value : UInt32}

theorem enabled_write_other (elsewhere : control.register.offset ≠ offset) :
    (file.write offset value).Enabled control ↔ file.Enabled control := by
  unfold Enabled
  rw [read_write_other elsewhere]

theorem enabled_write_same (here : control.register.offset = offset) (inert : offset ∉ reacting) :
    (file.write offset value).Enabled control ↔ control.isSetIn value = true := by
  unfold Enabled
  rw [here, read_write_same inert]

theorem enabled_enable (inert : control.register.offset ∉ reacting) :
    (file.enable added).Enabled control ↔ file.Enabled control ∨ added.Sets control := by
  unfold Enabled Control.Sets
  by_cases same : control.register.offset = added.register.offset
  · rw [read_enable_same same.symm inert, Control.isSetIn_or]
    simp [same]
  · rw [read_enable_other same]
    simp [same]

theorem Based.write (based : file.Based rxBase txBase)
    (rxList : Register.rxListBase.offset ≠ offset) (txList : Register.txListBase.offset ≠ offset) :
    (file.write offset value).Based rxBase txBase where
  rx := (read_write_other rxList).trans based.rx
  tx := (read_write_other txList).trans based.tx

end Write

section Orderly

theorem Engaged.enable (engaged : file.Engaged rxBase txBase) {added : Control}
    (rxList : Register.rxListBase.offset ≠ added.register.offset)
    (txList : Register.txListBase.offset ≠ added.register.offset) :
    (file.enable added).Engaged rxBase txBase where
  runs := (enabled_enable (by decide)).2 (.inl engaged.runs)
  based := engaged.based.write rxList txList

theorem Orderly.write_aside (orderly : file.Orderly rxBase txBase) {offset : Nat}
    (outside : offset ∉ steering) (value : UInt32) :
    (file.write offset value).Orderly rxBase txBase :=
  (agrees_write outside value).orderly orderly

/-- Where nothing is enabled or disabled only the bases matter. -/
theorem Orderly.write (orderly : file.Orderly rxBase txBase) {offset : Nat} {value : UInt32}
    (configuration : Register.configuration.offset ≠ offset)
    (operationMode : Register.operationMode.offset ≠ offset)
    (based : file.Based rxBase txBase → (file.write offset value).Based rxBase txBase) :
    (file.write offset value).Orderly rxBase txBase where
  transmitter := by
    rw [enabled_write_other configuration, enabled_write_other operationMode]
    exact orderly.transmitter
  receiver := by
    rw [enabled_write_other configuration, enabled_write_other operationMode]
    exact orderly.receiver
  based := by
    rw [enabled_write_other operationMode, enabled_write_other operationMode]
    exact fun runs => based (orderly.based runs)

theorem Orderly.write_configuration (orderly : file.Orderly rxBase txBase) :
    (file.write Register.configuration.offset defaultConfiguration).Orderly rxBase txBase where
  transmitter := by
    rw [enabled_write_same (by decide) (by decide)]
    exact fun sends => absurd sends (by decide)
  receiver := by
    rw [enabled_write_same (by decide) (by decide)]
    exact fun receives => absurd receives (by decide)
  based := by
    rw [enabled_write_other (by decide), enabled_write_other (by decide)]
    exact fun runs => (orderly.based runs).write (by decide) (by decide)

/-- The engines may be stopped once the MAC is. -/
theorem Orderly.write_operationMode (quiet : ¬ file.Enabled .transmitter)
    (deaf : ¬ file.Enabled .receiver) :
    (file.write Register.operationMode.offset defaultOperationMode).Orderly rxBase txBase where
  transmitter := by
    rw [enabled_write_other (by decide)]
    exact fun sends => absurd sends quiet
  receiver := by
    rw [enabled_write_other (by decide)]
    exact fun receives => absurd receives deaf
  based := by
    rw [enabled_write_same (by decide) (by decide), enabled_write_same (by decide) (by decide)]
    exact fun runs => absurd runs (by decide)

/-- Something may be enabled if what it relies on is. -/
theorem Orderly.enable (orderly : file.Orderly rxBase txBase) {added : Control}
    (sends : added.Sets .transmitter → file.Enabled .txEngine)
    (receives : added.Sets .receiver → file.Enabled .rxEngine)
    (runs : added.Sets .txEngine ∨ added.Sets .rxEngine → file.Based rxBase txBase)
    (rxList : Register.rxListBase.offset ≠ added.register.offset)
    (txList : Register.txListBase.offset ≠ added.register.offset) :
    (file.enable added).Orderly rxBase txBase where
  transmitter := by
    rw [enabled_enable (by decide), enabled_enable (by decide)]
    rintro (already | now)
    · exact .inl (orderly.transmitter already)
    · exact .inl (sends now)
  receiver := by
    rw [enabled_enable (by decide), enabled_enable (by decide)]
    rintro (already | now)
    · exact .inl (orderly.receiver already)
    · exact .inl (receives now)
  based := by
    rw [enabled_enable (by decide), enabled_enable (by decide)]
    intro running
    have based : file.Based rxBase txBase := by
      rcases running with (already | now) | (already | now)
      · exact orderly.based (.inl already)
      · exact runs (.inl now)
      · exact orderly.based (.inr already)
      · exact runs (.inr now)
    exact based.write rxList txList

end Orderly

theorem Based.write_rxListBase (based : file.Based rxBase txBase) :
    (file.write Register.rxListBase.offset rxBase).Based rxBase txBase where
  rx := read_write_same (by decide) _
  tx := (read_write_other (by decide)).trans based.tx

/-- The engines know the rings once both bases are written. -/
theorem based_write_txListBase (rxList : file.read Register.rxListBase.offset = rxBase) :
    (file.write Register.txListBase.offset txBase).Based rxBase txBase where
  rx := (read_write_other (by decide)).trans rxList
  tx := read_write_same (by decide) _

theorem not_enabled_blank (behaviour : Behaviour) (control : Control) :
    ¬ (blank behaviour).Enabled control := by
  show ¬ (0 &&& control.mask != 0) = true
  simp

theorem orderly_blank (behaviour : Behaviour) : (blank behaviour).Orderly rxBase txBase where
  transmitter sends := absurd sends (not_enabled_blank _ _)
  receiver receives := absurd receives (not_enabled_blank _ _)
  based runs := absurd runs (not_or.2 ⟨not_enabled_blank _ _, not_enabled_blank _ _⟩)

end RegisterFile

end EthernetMac
