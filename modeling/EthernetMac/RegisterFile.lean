import EthernetMac.Register

/-!
The register window as memory. A `plain` window stores what is written; a
`reactive` one clears status bits that are written as one, counts poll demands
instead of storing them, and completes a soft reset at once unless it is stuck.
Reading never changes either.
-/

namespace EthernetMac

/-- Where a window lies in memory. -/
structure Window where
  base : Nat

def Window.address (window : Window) (register : Register) : Nat :=
  window.base + register.offset

inductive Behaviour where
  | reactive
  | plain
deriving DecidableEq, Repr

@[ext] structure RegisterFile where
  behaviour : Behaviour
  cells : Nat → UInt32
  txDemands : Nat
  rxDemands : Nat
  resetStuck : Bool

namespace RegisterFile

/-- All registers zero. -/
def blank (behaviour : Behaviour) : RegisterFile := ⟨behaviour, fun _ => 0, 0, 0, false⟩

def read (file : RegisterFile) (offset : Nat) : UInt32 := file.cells offset

/-- Puts `value` into a cell, with no side effect. -/
def store (file : RegisterFile) (offset : Nat) (value : UInt32) : RegisterFile :=
  { file with cells := fun other => if other = offset then value else file.cells other }

def writeReactive (file : RegisterFile) (offset : Nat) (value : UInt32) : RegisterFile :=
  if offset = Register.dmaStatus.offset then
    file.store offset (file.read offset &&& ~~~value)
  else if offset = Register.txPollDemand.offset then
    { file with txDemands := file.txDemands + 1 }
  else if offset = Register.rxPollDemand.offset then
    { file with rxDemands := file.rxDemands + 1 }
  else if offset = Register.busMode.offset ∧ file.resetStuck = false then
    file.store offset (value &&& ~~~Control.softReset.mask)
  else
    file.store offset value

def write (file : RegisterFile) (offset : Nat) (value : UInt32) : RegisterFile :=
  match file.behaviour with
  | .reactive => file.writeReactive offset value
  | .plain => file.store offset value

/-- The hardware sees the link go up or down. A plain window has nothing else
in the register. -/
def setLink (file : RegisterFile) (up : Bool) : RegisterFile :=
  let offset := Control.linkUp.register.offset
  let mask := Control.linkUp.mask
  let others := match file.behaviour with
    | .reactive => file.read offset &&& ~~~mask
    | .plain => 0
  file.store offset (if up then others ||| mask else others)

/-- The hardware raises status bits. -/
def raise (file : RegisterFile) (bits : UInt32) : RegisterFile :=
  let offset := Register.dmaStatus.offset
  file.store offset (file.read offset ||| bits)

/-- From now on a soft reset does not complete, or does again. -/
def setStuck (file : RegisterFile) (stuck : Bool) : RegisterFile :=
  { file with resetStuck := stuck }

theorem read_store (file : RegisterFile) (offset other : Nat) (value : UInt32) :
    (file.store offset value).read other = if other = offset then value else file.read other :=
  rfl

@[simp] theorem read_store_same (file : RegisterFile) (offset : Nat) (value : UInt32) :
    (file.store offset value).read offset = value := by simp [read_store]

theorem read_store_other {file : RegisterFile} {offset other : Nat} {value : UInt32}
    (distinct : other ≠ offset) : (file.store offset value).read other = file.read other := by
  simp [read_store, distinct]

theorem write_of_plain {file : RegisterFile} (plain : file.behaviour = .plain) (offset : Nat)
    (value : UInt32) : file.write offset value = file.store offset value := by
  simp [write, plain]

theorem write_of_reactive {file : RegisterFile} (reactive : file.behaviour = .reactive)
    (offset : Nat) (value : UInt32) :
    file.write offset value = file.writeReactive offset value := by
  simp [write, reactive]

@[simp] theorem behaviour_write (file : RegisterFile) (offset : Nat) (value : UInt32) :
    (file.write offset value).behaviour = file.behaviour := by
  unfold write writeReactive
  split <;> (repeat' split) <;> rfl

/-- A write touches no cell but its own. -/
theorem read_write_other {file : RegisterFile} {offset other : Nat} {value : UInt32}
    (distinct : other ≠ offset) : (file.write offset value).read other = file.read other := by
  unfold write writeReactive
  split <;> (repeat' split) <;> first | rfl | exact read_store_other distinct

end RegisterFile

end EthernetMac
