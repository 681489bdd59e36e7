import EthernetMac.Program

/-!
Compound register accesses: updating bits in place, controls, the address
slots, and the two demands that wake a suspended DMA engine.
-/

namespace EthernetMac.Program

variable {σ : Type}

/-- Reads a register and writes back what `change` makes of it. -/
def updateAt (offset : Nat) (change : UInt32 → UInt32) : Program σ Unit := do
  let value ← readAt offset
  writeAt offset (change value)

def setBitsAt (offset : Nat) (bits : UInt32) : Program σ Unit :=
  updateAt offset fun value => value ||| bits

def clearBitsAt (offset : Nat) (bits : UInt32) : Program σ Unit :=
  updateAt offset fun value => value &&& ~~~bits

def update (register : Register) (change : UInt32 → UInt32) : Program σ Unit :=
  updateAt register.offset change

def enable (control : Control) : Program σ Unit :=
  setBitsAt control.register.offset control.mask

def disable (control : Control) : Program σ Unit :=
  clearBitsAt control.register.offset control.mask

def isSet (control : Control) : Program σ Bool := do
  let value ← read control.register
  return control.isSetIn value

def isBusIdle : Program σ Bool := do
  let busy ← isSet .axiChannels
  return !busy

/-- Starts a soft reset. -/
def startReset : Program σ Unit := write Control.softReset.register Control.softReset.mask

def demandTx : Program σ Unit := write .txPollDemand 0

def demandRx : Program σ Unit := write .rxPollDemand 0

/-- Clears the status bits that `bits` holds. -/
def acknowledge (bits : UInt32) : Program σ Unit := write .dmaStatus bits

def acknowledgeAll : Program σ Unit := acknowledge 0xFFFFFFFF

/-- The high word is written first. -/
def writeAddress (slot : Nat) (address : MacAddress) : Program σ Unit := do
  write (.addressHigh slot) address.highWord
  write (.addressLow slot) address.lowWord

def readAddress (slot : Nat) : Program σ MacAddress := do
  let high ← read (.addressHigh slot)
  let low ← read (.addressLow slot)
  return .ofWords high low

/-- The station address is kept in the first slot. -/
def writeStation (address : MacAddress) : Program σ Unit := writeAddress 0 address

def readStation : Program σ MacAddress := readAddress 0

section Run

variable (hardware : Hardware) (machine : Machine σ)

@[simp] theorem run_updateAt (offset : Nat) (change : UInt32 → UInt32) :
    (updateAt offset change : Program σ Unit).run hardware machine =
      (.ok (), { machine with
        bus := (machine.bus.read offset).write offset
          (change (machine.bus.registers.read offset)) }) := rfl

@[simp] theorem run_isSet (control : Control) :
    (isSet control : Program σ Bool).run hardware machine =
      (.ok (control.isSetIn (machine.bus.registers.read control.register.offset)),
        { machine with bus := machine.bus.read control.register.offset }) := rfl

end Run

end EthernetMac.Program
