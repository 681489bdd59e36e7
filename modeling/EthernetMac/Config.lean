import EthernetMac.Filter
import EthernetMac.Header
import EthernetMac.Reset

/-! The configuration of an interface, its lifecycle, and the report on both. -/

namespace EthernetMac

@[ext] structure Config where
  /-- The permanent station address. -/
  address : MacAddress := .fallback
  resetTimeoutMs : UInt32 := 3000
  pollUs : UInt32 := 1000
  busTimeoutMs : UInt32 := 3000
  maxPacketSize : Nat := 1500
deriving DecidableEq, Repr

def Config.timing (config : Config) : Timing := ⟨config.resetTimeoutMs, config.pollUs⟩

/-- Ring length used where none is asked for. -/
def defaultRingLength : Nat := 64

/-- There is no non-volatile storage. -/
def storageSize : Nat := 0

inductive Lifecycle where
  | stopped
  | started
  | initialized
deriving DecidableEq, Repr, Inhabited

@[ext] structure InterfaceMode where
  state : Lifecycle
  hardwareAddressSize : Nat
  mediaHeaderSize : Nat
  maxPacketSize : Nat
  storageSize : Nat
  filterMask : ReceiveFilter
  filterSetting : ReceiveFilter
  currentAddress : MacAddress
  permanentAddress : MacAddress
  broadcastAddress : MacAddress
  addressChangeable : Bool
  multipleTransmit : Bool
  mediaDetection : Bool
  mediaPresent : Bool
deriving DecidableEq, Repr

end EthernetMac
