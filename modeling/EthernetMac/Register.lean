/-!
The register map. A `Register` has a byte offset in the register window; a
`Control` is a group of bits of one register that is set, cleared or tested
together.
-/

namespace EthernetMac

inductive Register where
  | configuration
  | frameFilter
  | hashHigh
  | hashLow
  | miiAddress
  | miiData
  | version
  | interruptStatus
  | interruptMask
  | addressHigh (slot : Nat)
  | addressLow (slot : Nat)
  | miiStatus
  | generalPurpose
  | busMode
  | txPollDemand
  | rxPollDemand
  | rxListBase
  | txListBase
  | dmaStatus
  | operationMode
  | interruptEnable
  | missedFrames
  | axiBusMode
  | axiStatus
  | currentTxDescriptor
  | currentRxDescriptor
  | currentTxBuffer
  | currentRxBuffer
  | hardwareFeature
deriving DecidableEq, Repr

/-- The address slots lie eight bytes apart, high word first. -/
def Register.offset : Register → Nat
  | configuration => 0x0000
  | frameFilter => 0x0004
  | hashHigh => 0x0008
  | hashLow => 0x000C
  | miiAddress => 0x0010
  | miiData => 0x0014
  | version => 0x0020
  | interruptStatus => 0x0038
  | interruptMask => 0x003C
  | addressHigh slot => 0x0040 + 8 * slot
  | addressLow slot => 0x0044 + 8 * slot
  | miiStatus => 0x00D8
  | generalPurpose => 0x00E0
  | busMode => 0x1000
  | txPollDemand => 0x1004
  | rxPollDemand => 0x1008
  | rxListBase => 0x100C
  | txListBase => 0x1010
  | dmaStatus => 0x1014
  | operationMode => 0x1018
  | interruptEnable => 0x101C
  | missedFrames => 0x1020
  | axiBusMode => 0x1028
  | axiStatus => 0x102C
  | currentTxDescriptor => 0x1048
  | currentRxDescriptor => 0x104C
  | currentTxBuffer => 0x1050
  | currentRxBuffer => 0x1054
  | hardwareFeature => 0x1058

structure Control where
  register : Register
  mask : UInt32
deriving DecidableEq, Repr

namespace Control

def receiver : Control := ⟨.configuration, 0x4⟩
def transmitter : Control := ⟨.configuration, 0x8⟩
def promiscuous : Control := ⟨.frameFilter, 0x1⟩
def allMulticast : Control := ⟨.frameFilter, 0x10⟩
def broadcastBlocked : Control := ⟨.frameFilter, 0x20⟩
def linkUp : Control := ⟨.miiStatus, 0x8⟩
def generalOutput : Control := ⟨.generalPurpose, 0x100⟩
def softReset : Control := ⟨.busMode, 0x1⟩
def wideDescriptors : Control := ⟨.busMode, 0x80⟩
def frameSent : Control := ⟨.dmaStatus, 0x1⟩
def frameReceived : Control := ⟨.dmaStatus, 0x40⟩
def rxUnavailable : Control := ⟨.dmaStatus, 0x80⟩
def rxEngine : Control := ⟨.operationMode, 0x2⟩
def txEngine : Control := ⟨.operationMode, 0x2000⟩
def txStoreAndForward : Control := ⟨.operationMode, 0x200000⟩
def rxStoreAndForward : Control := ⟨.operationMode, 0x2000000⟩
/-- The write and the read channel; both are clear when the bus is idle. -/
def axiChannels : Control := ⟨.axiStatus, 0x3⟩

/-- Some bit of the control is set in `value`. -/
def isSetIn (control : Control) (value : UInt32) : Bool := value &&& control.mask != 0

end Control

/-- Full duplex, checksum offload, automatic pad and CRC stripping, frame bursts,
and neither carrier sense nor own frames while sending. -/
def defaultConfiguration : UInt32 := 0x212C80

/-- Both directions store whole frames before they forward them. -/
def defaultOperationMode : UInt32 :=
  Control.txStoreAndForward.mask ||| Control.rxStoreAndForward.mask

end EthernetMac
