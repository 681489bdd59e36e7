import EthernetMac.Interface.Addressing
import EthernetMac.Interface.Monitor
import EthernetMac.Interface.Session
import EthernetMac.Interface.Transfer
import EthernetMac.Proofs.Run.Device

/-!
The calls that a user of the queues, and one of a whole interface, can make,
with their answers. Both users run beside a device that may act between calls.
-/

namespace EthernetMac

variable {rx tx : Nat}

namespace Queues

inductive Call where
  | rebuild
  | receive (buffer : List UInt8)
  | transmit (address : UInt32) (length : Nat)
  | reclaim

inductive Reply where
  | rebuilt
  | received (result : Except Error Nat) (buffer : List UInt8)
  | sent (result : Except Error Unit)
  | reclaimed (address : Option UInt32)

def Call.program : Call → Program (Queues rx tx) Reply
  | rebuild => do
    Queues.build
    return .rebuilt
  | receive buffer => (fun answer => .received answer.1 answer.2) <$> Queues.receive buffer
  | transmit address length => .sent <$> Queues.transmit address length
  | reclaim => .reclaimed <$> Queues.reclaim

abbrev Moment (rx tx : Nat) :=
  EthernetMac.Moment (Machine (Queues rx tx)) (Step Call) (Option (Except Fault Reply))

def system (rx tx : Nat) :
    System (Machine (Queues rx tx)) (Step Call) (Option (Except Fault Reply)) :=
  driver Call.program DeviceAction.onQueues

end Queues

namespace Interface

inductive Call where
  | start
  | stop
  | bringUp (extraRx extraTx : Nat)
  | reset (extended : Bool)
  | shutdown
  | statistics (clear : Bool)
  | multicastAddress (ipv6 : Bool) (ip : List UInt8)
  | nonVolatile (read : Bool) (offset : Nat) (buffer : List UInt8)
  | receive (buffer : List UInt8)
  | transmit (frame : Frame) (request : Option HeaderRequest)
  | status (query : StatusQuery)
  | setFilters (enable disable : ReceiveFilter) (resetMulticast : Bool)
    (multicast : List MacAddress)
  | setAddress (restore : Bool) (address : Option MacAddress)
  | filterSetting
  | mode

inductive Reply where
  | plain (result : Except Error Unit)
  | address (result : Except Error MacAddress)
  | stored (result : Except Error Unit) (buffer : List UInt8)
  | received (result : Except Error ReceivedFrame) (buffer : List UInt8)
  | sent (result : Except Error Unit) (frame : Frame)
  | status (result : Except Error DeviceStatus)
  | filters (setting : ReceiveFilter)
  | mode (mode : InterfaceMode)

def Call.program : Call → Program (Interface rx tx) Reply
  | start => .plain <$> Interface.start
  | stop => .plain <$> Interface.stop
  | bringUp extraRx extraTx => .plain <$> Interface.bringUp extraRx extraTx
  | reset extended => .plain <$> Interface.reset extended
  | shutdown => .plain <$> Interface.shutdown
  | statistics clear => .plain <$> Interface.statistics clear
  | multicastAddress ipv6 ip => .address <$> Interface.multicastAddress ipv6 ip
  | nonVolatile read offset buffer =>
    (fun answer => .stored answer.1 answer.2) <$> Interface.nonVolatile read offset buffer
  | receive buffer => (fun answer => .received answer.1 answer.2) <$> Interface.receive buffer
  | transmit frame request =>
    (fun answer => .sent answer.1 answer.2) <$> Interface.transmit frame request
  | status query => .status <$> Interface.status query
  | setFilters enable disable resetMulticast multicast =>
    .plain <$> Interface.setFilters enable disable resetMulticast multicast
  | setAddress restore address => .plain <$> Interface.setAddress restore address
  | filterSetting => .filters <$> Interface.filterSetting
  | mode => .mode <$> Interface.mode

abbrev Moment (rx tx : Nat) :=
  EthernetMac.Moment (Machine (Interface rx tx)) (Step Call) (Option (Except Fault Reply))

/-- The device sees nothing of an interface but its queues and the registers. -/
def onDevice (action : DeviceAction) (interface : Interface rx tx) : Interface rx tx :=
  { interface with queues := action.onQueues interface.queues }

def system (rx tx : Nat) :
    System (Machine (Interface rx tx)) (Step Call) (Option (Except Fault Reply)) :=
  driver Call.program onDevice

end Interface

end EthernetMac
