import EthernetMac.Address
import EthernetMac.Filter

/-!
What an interface tells its operator. A notice is a cause; its level and its
text are functions of it.
-/

namespace EthernetMac

/-- The calls that need an initialized interface, and bringing it up itself. -/
inductive Operation where
  | bringUp
  | shutdown
  | reset
  | statistics
  | multicastAddress
  | nonVolatile
  | receive
  | transmit
  | status
  | setFilters
  | setAddress
deriving DecidableEq, Repr

def Operation.name : Operation → String
  | bringUp => "initialize"
  | shutdown => "shutdown"
  | reset => "reset"
  | statistics => "statistics"
  | multicastAddress => "multicast_ip_to_mac"
  | nonVolatile => "nv_data"
  | receive => "receive"
  | transmit => "transmit"
  | status => "get_status"
  | setFilters => "set_receive_filters"
  | setAddress => "set_station_address"

/-- Why a frame cannot be sent as it was handed over. -/
inductive Rejection where
  | headerSize (size : Nat)
  | headerFields
  | frameLength (length : Nat)
deriving DecidableEq, Repr

inductive Notice where
  | notStarted (operation : Operation)
  | notInitialized (operation : Operation)
  | alreadyInitialized
  | initialized (rx tx : Nat) (version : UInt32)
  | resetTimedOut (milliseconds : UInt32)
  | busStillBusy (milliseconds : UInt32)
  | verificationSkipped
  | noStorage
  | link (up : Bool)
  | mediaAbsent
  | rejected (reason : Rejection)
  | slotOwned (slot : Nat)
  | txRingFull (pending : Nat)
  | txFrameError (status flags collisions : UInt32)
  | rxFrameError (status flags : UInt32) (sourceFailed destinationFailed : Bool)
  | rxFrameOversized (length : Nat)
  | rxBufferTooSmall (available needed : Nat)
  | rxFragmentDropped (slot : Nat)
  | filterRequest (filter : ReceiveFilter)
  | filterSetting (filter : ReceiveFilter)
  | multicastListIgnored (reset : Bool) (entries : Nat)
  | addressRestored
  | addressSet (address : MacAddress)
deriving DecidableEq, Repr

inductive Level where
  | debug
  | warn
  | error
deriving DecidableEq, Repr

def Level.label : Level → String
  | debug => "DEBUG"
  | warn => "WARN"
  | error => "ERROR"

def Rejection.text : Rejection → String
  | headerSize size => s!"header size {size} rejected"
  | headerFields => "header without destination or protocol"
  | frameLength length => s!"frame length {length} rejected"

namespace Notice

def level : Notice → Level
  | resetTimedOut _ => .error
  | noStorage | txFrameError .. | rxFrameError .. | rxFrameOversized _ => .warn
  | _ => .debug

def text : Notice → String
  | notStarted operation => operation.name ++ ": device not started"
  | notInitialized operation => operation.name ++ ": device not initialized"
  | alreadyInitialized => "initialize: already initialized"
  | initialized rx tx version =>
    s!"initialized: {rx} RX / {tx} TX descriptors, version " ++ Hex.word version
  | resetTimedOut milliseconds => s!"GMAC reset not completed within {milliseconds} ms"
  | busStillBusy milliseconds => s!"AXI still busy after {milliseconds} ms, continuing"
  | verificationSkipped => "reset: extended verification not performed"
  | noStorage => "nv_data: no non-volatile storage"
  | link up => if up then "link up" else "link down"
  | mediaAbsent => "transmit: media not present"
  | rejected reason => "transmit: " ++ reason.text
  | slotOwned slot => s!"transmit: TX slot {slot} still owned by DMA"
  | txRingFull pending => s!"TX ring full, {pending} completions unreported"
  | txFrameError status flags collisions =>
    "TX frame error: tdes0=" ++ Hex.word status ++ " flags=" ++ Hex.word flags ++
      s!" collisions={collisions}"
  | rxFrameError status flags sourceFailed destinationFailed =>
    "RX frame error: rdes0=" ++ Hex.word status ++ " flags=" ++ Hex.word flags ++
      s!" sa_filter_fail={sourceFailed} da_filter_fail={destinationFailed}"
  | rxFrameOversized length => s!"RX frame length {length} exceeds buffer, dropped"
  | rxBufferTooSmall available needed =>
    s!"RX buffer too small: have {available}, need {needed}"
  | rxFragmentDropped slot => s!"RX multi-descriptor frame dropped at slot {slot}"
  | filterRequest filter => "filter request = " ++ filter.letters
  | filterSetting filter => "filter setting = " ++ filter.letters
  | multicastListIgnored reset entries =>
    s!"multicast list ignored (reset={reset}, entries={entries})"
  | addressRestored => "station address reset to permanent address"
  | addressSet address => "station address " ++ address.text

/-- The line as it is written to a log. -/
def line (notice : Notice) : String := notice.level.label ++ " " ++ notice.text

end Notice

end EthernetMac
