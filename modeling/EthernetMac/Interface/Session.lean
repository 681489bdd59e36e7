import EthernetMac.Interface.Basic

/-!
The lifecycle of an interface. Starting and stopping only change its state.
Initializing resets the device, programs address and lists, builds the rings,
and only then starts the DMA engines and after them the MAC.
-/

namespace EthernetMac.Interface

variable {rx tx : Nat}

def moveTo (lifecycle : Lifecycle) : Program (Interface rx tx) Unit :=
  Program.modify fun interface => { interface with lifecycle }

def start : Program (Interface rx tx) (Except Error Unit) := do
  let interface ← Program.get
  match interface.lifecycle with
  | .stopped =>
    moveTo .started
    return .ok ()
  | .started | .initialized => return .error .alreadyStarted

def stop : Program (Interface rx tx) (Except Error Unit) := do
  let interface ← Program.get
  match interface.lifecycle with
  | .started | .initialized =>
    moveTo .stopped
    return .ok ()
  | .stopped => return .error .notStarted

/-- Tells the device the station address and where the rings are. -/
def programDevice : Program (Interface rx tx) Unit := do
  let interface ← Program.get
  Program.writeAddress 0 interface.address
  Program.enable .wideDescriptors
  Program.write .rxListBase (interface.queues.rx.ring.busAddress 0)
  Program.write .txListBase (interface.queues.tx.ring.busAddress 0)

def rebuildQueues : Program (Interface rx tx) Unit := onQueues Queues.build

theorem rebuildQueues_eq :
    (rebuildQueues : Program (Interface rx tx) Unit) = onQueues (Program.modify Queues.rebuild) :=
  congrArg onQueues Queues.build_eq

/-- The MAC is enabled after the engines that serve it. -/
def enableDevice : Program (Interface rx tx) Unit := do
  Program.acknowledgeAll
  Program.write .configuration defaultConfiguration
  Program.write .operationMode defaultOperationMode
  Program.enable .txEngine
  Program.enable .rxEngine
  Program.enable .transmitter
  Program.enable .receiver
  Program.demandRx

def announce : Program (Interface rx tx) Unit := do
  let version ← Program.read .version
  Program.note (.initialized rx tx version)

/-- Only a failed reset stops this; a bus that stays busy does not. -/
def bringUpDevice : Program (Interface rx tx) (Except Error Unit) := do
  let interface ← Program.get
  let timing := interface.config.timing
  let reset ← Program.softReset timing
  match reset with
  | .error error => return .error error
  | .ok () =>
    let _ ← Program.awaitBusIdle timing interface.config.busTimeoutMs
    programDevice
    rebuildQueues
    enableDevice
    moveTo .initialized
    announce
    return .ok ()

/-- Takes a started interface into service. Buffers beyond the queues' own
(`extraRx`, `extraTx`) are not supported. -/
def bringUp (extraRx extraTx : Nat) : Program (Interface rx tx) (Except Error Unit) := do
  if extraRx ≠ 0 ∨ extraTx ≠ 0 then return .error .unsupported
  else
    let interface ← Program.get
    match interface.lifecycle with
    | .started => bringUpDevice
    | .initialized =>
      Program.note .alreadyInitialized
      return .ok ()
    | .stopped =>
      Program.note (.notStarted .bringUp)
      return .error .notStarted

/-- There is nothing to reset beyond what initializing does. -/
def reset (extended : Bool) : Program (Interface rx tx) (Except Error Unit) :=
  gated .reset .error do
    Program.noteWhen extended .verificationSkipped
    return .ok ()

def shutdown : Program (Interface rx tx) (Except Error Unit) :=
  gated .shutdown .error do return .ok ()

/-- No statistics are kept. -/
def statistics (_reset : Bool) : Program (Interface rx tx) (Except Error Unit) :=
  gated .statistics .error do return .error .unsupported

/-- Multicast addresses are not derived. -/
def multicastAddress (_ipv6 : Bool) (_ip : List UInt8) :
    Program (Interface rx tx) (Except Error MacAddress) :=
  gated .multicastAddress .error do return .error .unsupported

/-- There is no storage to read or write, so the caller's buffer comes back as it was. -/
def nonVolatile (_read : Bool) (_offset : Nat) (buffer : List UInt8) :
    Program (Interface rx tx) (Except Error Unit × List UInt8) :=
  gated .nonVolatile (fun error => (.error error, buffer)) do
    Program.note .noStorage
    return (.error .unsupported, buffer)

end EthernetMac.Interface
