import EthernetMac.Interface.Basic

/-!
Filters and the station address. The address is kept in address slot 0 of the
device and in the interface; a call that fails changes neither.
-/

namespace EthernetMac.Interface

variable {rx tx : Nat}

/-- The filters the device applies, in any state of the lifecycle. -/
def filterSetting : Program (Interface rx tx) ReceiveFilter := do
  let raw ← Program.read .frameFilter
  return .ofRegister raw

/-- Receives what `enable` asks for and `disable` does not exclude. No list of
multicast addresses is kept. -/
def setFilters (enable disable : ReceiveFilter) (resetMulticast : Bool)
    (multicast : List MacAddress) : Program (Interface rx tx) (Except Error Unit) :=
  gated .setFilters .error do
    let request := enable \ disable
    Program.note (.filterRequest request)
    Program.noteWhen (resetMulticast || !multicast.isEmpty)
      (.multicastListIgnored resetMulticast multicast.length)
    Program.update .frameFilter request.apply
    let setting ← filterSetting
    Program.note (.filterSetting setting)
    return .ok ()

/-- Takes an address into use. -/
def useAddress (address : MacAddress) : Program (Interface rx tx) Unit := do
  Program.modify fun interface => { interface with address }
  Program.writeAddress 0 address
  Program.note (.addressSet address)

/-- Changes the station address, or with `restore` goes back to the permanent one. -/
def setAddress (restore : Bool) (address : Option MacAddress) :
    Program (Interface rx tx) (Except Error Unit) :=
  gated .setAddress .error do
    if restore then
      Program.note .addressRestored
      let interface ← Program.get
      useAddress interface.config.address
      return .ok ()
    else
      match address with
      | none => return .error .invalidParameter
      | some address =>
        useAddress address
        return .ok ()

/-- The report on configuration and state. -/
def mode : Program (Interface rx tx) InterfaceMode := do
  let filterSetting ← filterSetting
  let interface ← Program.get
  return {
    state := interface.lifecycle
    hardwareAddressSize := 6
    mediaHeaderSize := EthernetHeader.size
    maxPacketSize := interface.config.maxPacketSize
    storageSize
    filterMask := .supported
    filterSetting
    currentAddress := interface.address
    permanentAddress := interface.config.address
    broadcastAddress := .broadcast
    addressChangeable := true
    multipleTransmit := false
    mediaDetection := true
    mediaPresent := interface.mediaPresent }

end EthernetMac.Interface
