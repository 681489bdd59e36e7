import EthernetMac.Proofs.Interface.Confinement
import EthernetMac.Proofs.Interface.Reset
import EthernetMac.Proofs.Program.AddressSlots

/-!
The station address. The interface remembers it, and the device has a copy in its first
address slot. The one is what was last taken into use, through all starts and stops; the
other is the same from the time on when the interface first went into service.
-/

namespace EthernetMac

namespace RegisterFile

/-- The address in the first address slot. -/
def station (file : RegisterFile) : MacAddress :=
  .ofWords (file.read (Register.addressHigh 0).offset) (file.read (Register.addressLow 0).offset)

def stationCells : List Nat := [(Register.addressHigh 0).offset, (Register.addressLow 0).offset]

theorem station_congr {file other : RegisterFile}
    (same : ∀ offset ∈ stationCells, file.read offset = other.read offset) :
    file.station = other.station := by
  unfold station
  rw [same _ (by decide), same _ (by decide)]

/-- The registers when an address was written into the first slot. -/
def addressed (file : RegisterFile) (address : MacAddress) : RegisterFile :=
  (file.write (Register.addressHigh 0).offset address.highWord).write
    (Register.addressLow 0).offset address.lowWord

@[simp] theorem station_addressed (file : RegisterFile) (address : MacAddress) :
    (file.addressed address).station = address :=
  (congrFun (file.addresses_keep (.station address)) 0).trans (Function.update_self ..)

/-- What comes after the address when a device is brought up leaves it alone. -/
theorem station_serving {rx tx : Nat} (interface : Interface rx tx) (file : RegisterFile) :
    (interface.programmed file).serving.station = interface.address := by
  unfold station serving Interface.programmed
  simp (disch := decide) only [read_write_other, read_enable_other, read_write_same,
    MacAddress.ofWords_words]

end RegisterFile

namespace Interface

open RegisterFile

variable {rx tx : Nat} {hardware : Hardware} {machine : Machine (Interface rx tx)}

section SetAddress

/-- The address that a call to set one is about. -/
def requested (config : Config) (restore : Bool) (address : Option MacAddress) :
    Option MacAddress :=
  if restore then some config.address else address

theorem run_setAddress_of_some {restore : Bool} {address : Option MacAddress} {new : MacAddress}
    (initialized : machine.state.lifecycle = .initialized)
    (wanted : requested machine.state.config restore address = some new) (hardware : Hardware) :
    ∃ bus, (setAddress restore address).run hardware machine =
        (.ok (.ok ()), ⟨bus, { machine.state with address := new }⟩) ∧
      bus.registers = machine.bus.registers.addressed new := by
  unfold setAddress
  rw [run_gated_of_initialized initialized]
  cases restore with
  | true =>
    injection wanted with same
    rw [← same]
    exact ⟨_, rfl, rfl⟩
  | false =>
    obtain rfl : address = some new := wanted
    exact ⟨_, rfl, rfl⟩

/-- Without an initialized interface and an address nothing is set. -/
theorem run_setAddress_of_none (restore : Bool) (address : Option MacAddress)
    (unfit : machine.state.lifecycle ≠ .initialized ∨
      requested machine.state.config restore address = none) (hardware : Hardware) :
    ∃ error bus, (setAddress restore address).run hardware machine =
        (.ok (.error error), ⟨bus, machine.state⟩) ∧
      bus.registers = machine.bus.registers ∧
      (setAddress restore address).writes hardware machine = [] := by
  cases refused : refusal? machine.state.lifecycle .setAddress with
  | some refusal =>
    exact ⟨refusal.2, _, run_gated_of_refusal refused _ _, rfl,
      writes_gated_of_refusal refused _ _⟩
  | none =>
    have initialized : machine.state.lifecycle = .initialized := by
      cases state : machine.state.lifecycle with
      | initialized => rfl
      | started | stopped => simp [state, refusal?] at refused
    have wanted := unfit.resolve_left (not_not_intro initialized)
    cases restore with
    | true => contradiction
    | false =>
      obtain rfl : address = none := wanted
      exact ⟨.invalidParameter, machine.bus, run_gated_of_initialized initialized _ _ _, rfl,
        writes_gated_of_initialized initialized _ _ _⟩

end SetAddress

section History

/-- The address that a call took into use. -/
def adoptedIn (config : Config) : Moment rx tx → Option MacAddress
  | ⟨_, .call _ (.setAddress restore address), some (.ok (.plain (.ok ())))⟩ =>
    requested config restore address
  | _ => none

/-- The address that was taken into use last, which is the permanent one at first. -/
def adopted (config : Config) (history : List (Moment rx tx)) : MacAddress :=
  (System.latest (adoptedIn config) history).getD config.address

/-- A call to bring the interface up succeeded. -/
def serves : Moment rx tx → Bool
  | ⟨_, .call _ (.bringUp ..), some (.ok (.plain (.ok ())))⟩ => true
  | _ => false

/-- What the interface and the device have to do with the history of addresses. -/
structure Stationed (config : Config) (history : List (Moment rx tx))
    (machine : Machine (Interface rx tx)) : Prop where
  config_eq : machine.state.config = config
  address_eq : machine.state.address = adopted config history
  served : machine.state.lifecycle = .initialized → ∃ moment ∈ history, serves moment
  programmed : (∃ moment ∈ history, serves moment) →
    machine.bus.registers.station = machine.state.address

variable {config : Config} {history : List (Moment rx tx)}

theorem keeps_standing {call : Call}
    (prompt : ∀ restore address, call ≠ .setAddress restore address) :
    (call.program : Program (Interface rx tx) Reply).Keeps
      fun interface => (interface.config, interface.address) := by
  cases call with
  | setAddress restore address => exact absurd rfl (prompt restore address)
  | start => exact (keeps_start fun _ _ => rfl).map _
  | stop => exact (keeps_stop fun _ _ => rfl).map _
  | bringUp extraRx extraTx =>
    exact (keeps_bringUp (fun _ _ => rfl) (fun _ _ => rfl) extraRx extraTx).map _
  | _ => exact keeps_of_serves (fun _ _ => rfl) (fun _ _ => rfl) _ trivial

/-- A moment that has nothing to do with addresses. -/
theorem Stationed.aside {moment : Moment rx tx} {after : Machine (Interface rx tx)}
    (stationed : Stationed config history machine) (quiet : adoptedIn config moment = none)
    (idle : serves moment = false)
    (same : (after.state.config, after.state.address) =
      (machine.state.config, machine.state.address))
    (dwells : after.state.lifecycle = .initialized → machine.state.lifecycle = .initialized)
    (kept : after.bus.registers.station = machine.bus.registers.station) :
    Stationed config (moment :: history) after := by
  obtain ⟨config_eq, address_eq⟩ := Prod.mk.inj same
  have before : (∃ other ∈ moment :: history, serves other) ↔ ∃ other ∈ history, serves other := by
    simp [idle]
  constructor
  · rw [config_eq, stationed.config_eq]
  · rw [address_eq, stationed.address_eq]
    unfold adopted
    rw [System.latest_cons_of_none quiet]
  · exact fun initialized => before.2 (stationed.served (dwells initialized))
  · intro served
    rw [kept, address_eq, stationed.programmed (before.1 served)]

/-- A moment that finds the interface in service, or brings it there. -/
theorem Stationed.serving {moment : Moment rx tx} {after : Machine (Interface rx tx)}
    (stationed : Stationed config history machine) (quiet : adoptedIn config moment = none)
    (serving : serves moment)
    (same : (after.state.config, after.state.address) =
      (machine.state.config, machine.state.address))
    (programmed : after.bus.registers.station = machine.state.address) :
    Stationed config (moment :: history) after := by
  obtain ⟨config_eq, address_eq⟩ := Prod.mk.inj same
  constructor
  · rw [config_eq, stationed.config_eq]
  · rw [address_eq, stationed.address_eq]
    unfold adopted
    rw [System.latest_cons_of_none quiet]
  · exact fun _ => ⟨moment, List.mem_cons_self, serving⟩
  · intro
    rw [programmed, address_eq]

/-- What a run does not write it leaves in the address slot. -/
theorem station_run {α : Type} {program : Program (Interface rx tx) α}
    (spares : ∀ offset ∈ stationCells, ∀ pause, LeavesAlone offset (hardware pause))
    (unwritten : ∀ write ∈ program.writes hardware machine, write.offset ∉ stationCells) :
    (program.run hardware machine).2.bus.registers.station = machine.bus.registers.station :=
  station_congr fun offset listed =>
    Program.read_run_of_unwritten (spares offset listed) _ _ fun write made =>
      (ne_of_mem_of_not_mem listed (unwritten write made)).symm

theorem unwritten_station {call : Call} (silent : ¬ call.Addresses) :
    ∀ write ∈ call.program.writes hardware machine, write.offset ∉ stationCells := by
  intro write made
  have emits : (call.program : Program (Interface rx tx) Reply).Emits call.Permits
      (fun _ _ => True) (.pause 0) := emits_permits call
  obtain ⟨last, permits⟩ := emits.allowed_of_mem machine write made
  obtain ⟨before, offset, value⟩ := write
  dsimp only at permits ⊢
  cases permits with
  | addressHigh addresses | addressLow addresses => exact absurd addresses silent
  | constant listed =>
    have apart : ∀ entry ∈ call.constants, entry.1 ∉ stationCells := by
      cases call <;> simp [Call.constants, stationCells, Register.offset]
    exact apart _ listed
  | enable listed =>
    have apart : ∀ control ∈ call.controls, control.register.offset ∉ stationCells := by
      cases call <;> simp [Call.controls] <;> decide
    exact apart _ listed
  | rxList | txList | resume | take | filter => decide

theorem adoptedIn_of_silent {call : Call} (silent : ¬ call.Addresses)
    (answer : Option (Except Fault Reply)) :
    adoptedIn config (⟨machine, .call hardware call, answer⟩ : Moment rx tx) = none := by
  cases call with
  | setAddress => exact absurd trivial silent
  | _ => rfl

theorem serves_of_silent {call : Call} (silent : ¬ call.Addresses)
    (answer : Option (Except Fault Reply)) :
    serves (⟨machine, .call hardware call, answer⟩ : Moment rx tx) = false := by
  cases call with
  | bringUp => exact absurd trivial silent
  | _ => rfl

theorem Stationed.bringUp (stationed : Stationed config history machine) (extraRx extraTx : Nat)
    (spares : ∀ offset ∈ stationCells, ∀ pause, LeavesAlone offset (hardware pause)) :
    let result := (Interface.bringUp extraRx extraTx).run hardware machine
    Stationed config (⟨machine, .call hardware (.bringUp extraRx extraTx),
      some (result.1.map .plain)⟩ :: history) result.2 := by
  intro result
  by_cases extra : extraRx ≠ 0 ∨ extraTx ≠ 0
  · simp only [result, run_bringUp_of_extra extra]
    exact stationed.aside rfl rfl rfl id rfl
  · obtain ⟨rfl, rfl⟩ : extraRx = 0 ∧ extraTx = 0 := by omega
    cases state : machine.state.lifecycle with
    | stopped =>
      simp only [result, run_bringUp_of_stopped state]
      exact stationed.aside rfl rfl rfl id rfl
    | initialized =>
      simp only [result, run_bringUp_of_initialized state]
      exact stationed.serving rfl rfl rfl (stationed.programmed (stationed.served state))
    | started =>
      by_cases leaves : machine.bus.LeavesReset hardware machine.state.config.timing
      · obtain ⟨bus, _, -, _, -, ran, registers, -⟩ := run_bringUpDevice_of_leaves leaves
        simp only [result, run_bringUp_of_started state, ran]
        refine stationed.serving rfl rfl rfl ?_
        rw [registers]
        exact station_serving machine.state _
      · -- A device that stays in its reset was sent no address.
        have kept : (bringUpDevice.run hardware machine).2.bus.registers.station =
            machine.bus.registers.station := by
          rw [← run_bringUp_of_started state]
          apply station_run spares
          intro write made
          have entry : write.entry ∈ ((Interface.bringUp 0 0).writes hardware machine).map
              Write.entry := List.mem_map_of_mem made
          rw [writes_bringUp_of_stays state leaves] at entry
          have apart : write.offset = Register.busMode.offset ∨
              write.offset = Register.generalPurpose.offset := by
            simp only [Write.entry, List.mem_cons, Prod.mk.injEq, List.not_mem_nil, or_false]
              at entry
            exact entry.imp And.left And.left
          rcases apart with there | there <;> rw [there] <;> decide
        rw [run_bringUpDevice_of_stays leaves] at kept
        simp only [result, run_bringUp_of_started state, run_bringUpDevice_of_stays leaves]
        exact stationed.aside rfl rfl rfl (fun dwells => dwells) kept

theorem Stationed.setAddress (stationed : Stationed config history machine) (restore : Bool)
    (address : Option MacAddress) :
    let result := (Interface.setAddress restore address).run hardware machine
    Stationed config (⟨machine, .call hardware (.setAddress restore address),
      some (result.1.map .plain)⟩ :: history) result.2 := by
  intro result
  by_cases initialized : machine.state.lifecycle = .initialized
  · cases wanted : requested machine.state.config restore address with
    | none =>
      obtain ⟨error, bus, ran, registers, -⟩ := run_setAddress_of_none restore address (.inr wanted)
        hardware
      simp only [result, ran]
      exact stationed.aside rfl rfl rfl id (congrArg station registers)
    | some new =>
      obtain ⟨bus, ran, registers⟩ := run_setAddress_of_some initialized wanted hardware
      simp only [result, ran]
      constructor
      · exact stationed.config_eq
      · unfold adopted
        rw [System.latest_cons]
        show new = ((requested config restore address).or _).getD _
        rw [← stationed.config_eq, wanted]
        rfl
      · exact fun initialized => (stationed.served initialized).imp fun _ =>
          And.imp_left (List.mem_cons_of_mem _)
      · intro
        rw [registers]
        exact station_addressed _ _
  · obtain ⟨error, bus, ran, registers, -⟩ := run_setAddress_of_none restore address
      (.inl initialized) hardware
    simp only [result, ran]
    exact stationed.aside rfl rfl rfl id (congrArg station registers)

/-- Only the two calls that write the address have to do with it. -/
theorem Stationed.call (stationed : Stationed config history machine) (call : Call)
    (spares : ∀ offset ∈ stationCells, ∀ pause, LeavesAlone offset (hardware pause)) :
    let result := call.program.run hardware machine
    Stationed config (⟨machine, .call hardware call, some result.1⟩ :: history) result.2 := by
  intro result
  -- all other calls neither write the address slot nor lead into service
  have others (silent : ¬ call.Addresses) : Stationed config
      (⟨machine, .call hardware call, some result.1⟩ :: history) result.2 := by
    have standing : ∀ restore address, call ≠ .setAddress restore address := by
      rintro restore address rfl
      exact silent trivial
    have prompt : ∀ extraRx extraTx, call ≠ .bringUp extraRx extraTx := by
      rintro extraRx extraTx rfl
      exact silent trivial
    refine stationed.aside (adoptedIn_of_silent silent _) (serves_of_silent silent _)
      (keeps_standing standing hardware machine) (fun initialized => ?_)
      (station_run spares (unwritten_station silent))
    rw [lifecycle_run] at initialized
    exact Lifecycle.initialized_of_next prompt initialized
  cases call with
  | bringUp extraRx extraTx =>
    simp only [result, Call.program, Program.answer_map, Program.machine_map]
    exact stationed.bringUp extraRx extraTx spares
  | setAddress restore address =>
    simp only [result, Call.program, Program.answer_map, Program.machine_map]
    exact stationed.setAddress restore address
  | _ => exact others id

theorem Stationed.device (stationed : Stationed config history machine) {action : DeviceAction}
    (spares : ∀ offset ∈ stationCells, LeavesAlone offset action.onRegisters)
    (answer : Option (Except Fault Reply)) :
    Stationed config (⟨machine, .device action, answer⟩ :: history)
      ⟨{ machine.bus with registers := action.onRegisters machine.bus.registers },
        onDevice action machine.state⟩ :=
  stationed.aside rfl rfl rfl id (station_congr fun offset listed => spares offset listed _)

theorem stationed_step {step : Step Call} (spares : SparesCells stationCells step machine)
    (stationed : Stationed config history machine) :
    Stationed config ((system rx tx).moment machine step :: history)
      ((system rx tx).step step machine).2 := by
  cases step with
  | device action => exact stationed.device spares _
  | call hardware call => exact stationed.call call fun offset listed => spares offset listed

theorem stationed_steps (config : Config) (queues : Queues rx tx) (bus : Bus)
    (steps : List (Step Call)) :
    let start : Machine (Interface rx tx) := ⟨bus, Interface.blank config queues⟩
    (system rx tx).Follows start (SparesCells stationCells) steps →
      Stationed config ((system rx tx).history start steps) ((system rx tx).after start steps) := by
  intro start follows
  refine System.holds_of_follows (Stationed config) ?_ (fun _ _ _ => stationed_step) steps follows
  exact ⟨rfl, rfl, fun initialized => Lifecycle.noConfusion initialized, by simp⟩

end History

/-- From the start on the interface has the address that was set last with success, or the
permanent one; it reports that address, and from the first time it went into service a look at
the device's first address slot finds the same, if nobody else writes there. To set an address
may fail, and then changes nothing. -/
theorem station_agrees (config : Config) (queues : Queues rx tx) (bus : Bus)
    (steps : List (Step Call)) :
    let start : Machine (Interface rx tx) := ⟨bus, Interface.blank config queues⟩
    let history := (system rx tx).history start steps
    let machine := (system rx tx).after start steps
    (system rx tx).Follows start (SparesCells stationCells) steps →
      machine.state.address = adopted config history ∧
      (∀ hardware, ∃ report after, mode.run hardware machine = (.ok report, after) ∧
        report.currentAddress = machine.state.address ∧
        report.permanentAddress = config.address) ∧
      ((∃ moment ∈ history, serves moment) → ∀ hardware, ∃ after,
        (Program.readAddress 0).run hardware machine = (.ok machine.state.address, after)) ∧
      ∀ hardware restore address, ∃ result after,
        (setAddress restore address).run hardware machine = (.ok result, after) ∧
        (result = .ok () ↔ machine.state.lifecycle = .initialized ∧
          (requested config restore address).isSome) ∧
        (result ≠ .ok () → after.state = machine.state ∧
          after.bus.registers = machine.bus.registers ∧
          (setAddress restore address).writes hardware machine = []) := by
  intro start history machine follows
  have stationed : Stationed config history machine :=
    stationed_steps config queues bus steps follows
  refine ⟨stationed.address_eq, ?reports, ?reads, ?sets⟩
  case reports =>
    intro hardware
    exact ⟨_, _, rfl, rfl, congrArg Config.address stationed.config_eq⟩
  case reads =>
    intro served hardware
    rw [← stationed.programmed served]
    exact ⟨_, rfl⟩
  case sets =>
    intro hardware restore address
    rw [← stationed.config_eq]
    by_cases fit : machine.state.lifecycle = .initialized ∧
        (requested machine.state.config restore address).isSome
    · obtain ⟨new, wanted⟩ := Option.isSome_iff_exists.1 fit.2
      obtain ⟨bus, ran, -⟩ := run_setAddress_of_some fit.1 wanted hardware
      exact ⟨_, _, ran, iff_of_true rfl fit, fun fails => absurd rfl fails⟩
    · have unfit : machine.state.lifecycle ≠ .initialized ∨
          requested machine.state.config restore address = none := by
        simpa [imp_iff_not_or] using fit
      obtain ⟨error, bus, ran, registers, silent⟩ :=
        run_setAddress_of_none restore address unfit hardware
      exact ⟨_, _, ran, iff_of_false nofun fit, fun _ => ⟨rfl, registers, silent⟩⟩

/-- An address outlives a call that names none and a second bringing up, and is given up for the
permanent one on request. -/
theorem station_agrees_of_restarted :
    let queues : Queues 2 2 :=
      Queues.blank ⟨0x1000, 0x2000, 0x4000⟩ (Nat.le_refl 2) (Nat.le_refl 2)
    let bus : Bus := { registers := .blank .reactive }
    let start : Machine (Interface 2 2) := ⟨bus, Interface.blank {} queues⟩
    let address : MacAddress := ⟨0x02, 0x11, 0x22, 0x33, 0x44, 0x55⟩
    let restarted : List (Step Call) :=
      [.call .idle (.bringUp 0 0), .call .idle .start, .call .idle .stop,
        .call .idle (.setAddress false none), .call .idle (.setAddress false (some address)),
        .call .idle (.bringUp 0 0), .call .idle .start]
    let restored := .call .idle (.setAddress true (some address)) :: restarted
    (∃ after, (Program.readAddress 0).run .idle ((system 2 2).after start restarted) =
      (.ok address, after)) ∧
    ∃ after, (Program.readAddress 0).run .idle ((system 2 2).after start restored) =
      (.ok .fallback, after) := by
  intro queues bus start address restarted restored
  have idle (offset : Nat) (_ : offset ∈ stationCells) (pause : Nat) :
      LeavesAlone offset (Hardware.idle pause) := fun _ => rfl
  have follows : (system 2 2).Follows start (SparesCells stationCells) restored :=
    ⟨idle, idle, idle, idle, idle, idle, idle, idle, trivial⟩
  constructor
  · obtain ⟨agrees, -, reads, -⟩ := station_agrees {} queues bus restarted follows.2
    have adopts : adopted {} ((system 2 2).history start restarted) = address := by decide +kernel
    have read := reads (by decide +kernel) .idle
    rwa [agrees, adopts] at read
  · obtain ⟨agrees, -, reads, -⟩ := station_agrees {} queues bus restored follows
    have adopts : adopted {} ((system 2 2).history start restored) = .fallback := by
      decide +kernel
    have read := reads (by decide +kernel) .idle
    rwa [agrees, adopts] at read

end Interface

end EthernetMac
