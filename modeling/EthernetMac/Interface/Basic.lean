import EthernetMac.Config
import EthernetMac.Queues

/-!
A network interface: its queues, its configuration, where it is in its
lifecycle, and what it remembers of address and link. All calls but a few need
an initialized interface; the others are refused before they touch anything.
-/

namespace EthernetMac

@[ext] structure Interface (rx tx : Nat) where
  queues : Queues rx tx
  config : Config
  lifecycle : Lifecycle := .stopped
  /-- The station address in use. -/
  address : MacAddress
  /-- The link as it was last seen. -/
  mediaPresent : Bool := false

namespace Interface

variable {rx tx : Nat} {α : Type}

def blank (config : Config) (queues : Queues rx tx) : Interface rx tx where
  queues
  config
  address := config.address

/-- Why an interface that is not initialized refuses a call. -/
def refusal? (lifecycle : Lifecycle) (operation : Operation) : Option (Notice × Error) :=
  match lifecycle with
  | .initialized => none
  | .started => some (.notInitialized operation, .deviceError)
  | .stopped => some (.notStarted operation, .notStarted)

/-- Runs `body` on an initialized interface only. -/
def gated (operation : Operation) (refuse : Error → α) (body : Program (Interface rx tx) α) :
    Program (Interface rx tx) α := do
  let interface ← Program.get
  match refusal? interface.lifecycle operation with
  | none => body
  | some (notice, error) =>
    Program.note notice
    return refuse error

/-- Runs a program on the queues of an interface. -/
def onQueues (program : Program (Queues rx tx) α) : Program (Interface rx tx) α :=
  program.within Interface.queues fun queues interface => { interface with queues }

theorem run_onQueues (hardware : Hardware) (program : Program (Queues rx tx) α)
    (machine : Machine (Interface rx tx)) :
    (onQueues program).run hardware machine =
      let result := program.run hardware ⟨machine.bus, machine.state.queues⟩
      (result.1, ⟨result.2.bus, { machine.state with queues := result.2.state }⟩) := by
  apply Program.run_within <;> intros <;> rfl

theorem run_gated_of_initialized {hardware : Hardware} {machine : Machine (Interface rx tx)}
    (initialized : machine.state.lifecycle = .initialized) (operation : Operation)
    (refuse : Error → α) (body : Program (Interface rx tx) α) :
    (gated operation refuse body).run hardware machine = body.run hardware machine := by
  simp [gated, Program.run_bind, initialized, refusal?]

/-- A refused call writes a notice and does nothing else. -/
theorem run_gated_of_refusal {hardware : Hardware} {machine : Machine (Interface rx tx)}
    {operation : Operation} {notice : Notice} {error : Error}
    (refused : refusal? machine.state.lifecycle operation = some (notice, error))
    (refuse : Error → α) (body : Program (Interface rx tx) α) :
    (gated operation refuse body).run hardware machine =
      (.ok (refuse error), { machine with bus := machine.bus.note notice }) := by
  simp [gated, Program.run_bind, Program.run_map, refused]

/-- Reads the link and remembers it; a change is worth a notice. -/
def sampleLink : Program (Interface rx tx) Bool := do
  let up ← Program.isSet .linkUp
  let interface ← Program.get
  if up = interface.mediaPresent then return up
  else
    Program.modify fun interface => { interface with mediaPresent := up }
    Program.note (.link up)
    return up

end Interface

end EthernetMac
