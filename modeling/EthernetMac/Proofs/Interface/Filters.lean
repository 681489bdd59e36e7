import EthernetMac.Proofs.Interface.Confinement
import EthernetMac.Proofs.Program.Keeps
import EthernetMac.Proofs.Program.Registers

/-!
The receive filters of an interface. A request overrides all that was asked for before, so
the frame filter register is what the last request makes of its first content, whatever else
the driver did; and the setting that is reported is that request, as far as it is honoured.
-/

namespace EthernetMac

namespace Interface

variable {rx tx : Nat} {hardware : Hardware} {machine : Machine (Interface rx tx)}

/-- What a call asked to receive, if it was granted. -/
def requestIn : Moment rx tx → Option ReceiveFilter
  | ⟨_, .call _ (.setFilters enable disable _ _), some (.ok (.plain (.ok ())))⟩ =>
    some (enable \ disable)
  | _ => none

/-- The frame filter register of a machine. -/
def frameFilter (machine : Machine (Interface rx tx)) : UInt32 :=
  machine.bus.registers.read Register.frameFilter.offset

/-- A request that is granted is applied to the register, and one that is not leaves it alone. -/
theorem run_setFilters (enable disable : ReceiveFilter) (clear : Bool)
    (multicast : List MacAddress) (hardware : Hardware) (machine : Machine (Interface rx tx)) :
    ∃ result after, (setFilters enable disable clear multicast).run hardware machine =
        (.ok result, after) ∧
      (result = .ok () → frameFilter after = (enable \ disable).apply (frameFilter machine)) ∧
      (result ≠ .ok () → frameFilter after = frameFilter machine) := by
  unfold setFilters
  cases state : machine.state.lifecycle with
  | initialized =>
    rw [run_gated_of_initialized state]
    have applied (raw : UInt32) (file : RegisterFile) :
        (file.write Register.frameFilter.offset raw).read Register.frameFilter.offset = raw :=
      RegisterFile.read_write_same (by decide) raw
    cases clear || !multicast.isEmpty <;>
      exact ⟨.ok (), _, rfl, fun _ => applied _ _, fun fails => absurd rfl fails⟩
  | started | stopped =>
    refine ⟨_, _, run_gated_of_refusal (congrArg (refusal? · .setFilters) state) _ _, nofun, ?_⟩
    exact fun _ => rfl

/-- What the last request that was granted makes of a first content. -/
def filtered (first : UInt32) (history : List (Moment rx tx)) : UInt32 :=
  ((System.latest requestIn history).map fun request => request.apply first).getD first

section Step

variable {first : UInt32} {history : List (Moment rx tx)}

theorem filtered_of_none {moment : Moment rx tx} (none : requestIn moment = none) :
    filtered first (moment :: history) = filtered first history := by
  unfold filtered
  rw [System.latest_cons_of_none none]

theorem filtered_of_some {moment : Moment rx tx} {request : ReceiveFilter}
    (some : requestIn moment = some request) :
    filtered first (moment :: history) = request.apply (filtered first history) := by
  unfold filtered
  rw [System.latest_cons, some]
  cases System.latest requestIn history with
  | none => rfl
  | some earlier => exact (ReceiveFilter.apply_apply earlier request first).symm

/-- Only a call to set the filters writes the register. -/
theorem frameFilter_run {call : Call}
    (other : ∀ enable disable clear multicast, call ≠ .setFilters enable disable clear multicast)
    (spares : ∀ pause, LeavesAlone Register.frameFilter.offset (hardware pause)) :
    frameFilter (call.program.run hardware machine).2 = frameFilter machine := by
  apply Program.read_run_of_unwritten spares
  intro write made there
  obtain ⟨enable, disable, clear, multicast, same⟩ :=
    (confined call hardware machine write made).filters there
  exact other enable disable clear multicast same

theorem frameFilter_setFilters (kept : frameFilter machine = filtered first history)
    (enable disable : ReceiveFilter) (clear : Bool) (multicast : List MacAddress) :
    let result := (setFilters enable disable clear multicast).run hardware machine
    frameFilter result.2 = filtered first (⟨machine,
      .call hardware (.setFilters enable disable clear multicast),
      some (result.1.map .plain)⟩ :: history) := by
  intro result
  obtain ⟨answer, after, ran, granted, refused⟩ :=
    run_setFilters enable disable clear multicast hardware machine
  have same : result = (.ok answer, after) := ran
  rw [same]
  cases answer with
  | ok done => rw [granted rfl, kept, filtered_of_some rfl]
  | error error => rw [refused (by simp), kept, filtered_of_none rfl]

/-- Every step leaves in the register what is due by then. -/
theorem frameFilter_step {step : Step Call} {machine : Machine (Interface rx tx)}
    (spares : SparesCells [Register.frameFilter.offset] step machine)
    (kept : frameFilter machine = filtered first history) :
    frameFilter ((system rx tx).step step machine).2 =
      filtered first ((system rx tx).moment machine step :: history) := by
  cases step with
  | device action =>
    rw [filtered_of_none rfl, ← kept]
    exact spares _ (List.mem_singleton_self _) _
  | call hardware call =>
    have others
        (other : ∀ enable disable clear multicast,
          call ≠ .setFilters enable disable clear multicast)
        (none : requestIn ((system rx tx).moment machine (.call hardware call)) = none) :
        frameFilter (call.program.run hardware machine).2 =
          filtered first ((system rx tx).moment machine (.call hardware call) :: history) := by
      rw [filtered_of_none none, ← kept]
      exact frameFilter_run other (spares _ (List.mem_singleton_self _))
    cases call with
    | setFilters enable disable clear multicast =>
      simp only [System.moment, system, driver, Call.program, Program.answer_map,
        Program.machine_map]
      exact frameFilter_setFilters kept enable disable clear multicast
    | _ => exact others (by simp) rfl

theorem frameFilter_steps (start : Machine (Interface rx tx)) (steps : List (Step Call))
    (follows : (system rx tx).Follows start (SparesCells [Register.frameFilter.offset]) steps) :
    frameFilter ((system rx tx).after start steps) =
      filtered (frameFilter start) ((system rx tx).history start steps) :=
  System.holds_of_follows (fun history machine =>
    frameFilter machine = filtered (frameFilter start) history) rfl
    (fun _ _ _ => frameFilter_step) steps follows

end Step

/-- A request changes no bits but its three, the setting after it is the request as far as it is
honoured, to ask for what is set changes nothing, and the second of two requests decides. So in
any run in which nobody else writes the register, both reports tell of the last request that was
granted, and what else the driver did has no part in it. -/
theorem filters_follow_last_request :
    (∀ (request later : ReceiveFilter) (value : UInt32),
      request.apply value &&& ~~~ReceiveFilter.mask = value &&& ~~~ReceiveFilter.mask ∧
      ReceiveFilter.ofRegister (request.apply value) = request.honoured ∧
      (ReceiveFilter.ofRegister value).apply value = value ∧
      later.apply (request.apply value) = later.apply value) ∧
    ∀ (start : Machine (Interface rx tx)) (steps : List (Step Call)),
      let history := (system rx tx).history start steps
      let machine := (system rx tx).after start steps
      (system rx tx).Follows start (SparesCells [Register.frameFilter.offset]) steps →
        (System.latest requestIn history = none → frameFilter machine = frameFilter start) ∧
        ∀ request, System.latest requestIn history = some request →
          frameFilter machine = request.apply (frameFilter start) ∧
          ∀ hardware,
            (∃ after, filterSetting.run hardware machine = (.ok request.honoured, after)) ∧
            ∃ report after, mode.run hardware machine = (.ok report, after) ∧
              report.filterSetting = request.honoured := by
  constructor
  · intro request later value
    exact ⟨request.apply_and_not_mask value, request.ofRegister_apply value,
      ReceiveFilter.apply_ofRegister value, request.apply_apply later value⟩
  · intro start steps history machine follows
    have register := frameFilter_steps start steps follows
    unfold filtered at register
    constructor
    · intro none
      rwa [none] at register
    · intro request last
      rw [last] at register
      have setting : ReceiveFilter.ofRegister (frameFilter machine) = request.honoured := by
        rw [register]
        exact request.ofRegister_apply _
      refine ⟨register, fun hardware => ⟨?_, _, _, rfl, setting⟩⟩
      rw [← setting]
      exact ⟨_, rfl⟩

/-- Multicast is asked for together with flags that mean nothing, in a second time of service;
promiscuous reception, which was on before, is off then. -/
theorem filters_follow_last_request_of_restarted :
    let bus : Bus :=
      { registers := (RegisterFile.blank .reactive).store Register.frameFilter.offset 0x80000010 }
    let start : Machine (Interface 2 2) :=
      ⟨bus, Interface.blank {} (Queues.blank ⟨0x1000, 0x2000, 0x4000⟩ (Nat.le_refl 2)
        (Nat.le_refl 2))⟩
    let steps : List (Step Call) :=
      [.call .idle (.setFilters ⟨0xEA⟩ .promiscuous true [.broadcast]),
        .call .idle (.bringUp 0 0), .call .idle .start, .call .idle .stop,
        .call .idle (.setFilters .promiscuous ⟨0⟩ false []),
        .call .idle (.bringUp 0 0), .call .idle .start]
    let machine := (system 2 2).after start steps
    frameFilter machine = 0x80000030 ∧
      ∃ after, filterSetting.run .idle machine =
        (.ok (.unicast ∪ .promiscuousMulticast), after) := by
  intro bus start steps machine
  have idle (offset : Nat) (_ : offset ∈ [Register.frameFilter.offset]) (pause : Nat) :
      LeavesAlone offset (Hardware.idle pause) := fun _ => rfl
  have follows : (system 2 2).Follows start (SparesCells [Register.frameFilter.offset]) steps :=
    ⟨idle, idle, idle, idle, idle, idle, idle, trivial⟩
  have last : System.latest requestIn ((system 2 2).history start steps) = some ⟨0xE2⟩ := by
    decide +kernel
  obtain ⟨register, reports⟩ :=
    (filters_follow_last_request.2 start steps follows).2 ⟨0xE2⟩ last
  exact ⟨register.trans (by decide), (reports .idle).1⟩

end Interface

end EthernetMac
