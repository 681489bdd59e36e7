import EthernetMac.Proofs.Program.Upholds
import EthernetMac.Proofs.Run.Calls

/-!
The footprint of each call: the pauses and register writes it may come to, whatever it reads
and whatever state the interface is in. A write that changes single bits comes right after
the read of the same register.
-/

namespace EthernetMac

namespace Interface

variable {rx tx : Nat} {allowed : Event → Event → Prop} {last : Event}

namespace Call

/-- What a call may write as it stands, and where. -/
def constants : Call → List (Nat × UInt32)
  | bringUp .. =>
    [(Register.busMode.offset, Control.softReset.mask),
      (Register.dmaStatus.offset, 0xFFFFFFFF),
      (Register.configuration.offset, defaultConfiguration),
      (Register.operationMode.offset, defaultOperationMode),
      (Register.rxPollDemand.offset, 0)]
  | receive _ => [(Register.rxPollDemand.offset, 0)]
  | transmit .. => [(Register.txPollDemand.offset, 0)]
  | _ => []

/-- The controls that a call may set. -/
def controls : Call → List Control
  | bringUp .. =>
    [.generalOutput, .wideDescriptors, .txEngine, .rxEngine, .transmitter, .receiver]
  | transmit .. => [.txEngine, .transmitter]
  | _ => []

/-- The calls that tell the device a station address. -/
def Addresses : Call → Prop
  | bringUp .. | setAddress .. => True
  | _ => False

/-- What may happen in a call right after `last`. -/
inductive Permits : Call → Event → Event → Prop
  | read {call : Call} {last : Event} {offset : Nat} {value : UInt32} :
    Permits call last (.read offset value)
  | notice {call : Call} {last : Event} {notice : Notice} : Permits call last (.notice notice)
  | pause {extraRx extraTx : Nat} {last : Event} {microseconds : UInt32} :
    Permits (bringUp extraRx extraTx) last (.pause microseconds)
  | constant {call : Call} {last : Event} {offset : Nat} {value : UInt32}
    (listed : (offset, value) ∈ call.constants) : Permits call last (.write offset value)
  | enable {call : Call} {control : Control} {value : UInt32} (listed : control ∈ call.controls) :
    Permits call (.read control.register.offset value)
      (.write control.register.offset (value ||| control.mask))
  | addressHigh {call : Call} {last : Event} (addresses : call.Addresses) (address : MacAddress) :
    Permits call last (.write (Register.addressHigh 0).offset address.highWord)
  | addressLow {call : Call} {last : Event} (addresses : call.Addresses) (address : MacAddress) :
    Permits call last (.write (Register.addressLow 0).offset address.lowWord)
  | rxList {extraRx extraTx : Nat} {last : Event} (base : UInt32) :
    Permits (bringUp extraRx extraTx) last (.write Register.rxListBase.offset base)
  | txList {extraRx extraTx : Nat} {last : Event} (base : UInt32) :
    Permits (bringUp extraRx extraTx) last (.write Register.txListBase.offset base)
  | resume {buffer : List UInt8} {raw : UInt32} (starved : Control.rxUnavailable.isSetIn raw) :
    Permits (receive buffer) (.read Register.dmaStatus.offset raw)
      (.write Register.dmaStatus.offset Control.rxUnavailable.mask)
  | take {query : StatusQuery} {raw : UInt32} (asked : query.asks .interrupts = true)
    (pending : (InterruptStatus.ofRegister raw).any) :
    Permits (status query) (.read Register.dmaStatus.offset raw)
      (.write Register.dmaStatus.offset (InterruptStatus.ofRegister raw).toRegister)
  | filter {enable disable : ReceiveFilter} {clear : Bool} {multicast : List MacAddress}
    {value : UInt32} :
    Permits (setFilters enable disable clear multicast)
      (.read Register.frameFilter.offset value)
      (.write Register.frameFilter.offset ((enable \ disable).apply value))

theorem notes_permits {call : Call} : Program.Notes call.Permits := fun _ _ _ => .notice

end Call

open Call (Permits notes_permits)

theorem emits_gated {α : Type} {operation : Operation} {refuse : Error → α}
    {body : Program (Interface rx tx) α} {post : α → Event → Prop}
    (note : Program.Notes allowed)
    (refused : ∀ error notice, post (refuse error) (.notice notice))
    (inside : body.Emits allowed post last) :
    (gated operation refuse body).Emits allowed post last := by
  unfold gated
  rw [Program.emits_bind, Program.emits_get]
  intro interface
  cases interface.lifecycle with
  | initialized => exact inside
  | started | stopped => exact ⟨note _ _ (by simp), refused _ _⟩

theorem events_gated_of_initialized {α : Type} {hardware : Hardware}
    {machine : Machine (Interface rx tx)} (initialized : machine.state.lifecycle = .initialized)
    (operation : Operation) (refuse : Error → α) (body : Program (Interface rx tx) α) :
    (gated operation refuse body).events hardware machine = body.events hardware machine := by
  unfold gated
  rw [Program.events_bind, Program.run_get]
  simp only [initialized]
  rfl

theorem writes_gated_of_initialized {α : Type} {hardware : Hardware}
    {machine : Machine (Interface rx tx)} (initialized : machine.state.lifecycle = .initialized)
    (operation : Operation) (refuse : Error → α) (body : Program (Interface rx tx) α) :
    (gated operation refuse body).writes hardware machine = body.writes hardware machine := by
  unfold gated
  rw [Program.writes_bind, Program.run_get]
  simp only [initialized]
  rfl

/-- A refused call writes nothing. -/
theorem writes_gated_of_refusal {α : Type} {hardware : Hardware}
    {machine : Machine (Interface rx tx)} {operation : Operation} {refusal : Notice × Error}
    (refused : refusal? machine.state.lifecycle operation = some refusal) (refuse : Error → α)
    (body : Program (Interface rx tx) α) :
    (gated operation refuse body).writes hardware machine = [] := by
  unfold gated
  rw [Program.writes_bind, Program.run_get]
  simp only [refused]
  rfl

theorem emits_onQueues {α : Type} {program : Program (Queues rx tx) α} {post : α → Event → Prop}
    (emits : program.Emits allowed post last) : (onQueues program).Emits allowed post last :=
  Program.emits_within emits

theorem emits_sampleLink {post : Bool → Event → Prop}
    (allow : ∀ last offset value, allowed last (.read offset value))
    (note : ∀ last notice, allowed last (.notice notice)) (promise : ∀ up last, post up last) :
    (sampleLink : Program (Interface rx tx) Bool).Emits allowed post last := by
  unfold sampleLink
  simp only [Program.emits_bind, Program.emits_isSet, Program.emits_get]
  intro value
  refine ⟨allow _ _ _, fun interface => ?_⟩
  split <;> simp [note, promise]

section BringUp

variable {extraRx extraTx : Nat}

theorem waits_bringUp : Program.Waits (Permits (.bringUp extraRx extraTx)) where
  read _ _ _ _ := .read
  pause _ _ := .pause
  note := notes_permits

theorem emits_enable {σ : Type} {call : Call} {control : Control} (listed : control ∈ call.controls)
    {post : Unit → Event → Prop} (promise : ∀ last, post () last) :
    (Program.enable control : Program σ Unit).Emits call.Permits post last :=
  fun _ => ⟨.read, .enable listed, promise _⟩

theorem emits_writeAddress {σ : Type} {call : Call} (addresses : call.Addresses)
    (address : MacAddress) {post : Unit → Event → Prop} (promise : ∀ last, post () last) :
    (Program.writeAddress 0 address : Program σ Unit).Emits call.Permits post last :=
  ⟨.addressHigh addresses address, .addressLow addresses address, promise _⟩

theorem emits_constant {σ : Type} {call : Call} {offset : Nat} {value : UInt32}
    (listed : (offset, value) ∈ call.constants) {post : Unit → Event → Prop}
    (promise : ∀ last, post () last) :
    (Program.writeAt offset value : Program σ Unit).Emits call.Permits post last :=
  ⟨.constant listed, promise _⟩

theorem emits_programDevice :
    (programDevice : Program (Interface rx tx) Unit).Emits (Permits (.bringUp extraRx extraTx))
      (fun _ _ => True) last := by
  unfold programDevice
  simp only [Program.emits_bind, Program.emits_get]
  intro interface
  apply emits_writeAddress (by trivial)
  intro last
  apply emits_enable (by simp [Call.controls])
  intro last
  exact ⟨.rxList _, .txList _, trivial⟩

theorem emits_enableDevice :
    (enableDevice : Program (Interface rx tx) Unit).Emits (Permits (.bringUp extraRx extraTx))
      (fun _ _ => True) last := by
  unfold enableDevice
  simp only [Program.emits_bind]
  apply emits_constant (by simp [Call.constants])
  intro last
  apply emits_constant (by simp [Call.constants])
  intro last
  apply emits_constant (by simp [Call.constants])
  intro last
  apply emits_enable (by simp [Call.controls])
  intro last
  apply emits_enable (by simp [Call.controls])
  intro last
  apply emits_enable (by simp [Call.controls])
  intro last
  apply emits_enable (by simp [Call.controls])
  intro last
  exact emits_constant (by simp [Call.constants]) (by simp)

/-- Bringing up does what it does to wait, to reset, to program and to enable the device. -/
theorem emits_bringUp_of_parts (waits : Program.Waits allowed)
    (reset : ∀ timing last, (Program.softReset timing : Program (Interface rx tx) _).Emits allowed
      (fun _ _ => True) last)
    (programs : ∀ last, (programDevice : Program (Interface rx tx) Unit).Emits allowed
      (fun _ _ => True) last)
    (enables : ∀ last, (enableDevice : Program (Interface rx tx) Unit).Emits allowed
      (fun _ _ => True) last) :
    (bringUp extraRx extraTx : Program (Interface rx tx) _).Emits allowed (fun _ _ => True)
      last := by
  have device (last : Event) : (bringUpDevice : Program (Interface rx tx) _).Emits allowed
      (fun _ _ => True) last := by
    unfold bringUpDevice
    rw [Program.emits_bind, Program.emits_get]
    intro interface
    rw [Program.emits_bind]
    apply (reset interface.config.timing _).imp
    intro reset last _
    cases reset with
    | error error => trivial
    | ok _ =>
      simp only [Program.emits_bind, rebuildQueues_eq]
      apply (Program.emits_awaitBusIdle waits _ _).imp
      intro idle last _
      apply (programs _).imp
      intro _ last _
      apply emits_onQueues
      intro queues
      apply (enables _).imp
      intro _ last _ interface value
      exact ⟨waits.read _ _ _ (by decide), waits.note _ _ (by simp), trivial⟩
  unfold bringUp
  split
  · trivial
  · rw [Program.emits_bind, Program.emits_get]
    intro interface
    cases interface.lifecycle with
    | started => exact device last
    | initialized | stopped => exact ⟨waits.note _ _ (by simp), trivial⟩

theorem emits_bringUp :
    (bringUp extraRx extraTx : Program (Interface rx tx) _).Emits
      (Permits (.bringUp extraRx extraTx)) (fun _ _ => True) last := by
  have output : Control.generalOutput ∈ (Call.bringUp extraRx extraTx).controls := by
    simp [Call.controls]
  refine emits_bringUp_of_parts waits_bringUp ?_ (fun _ => emits_programDevice)
    fun _ => emits_enableDevice
  intro timing last
  exact Program.emits_softReset waits_bringUp timing
    (.constant (by simp [Call.constants, Control.softReset])) fun _ => .enable output

end BringUp

section Receive

variable {buffer : List UInt8}

theorem emits_copyOut (length : Nat) :
    (Queues.copyOut length buffer : Program (Queues rx tx) _).Emits allowed (fun _ _ => True)
      last := by
  unfold Queues.copyOut
  simp only [Program.emits_bind, Program.emits_get]
  intro queues
  apply Program.emits_element
  intro stored
  apply Program.emits_firstBytes
  intro frame
  apply Program.emits_overwrite
  simp

theorem emits_inspect
    (note : Program.Notes allowed)
    (descriptor : Descriptor) :
    (Queues.inspect descriptor buffer : Program (Queues rx tx) _).Emits allowed (fun _ _ => True)
      last := by
  unfold Queues.inspect
  split
  · unfold Queues.inspectFrame
    rw [Program.emits_bind]
    apply Program.emits_noteWhen (note _ _ (by simp))
    intro last
    split
    · exact ⟨note _ _ (by simp), trivial⟩
    · split
      · exact ⟨note _ _ (by simp), trivial⟩
      · rw [Program.emits_bind]
        exact (emits_copyOut _).imp fun _ _ => id
  · exact fun queues => ⟨note _ _ (by simp), trivial⟩

theorem emits_resumeReceive :
    (Queues.resumeReceive : Program (Queues rx tx) Unit).Emits (Permits (.receive buffer))
      (fun _ _ => True) last := by
  unfold Queues.resumeReceive
  rw [Program.emits_bind, Program.emits_read]
  intro status
  refine ⟨.read, ?_⟩
  split
  next starved => exact ⟨.resume starved, .constant (by simp [Call.constants]), trivial⟩
  next => trivial

theorem emits_drain
    (note : Program.Notes allowed)
    (resumes : ∀ last, (Queues.resumeReceive : Program (Queues rx tx) Unit).Emits allowed
      (fun _ _ => True) last) (budget : Nat) :
    (Queues.drain buffer budget : Program (Queues rx tx) _).Emits allowed (fun _ _ => True)
      last := by
  induction budget generalizing last with
  | zero => trivial
  | succ budget ih =>
    unfold Queues.drain
    rw [Program.emits_bind, Program.emits_get]
    intro queues
    cases queues.rx.ring.current.owner with
    | hardware => trivial
    | software =>
      rw [Program.emits_bind]
      apply (emits_inspect note _).imp
      intro verdict last _
      unfold Queues.recycle
      simp only [Program.emits_bind, Program.emits_modify]
      intro _
      apply (resumes _).imp
      intro _ last _
      cases verdict with
      | some answer => trivial
      | none => exact ih

theorem emits_receive_of_parts
    (note : Program.Notes allowed)
    (resumes : ∀ last, (Queues.resumeReceive : Program (Queues rx tx) Unit).Emits allowed
      (fun _ _ => True) last) :
    (receive buffer : Program (Interface rx tx) _).Emits allowed (fun _ _ => True) last := by
  apply emits_gated note (by simp)
  rw [Program.emits_bind]
  apply emits_onQueues
  apply (emits_drain note resumes rx).imp
  rintro ⟨result, filled⟩ last -
  cases result with
  | error error => trivial
  | ok length =>
    dsimp only
    rw [Program.emits_bind]
    apply Program.emits_firstBytes
    simp

theorem emits_receive :
    (receive buffer : Program (Interface rx tx) _).Emits (Permits (.receive buffer))
      (fun _ _ => True) last :=
  emits_receive_of_parts notes_permits fun _ => emits_resumeReceive

end Receive

section Transmit

variable {frame : Frame} {request : Option HeaderRequest}

theorem emits_nudge :
    (nudge : Program (Interface rx tx) Unit).Emits (Permits (.transmit frame request))
      (fun _ _ => True) last := by
  unfold nudge
  simp only [Program.emits_bind]
  apply emits_enable (by simp [Call.controls])
  intro last
  apply emits_enable (by simp [Call.controls])
  intro last
  exact emits_constant (by simp [Call.constants]) (by simp)

theorem emits_publish
    (note : Program.Notes allowed)
    (address : UInt32) (length : Nat) :
    (Queues.transmit address length : Program (Queues rx tx) _).Emits allowed (fun _ _ => True)
      last := by
  unfold Queues.transmit
  rw [Program.emits_bind, Program.emits_get]
  intro queues
  split
  · exact ⟨note _ _ (by simp), trivial⟩
  · cases queues.tx.ring.current.owner <;> simp

/-- What is left of a transmission after the look at the link. -/
def submit (frame : Frame) (request : Option HeaderRequest) (up : Bool) :
    Program (Interface rx tx) (Except Error Unit × Frame) :=
  if up then do
    let interface ← Program.get
    match frame.check request interface.address with
    | .error reason =>
      Program.note (.rejected reason)
      return (.error .invalidParameter, frame)
    | .ok header =>
      let frame ← writeHeader header frame
      let result ← dispatch frame
      return (result, frame)
  else do
    Program.note .mediaAbsent
    return (.error .notReady, frame)

theorem transmit_eq (frame : Frame) (request : Option HeaderRequest) :
    (transmit frame request : Program (Interface rx tx) _) =
      gated .transmit (fun error => (.error error, frame)) (sampleLink >>= submit frame request) :=
  rfl

section Parts

variable (note : Program.Notes allowed)
  (nudges : ∀ last, (nudge : Program (Interface rx tx) Unit).Emits allowed (fun _ _ => True) last)

include note nudges

theorem emits_dispatch (sent : Frame) :
    (dispatch sent : Program (Interface rx tx) _).Emits allowed (fun _ _ => True) last := by
  unfold dispatch
  rw [Program.emits_bind]
  apply emits_onQueues
  apply (emits_publish note _ _).imp
  intro result last _
  cases result with
  | ok _ =>
    rw [Program.emits_bind]
    exact nudges last
  | error error =>
    simp only [Program.emits_bind, Program.emits_get]
    intro interface
    exact ⟨note _ _ (by simp), nudges _⟩

theorem emits_submit (up : Bool) :
    (submit frame request up : Program (Interface rx tx) _).Emits allowed (fun _ _ => True)
      last := by
  have sent (sent : Frame) (last : Event) : (do
      let result ← dispatch sent
      return (result, sent) : Program (Interface rx tx) _).Emits allowed (fun _ _ => True)
        last := by
    rw [Program.emits_bind]
    exact (emits_dispatch note nudges sent).imp fun _ _ => id
  unfold submit
  cases up with
  | false => exact ⟨note _ _ (by simp), trivial⟩
  | true =>
    rw [if_pos rfl, Program.emits_bind, Program.emits_get]
    intro interface
    cases frame.check request interface.address with
    | error reason => exact ⟨note _ _ (by simp), trivial⟩
    | ok header =>
      dsimp only
      rw [Program.emits_bind]
      cases header with
      | none => exact sent frame last
      | some header =>
        unfold writeHeader
        rw [Program.emits_bind]
        apply Program.emits_overwrite
        intro bytes
        exact sent _ last

end Parts

theorem emits_transmit :
    (transmit frame request : Program (Interface rx tx) _).Emits
      (Permits (.transmit frame request)) (fun _ _ => True) last := by
  rw [transmit_eq]
  apply emits_gated notes_permits (by simp)
  rw [Program.emits_bind]
  apply emits_sampleLink (fun _ _ _ => .read) fun _ _ => .notice
  intro up last
  exact emits_submit notes_permits (fun _ => emits_nudge) up

end Transmit

section Monitor

variable {query : StatusQuery}

theorem emits_takeInterrupts (asked : query.asks .interrupts = true) :
    (takeInterrupts : Program (Interface rx tx) _).Emits (Permits (.status query))
      (fun _ _ => True) last := by
  unfold takeInterrupts
  rw [Program.emits_bind, Program.emits_read]
  intro raw
  refine ⟨.read, ?_⟩
  dsimp only
  split
  next pending => exact ⟨.take asked pending, trivial⟩
  next => trivial

theorem emits_reclaim
    (note : Program.Notes allowed) :
    (Queues.reclaim : Program (Queues rx tx) _).Emits allowed (fun _ _ => True) last := by
  unfold Queues.reclaim
  rw [Program.emits_bind, Program.emits_get]
  intro queues
  split
  · trivial
  · dsimp only
    cases queues.tx.oldest.owner with
    | hardware => trivial
    | software =>
      rw [Program.emits_bind]
      apply Program.emits_noteWhen (note _ _ (by simp))
      intro last
      unfold Queues.retire
      simp only [Program.emits_bind, Program.emits_get]
      intro queues
      split <;> simp

theorem emits_askCompletion
    (note : Program.Notes allowed) :
    (askCompletion query : Program (Interface rx tx) _).Emits allowed (fun _ _ => True) last := by
  unfold askCompletion
  split
  · exact emits_onQueues (emits_reclaim note)
  · trivial

/-- What is left of a status query after the look at the link. -/
def report (query : StatusQuery) (mediaPresent : Bool) :
    Program (Interface rx tx) (Except Error DeviceStatus) := do
  let completed ← askCompletion query
  let interrupts ← askInterrupts query
  return .ok { mediaPresent, interrupts, completed }

theorem status_eq (query : StatusQuery) :
    (status query : Program (Interface rx tx) _) =
      gated .status .error (sampleLink >>= report query) := rfl

theorem emits_report
    (note : Program.Notes allowed)
    (takes : ∀ last, query.asks .interrupts = true →
      (takeInterrupts : Program (Interface rx tx) _).Emits allowed (fun _ _ => True) last)
    (up : Bool) :
    (report query up : Program (Interface rx tx) _).Emits allowed (fun _ _ => True) last := by
  have interrupts (last : Event) : (askInterrupts query : Program (Interface rx tx) _).Emits
      allowed (fun _ _ => True) last := by
    unfold askInterrupts
    split
    next asked => simpa using takes last asked
    next => trivial
  unfold report
  rw [Program.emits_bind]
  apply (emits_askCompletion note).imp
  intro completed last _
  rw [Program.emits_bind]
  exact (interrupts last).imp fun _ _ => id

theorem emits_status :
    (status query : Program (Interface rx tx) _).Emits (Permits (.status query))
      (fun _ _ => True) last := by
  rw [status_eq]
  apply emits_gated notes_permits (by simp)
  rw [Program.emits_bind]
  apply emits_sampleLink (fun _ _ _ => .read) fun _ _ => .notice
  intro up last
  exact emits_report notes_permits (fun _ => emits_takeInterrupts) up

end Monitor

section Addressing

theorem emits_filterSetting {call : Call} {post : ReceiveFilter → Event → Prop}
    (promise : ∀ setting last, post setting last) :
    (filterSetting : Program (Interface rx tx) _).Emits (Permits call) post last :=
  fun _ => ⟨.read, promise _ _⟩

theorem emits_setFilters (enable disable : ReceiveFilter) (clear : Bool)
    (multicast : List MacAddress) :
    (setFilters enable disable clear multicast : Program (Interface rx tx) _).Emits
      (Permits (.setFilters enable disable clear multicast)) (fun _ _ => True) last := by
  apply emits_gated notes_permits (by simp)
  simp only [Program.emits_bind, Program.emits_note]
  refine ⟨.notice, Program.emits_noteWhen .notice ?_⟩
  intro last value
  exact ⟨.read, .filter, emits_filterSetting fun _ _ => ⟨.notice, trivial⟩⟩

theorem emits_setAddress (restore : Bool) (address : Option MacAddress) :
    (setAddress restore address : Program (Interface rx tx) _).Emits
      (Permits (.setAddress restore address)) (fun _ _ => True) last := by
  have used (used : MacAddress) (last : Event) : (do
      useAddress used
      return .ok () : Program (Interface rx tx) (Except Error Unit)).Emits
        (Permits (.setAddress restore address)) (fun _ _ => True) last := by
    unfold useAddress
    simp only [Program.emits_bind, Program.emits_modify]
    intro _
    apply emits_writeAddress (by trivial)
    exact fun last => ⟨.notice, trivial⟩
  apply emits_gated notes_permits (by simp)
  cases restore with
  | true =>
    exact ⟨.notice, fun interface => used interface.config.address _⟩
  | false =>
    cases address with
    | none => trivial
    | some address => exact used address last

end Addressing

theorem emits_start :
    (start : Program (Interface rx tx) _).Emits (Permits .start) (fun _ _ => True) last := by
  unfold start
  rw [Program.emits_bind, Program.emits_get]
  intro interface
  cases interface.lifecycle <;> simp [moveTo]

theorem emits_stop :
    (stop : Program (Interface rx tx) _).Emits (Permits .stop) (fun _ _ => True) last := by
  unfold stop
  rw [Program.emits_bind, Program.emits_get]
  intro interface
  cases interface.lifecycle <;> simp [moveTo]

/-- No call does more than its footprint permits. -/
theorem emits_permits (call : Call) :
    (call.program : Program (Interface rx tx) Reply).Emits call.Permits (fun _ _ => True) last := by
  cases call with
  | bringUp extraRx extraTx => simpa [Call.program] using emits_bringUp
  | receive buffer => simpa [Call.program] using emits_receive
  | transmit frame request => simpa [Call.program] using emits_transmit
  | status query => simpa [Call.program] using emits_status
  | setFilters enable disable clear multicast =>
    simpa [Call.program] using emits_setFilters enable disable clear multicast
  | setAddress restore address => simpa [Call.program] using emits_setAddress restore address
  | start => simpa [Call.program] using emits_start
  | stop => simpa [Call.program] using emits_stop
  | filterSetting => simpa [Call.program] using emits_filterSetting (by simp)
  | mode =>
    simp only [Call.program, mode, Program.emits_map, Program.emits_bind]
    exact emits_filterSetting (by simp)
  | reset extended =>
    simp only [Call.program, Program.emits_map]
    apply emits_gated notes_permits (by simp)
    rw [Program.emits_bind]
    exact Program.emits_noteWhen .notice (by simp)
  | shutdown | statistics | multicastAddress =>
    simp only [Call.program, Program.emits_map]
    exact emits_gated notes_permits (by simp) (by simp)
  | nonVolatile =>
    simp only [Call.program, Program.emits_map]
    exact emits_gated notes_permits (by simp) ⟨.notice, trivial⟩

section Run

variable {call : Call} {hardware : Hardware} {machine : Machine (Interface rx tx)}

/-- What the writes and pauses of a footprint keep holds all through the call. -/
theorem upholds_of_permits {holds : RegisterFile → Prop}
    (write : ∀ last offset value (file : RegisterFile), call.Permits last (.write offset value) →
      last.Recalls file → holds file → holds (file.write offset value))
    (pause : ∀ last microseconds, call.Permits last (.pause microseconds) →
      ∀ count file, holds file → holds (hardware count file))
    (start : holds machine.bus.registers) : call.program.Upholds hardware holds machine := by
  have emits : (call.program : Program (Interface rx tx) Reply).Emits call.Permits
      (fun _ _ => True) (.pause 0) := emits_permits call
  exact emits.upholds write pause trivial start

theorem not_permits_pause (prompt : ∀ extraRx extraTx, call ≠ .bringUp extraRx extraTx)
    {microseconds : UInt32} : ¬ call.Permits last (.pause microseconds) := by
  intro permits
  cases permits
  exact prompt _ _ rfl

/-- Only bringing up waits for the hardware. -/
theorem pauses_run (prompt : ∀ extraRx extraTx, call ≠ .bringUp extraRx extraTx)
    (hardware : Hardware) (machine : Machine (Interface rx tx)) :
    (call.program.run hardware machine).2.bus.pauses = machine.bus.pauses := by
  have emits : (call.program : Program (Interface rx tx) Reply).Emits call.Permits
      (fun _ _ => True) (.pause 0) := emits_permits call
  exact emits.pauses_run (fun _ _ => not_permits_pause prompt) machine

end Run

end Interface

end EthernetMac
