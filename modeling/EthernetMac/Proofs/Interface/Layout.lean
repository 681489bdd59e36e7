import EthernetMac.Proofs.Interface.Outcome
import EthernetMac.Proofs.Queues.Layout

/-!
What the device finds when it fetches a descriptor of an interface that was taken into
service. Whatever the driver is called for afterwards, the rings stay chained and every
descriptor that is the device's is fit to be used, as long as the device only lets go of
descriptors.
-/

namespace EthernetMac

/-- The device writes no status that would make a descriptor its own. -/
def DeviceAction.LetsGo : DeviceAction → Prop
  | txStatus _ status | rxStatus _ status => Owner.ofStatus status Descriptor.own = .software
  | rxBuffer .. | registers _ => True

namespace Interface

variable {rx tx : Nat}

theorem placed_invariant (placement : Placement) :
    Queues.Invariant (Queues.Placed placement : Queues rx tx → Prop) where
  inside _ placed := placed.inside
  touch _ _ touch placed := placed.touch touch
  rebuild _ placed := placed.rebuild
  device action _ placed := placed.device action

/-- The frame that was published in a slot at that moment. -/
def publishedIn (slot : Nat) : Moment rx tx → Option Frame
  | ⟨machine, .call _ (.transmit frame _), some (.ok (.sent (.ok ()) _))⟩ =>
    if machine.state.queues.tx.ring.index % tx = slot % tx then some frame else none
  | _ => none

/-- The frame that was published in a slot last. -/
def lastPublished (history : List (Moment rx tx)) (slot : Nat) : Option Frame :=
  System.latest (publishedIn slot) history

/-- Every descriptor that the device may fetch is fit to be used. -/
structure Armed (placement : Placement) (history : List (Moment rx tx)) (queues : Queues rx tx) :
    Prop where
  placed : queues.Placed placement
  rx : queues.rx.Armed placement
  tx : queues.tx.Armed placement (lastPublished history)

section Step

variable {placement : Placement} {history : List (Moment rx tx)}
  {machine : Machine (Interface rx tx)}

/-- A moment that publishes nothing leaves the frames in their slots. -/
theorem lastPublished_of_none {moment : Moment rx tx}
    (silent : ∀ slot, publishedIn slot moment = none) :
    lastPublished (moment :: history) = lastPublished history := by
  funext slot
  exact System.latest_cons_of_none (silent slot) history

theorem publishedIn_of_silent {call : Call} {reply : Reply} {hardware : Hardware}
    (silent : call.txEvent machine.state.lifecycle reply = none) (slot : Nat) :
    publishedIn slot ⟨machine, .call hardware call, some (.ok reply)⟩ = none := by
  cases call with
  | transmit frame request =>
    cases reply with
    | sent result sent =>
      cases result with
      | ok done => contradiction
      | error error => rfl
    | _ => rfl
  | _ => rfl

theorem Armed.call (armed : Armed placement history machine.state.queues) {hardware : Hardware}
    {call : Call} {reply : Reply} {after : Queues rx tx}
    (outcome : Outcome machine.state call reply after) :
    Armed placement (⟨machine, .call hardware call, some (.ok reply)⟩ :: history) after := by
  cases outcome with
  | keep silent =>
    refine { armed with tx := ?_ }
    rw [lastPublished_of_none (publishedIn_of_silent silent)]
    exact armed.tx
  | rebuild started =>
    exact ⟨armed.placed.rebuild, RxQueue.armed_rebuild armed.placed.rx_start armed.placed.pool,
      TxQueue.armed_rebuild armed.placed.tx_start⟩
  | @drain buffer filled result queue drained =>
    obtain ⟨count, run⟩ := RxQueue.drain_recycles buffer rx machine.state.queues.rx
    rw [drained] at run
    refine ⟨armed.placed.recycles run, run.armed armed.rx, ?_⟩
    rw [lastPublished_of_none fun _ => rfl]
    exact armed.tx
  | @publish frame sent request room least most =>
    refine ⟨armed.placed.touch (.publish room _ _), armed.rx, ?_⟩
    have published : lastPublished (⟨machine, .call hardware (.transmit frame request),
        some (.ok (.sent (.ok ()) sent))⟩ :: history) = fun slot =>
          if machine.state.queues.tx.ring.index % tx = slot % tx then some frame
          else lastPublished history slot := by
      funext slot
      unfold lastPublished
      rw [System.latest_cons]
      unfold publishedIn
      dsimp only
      split <;> rfl
    rw [published]
    exact armed.tx.publish least most
  | retire due =>
    refine ⟨armed.placed.touch (.retire due), armed.rx, ?_⟩
    rw [lastPublished_of_none fun _ => rfl]
    exact ⟨armed.tx.chained, armed.tx.owned⟩

theorem Armed.device (armed : Armed placement history machine.state.queues) {action : DeviceAction}
    (letsGo : action.LetsGo) :
    Armed placement (⟨machine, .device action, none⟩ :: history)
      (action.onQueues machine.state.queues) := by
  refine ⟨armed.placed.device action, ?_, ?_⟩
  · cases action with
    | rxStatus slot status => exact armed.rx.writeStatus slot letsGo
    | rxBuffer slot content => exact armed.rx.writeBuffer slot content
    | txStatus | registers => exact armed.rx
  · rw [lastPublished_of_none fun _ => rfl]
    cases action with
    | txStatus slot status => exact armed.tx.writeStatus slot letsGo
    | rxStatus | rxBuffer | registers => exact armed.tx

end Step

theorem tracks_armed (placement : Placement) :
    Tracks DeviceAction.LetsGo
      (Armed placement : List (Moment rx tx) → Queues rx tx → Prop) where
  inside _ _ armed := armed.placed.inside
  call _ _ _ _ _ _ outcome armed := armed.call outcome
  device _ _ _ letsGo armed := armed.device letsGo

/-- A successful call to bring up a started interface builds its queues. -/
theorem queues_of_bringUp {machine : Machine (Interface rx tx)} {hardware : Hardware}
    (started : machine.state.lifecycle = .started)
    (succeeds : ((bringUp 0 0).run hardware machine).1 = .ok (.ok ())) :
    ((bringUp 0 0).run hardware machine).2.state.queues = machine.state.queues.rebuild := by
  obtain ⟨answer, after, ran, outcome, -⟩ :=
    Program.ensures_run (@ensures_bringUp _ _ machine.state 0 0) hardware
  rw [ran] at succeeds ⊢
  injection succeeds with succeeds
  rcases outcome with ⟨-, -, same⟩ | ⟨idle, -⟩
  · exact congrArg queues same
  · exact absurd ⟨started, succeeds⟩ idle

/-- Once an interface was taken into service, in whatever state it was found, every
descriptor that the device may fetch is fit to be used, through every run in which the device
only lets go of descriptors. -/
theorem fetches_well_formed (placement : Placement) (two_le_rx : 2 ≤ rx) (two_le_tx : 2 ≤ tx)
    (config : Config) (bus : Bus) (earlier : List (Step Call)) (hardware : Hardware)
    (later : List (Step Call)) :
    let blank : Machine (Interface rx tx) :=
      ⟨bus, Interface.blank config (Queues.blank placement two_le_rx two_le_tx)⟩
    let found := (system rx tx).after blank earlier
    let result := (bringUp 0 0).run hardware found
    let served := result.2
    found.state.lifecycle = .started → result.1 = .ok (.ok ()) →
      (system rx tx).Follows served (Acts DeviceAction.LetsGo) later →
      let history := (system rx tx).history served later
      let queues := ((system rx tx).after served later).state.queues
      queues.Placed placement ∧
        queues.rx.Armed placement ∧ queues.rx.ring.Tours ∧ queues.rx.Apart placement ∧
        queues.tx.Armed placement (lastPublished history) ∧ queues.tx.ring.Tours := by
  intro blank found result served started succeeds follows history queues
  have built := queues_of_bringUp started succeeds
  have found_placed : found.state.queues.Placed placement :=
    holds_of_steps (placed_invariant placement)
      (Queues.placed_blank placement two_le_rx two_le_tx) earlier
  have armed : Armed placement history queues := by
    apply holds_of_tracks (tracks_armed placement) _ later follows
    rw [built]
    exact ⟨found_placed.rebuild, RxQueue.armed_rebuild found_placed.rx_start found_placed.pool,
      TxQueue.armed_rebuild found_placed.tx_start⟩
  have rx_chained : queues.rx.ring.ChainedFrom queues.rx.ring.start := by
    rw [armed.placed.rx_start]
    exact armed.rx.chained
  have tx_chained : queues.tx.ring.ChainedFrom queues.tx.ring.start := by
    rw [armed.placed.tx_start]
    exact armed.tx.chained
  exact ⟨armed.placed, armed.rx, rx_chained.chained.tours, armed.rx.apart, armed.tx,
    tx_chained.chained.tours⟩

/-- Two frames are published, the device sends the first, and a third takes its slot. -/
theorem fetches_well_formed_of_two :
    let blank : Machine (Interface 2 2) :=
      ⟨{ registers := (RegisterFile.blank .reactive).setLink true }, Interface.blank {}
        (Queues.blank ⟨0x1000, 0x2000, 0x4000⟩ (Nat.le_refl 2) (Nat.le_refl 2))⟩
    let found := (system 2 2).after blank [.call .idle .start]
    let served := ((bringUp 0 0).run .idle found).2
    let frame (address length : Nat) : Frame := ⟨address, List.replicate length 0⟩
    let later : List (Step Call) :=
      [.call .idle (.transmit (frame 0x9000 64) none), .call .idle (.status .completion),
        .device (.txStatus 0 0), .call .idle (.transmit (frame 0x8000 62) none),
        .call .idle (.transmit (frame 0x7000 60) none)]
    let history := (system 2 2).history served later
    let queues := ((system 2 2).after served later).state.queues
    queues.tx.owners = [.hardware, .hardware] ∧
      (lastPublished history 0).map Frame.address = some 0x9000 ∧
      queues.rx.Armed ⟨0x1000, 0x2000, 0x4000⟩ ∧
      queues.tx.Armed ⟨0x1000, 0x2000, 0x4000⟩ (lastPublished history) := by
  have released : Owner.ofStatus 0 Descriptor.own = .software := by decide
  have well_formed := fetches_well_formed ⟨0x1000, 0x2000, 0x4000⟩ (Nat.le_refl 2) (Nat.le_refl 2)
    {} { registers := (RegisterFile.blank .reactive).setLink true } [.call .idle .start] .idle
    [.call .idle (.transmit ⟨0x9000, List.replicate 64 0⟩ none), .call .idle (.status .completion),
      .device (.txStatus 0 0), .call .idle (.transmit ⟨0x8000, List.replicate 62 0⟩ none),
      .call .idle (.transmit ⟨0x7000, List.replicate 60 0⟩ none)]
    (by decide +kernel) (by decide +kernel) ⟨trivial, trivial, released, trivial, trivial, trivial⟩
  exact ⟨by decide +kernel, by decide +kernel, well_formed.2.1, well_formed.2.2.2.2.1⟩

end Interface

end EthernetMac
