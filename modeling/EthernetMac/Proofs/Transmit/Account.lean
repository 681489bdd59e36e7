import EthernetMac.Proofs.Ring.Window
import EthernetMac.Proofs.Run.Device
import Mathlib.Data.List.Infix

/-!
The account of the transmit queue. A history of events says which addresses were
published and which were reported since the queue was last built; `Move` says
what the driver does to the queue, and `Accounts` ties queue and history together:
publication number `i` lies in slot `i` modulo the length of the ring until it is
reported. Moves of the driver and writes of the device keep the account.
-/

namespace EthernetMac

inductive TxEvent where
  | rebuilt
  | published (address : UInt32)
  | reported (address : UInt32)
  /-- The device cleared the ownership bit of a slot. -/
  | released (slot : Nat)
deriving DecidableEq, Repr

namespace TxEvent

/-- The addresses published since the queue was last built, oldest first. As in a
journal, the latest event comes first. -/
def publications : List TxEvent → List UInt32
  | [] => []
  | rebuilt :: _ => []
  | published address :: earlier => publications earlier ++ [address]
  | reported _ :: earlier => publications earlier
  | released _ :: earlier => publications earlier

/-- The addresses reported since the queue was last built, oldest first. -/
def reports : List TxEvent → List UInt32
  | [] => []
  | rebuilt :: _ => []
  | published _ :: earlier => reports earlier
  | reported address :: earlier => reports earlier ++ [address]
  | released _ :: earlier => reports earlier

/-- The device cleared the ownership bit of the slot of publication `number` after
it was published, and the queue was not built anew since. -/
def Released (n number : Nat) (events : List TxEvent) : Prop :=
  ∃ later slot earlier, events = later ++ released slot :: earlier ∧ rebuilt ∉ later ∧
    slot % n = number % n ∧ number < (publications earlier).length

/-- At each report, the address is that of the oldest publication not reported
before, and the device had released its slot. -/
def Faithful (n : Nat) (events : List TxEvent) : Prop :=
  ∀ address earlier, reported address :: earlier <:+ events →
    (publications earlier)[(reports earlier).length]? = some address ∧
      Released n (reports earlier).length earlier

theorem Released.cons {n number : Nat} {events : List TxEvent} (holds : Released n number events)
    {event : TxEvent} (kept : event ≠ rebuilt) : Released n number (event :: events) := by
  obtain ⟨later, slot, earlier, rfl, fresh, same, before⟩ := holds
  refine ⟨event :: later, slot, earlier, rfl, ?_, same, before⟩
  simp [fresh, kept.symm]

theorem Faithful.cons {n : Nat} {events : List TxEvent} (holds : Faithful n events)
    {event : TxEvent} (silent : ∀ address, event ≠ reported address) :
    Faithful n (event :: events) := by
  intro address earlier suffix
  rcases List.suffix_cons_iff.1 suffix with same | inner
  · injection same with head _
    exact absurd head.symm (silent address)
  · exact holds address earlier inner

theorem Faithful.report {n : Nat} {events : List TxEvent} (holds : Faithful n events)
    {address : UInt32} (oldest : (publications events)[(reports events).length]? = some address)
    (free : Released n (reports events).length events) :
    Faithful n (reported address :: events) := by
  intro other earlier suffix
  rcases List.suffix_cons_iff.1 suffix with same | inner
  · injection same with head tail
    injection head with head
    subst head tail
    exact ⟨oldest, free⟩
  · exact holds other earlier inner

end TxEvent

namespace TxQueue

open TxEvent (publications reports Released Faithful)

variable {n : Nat}

/-- The next slot may be published into. -/
def HasRoom (queue : TxQueue n) : Prop :=
  queue.pending ≠ n ∧ queue.ring.current.owner = .software

/-- The oldest frame may be reported. -/
def HasReport (queue : TxQueue n) : Prop :=
  queue.pending ≠ 0 ∧ queue.oldest.owner = .software

/-- A write of `status` clears the ownership bit of a slot. -/
def Clears (queue : TxQueue n) (slot : Nat) (status : UInt32) : Prop :=
  queue.owner slot = .hardware ∧ Owner.ofStatus status Descriptor.own = .software

instance (queue : TxQueue n) (slot : Nat) (status : UInt32) :
    Decidable (queue.Clears slot status) := inferInstanceAs (Decidable (_ ∧ _))

/-- A write of the device is an event if it clears an ownership bit. -/
def writeEvent (queue : TxQueue n) (slot : Nat) (status : UInt32) : Option TxEvent :=
  if queue.Clears slot status then some (.released slot) else none

/-- All that the driver does to the queue, and the event that it is, if any. -/
inductive Move : Option TxEvent → TxQueue n → TxQueue n → Prop
  | stay (queue : TxQueue n) : Move none queue queue
  | rebuild (queue : TxQueue n) : Move (some .rebuilt) queue queue.rebuild
  | publish {queue : TxQueue n} (room : queue.HasRoom) (address : UInt32) (length : Nat) :
    Move (some (.published address)) queue (queue.publish address length)
  | retire {queue : TxQueue n} (due : queue.HasReport) :
    Move (some (.reported queue.oldest.buffer)) queue queue.retire

/-- What the queue has to do with its history. -/
structure Accounts (events : List TxEvent) (queue : TxQueue n) : Prop where
  reports_prefix : reports events <+: publications events
  length_publications :
    (publications events).length = (reports events).length + queue.pending
  pending_le : queue.pending ≤ n
  release_eq : queue.release = (reports events).length % n
  index_eq : queue.ring.index = (publications events).length % n
  /-- An address stays where it was published. -/
  kept : ∀ number (_ : (reports events).length ≤ number)
    (inside : number < (publications events).length),
    (queue.ring.get number).buffer = (publications events)[number]
  /-- A slot that waits for its report and is not the device's was released. -/
  released : ∀ number, (reports events).length ≤ number → number < (publications events).length →
    (queue.ring.get number).owner = .software → Released n number events
  faithful : Faithful n events

theorem Accounts.blank {queue : TxQueue n} (release : queue.release = 0)
    (pending : queue.pending = 0) (index : queue.ring.index = 0) : Accounts [] queue where
  reports_prefix := List.prefix_rfl
  length_publications := by simp [publications, reports, pending]
  pending_le := by omega
  release_eq := by simp [reports, release]
  index_eq := by simp [publications, index]
  kept := by
    intro number _ inside
    simp [publications] at inside
  released := by
    intro number _ inside
    simp [publications] at inside
  faithful := by
    intro address earlier suffix
    simp at suffix

section Move

variable {events : List TxEvent} {queue : TxQueue n}

theorem pos (queue : TxQueue n) : 0 < n := queue.ring.pos

@[simp] theorem owner_submit (descriptor : Descriptor) (address : UInt32) (length : Nat) :
    (descriptor.submit address length).owner = .hardware := by
  show Owner.ofStatus Descriptor.singleFrame Descriptor.own = .hardware
  decide

theorem get_writeStatus (slot status other) :
    (queue.writeStatus slot status).ring.get other =
      if other % n = slot % n then { queue.ring.get other with status } else queue.ring.get other :=
  queue.ring.get_modify slot other _

theorem get_publish (address : UInt32) (length other : Nat) :
    (queue.publish address length).ring.get other =
      if other % n = queue.ring.index % n then (queue.ring.get other).submit address length
      else queue.ring.get other := by
  unfold publish
  rw [SlotRing.get_advance, SlotRing.get_modify]

theorem owner_publish (address : UInt32) (length slot : Nat) :
    (queue.publish address length).owner slot =
      if slot % n = queue.ring.index % n then .hardware else queue.owner slot := by
  unfold owner
  rw [get_publish]
  split
  · exact owner_submit _ _ _
  · rfl

theorem get_rebuild (slot : Nat) :
    queue.rebuild.ring.get slot =
      (queue.ring.get slot).linkTo (queue.ring.busAddress (slot % n + 1)) := by
  unfold rebuild
  rw [SlotRing.get_mapSlots]
  rfl

theorem owner_rebuild (slot : Nat) : queue.rebuild.owner slot = .software := by
  unfold owner
  rw [get_rebuild]
  show Owner.ofStatus 0 Descriptor.own = .software
  decide

theorem owner_writeStatus (slot : Nat) (status : UInt32) (other : Nat) :
    (queue.writeStatus slot status).owner other =
      if other % n = slot % n then .ofStatus status Descriptor.own else queue.owner other := by
  unfold owner
  rw [get_writeStatus]
  split <;> rfl

/-- A publication that waits for its report does not lie in the slot that is published into. -/
private theorem slot_ne_of_waiting (account : Accounts events queue) (room : queue.pending ≠ n)
    {number : Nat} (lower : (reports events).length ≤ number)
    (upper : number < (publications events).length) : ¬ number % n = queue.ring.index % n := by
  intro same
  have bound := account.pending_le
  have count := account.length_publications
  rw [account.index_eq, Nat.mod_mod] at same
  have := Ring.eq_of_mod_eq same (by omega) (by omega)
  omega

theorem Accounts.publish (account : Accounts events queue) (room : queue.HasRoom)
    (address : UInt32) (length : Nat) :
    Accounts (.published address :: events) (queue.publish address length) where
  reports_prefix := account.reports_prefix.trans (List.prefix_append _ _)
  length_publications := by
    have count := account.length_publications
    simp only [publications, reports, List.length_append, List.length_singleton, TxQueue.publish]
    omega
  pending_le := by
    have bound := account.pending_le
    have := room.1
    show queue.pending + 1 ≤ n
    omega
  release_eq := account.release_eq
  index_eq := by
    show (queue.ring.index + 1) % n = _
    rw [account.index_eq, Nat.mod_add_mod]
    simp [publications]
  kept := by
    intro number lower inside
    simp only [publications, List.length_append, List.length_singleton] at inside
    by_cases last : number = (publications events).length
    · have here : number % n = queue.ring.index % n := by
        rw [account.index_eq, Nat.mod_mod, last]
      rw [get_publish, if_pos here]
      simp [publications, last, Descriptor.submit]
    · have old : number < (publications events).length := by omega
      rw [get_publish, if_neg (slot_ne_of_waiting account room.1 lower old),
        account.kept number lower old]
      simp [publications, old]
  released := by
    intro number lower inside software
    simp only [publications, List.length_append, List.length_singleton] at inside
    rw [get_publish] at software
    by_cases here : number % n = queue.ring.index % n
    · rw [if_pos here, owner_submit] at software
      contradiction
    · rw [if_neg here] at software
      have old : number < (publications events).length := by
        have : number ≠ (publications events).length := by
          rintro rfl
          exact here (by rw [account.index_eq, Nat.mod_mod])
        omega
      exact (account.released number lower old software).cons (by simp)
  faithful := account.faithful.cons (by simp)

theorem Accounts.retire (account : Accounts events queue) (due : queue.HasReport) :
    Accounts (.reported queue.oldest.buffer :: events) queue.retire := by
  have count := account.length_publications
  have waiting := due.1
  have inside : (reports events).length < (publications events).length := by omega
  have oldest_eq : queue.oldest = queue.ring.get (reports events).length := by
    unfold oldest
    rw [account.release_eq, SlotRing.get_mod]
  have address_eq : queue.oldest.buffer = (publications events)[(reports events).length] := by
    rw [oldest_eq]
    exact account.kept _ (Nat.le_refl _) inside
  have free : Released n (reports events).length events := by
    apply account.released _ (Nat.le_refl _) inside
    rw [← oldest_eq]
    exact due.2
  constructor
  case reports_prefix =>
    have known := List.prefix_iff_eq_take.1 account.reports_prefix
    have next := List.take_prefix ((reports events).length + 1) (publications events)
    rw [← List.take_append_getElem inside, ← known, ← address_eq] at next
    exact next
  case length_publications =>
    simp only [publications, reports, List.length_append, List.length_singleton, TxQueue.retire]
    omega
  case pending_le =>
    have := account.pending_le
    show queue.pending - 1 ≤ n
    omega
  case release_eq =>
    show (queue.release + 1) % n = _
    rw [account.release_eq, Nat.mod_add_mod]
    simp [reports]
  case index_eq => exact account.index_eq
  case kept =>
    intro number lower upper
    simp only [reports, List.length_append, List.length_singleton] at lower
    exact account.kept number (by omega) upper
  case released =>
    intro number lower upper software
    simp only [reports, List.length_append, List.length_singleton] at lower
    exact (account.released number (by omega) upper software).cons (by simp)
  case faithful =>
    refine account.faithful.report ?_ free
    rw [List.getElem?_eq_getElem inside, address_eq]

theorem Accounts.rebuild (account : Accounts events queue) :
    Accounts (.rebuilt :: events) queue.rebuild where
  reports_prefix := List.prefix_rfl
  length_publications := rfl
  pending_le := Nat.zero_le n
  release_eq := (Nat.zero_mod n).symm
  index_eq := (Nat.zero_mod n).symm
  kept := by
    intro number _ inside
    simp [publications] at inside
  released := by
    intro number _ inside
    simp [publications] at inside
  faithful := account.faithful.cons (by simp)

/-- A write to a status leaves addresses and counters alone. -/
private theorem Accounts.writeStatus (account : Accounts events queue) (events' : List TxEvent)
    (same_publications : publications events' = publications events)
    (same_reports : reports events' = reports events) {slot : Nat} {status : UInt32}
    (released : ∀ number, (reports events).length ≤ number →
      number < (publications events).length →
      ((queue.writeStatus slot status).ring.get number).owner = .software →
      Released n number events')
    (faithful : Faithful n events') : Accounts events' (queue.writeStatus slot status) where
  reports_prefix := by rw [same_publications, same_reports]; exact account.reports_prefix
  length_publications := by
    rw [same_publications, same_reports]; exact account.length_publications
  pending_le := account.pending_le
  release_eq := by rw [same_reports]; exact account.release_eq
  index_eq := by rw [same_publications]; exact account.index_eq
  kept := by
    simp only [same_publications, same_reports]
    intro number lower inside
    have untouched : ((queue.writeStatus slot status).ring.get number).buffer =
        (queue.ring.get number).buffer := by
      rw [get_writeStatus]
      split <;> rfl
    rw [untouched, account.kept number lower inside]
  released := by rw [same_publications, same_reports]; exact released
  faithful := faithful

theorem Accounts.write (account : Accounts events queue) (slot : Nat) (status : UInt32) :
    Accounts ((queue.writeEvent slot status).toList ++ events) (queue.writeStatus slot status) := by
  unfold writeEvent
  split
  next =>
    refine account.writeStatus (.released slot :: events) rfl rfl ?_
      (account.faithful.cons (by simp))
    intro number lower upper software
    by_cases here : number % n = slot % n
    · exact ⟨[], slot, events, rfl, by simp, here.symm, upper⟩
    · rw [get_writeStatus, if_neg here] at software
      exact (account.released number lower upper software).cons (by simp)
  next keeps =>
    refine account.writeStatus events rfl rfl ?_ account.faithful
    intro number lower upper software
    apply account.released number lower upper
    rw [get_writeStatus] at software
    split at software
    next here =>
      -- the write leaves the ownership bit clear, so it was clear before
      by_contra hardware
      have owned : queue.owner slot = .hardware := by
        unfold owner
        rw [← queue.ring.get_congr here]
        cases held : (queue.ring.get number).owner with
        | software => exact absurd held hardware
        | hardware => rfl
      exact keeps ⟨owned, software⟩
    next => exact software

theorem Accounts.move (account : Accounts events queue) {event : Option TxEvent}
    {after : TxQueue n} (move : Move event queue after) :
    Accounts (event.toList ++ events) after := by
  cases move with
  | stay => exact account
  | rebuild => exact account.rebuild
  | publish room address length => exact account.publish room address length
  | retire due => exact account.retire due

end Move

end TxQueue

end EthernetMac
