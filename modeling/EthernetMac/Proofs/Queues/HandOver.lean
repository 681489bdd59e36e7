import EthernetMac.Proofs.Queues.Contracts

/-!
Descriptors change hands in one direction. What the driver does to one either
leaves it alone or takes it from the driver to the device; so, whatever the
driver goes on to do, a descriptor changes at most once, and not at all if it was
the device's before.
-/

namespace EthernetMac

/-- The descriptor stays, or it goes from the driver to the device with none but its
first `count` words changed. -/
def Descriptor.HandsOver (count : Nat) (before after : Descriptor) : Prop :=
  after = before ∨
    before.owner = .software ∧ after.owner = .hardware ∧
      after.words.drop count = before.words.drop count

/-- The items change at most once. -/
def ChangesOnce {α : Type} (items : List α) : Prop :=
  ∃ early first late last, items = List.replicate early first ++ List.replicate late last

namespace Descriptor.HandsOver

variable {count : Nat} {before after last : Descriptor}

theorem refl (descriptor : Descriptor) : descriptor.HandsOver count descriptor := .inl rfl

theorem eq_of_hardware (handed : before.HandsOver count after) (owned : before.owner = .hardware) :
    after = before := by
  rcases handed with same | ⟨free, -, -⟩
  · exact same
  · rw [owned] at free
    contradiction

theorem trans (first : before.HandsOver count after) (second : after.HandsOver count last) :
    before.HandsOver count last := by
  rcases first with rfl | ⟨free, owned, kept⟩
  · exact second
  · rw [second.eq_of_hardware owned]
    exact .inr ⟨free, owned, kept⟩

instance : Trans (HandsOver count) (HandsOver count) (HandsOver count) := ⟨trans⟩

theorem giveToHardware (free : before.owner = .software) :
    before.HandsOver 1 before.giveToHardware :=
  .inr ⟨free, RxQueue.owner_giveToHardware before, rfl⟩

theorem submit (free : before.owner = .software) (address : UInt32) (length : Nat) :
    before.HandsOver 3 (before.submit address length) :=
  .inr ⟨free, TxQueue.owner_submit before address length, rfl⟩

theorem eq_replicate {descriptors : List Descriptor}
    (chain : (before :: descriptors).IsChain (HandsOver count)) (owned : before.owner = .hardware) :
    before :: descriptors = List.replicate (descriptors.length + 1) before := by
  rw [List.eq_replicate_iff]
  refine ⟨rfl, ?_⟩
  intro descriptor member
  rcases List.mem_cons.1 member with rfl | later
  · rfl
  · exact (chain.rel_cons later).eq_of_hardware owned

theorem changesOnce {descriptors : List Descriptor}
    (chain : descriptors.IsChain (HandsOver count)) : ChangesOnce descriptors := by
  match descriptors with
  | [] => exact ⟨0, default, 0, default, rfl⟩
  | first :: rest =>
    suffices split : ∃ early late last,
        first :: rest = List.replicate (early + 1) first ++ List.replicate late last by
      obtain ⟨early, late, last, same⟩ := split
      exact ⟨early + 1, first, late, last, same⟩
    induction rest generalizing first with
    | nil => exact ⟨0, 0, first, rfl⟩
    | cons second rest ih =>
      obtain ⟨handed, later⟩ := List.isChain_cons_cons.1 chain
      rcases handed with rfl | ⟨-, owned, -⟩
      · obtain ⟨early, late, last, same⟩ := ih second later
        exact ⟨early + 1, late, last, congrArg (second :: ·) same⟩
      · exact ⟨0, rest.length + 1, second, congrArg (first :: ·) (eq_replicate later owned)⟩

end Descriptor.HandsOver

namespace Queues

variable {rx tx : Nat} {before after last : Queues rx tx}

/-- Of a receive descriptor the driver writes the status, of a transmit descriptor
status, control and buffer address. -/
structure HandsOver (before after : Queues rx tx) : Prop where
  rx : ∀ slot, (before.rx.ring.get slot).HandsOver 1 (after.rx.ring.get slot)
  tx : ∀ slot, (before.tx.ring.get slot).HandsOver 3 (after.tx.ring.get slot)

theorem HandsOver.refl (queues : Queues rx tx) : queues.HandsOver queues where
  rx _ := .refl _
  tx _ := .refl _

theorem HandsOver.trans (first : before.HandsOver after) (second : after.HandsOver last) :
    before.HandsOver last where
  rx slot := (first.rx slot).trans (second.rx slot)
  tx slot := (first.tx slot).trans (second.tx slot)

theorem Touch.handsOver (touch : Touch before after) : before.HandsOver after := by
  cases touch with
  | recycle closed =>
    constructor
    · intro slot
      rw [RxQueue.get_recycle]
      split
      next here =>
        have current : before.rx.ring.get slot = before.rx.ring.current :=
          before.rx.ring.get_congr here
        rw [current]
        exact .giveToHardware closed
      next => exact .refl _
    · intro slot
      exact .refl _
  | publish room address length =>
    constructor
    · intro slot
      exact .refl _
    · intro slot
      rw [TxQueue.get_publish]
      split
      next here =>
        have current : before.tx.ring.get slot = before.tx.ring.current :=
          before.tx.ring.get_congr here
        rw [current]
        exact .submit room.2 address length
      next => exact .refl _
  | retire due =>
    constructor
    · intro slot
      exact .refl _
    · intro slot
      exact .refl _

theorem Touch.buffers_eq (touch : Touch before after) : after.rx.buffers = before.rx.buffers := by
  cases touch <;> rfl

end Queues

end EthernetMac
