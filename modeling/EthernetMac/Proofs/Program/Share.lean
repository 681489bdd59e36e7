import EthernetMac.Proofs.Control
import EthernetMac.Proofs.Program.Registers

/-!
A share of the registers: some bits of each, and some of the poll demands. What a write makes
of a share can be told from the share; a write to what belongs to others leaves it alone; and
a share and what it leaves out make up the whole.
-/

namespace EthernetMac

structure Share where
  mask : Nat → UInt32
  txDemands : Bool
  rxDemands : Bool

namespace Share

variable (share : Share) {file other : RegisterFile} {offset : Nat} {value : UInt32}

/-- The registers with everything blank that is not in the share. -/
def see (file : RegisterFile) : RegisterFile :=
  { file with
    cells := fun offset => file.cells offset &&& share.mask offset
    txDemands := if share.txDemands then file.txDemands else 0
    rxDemands := if share.rxDemands then file.rxDemands else 0 }

/-- Everything that is not in the share. -/
def rest : Share where
  mask offset := ~~~share.mask offset
  txDemands := !share.txDemands
  rxDemands := !share.rxDemands

/-- A reactive window changes nothing of the share when the value is written. -/
def Spares (offset : Nat) (value : UInt32) : Prop :=
  if offset = Register.dmaStatus.offset then value &&& share.mask offset = 0
  else if offset = Register.txPollDemand.offset then share.txDemands = false
  else if offset = Register.rxPollDemand.offset then share.rxDemands = false
  else share.mask offset = 0

instance (offset : Nat) (value : UInt32) : Decidable (share.Spares offset value) :=
  inferInstanceAs (Decidable (if offset = Register.dmaStatus.offset then _
    else if offset = Register.txPollDemand.offset then _
    else if offset = Register.rxPollDemand.offset then _ else _))

@[simp] theorem read_see (file : RegisterFile) (offset : Nat) :
    (share.see file).read offset = file.read offset &&& share.mask offset := rfl

@[simp] theorem behaviour_see (file : RegisterFile) :
    (share.see file).behaviour = file.behaviour := rfl

theorem read_of_see (same : share.see file = share.see other) (offset : Nat) :
    file.read offset &&& share.mask offset = other.read offset &&& share.mask offset :=
  congrArg (fun seen : RegisterFile => seen.read offset) same

theorem behaviour_of_see (same : share.see file = share.see other) :
    file.behaviour = other.behaviour := by
  simpa using congrArg RegisterFile.behaviour same

/-- Demands count up alike in the window and in what is seen of it. -/
theorem see_demands (file : RegisterFile) (tx rx : Nat) :
    share.see { share.see file with
        txDemands := (share.see file).txDemands + tx
        rxDemands := (share.see file).rxDemands + rx } =
      share.see { file with
        txDemands := file.txDemands + tx
        rxDemands := file.rxDemands + rx } := by
  cases sent : share.txDemands <;> cases received : share.rxDemands <;>
    simp [see, sent, received, UInt32.and_assoc]

theorem see_see (file : RegisterFile) : share.see (share.see file) = share.see file :=
  share.see_demands file 0 0

theorem see_store (file : RegisterFile) (offset : Nat) (value : UInt32) :
    share.see (file.store offset value) =
      (share.see file).store offset (value &&& share.mask offset) := by
  refine RegisterFile.ext rfl (funext fun other => ?_) rfl rfl rfl
  by_cases here : other = offset <;> simp [see, RegisterFile.store, here]

theorem see_store_see (file : RegisterFile) (offset : Nat) (value : UInt32) :
    share.see ((share.see file).store offset value) = share.see (file.store offset value) := by
  rw [see_store, see_store, see_see]

/-- What a write makes of the share depends on the share alone. -/
theorem see_write (file : RegisterFile) (offset : Nat) (value : UInt32) :
    share.see ((share.see file).write offset value) = share.see (file.write offset value) := by
  cases behaviour : file.behaviour with
  | plain =>
    rw [RegisterFile.write_of_plain behaviour, RegisterFile.write_of_plain (by simpa)]
    exact share.see_store_see file offset value
  | reactive =>
    -- Whether a reset completes is in every share, so both writes take the same branch.
    have stuck : (share.see file).resetStuck = file.resetStuck := rfl
    rw [RegisterFile.write_of_reactive behaviour, RegisterFile.write_of_reactive (by simpa)]
    unfold RegisterFile.writeReactive
    rw [stuck]
    split
    · have cleared : (file.read offset &&& share.mask offset) &&& ~~~value &&& share.mask offset =
          file.read offset &&& ~~~value &&& share.mask offset := by
        rw [UInt32.and_assoc, UInt32.and_assoc, UInt32.and_comm (share.mask offset),
          UInt32.and_assoc, UInt32.and_self, UInt32.and_assoc]
      rw [see_store, see_store, see_see, read_see, cleared]
    · split
      · exact share.see_demands file 1 0
      · split
        · exact share.see_demands file 0 1
        · split <;> exact share.see_store_see file offset _

theorem see_store_of_same
    (same : value &&& share.mask offset = file.read offset &&& share.mask offset) :
    share.see (file.store offset value) = share.see file := by
  rw [see_store, same]
  refine RegisterFile.ext rfl (funext fun other => ?_) rfl rfl rfl
  by_cases here : other = offset <;> simp [see, RegisterFile.store, RegisterFile.read, here]

theorem see_write_of_spares (reactive : file.behaviour = .reactive)
    (spares : share.Spares offset value) :
    share.see (file.write offset value) = share.see file := by
  rw [RegisterFile.write_of_reactive reactive]
  unfold RegisterFile.writeReactive
  unfold Spares at spares
  by_cases status : offset = Register.dmaStatus.offset
  · rw [if_pos status] at spares ⊢
    apply share.see_store_of_same
    rw [UInt32.and_assoc, Word.not_and_of_apart spares]
  rw [if_neg status] at spares ⊢
  by_cases txDemand : offset = Register.txPollDemand.offset
  · rw [if_pos txDemand] at spares ⊢
    simp [see, spares]
  rw [if_neg txDemand] at spares ⊢
  by_cases rxDemand : offset = Register.rxPollDemand.offset
  · rw [if_pos rxDemand] at spares ⊢
    simp [see, spares]
  rw [if_neg rxDemand] at spares ⊢
  have stored (value : UInt32) : share.see (file.store offset value) = share.see file := by
    apply share.see_store_of_same
    simp [spares]
  split <;> exact stored _

section Hardware

theorem see_store_congr {left right : UInt32} (same : share.see file = share.see other)
    (alike : left &&& share.mask offset = right &&& share.mask offset) :
    share.see (file.store offset left) = share.see (other.store offset right) := by
  rw [see_store, see_store, same, alike]

theorem see_raise_congr (same : share.see file = share.see other) (bits : UInt32) :
    share.see (file.raise bits) = share.see (other.raise bits) := by
  apply share.see_store_congr same
  rw [Word.or_and, Word.or_and, share.read_of_see same]

theorem see_raise_of_apart {bits : UInt32}
    (apart : bits &&& share.mask Register.dmaStatus.offset = 0) :
    share.see (file.raise bits) = share.see file := by
  apply share.see_store_of_same
  rw [Word.or_and, apart, UInt32.or_zero]

/-- The link is seen by those who see all of its register. -/
theorem see_setLink_congr (same : share.see file = share.see other)
    (whole : ~~~share.mask Control.linkUp.register.offset = 0) (up : Bool) :
    share.see (file.setLink up) = share.see (other.setLink up) := by
  have read := Word.eq_of_whole whole (share.read_of_see same _)
  apply share.see_store_congr same
  rw [share.behaviour_of_see same, read]

theorem see_setLink_of_blind (blind : share.mask Control.linkUp.register.offset = 0) (up : Bool) :
    share.see (file.setLink up) = share.see file := by
  apply share.see_store_of_same
  rw [blind, UInt32.and_zero, UInt32.and_zero]

end Hardware

/-- A share and the rest are everything. -/
theorem ext_see (own : share.see file = share.see other)
    (others : share.rest.see file = share.rest.see other) : file = other := by
  apply RegisterFile.ext
  · exact share.behaviour_of_see own
  · funext offset
    have within := share.read_of_see own offset
    have beyond : file.read offset &&& ~~~share.mask offset =
      other.read offset &&& ~~~share.mask offset := share.rest.read_of_see others offset
    show file.read offset = other.read offset
    rw [← Word.and_or_and_not (file.read offset) (share.mask offset), within, beyond,
      Word.and_or_and_not]
  · have left := congrArg RegisterFile.txDemands own
    have right := congrArg RegisterFile.txDemands others
    cases shared : share.txDemands <;> simp [see, rest, shared] at left right <;> assumption
  · have left := congrArg RegisterFile.rxDemands own
    have right := congrArg RegisterFile.rxDemands others
    cases shared : share.rxDemands <;> simp [see, rest, shared] at left right <;> assumption
  · simpa [see] using congrArg RegisterFile.resetStuck own

end Share

end EthernetMac
