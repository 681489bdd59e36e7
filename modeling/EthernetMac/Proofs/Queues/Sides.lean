import EthernetMac.Proofs.Program.Keeps
import EthernetMac.Proofs.Program.Matches
import EthernetMac.Queues

/-!
The two sides of the queues. Receiving has the receive queue, the bit that tells it of a
starved engine, and the receive demands; sending has all the rest. What either does to the
queues depends on its own side, and leaves the other as it was.
-/

namespace EthernetMac

def receiverShare : Share where
  mask offset := if offset = Register.dmaStatus.offset then Control.rxUnavailable.mask else 0
  txDemands := false
  rxDemands := true

def senderShare : Share := receiverShare.rest

namespace Queues

variable {rx tx : Nat}

section Receive

theorem heeds_copyOut (length : Nat) (buffer : List UInt8) :
    (copyOut length buffer : Program (Queues rx tx) _).Heeds receiverShare Queues.rx := by
  unfold copyOut
  apply Program.Matches.bind_get
  intro queues image same
  rw [same]
  exact (Program.Matches.element _ _).bind fun stored =>
    (Program.Matches.firstBytes _ _).bind fun frame => .overwrite _ _

theorem heeds_inspect (descriptor : Descriptor) (buffer : List UInt8) :
    (inspect descriptor buffer : Program (Queues rx tx) _).Heeds receiverShare Queues.rx := by
  unfold inspect
  split
  · unfold inspectFrame
    refine (Program.Matches.noteWhen _ _).bind fun _ => ?_
    split
    · exact .note _ (.done _)
    · split
      · exact .note _ (.done _)
      · exact (heeds_copyOut _ _).bind fun filled => .done _
  · apply Program.Matches.bind_get
    intro queues image same
    rw [same]
    exact .note _ (.done _)

theorem heeds_recycle :
    (recycle : Program (Queues rx tx) _).Heeds receiverShare Queues.rx := by
  unfold recycle
  refine (Program.Matches.modify fun queues image same => ?_).bind fun _ => ?_
  · exact congrArg RxQueue.recycle same
  · unfold resumeReceive
    apply Program.Matches.bind_read
    intro status image same
    rw [Control.rxUnavailable.isSetIn_congr (by decide) same]
    split
    · exact (Program.Matches.writeAt _ _).bind fun _ => .writeAt _ _
    · exact .done _

theorem heeds_drain (buffer : List UInt8) (budget : Nat) :
    (drain buffer budget : Program (Queues rx tx) _).Heeds receiverShare Queues.rx := by
  induction budget with
  | zero => exact .done _
  | succ budget ih =>
    unfold drain
    apply Program.Matches.bind_get
    intro queues image same
    rw [same]
    cases image.rx.ring.current.owner with
    | hardware => exact .done _
    | software =>
      refine (heeds_inspect _ _).bind fun verdict => heeds_recycle.bind fun _ => ?_
      cases verdict with
      | some answer => exact .done _
      | none => exact ih

theorem keeps_copyOut (length : Nat) (buffer : List UInt8) :
    (copyOut length buffer : Program (Queues rx tx) _).Keeps Queues.tx := by
  unfold copyOut
  exact (Program.Keeps.of_silent .get).bind fun _ => (Program.Keeps.element _ _).bind fun _ =>
    (Program.Keeps.firstBytes _ _).bind fun _ => .overwrite _ _

theorem keeps_inspect (descriptor : Descriptor) (buffer : List UInt8) :
    (inspect descriptor buffer : Program (Queues rx tx) _).Keeps Queues.tx := by
  have noted {notice : Notice} {verdict : Verdict} :
      (do Program.note notice; return verdict : Program (Queues rx tx) Verdict).Keeps Queues.tx :=
    .of_silent ((Program.Silent.note _).bind fun _ => .pure _)
  unfold inspect
  split
  · unfold inspectFrame
    refine (Program.Keeps.of_silent (.noteWhen _ _)).bind fun _ => ?_
    split
    · exact noted
    · split
      · exact noted
      · exact (keeps_copyOut _ _).bind fun _ => .pure _
  · exact (Program.Keeps.of_silent .get).bind fun _ => noted

theorem keeps_recycle : (recycle : Program (Queues rx tx) Unit).Keeps Queues.tx := by
  unfold recycle
  refine Program.Keeps.bind (.modify fun _ => rfl) fun _ => ?_
  unfold resumeReceive
  refine (Program.Keeps.of_silent (.readAt _)).bind fun status => ?_
  split
  · exact .of_silent ((Program.Silent.writeAt _ _).bind fun _ => .writeAt _ _)
  · exact .pure _

/-- Receiving leaves the transmit queue alone. -/
theorem keeps_drain (buffer : List UInt8) (budget : Nat) :
    (drain buffer budget : Program (Queues rx tx) _).Keeps Queues.tx := by
  induction budget with
  | zero => exact .pure _
  | succ budget ih =>
    unfold drain
    refine (Program.Keeps.of_silent .get).bind fun queues => ?_
    cases queues.rx.ring.current.owner with
    | hardware => exact .pure _
    | software =>
      refine (keeps_inspect _ _).bind fun verdict => keeps_recycle.bind fun _ => ?_
      cases verdict with
      | some answer => exact .pure _
      | none => exact ih

end Receive

section Transmit

theorem heeds_transmit (address : UInt32) (length : Nat) :
    (transmit address length : Program (Queues rx tx) _).Heeds senderShare Queues.tx := by
  unfold transmit
  apply Program.Matches.bind_get
  intro queues image same
  rw [same]
  split
  · exact .note _ (.done _)
  · cases image.tx.ring.current.owner with
    | hardware => exact .done _
    | software =>
      refine (Program.Matches.modify fun queues image same => ?_).bind fun _ => .done _
      exact congrArg (TxQueue.publish · address length) same

theorem heeds_reclaim :
    (reclaim : Program (Queues rx tx) _).Heeds senderShare Queues.tx := by
  have retired : (retire : Program (Queues rx tx) _).Heeds senderShare Queues.tx := by
    unfold retire
    apply Program.Matches.bind_get
    intro queues image same
    rw [same]
    split
    · exact .fault _
    · exact .modify fun queues image same => congrArg TxQueue.retire same
  unfold reclaim
  apply Program.Matches.bind_get
  intro queues image same
  rw [same]
  split
  · exact .done _
  · dsimp only
    cases image.tx.oldest.owner with
    | hardware => exact .done _
    | software => exact (Program.Matches.noteWhen _ _).bind fun _ => retired.bind fun _ => .done _

/-- Sending leaves the receive queue alone. -/
theorem keeps_transmit (address : UInt32) (length : Nat) :
    (transmit address length : Program (Queues rx tx) _).Keeps Queues.rx := by
  unfold transmit
  refine (Program.Keeps.of_silent .get).bind fun queues => ?_
  split
  · exact .of_silent ((Program.Silent.note _).bind fun _ => .pure _)
  · cases queues.tx.ring.current.owner with
    | hardware => exact .pure _
    | software => exact Program.Keeps.bind (.modify fun _ => rfl) fun _ => .pure _

theorem keeps_reclaim : (reclaim : Program (Queues rx tx) _).Keeps Queues.rx := by
  have retired : (retire : Program (Queues rx tx) Unit).Keeps Queues.rx := by
    unfold retire
    refine (Program.Keeps.of_silent .get).bind fun queues => ?_
    split
    · exact .fault _
    · exact .modify fun _ => rfl
  unfold reclaim
  refine (Program.Keeps.of_silent .get).bind fun queues => ?_
  split
  · exact .pure _
  · dsimp only
    cases queues.tx.oldest.owner with
    | hardware => exact .pure _
    | software =>
      exact (Program.Keeps.of_silent (.noteWhen _ _)).bind fun _ => retired.bind fun _ => .pure _

end Transmit

end Queues

end EthernetMac
