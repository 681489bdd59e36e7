import EthernetMac.Register

/-!
Receive filters. A request is a set of flags; the frame filter register has one
bit for each of promiscuous and all-multicast reception and one that blocks
broadcasts. Unicast has no bit, and both multicast flags share one.
-/

namespace EthernetMac

/-- A set of filter flags. Bits without a meaning are kept. -/
@[ext] structure ReceiveFilter where
  bits : UInt8 := 0
deriving DecidableEq, Repr, Inhabited

namespace ReceiveFilter

def unicast : ReceiveFilter := ⟨0x01⟩
def multicast : ReceiveFilter := ⟨0x02⟩
def broadcast : ReceiveFilter := ⟨0x04⟩
def promiscuous : ReceiveFilter := ⟨0x08⟩
def promiscuousMulticast : ReceiveFilter := ⟨0x10⟩

instance : Union ReceiveFilter := ⟨fun left right => ⟨left.bits ||| right.bits⟩⟩
instance : SDiff ReceiveFilter := ⟨fun left right => ⟨left.bits &&& ~~~right.bits⟩⟩

/-- Every flag there is. -/
def all : ReceiveFilter :=
  unicast ∪ multicast ∪ broadcast ∪ promiscuous ∪ promiscuousMulticast

/-- The flags an interface can honour. -/
def supported : ReceiveFilter :=
  unicast ∪ broadcast ∪ promiscuous ∪ promiscuousMulticast

/-- The set holds the single flag `flag`. -/
def has (filter flag : ReceiveFilter) : Bool := filter.bits &&& flag.bits != 0

/-- The setting that a frame filter register holds. Unicast is always on. -/
def ofRegister (raw : UInt32) : ReceiveFilter :=
  let pick (present : Bool) (flag : ReceiveFilter) : ReceiveFilter :=
    if present then flag else ⟨0⟩
  unicast ∪ pick (!Control.broadcastBlocked.isSetIn raw) broadcast
    ∪ pick (Control.promiscuous.isSetIn raw) promiscuous
    ∪ pick (Control.allMulticast.isSetIn raw) promiscuousMulticast

/-- Sets or clears the bits of `control` in `raw`. -/
def put (control : Control) (present : Bool) (raw : UInt32) : UInt32 :=
  if present then raw ||| control.mask else raw &&& ~~~control.mask

/-- The frame filter register after the request, from its value before. -/
def apply (filter : ReceiveFilter) (raw : UInt32) : UInt32 :=
  put Control.promiscuous (filter.has promiscuous)
    (put Control.allMulticast (filter.has multicast || filter.has promiscuousMulticast)
      (put Control.broadcastBlocked (!filter.has broadcast) raw))

/-- One letter for each flag, in upper case where the flag is set. -/
def letters (filter : ReceiveFilter) : String :=
  let letter (flag : ReceiveFilter) (upper lower : Char) :=
    if filter.has flag then upper else lower
  String.ofList [letter unicast 'U' 'u', letter broadcast 'B' 'b', letter multicast 'M' 'm',
    letter promiscuous 'P' 'p', letter promiscuousMulticast 'W' 'w']

end ReceiveFilter

end EthernetMac
