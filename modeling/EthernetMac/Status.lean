import EthernetMac.Register

/-! What a status query asks for and what it answers. -/

namespace EthernetMac

/-- The two completion interrupts. -/
@[ext] structure InterruptStatus where
  received : Bool := false
  sent : Bool := false
deriving DecidableEq, Repr, Inhabited

namespace InterruptStatus

def ofRegister (raw : UInt32) : InterruptStatus where
  received := Control.frameReceived.isSetIn raw
  sent := Control.frameSent.isSetIn raw

/-- The bits to write back to acknowledge the interrupts. -/
def toRegister (status : InterruptStatus) : UInt32 :=
  (if status.received then Control.frameReceived.mask else 0) |||
    (if status.sent then Control.frameSent.mask else 0)

def any (status : InterruptStatus) : Bool := status.received || status.sent

end InterruptStatus

/-- A set of questions. Bits without a meaning are ignored. -/
@[ext] structure StatusQuery where
  bits : UInt8 := 0
deriving DecidableEq, Repr, Inhabited

namespace StatusQuery

def interrupts : StatusQuery := ⟨0x01⟩
def completion : StatusQuery := ⟨0x02⟩

instance : Union StatusQuery := ⟨fun left right => ⟨left.bits ||| right.bits⟩⟩

/-- Every question there is. -/
def all : StatusQuery := interrupts ∪ completion

def asks (query question : StatusQuery) : Bool := query.bits &&& question.bits != 0

end StatusQuery

@[ext] structure DeviceStatus where
  mediaPresent : Bool := false
  interrupts : Option InterruptStatus := none
  /-- Buffer address of a frame that was sent. -/
  completed : Option UInt32 := none
deriving DecidableEq, Repr, Inhabited

end EthernetMac
