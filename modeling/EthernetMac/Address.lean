import EthernetMac.Hex

/-!
MAC addresses and the register pair that holds one. The high word carries the
last two octets, the low word the first four, least significant octet first;
a pair packed from an address unpacks to it.
-/

namespace EthernetMac

@[ext] structure MacAddress where
  octet0 : UInt8
  octet1 : UInt8
  octet2 : UInt8
  octet3 : UInt8
  octet4 : UInt8
  octet5 : UInt8
deriving DecidableEq, Repr

namespace MacAddress

def broadcast : MacAddress := ⟨0xFF, 0xFF, 0xFF, 0xFF, 0xFF, 0xFF⟩

/-- The locally administered address used when none is configured. -/
def fallback : MacAddress := ⟨0x02, 0x00, 0x00, 0x00, 0x00, 0x01⟩

def octets (address : MacAddress) : List UInt8 :=
  [address.octet0, address.octet1, address.octet2, address.octet3, address.octet4,
    address.octet5]

def ofOctets? : List UInt8 → Option MacAddress
  | [a, b, c, d, e, f] => some ⟨a, b, c, d, e, f⟩
  | _ => none

@[simp] theorem length_octets (address : MacAddress) : address.octets.length = 6 := rfl

/-- Six pairs of digits between colons. -/
def text (address : MacAddress) : String :=
  ":".intercalate (address.octets.map Hex.byte)

def highWord (address : MacAddress) : UInt32 :=
  address.octet4.toUInt32 ||| (address.octet5.toUInt32 <<< 8)

def lowWord (address : MacAddress) : UInt32 :=
  address.octet0.toUInt32 ||| (address.octet1.toUInt32 <<< 8) |||
    (address.octet2.toUInt32 <<< 16) ||| (address.octet3.toUInt32 <<< 24)

/-- Reads the address in a register pair; the upper half of the high word is ignored. -/
def ofWords (high low : UInt32) : MacAddress where
  octet0 := low.toUInt8
  octet1 := (low >>> 8).toUInt8
  octet2 := (low >>> 16).toUInt8
  octet3 := (low >>> 24).toUInt8
  octet4 := high.toUInt8
  octet5 := (high >>> 8).toUInt8

@[simp] theorem ofWords_words (address : MacAddress) :
    ofWords address.highWord address.lowWord = address := by
  have beyond (value : UInt8) (i : Nat) (outside : 8 ≤ i) : value.toBitVec.getLsbD i = false :=
    BitVec.getLsbD_of_ge _ _ outside
  apply MacAddress.ext
  all_goals
    apply UInt8.toBitVec_inj.1
    apply BitVec.eq_of_getLsbD_eq
    intro i inside
    simp [ofWords, highWord, lowWord, inside]
  -- each octet is found at its own place, and the others have no bit there
  all_goals grind

end MacAddress

end EthernetMac
