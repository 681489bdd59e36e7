/-! Lower-case hexadecimal text of a fixed width. -/

namespace EthernetMac.Hex

/-- The last `width` hexadecimal digits of `value`, most significant first. -/
def digits : Nat → Nat → List Char
  | 0, _ => []
  | width + 1, value => digits width (value / 16) ++ [Nat.digitChar (value % 16)]

def byte (value : UInt8) : String := String.ofList (digits 2 value.toNat)

def word (value : UInt32) : String := String.ofList (digits 8 value.toNat)

end EthernetMac.Hex
