/-!
The ways an operation can fail. An `Error` is an answer to the caller; a
`Fault` is an access out of range, which would stop the program.
-/

namespace EthernetMac

inductive Error where
  | invalidParameter
  | deviceError
  | notStarted
  | alreadyStarted
  | unsupported
  | bufferTooSmall (required : Nat)
  | notReady
deriving DecidableEq, Repr

namespace Error

def text : Error → String
  | invalidParameter => "invalid parameter"
  | deviceError => "device error"
  | notStarted => "device not started"
  | alreadyStarted => "device already started"
  | unsupported => "unsupported"
  | bufferTooSmall _ => "buffer too small for frame"
  | notReady => "not ready"

/-- The text, with the length to provide where one is known. -/
def message : Error → String
  | bufferTooSmall required => s!"{text (bufferTooSmall required)} (need {required} bytes)"
  | error => error.text

/-- The same call may succeed later without any other call in between. -/
def isRetryable : Error → Bool
  | notReady | bufferTooSmall _ => true
  | _ => false

end Error

inductive Fault where
  | index (index length : Nat)
  | slice (stop length : Nat)
  | counterBelowZero
  | zeroDivisor
deriving DecidableEq, Repr

end EthernetMac
