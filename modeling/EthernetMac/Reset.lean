import EthernetMac.Access

/-!
Waiting for the hardware. A wait looks, pauses and looks again until the
condition holds or the pauses that fit into the timeout are used up; there is
always a look after the last pause.
-/

namespace EthernetMac

structure Timing where
  timeoutMs : UInt32 := 3000
  pollUs : UInt32 := 1000
deriving DecidableEq, Repr

namespace Timing

/-- The timeout in microseconds, as far as 32 bits count them. -/
def limitUs (timeoutMs : UInt32) : Nat := min (1000 * timeoutMs.toNat) 0xFFFFFFFF

/-- How many pauses fit into a timeout. An interval of zero counts as one. -/
def polls (timing : Timing) (timeoutMs : UInt32) : Program σ Nat :=
  Program.divide (limitUs timeoutMs) (max timing.pollUs.toNat 1)

end Timing

namespace Program

variable {σ : Type}

/-- Looks at most `budget + 1` times, with a pause between two looks. -/
def await (holds : Program σ Bool) (microseconds : UInt32) : Nat → Program σ Bool
  | 0 => holds
  | budget + 1 => do
    let now ← holds
    if now then return true
    else
      pause microseconds
      await holds microseconds budget

def isResetInProgress : Program σ Bool := isSet .softReset

def isResetComplete : Program σ Bool := do
  let running ← isResetInProgress
  return !running

/-- Resets the device and raises its general purpose output. -/
def softReset (timing : Timing) : Program σ (Except Error Unit) := do
  startReset
  enable .generalOutput
  let budget ← timing.polls timing.timeoutMs
  let complete ← await isResetComplete timing.pollUs budget
  if complete then return .ok ()
  else
    note (.resetTimedOut timing.timeoutMs)
    return .error .deviceError

/-- Whether the bus fell idle within the timeout. -/
def awaitBusIdle (timing : Timing) (timeoutMs : UInt32) : Program σ Bool := do
  let budget ← timing.polls timeoutMs
  let idle ← await isBusIdle timing.pollUs budget
  noteWhen (!idle) (.busStillBusy timeoutMs)
  return idle

end Program

end EthernetMac
