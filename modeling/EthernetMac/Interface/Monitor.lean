import EthernetMac.Interface.Basic
import EthernetMac.Status

/-! Status queries: the link, pending interrupts, and the oldest frame sent. -/

namespace EthernetMac.Interface

variable {rx tx : Nat}

/-- Reads the pending completion interrupts and acknowledges just those. -/
def takeInterrupts : Program (Interface rx tx) InterruptStatus := do
  let raw ← Program.read .dmaStatus
  let pending := InterruptStatus.ofRegister raw
  if pending.any then
    Program.acknowledge pending.toRegister
    return pending
  else return pending

def askCompletion (query : StatusQuery) : Program (Interface rx tx) (Option UInt32) :=
  if query.asks .completion then onQueues Queues.reclaim else return none

def askInterrupts (query : StatusQuery) : Program (Interface rx tx) (Option InterruptStatus) :=
  if query.asks .interrupts then some <$> takeInterrupts else return none

def status (query : StatusQuery) : Program (Interface rx tx) (Except Error DeviceStatus) :=
  gated .status .error do
    let mediaPresent ← sampleLink
    let completed ← askCompletion query
    let interrupts ← askInterrupts query
    return .ok { mediaPresent, interrupts, completed }

end EthernetMac.Interface
