import EthernetMac.Interface.Addressing
import EthernetMac.Interface.Monitor
import EthernetMac.Interface.Session
import EthernetMac.Interface.Transfer
import EthernetMac.Proofs.Interface.HandOver
import EthernetMac.Proofs.Interface.Lifecycle
import EthernetMac.Proofs.Receive.Refinement
import EthernetMac.Proofs.Transmit.Capacity
import EthernetMac.Proofs.Interface.Bounds
import EthernetMac.Proofs.Queues.Layout
import EthernetMac.Proofs.Interface.Layout
import EthernetMac.Proofs.Interface.Service
import EthernetMac.Proofs.Interface.Renewal
import EthernetMac.Proofs.Program.Emits
import EthernetMac.Proofs.Interface.Footprint
import EthernetMac.Proofs.Interface.Reset
import EthernetMac.Proofs.Program.Upholds
import EthernetMac.Proofs.Interface.Enabling
import EthernetMac.Proofs.Interface.Interrupts
import EthernetMac.Proofs.Program.Share
import EthernetMac.Proofs.Run.Interleaving
import EthernetMac.Proofs.Program.Matches
import EthernetMac.Proofs.Queues.Sides
import EthernetMac.Proofs.Interface.Duplex
import EthernetMac.Proofs.Interface.Confinement
import EthernetMac.Proofs.Interface.Station
import EthernetMac.Proofs.Receive.Scan
import EthernetMac.Proofs.Interface.Sending
import EthernetMac.Proofs.Receive.Resume
import EthernetMac.Proofs.Interface.Filters
import EthernetMac.Proofs.Program.AddressSlots
import EthernetMac.Proofs.Interface.Link
import EthernetMac.Proofs.Interface.Rejection
import EthernetMac.Proofs.Interface.Headers
import EthernetMac.Proofs.Ring.Alignment
import EthernetMac.Proofs.Ring.Storage
