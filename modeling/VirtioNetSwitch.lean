import VirtioNetSwitch.Foundation.MacAddr
import VirtioNetSwitch.Foundation.Virtqueue
import VirtioNetSwitch.Vlan
import VirtioNetSwitch.MacTable
import VirtioNetSwitch.MacTable.Invariant
import VirtioNetSwitch.MacTable.Fifo
import VirtioNetSwitch.Request
import VirtioNetSwitch.Port
import VirtioNetSwitch.Switch.Ports
import VirtioNetSwitch.Switch.Forward
import VirtioNetSwitch.Switch.Reachable
import VirtioNetSwitch.Switch.Isolation
import VirtioNetSwitch.Transfer.Pending
import VirtioNetSwitch.Transfer.Inline
import VirtioNetSwitch.Transfer.Frame
import VirtioNetSwitch.Transfer.Egress
import VirtioNetSwitch.Runtime.World
import VirtioNetSwitch.Runtime.Irq
import VirtioNetSwitch.Runtime.Refinement
import VirtioNetSwitch.Runtime.Pending
import VirtioNetSwitch.Runtime.Notify
import VirtioNetSwitch.Runtime.Fuel
import VirtioNetSwitch.Factory.OptArg
import VirtioNetSwitch.Factory.IntParam
import VirtioNetSwitch.Factory.Create
import VirtioNetSwitch.Statistics
