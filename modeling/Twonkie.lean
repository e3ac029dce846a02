import Twonkie.Usb.Pma
import Twonkie.Usb.Ep0
import Twonkie.Usb.Wake
import Twonkie.Usb.Serial
import Twonkie.Usb.Equiv.Pma
import Twonkie.Usb.Equiv.Setup
import Twonkie.Usb.Equiv.Descriptor
import Twonkie.Usb.Equiv.Request
import Twonkie.Usb.Equiv.Lifecycle
import Twonkie.Usb.Equiv.Iface
import Twonkie.Usb.Equiv.Wake
import Twonkie.Usb.Equiv.Serial
import Twonkie.Usb.Equiv.Memory
import Twonkie.Tpm.Registers
import Twonkie.Tpm.Equiv.Fifo
import Twonkie.Tpm.Equiv.Response
import Twonkie.Tpm.Equiv.Invariant
import Twonkie.Tpm.Equiv.Transfers
import Twonkie.Tpm.Equiv.Version
import Twonkie.Tpm.Equiv.Locality
import Twonkie.Tpm.Task
import Twonkie.Tpm.Equiv.Task
import Twonkie.Tpm.Equiv.Command
import Twonkie.Clock.Stm32
import Twonkie.Clock.Equiv.Stm32
import Twonkie.TabletMode
