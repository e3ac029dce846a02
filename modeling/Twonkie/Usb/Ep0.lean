import Twonkie.Usb.Pma

/-!
# The control endpoint of `usb.c`

The device-side control-transfer engine of `chip/stm32/usb.c`: the static state of the EP0
handlers (`UsbState`), the three handlers `ep0Rx` (a SETUP arrived), `ep0Tx` (an IN transaction
completed) and `ep0Event` with `usbReset` (bus reset), and the event-level run `ep0Run` over which
the control-transfer results are stated.

`ep0_rx` is one function in the source; here it is its prelude (the transfer reset and the
interface dispatch, `ep0Rx`), the choice among the remaining branches (`ep0Reply`, one arm per
`return` or `goto unknown_req` of the source, the descriptor `switch` being `ep0GetDescriptor`) and
what each branch does (`ep0Do`).

Interface handlers (`usb_iface_request[i]`) are external: a call is modelled by the value it
returns, which each event carries. `registers.h` is not under `src/`, so a write of
`STM32_USB_EP(0)` is modelled by what it asks for (`EpReg`).
-/

namespace Twonkie.Usb

/-! ### Constants -/

/-- Modelled from the spec: `USB_MAX_PACKET_SIZE`, the control endpoint's packet size. -/
def usbMaxPacketSize : Nat := 64

/-- Modelled from the spec: the request-type fields of `usb_descriptor.h` (USB 2.0, 9.3). -/
def usbDirIn : UInt16 := 0x80
/-- Modelled from the spec: `USB_DIR_OUT`. -/
def usbDirOut : UInt16 := 0x00
/-- Modelled from the spec: `USB_RECIP_MASK`. -/
def usbRecipMask : UInt16 := 0x1f
/-- Modelled from the spec: `USB_RECIP_INTERFACE`. -/
def usbRecipInterface : UInt16 := 0x01
/-- Modelled from the spec: `USB_TYPE_MASK`. -/
def usbTypeMask : UInt16 := 0x60
/-- Modelled from the spec: `USB_TYPE_VENDOR`. -/
def usbTypeVendor : UInt16 := 0x40

/-- Modelled from the spec: the standard request codes of `usb_descriptor.h` (USB 2.0, 9.4). -/
def usbReqGetStatus : UInt16 := 0
/-- Modelled from the spec: `USB_REQ_CLEAR_FEATURE`. -/
def usbReqClearFeature : UInt16 := 1
/-- Modelled from the spec: `USB_REQ_SET_FEATURE`. -/
def usbReqSetFeature : UInt16 := 3
/-- Modelled from the spec: `USB_REQ_SET_ADDRESS`. -/
def usbReqSetAddress : UInt16 := 5
/-- Modelled from the spec: `USB_REQ_GET_DESCRIPTOR`. -/
def usbReqGetDescriptor : UInt16 := 6
/-- Modelled from the spec: `USB_REQ_SET_CONFIGURATION`. -/
def usbReqSetConfiguration : UInt16 := 9
/-- Modelled from the spec: `USB_REQ_FEATURE_DEVICE_REMOTE_WAKEUP`. -/
def usbReqFeatureDeviceRemoteWakeup : UInt16 := 1
/-- Modelled from the spec: `USB_REQ_GET_STATUS_SELF_POWERED`. -/
def usbReqGetStatusSelfPowered : UInt16 := 0x01
/-- Modelled from the spec: `USB_REQ_GET_STATUS_REMOTE_WAKEUP`. -/
def usbReqGetStatusRemoteWakeup : UInt16 := 0x02

/-- Modelled from the spec: the descriptor types of `usb_descriptor.h` (USB 2.0, 9.4.3). -/
def usbDtDevice : UInt8 := 0x01
/-- Modelled from the spec: `USB_DT_CONFIGURATION`. -/
def usbDtConfiguration : UInt8 := 0x02
/-- Modelled from the spec: `USB_DT_STRING`. -/
def usbDtString : UInt8 := 0x03
/-- Modelled from the spec: `USB_DT_DEVICE_QUALIFIER`. -/
def usbDtDeviceQualifier : UInt8 := 0x06
/-- Modelled from the spec: `USB_DT_BOS`. -/
def usbDtBos : UInt8 := 0x0f

/-! ### Build configuration and descriptors -/

/-- `struct usb_string_desc`: `_len`, `_type` and the 16-bit characters `_data`. -/
structure UsbStringDesc where
  len : UInt8
  type : UInt8
  data : Nat → UInt16

/-- The bytes of a `struct usb_string_desc` in memory. -/
def UsbStringDesc.bytes (sd : UsbStringDesc) : BytePtr := fun i =>
  if i = 0 then sd.len
  else if i = 1 then sd.type
  else if (i - 2) % 2 = 0 then lo (sd.data ((i - 2) / 2)) else hi (sd.data ((i - 2) / 2))

/-- What a board fixes at build time: the `CONFIG_USB_*` switches, the board's descriptor
tables, and where the linker put the EP0 buffers. -/
structure UsbConfig where
  /-- `USB_IFACE_COUNT`. -/
  ifaceCount : Nat
  /-- `usb_strings`; its length is `USB_STR_COUNT`. -/
  usbStrings : List BytePtr
  /-- `USB_STR_SERIALNO` when `CONFIG_USB_SERIALNO` is set. -/
  usbStrSerialno : Option Nat
  /-- `__usb_desc`, the configuration descriptor followed by the interface descriptors. -/
  usbDesc : BytePtr
  /-- `USB_DESC_SIZE`, the size of `__usb_desc`. -/
  usbDescSize : Nat
  /-- `bos_ctx.descp` and `bos_ctx.size` when `CONFIG_USB_BOS` is set. -/
  bos : Option (BytePtr × Nat)
  /-- `webusb_url` and `WEBUSB_REQ_GET_URL` when `CONFIG_WEBUSB_URL` is set. -/
  webusb : Option (BytePtr × UInt16)
  /-- `CONFIG_USB_SELF_POWERED`. -/
  selfPowered : Bool
  /-- `CONFIG_USB_REMOTE_WAKEUP`. -/
  remoteWakeup : Bool
  /-- The board fields of `dev_desc`: `USB_DEV_CLASS`, `CONFIG_USB_PID`, `CONFIG_USB_BCD_DEV`,
  `USB_STR_VENDOR` and `USB_STR_PRODUCT`. -/
  devClass : UInt8
  pid : UInt16
  bcdDev : UInt16
  strVendor : UInt8
  strProduct : UInt8
  /-- Word offsets of `ep0_buf_tx` and `ep0_buf_rx` in packet memory. -/
  ep0BufTx : Nat
  ep0BufRx : Nat
  /-- The linker puts `btable_ep` (`.usb_ram.00_btable`) at the start of packet memory and the
  buffers (`.usb_ram.99_data`) after it, so both buffers lie past the four words of
  `btable_ep[0]`. -/
  bufsAfterBtable : 4 ≤ ep0BufTx ∧ 4 ≤ ep0BufRx

/-- `dev_desc`, the standard device descriptor, as bytes. -/
def devDesc (cfg : UsbConfig) : BytePtr := fun i =>
  let bcdUsb : UInt16 := if cfg.bos.isSome then 0x0210 else 0x0200
  ([18, 0x01, lo bcdUsb, hi bcdUsb, cfg.devClass, 0, 0, 64, 0xd1, 0x18, lo cfg.pid, hi cfg.pid,
    lo cfg.bcdDev, hi cfg.bcdDev, cfg.strVendor, cfg.strProduct,
    (cfg.usbStrSerialno.getD 0).toUInt8, 1] : List UInt8).getD i 0

/-- `sizeof(dev_desc)`. -/
def devDescSize : Nat := 18

/-! ### State -/

/-- A status of one direction of an endpoint, `STAT_TX` or `STAT_RX`. -/
inductive EpStat where
  | disabled | stall | nak | valid
  deriving DecidableEq, Repr

/-- `STM32_USB_EP(0)` as the firmware last wrote it: the transmit and receive status it asked
for and whether it passed `EP_STATUS_OUT` (expect the zero-length OUT of the status stage). -/
structure EpReg where
  tx : EpStat
  rx : EpStat
  statusOut : Bool
  deriving DecidableEq, Repr

/-- `STM32_TOGGLE_EP(0, EP_TX_RX_MASK, tx | rx, flags)`. -/
def EpReg.toggleTxRx (tx rx : EpStat) (statusOut : Bool) : EpReg := ⟨tx, rx, statusOut⟩

/-- `STM32_TOGGLE_EP(0, EP_TX_MASK, tx, flags)`: the receive status is left alone. -/
def EpReg.toggleTx (r : EpReg) (tx : EpStat) (statusOut : Bool) : EpReg :=
  { r with tx := tx, statusOut := statusOut }

/-- `struct stm32_endpoint`, an entry of the buffer descriptor table `btable_ep`: four
`usb_uint` words, read as numbers. -/
structure Stm32Endpoint where
  txAddr : Nat
  txCount : Nat
  rxAddr : Nat
  rxCount : Nat
  deriving DecidableEq, Repr

/-- `btable_ep` is at offset `0` of packet memory (`STM32_USB_BTABLE = 0`), so the fields of
`btable_ep[0]` are words `0` to `3`. -/
def btableTxAddr : Nat := 0
/-- `btable_ep[0].tx_count`. -/
def btableTxCount : Nat := 1
/-- `btable_ep[0].rx_addr`. -/
def btableRxAddr : Nat := 2
/-- `btable_ep[0].rx_count`. -/
def btableRxCount : Nat := 3

/-- `usb_sram_addr(x)`: the byte offset in packet memory of the buffer at word `x`. -/
def usbSramAddr (x : Nat) : UInt16 := (x * 2).toUInt16

/-- `btable_ep[0].tx_count = len`. -/
def UsbRam.setTxCount (ram : UsbRam) (len : Nat) : UsbRam := ram.set btableTxCount len.toUInt16

theorem UsbRam.setTxCount_ne (ram : UsbRam) (len : Nat) {k : Nat} (hk : k ≠ btableTxCount) :
    ram.setTxCount len k = ram k :=
  UsbRam.set_ne _ _ hk

/-- `tx_count` reads back a length of at most one 16-bit word. -/
theorem UsbRam.setTxCount_txCount (ram : UsbRam) {len : Nat} (h : len < 2 ^ 16) :
    (ram.setTxCount len btableTxCount).toNat = len := by
  rw [setTxCount, UsbRam.set_same]
  exact UInt16.toNat_ofNat_of_lt h

/-- The bits of `STM32_USB_CNTR` that `usb.c` reads or sets after `usb_init`. -/
structure Cntr where
  fsusp : Bool
  lpMode : Bool
  resume : Bool
  esofm : Bool
  deriving DecidableEq, Repr

/-- The state `usb.c` works on: its statics, the peripheral registers it touches, and packet
memory, the endpoint table among it. `desc_left` is an `int` that only ever receives
`len - USB_MAX_PACKET_SIZE` under `len >= USB_MAX_PACKET_SIZE` and loses at most its own value,
so it is a `Nat` here. -/
structure UsbState where
  /-- `set_addr`, the address a `SET_ADDRESS` asked for. -/
  setAddr : Nat
  /-- `desc_left`, what remains of a descriptor transfer. -/
  descLeft : Nat
  /-- `desc_ptr`, where the rest of the descriptor is, or `NULL`. -/
  descPtr : Option BytePtr
  /-- `iface_next`, the interface that handles the next IN transaction. -/
  ifaceNext : Nat
  /-- `remote_wakeup_enabled`. -/
  remoteWakeupEnabled : Bool
  /-- `*usb_serialno_desc`. -/
  usbSerialnoDesc : UsbStringDesc
  /-- `STM32_USB_DADDR`. -/
  daddr : Nat
  /-- Packet memory: `btable_ep`, `ep0_buf_tx` and `ep0_buf_rx` among it. -/
  ram : UsbRam
  /-- `STM32_USB_EP(0)`. -/
  ep0 : EpReg
  /-- `STM32_USB_CNTR`. -/
  cntr : Cntr
  /-- `usb_wake_done ≠ 0`. -/
  usbWakeDone : Bool
  /-- `esof_count`. -/
  esofCount : Int

/-- `btable_ep[0]`, read from packet memory. -/
def UsbState.btableEp0 (st : UsbState) : Stm32Endpoint :=
  ⟨(st.ram btableTxAddr).toNat, (st.ram btableTxCount).toNat, (st.ram btableRxAddr).toNat,
    (st.ram btableRxCount).toNat⟩

@[simp] theorem UsbState.btableEp0_txCount (st : UsbState) :
    st.btableEp0.txCount = (st.ram btableTxCount).toNat := rfl

/-- The state `usb_init` leaves: the statics at their initial values, `CNTR` with only interrupt
masks set, the address register at its reset value. Packet memory, the endpoint table in it, and
the serial number loaded by `usb_load_serial` are whatever they are. -/
def usbInit (cfg : UsbConfig) (ram : UsbRam) (serial : UsbStringDesc) : UsbState where
  setAddr := 0
  descLeft := 0
  descPtr := none
  ifaceNext := cfg.ifaceCount
  remoteWakeupEnabled := false
  usbSerialnoDesc := serial
  daddr := 0
  ram := ram
  ep0 := ⟨.disabled, .disabled, false⟩
  cntr := ⟨false, false, false, false⟩
  usbWakeDone := true
  esofCount := 0

/-! ### Setup packets -/

/-- `struct usb_setup_packet`. -/
structure SetupPacket where
  bmRequestType : UInt8
  bRequest : UInt8
  wValue : UInt16
  wIndex : UInt16
  wLength : UInt16
  deriving DecidableEq, Repr

/-- `bmRequestType | (bRequest << 8)`, the first word of a SETUP packet in packet memory. -/
def SetupPacket.req (pkt : SetupPacket) : UInt16 :=
  (pkt.bRequest.toUInt16 <<< 8) ||| pkt.bmRequestType.toUInt16

/-- The four words the peripheral stores for a SETUP packet. -/
def SetupPacket.words (pkt : SetupPacket) (k : Nat) : UInt16 :=
  if k = 0 then pkt.req else if k = 1 then pkt.wValue else if k = 2 then pkt.wIndex else pkt.wLength

/-- The peripheral stores a SETUP packet in `ep0_buf_rx`. -/
@[simps]
def UsbState.receiveSetup (cfg : UsbConfig) (st : UsbState) (pkt : SetupPacket) : UsbState :=
  { st with ram := fun k =>
      if cfg.ep0BufRx ≤ k ∧ k < cfg.ep0BufRx + 4 then pkt.words (k - cfg.ep0BufRx) else st.ram k }

/-! ### `ep0_send_descriptor` -/

/-- The end of `ep0_send_descriptor` once `len` is at most one packet: copy `len` bytes into
`ep0_buf_tx`, write `fixup_size` over bytes 2 and 3, set `tx_count` and arm both directions,
with `EP_STATUS_OUT` when no descriptor data is left. -/
@[simps]
def ep0QueueDescriptor (cfg : UsbConfig) (st : UsbState) (desc : BytePtr) (len : Nat)
    (fixupSize : UInt16) : UsbState :=
  { st with
    ram :=
      (if fixupSize ≠ 0 then
        (memcpyToUsbram st.ram (2 * cfg.ep0BufTx) desc len).set (cfg.ep0BufTx + 1) fixupSize
      else memcpyToUsbram st.ram (2 * cfg.ep0BufTx) desc len).setTxCount len
    ep0 := .toggleTxRx .valid .valid (st.descLeft = 0) }

/-- `ep0_send_descriptor(desc, len, fixup_size)`: never more than `wLength` bytes; what does not
fit in one packet is left in `desc_ptr` and `desc_left` for the next IN transactions. -/
def ep0SendDescriptor (cfg : UsbConfig) (st : UsbState) (desc : BytePtr) (len : Nat)
    (fixupSize : UInt16) : UsbState :=
  let len := min (st.ram (cfg.ep0BufRx + 3)).toNat len
  if usbMaxPacketSize ≤ len then
    ep0QueueDescriptor cfg
      { st with
        descLeft := len - usbMaxPacketSize
        descPtr := some fun i => desc (usbMaxPacketSize + i) }
      desc usbMaxPacketSize fixupSize
  else ep0QueueDescriptor cfg st desc len fixupSize

/-! ### `ep0_rx` -/

/-- The `switch (type)` of the `GET_DESCRIPTOR` branch of `ep0_rx`: the descriptor and its
length, or `none` for `goto unknown_req`. -/
def ep0GetDescriptor (cfg : UsbConfig) (serialno : UsbStringDesc) (type idx : UInt8) :
    Option (BytePtr × Nat) :=
  if type = usbDtDevice then some (devDesc cfg, devDescSize)
  else if type = usbDtConfiguration then some (cfg.usbDesc, cfg.usbDescSize)
  else if type = usbDtBos ∧ cfg.bos.isSome then cfg.bos
  else if type = usbDtString then
    if cfg.usbStrings.length ≤ idx.toNat then none
    else
      let desc :=
        if cfg.usbStrSerialno = some idx.toNat then serialno.bytes
        else cfg.usbStrings.getD idx.toNat fun _ => 0
      some (desc, (desc 0).toNat)
  else if type = usbDtDeviceQualifier then none
  else none

/-- The branch `ep0_rx` takes for a request no interface handler claimed. -/
inductive Ep0Reply where
  | sendDescriptor (desc : BytePtr) (len : Nat) (fixupSize : UInt16)
  | getStatus
  | remoteWakeup (enable : Bool)
  | setAddress (addr : Nat)
  | setConfiguration
  | unknownReq

/-- The vendor and standard request dispatch of `ep0_rx`, from the three first words of
`ep0_buf_rx`: `req` (`bmRequestType | bRequest << 8`), `wValue` and `wIndex`. -/
def ep0Reply (cfg : UsbConfig) (serialno : UsbStringDesc) (req wValue wIndex : UInt16) :
    Ep0Reply :=
  if req &&& usbTypeMask = usbTypeVendor then
    match cfg.webusb with
    | some (url, reqGetUrl) =>
      if (req >>> 8).toUInt8 = 0x01 ∧ wIndex = reqGetUrl then .sendDescriptor url (url 0).toNat 0
      else .unknownReq
    | none => .unknownReq
  else if req = usbDirIn ||| (usbReqGetDescriptor <<< 8) then
    let type := (wValue >>> 8).toUInt8
    match ep0GetDescriptor cfg serialno type (wValue &&& 0xff).toUInt8 with
    | some (desc, len) =>
      .sendDescriptor desc len (if type = usbDtConfiguration then cfg.usbDescSize.toUInt16 else 0)
    | none => .unknownReq
  else if req = usbDirIn ||| (usbReqGetStatus <<< 8) then .getStatus
  else if req &&& 0xff = usbDirOut then
    let bRequest := req >>> 8
    if bRequest = usbReqSetFeature ∨ bRequest = usbReqClearFeature then
      if cfg.remoteWakeup ∧ wValue = usbReqFeatureDeviceRemoteWakeup then
        .remoteWakeup (bRequest = usbReqSetFeature)
      else .unknownReq
    else if bRequest = usbReqSetAddress then .setAddress (wValue &&& 0xff).toNat
    else if bRequest = usbReqSetConfiguration then .setConfiguration
    else .unknownReq
  else .unknownReq

/-- `desc_ptr = NULL; iface_next = USB_IFACE_COUNT;`: forget any unfinished transfer. -/
@[simps]
def UsbState.resetTransfer (cfg : UsbConfig) (st : UsbState) : UsbState :=
  { st with descPtr := none, ifaceNext := cfg.ifaceCount }

/-- `unknown_req: STM32_TOGGLE_EP(0, EP_TX_RX_MASK, EP_RX_VALID | EP_TX_STALL, 0)`. -/
@[simps]
def UsbState.stall (st : UsbState) : UsbState :=
  { st with ep0 := .toggleTxRx .stall .valid false }

/-- A zero-length IN for the status stage: `tx_count = 0` and both directions valid. -/
@[simps]
def UsbState.ackIn (st : UsbState) : UsbState :=
  { st with ram := st.ram.setTxCount 0, ep0 := .toggleTxRx .valid .valid false }

/-- The bytes of a `uint16_t` in (little-endian) memory. -/
def u16Bytes (v : UInt16) : BytePtr := fun i => if i = 0 then lo v else hi v

/-- The `data` word of `GET_STATUS`: self-powered when built so, remote wake-up when built in
and enabled by the host. -/
def getStatusData (cfg : UsbConfig) (remoteWakeupEnabled : Bool) : UInt16 :=
  (if cfg.selfPowered then usbReqGetStatusSelfPowered else 0) |||
    (if cfg.remoteWakeup ∧ remoteWakeupEnabled then usbReqGetStatusRemoteWakeup else 0)

/-- What each branch of `ep0_rx` does. -/
def ep0Do (cfg : UsbConfig) (st : UsbState) : Ep0Reply → UsbState
  | .sendDescriptor desc len fixupSize => ep0SendDescriptor cfg st desc len fixupSize
  | .getStatus =>
    { st with
      ram := (memcpyToUsbram st.ram (2 * cfg.ep0BufTx)
        (u16Bytes (getStatusData cfg st.remoteWakeupEnabled)) 2).setTxCount 2
      ep0 := .toggleTxRx .valid .valid true }
  | .remoteWakeup enable => { st with remoteWakeupEnabled := enable }.ackIn
  | .setAddress addr => { st with setAddr := addr }.ackIn
  | .setConfiguration => st.ackIn
  | .unknownReq => st.stall

/-- `ep0_rx`, on a SETUP: forget any unfinished transfer, hand interface requests to their
handler (which returned `ret`), and answer the others. -/
def ep0Rx (cfg : UsbConfig) (ret : Int) (st : UsbState) : UsbState :=
  let rx := fun k => st.ram (cfg.ep0BufRx + k)
  let req := rx 0
  let iface := (rx 2 &&& 0xff).toNat
  let st := st.resetTransfer cfg
  if req &&& usbRecipMask = usbRecipInterface ∧ iface < cfg.ifaceCount then
    if ret < 0 then st.stall else if ret = 1 then { st with ifaceNext := iface } else st
  else ep0Do cfg st (ep0Reply cfg st.usbSerialnoDesc req (rx 1) (rx 2))

/-! ### `ep0_tx`, `ep0_event` and `usb_reset` -/

/-- The `error:` label of `ep0_tx`: `STM32_TOGGLE_EP(0, EP_TX_MASK, EP_TX_VALID, 0)`. -/
@[simps]
def UsbState.txValid (st : UsbState) : UsbState :=
  { st with ep0 := st.ep0.toggleTx .valid false }

/-- `ep0_tx`, on an IN completion: apply a pending address, then send the next chunk of a
descriptor, or call the interface handler of `iface_next` (which returned `ret`). -/
def ep0Tx (cfg : UsbConfig) (ret : Int) (st : UsbState) : UsbState :=
  let st := if st.setAddr ≠ 0 then { st with daddr := st.setAddr ||| 0x80, setAddr := 0 } else st
  match st.descPtr with
  | some p =>
    let len := min st.descLeft usbMaxPacketSize
    { st with
      ram := (memcpyToUsbram st.ram (2 * cfg.ep0BufTx) p len).setTxCount len
      descLeft := st.descLeft - len
      descPtr := some fun i => p (len + i)
      ep0 := st.ep0.toggleTx .valid (st.descLeft - len = 0) }
  | none =>
    if st.ifaceNext < cfg.ifaceCount then
      if ret < 0 then st.txValid else if ret = 0 then { st with ifaceNext := cfg.ifaceCount } else st
    else st.txValid

/-- `enum usb_ep_event`. -/
inductive UsbEpEvent where
  | reset | deviceResume

/-- `ep0_event(evt)`: on a reset, EP0 becomes a control endpoint with TX NAK and RX VALID and its
table entry points at the two buffers. -/
def ep0Event (cfg : UsbConfig) (evt : UsbEpEvent) (st : UsbState) : UsbState :=
  match evt with
  | .reset =>
    { st with
      ep0 := ⟨.nak, .valid, false⟩
      ram := (((st.ram.set btableTxAddr (usbSramAddr cfg.ep0BufTx)).set btableRxAddr
        (usbSramAddr cfg.ep0BufRx)).set btableRxCount
          ((0x8000 : UInt16) ||| ((usbMaxPacketSize / 32 - 1).toUInt16 <<< 10))).setTxCount 0 }
  | .deviceResume => st

/-- `usb_reset`: the reset event of EP0 (the other endpoints' event handlers are not part of this
file), then the default address. -/
def usbReset (cfg : UsbConfig) (st : UsbState) : UsbState :=
  { ep0Event cfg .reset st with daddr := 0 ||| 0x80 }

@[simp] theorem usbReset_daddr (cfg : UsbConfig) (st : UsbState) :
    (usbReset cfg st).daddr = 0 ||| 0x80 := rfl

@[simp] theorem usbReset_setAddr (cfg : UsbConfig) (st : UsbState) :
    (usbReset cfg st).setAddr = st.setAddr := rfl

@[simp] theorem usbReset_descPtr (cfg : UsbConfig) (st : UsbState) :
    (usbReset cfg st).descPtr = st.descPtr := rfl

@[simp] theorem usbReset_ifaceNext (cfg : UsbConfig) (st : UsbState) :
    (usbReset cfg st).ifaceNext = st.ifaceNext := rfl

@[simp] theorem usbReset_remoteWakeupEnabled (cfg : UsbConfig) (st : UsbState) :
    (usbReset cfg st).remoteWakeupEnabled = st.remoteWakeupEnabled := rfl

@[simp] theorem usbReset_usbSerialnoDesc (cfg : UsbConfig) (st : UsbState) :
    (usbReset cfg st).usbSerialnoDesc = st.usbSerialnoDesc := rfl

@[simp] theorem usbReset_cntr (cfg : UsbConfig) (st : UsbState) :
    (usbReset cfg st).cntr = st.cntr := rfl

@[simp] theorem usbReset_usbWakeDone (cfg : UsbConfig) (st : UsbState) :
    (usbReset cfg st).usbWakeDone = st.usbWakeDone := rfl

@[simp] theorem usbReset_esofCount (cfg : UsbConfig) (st : UsbState) :
    (usbReset cfg st).esofCount = st.esofCount := rfl

/-! ### Runs of EP0 events -/

/-- What happens on EP0: a SETUP packet (then `ep0_rx`), an IN completion (`ep0_tx`) or a bus
reset (`usb_reset`). `ret` is what an interface handler returns if the handler calls one. -/
inductive Ep0Event where
  | setup (pkt : SetupPacket) (ret : Int)
  | inDone (ret : Int)
  | busReset

/-- One EP0 event. -/
def ep0Step (cfg : UsbConfig) (st : UsbState) : Ep0Event → UsbState
  | .setup pkt ret => ep0Rx cfg ret (st.receiveSetup cfg pkt)
  | .inDone ret => ep0Tx cfg ret st
  | .busReset => usbReset cfg st

/-- A run of EP0 events. -/
def ep0Run (cfg : UsbConfig) (st : UsbState) (evs : List Ep0Event) : UsbState :=
  evs.foldl (ep0Step cfg) st

@[simp] theorem ep0Run_nil (cfg : UsbConfig) (st : UsbState) : ep0Run cfg st [] = st := rfl

@[simp] theorem ep0Run_cons (cfg : UsbConfig) (st : UsbState) (e : Ep0Event) (evs : List Ep0Event) :
    ep0Run cfg st (e :: evs) = ep0Run cfg (ep0Step cfg st e) evs := rfl

theorem ep0Run_append (cfg : UsbConfig) (st : UsbState) (evs evs' : List Ep0Event) :
    ep0Run cfg st (evs ++ evs') = ep0Run cfg (ep0Run cfg st evs) evs' :=
  List.foldl_append _ _ _ _

end Twonkie.Usb
