import Twonkie.Usb.Ep0
import Twonkie.Usb.Equiv.Pma

/-!
# Setup packets in the receive buffer

`ep0_rx` never decodes the SETUP packet: it tests the words of `ep0_buf_rx` directly, the first
of them being `bmRequestType | bRequest << 8`. This module reads those tests back as tests on the
packet's fields (`req_eq_iff`, `req_and_eq_iff`, `req_shiftRight`) and reduces `ep0_rx` on a request that no interface claims to `ep0Do` of `ep0Reply`
(`ep0Rx_receiveSetup`), on an interface request to what the handler returned
(`ep0Rx_receiveSetup_iface`).
-/

namespace Twonkie.Usb

/-- A request `ep0_rx` passes to an interface handler: its recipient is an interface and the low
byte of `wIndex` names one. -/
def SetupPacket.IsIfaceRequest (cfg : UsbConfig) (pkt : SetupPacket) : Prop :=
  pkt.bmRequestType &&& 0x1f = 0x01 ∧ (pkt.wIndex &&& 0xff).toNat < cfg.ifaceCount

instance (cfg : UsbConfig) (pkt : SetupPacket) : Decidable (pkt.IsIfaceRequest cfg) :=
  inferInstanceAs (Decidable (_ ∧ _))

/-- A small board: two interfaces, one language-ID string, a 100-byte configuration blob,
remote wake-up, EP0 buffers at words 16 and 48. -/
def sampleConfig : UsbConfig where
  ifaceCount := 2
  usbStrings := [fun i => ([4, 3, 9, 4] : List UInt8).getD i 0]
  usbStrSerialno := none
  usbDesc := fun i => i.toUInt8
  usbDescSize := 100
  bos := none
  webusb := none
  selfPowered := false
  remoteWakeup := true
  devClass := 0
  pid := 0x500a
  bcdDev := 0x0100
  strVendor := 1
  strProduct := 2
  ep0BufTx := 16
  ep0BufRx := 48
  bufsAfterBtable := by decide

/-- `sampleConfig` right after `usb_init`, packet memory and the endpoint table in it cleared. -/
def sampleState : UsbState := usbInit sampleConfig (fun _ => 0) ⟨0, 3, fun _ => 0⟩

/-! ### The first word -/

@[simp] theorem lo_req (pkt : SetupPacket) : lo pkt.req = pkt.bmRequestType := lo_pack _ _

@[simp] theorem hi_req (pkt : SetupPacket) : hi pkt.req = pkt.bRequest := hi_pack _ _

theorem uInt16_eq_iff_lo_hi {v w : UInt16} : v = w ↔ lo v = lo w ∧ hi v = hi w :=
  ⟨fun h => h ▸ ⟨rfl, rfl⟩, fun h => eq_of_lo_hi h.1 h.2⟩

/-- `req == c` is a test of both fields. -/
theorem req_eq_iff (pkt : SetupPacket) (c : UInt16) :
    pkt.req = c ↔ pkt.bmRequestType = lo c ∧ pkt.bRequest = hi c := by
  rw [uInt16_eq_iff_lo_hi, lo_req, hi_req]

theorem and_low_byte_mask {b c m : Nat} (hb : b < 2 ^ 8) (hm : m < 2 ^ 8) :
    (2 ^ 8 * c + b) &&& m = b &&& m := by
  apply Nat.eq_of_testBit_eq; intro j
  rw [Nat.testBit_and, Nat.testBit_and, Nat.testBit_mul_pow_two_add _ hb]
  split_ifs with hj
  · rfl
  · have : m < 2 ^ j := lt_of_lt_of_le hm (Nat.pow_le_pow_right (by decide) (by omega))
    simp [Nat.testBit_lt_two_pow this]

theorem uInt8_toUInt16_inj {a b : UInt8} (h : a.toUInt16 = b.toUInt16) : a = b := by
  apply uInt8_eq_of_toNat
  rw [← toNat_toUInt16, ← toNat_toUInt16, h]

theorem toNat_and_uInt8 (a b : UInt8) : (a &&& b).toNat = a.toNat &&& b.toNat :=
  UInt8.and_toNat a b

/-- `(req & m) == c`, for a mask `m` within the low byte, is a test of `bmRequestType`. -/
theorem req_and_eq_iff (pkt : SetupPacket) (m c : UInt8) :
    pkt.req &&& m.toUInt16 = c.toUInt16 ↔ pkt.bmRequestType &&& m = c := by
  have hreq : pkt.req &&& m.toUInt16 = (pkt.bmRequestType &&& m).toUInt16 := by
    apply uInt16_eq_of_toNat
    rw [UInt16.and_toNat, SetupPacket.req, toNat_pack, toNat_toUInt16, toNat_toUInt16,
      toNat_and_uInt8, and_low_byte_mask (toNat_lt_of_uInt8 _) (toNat_lt_of_uInt8 _)]
  rw [hreq]
  exact ⟨uInt8_toUInt16_inj, fun h => h ▸ rfl⟩

/-- `req >> 8` is `bRequest`. -/
theorem req_shiftRight (pkt : SetupPacket) : pkt.req >>> 8 = pkt.bRequest.toUInt16 := by
  apply uInt16_eq_of_toNat
  rw [toNat_shiftRight_eight, SetupPacket.req, toNat_pack, toNat_toUInt16]
  have := toNat_lt_of_uInt8 pkt.bmRequestType
  omega

/-! ### The receive buffer -/

@[simp] theorem words_zero (pkt : SetupPacket) : pkt.words 0 = pkt.req := rfl
@[simp] theorem words_one (pkt : SetupPacket) : pkt.words 1 = pkt.wValue := rfl
@[simp] theorem words_two (pkt : SetupPacket) : pkt.words 2 = pkt.wIndex := rfl
@[simp] theorem words_three (pkt : SetupPacket) : pkt.words 3 = pkt.wLength := rfl

@[simp] theorem receiveSetup_rx (cfg : UsbConfig) (st : UsbState) (pkt : SetupPacket) {k : Nat}
    (hk : k < 4) : (st.receiveSetup cfg pkt).ram (cfg.ep0BufRx + k) = pkt.words k := by
  simp [hk]

/-- `ep0_buf_rx[3]`, what `ep0_send_descriptor` reads, is still `wLength` once `ep0_rx` has
cleared the transfer state. -/
theorem resetTransfer_receiveSetup_wLength (cfg : UsbConfig) (st : UsbState) (pkt : SetupPacket) :
    ((st.receiveSetup cfg pkt).resetTransfer cfg).ram (cfg.ep0BufRx + 3) = pkt.wLength := by
  rw [UsbState.resetTransfer_ram, receiveSetup_rx _ _ _ (by decide), words_three]

/-- The interface test of `ep0_rx`, on the stored words, is `IsIfaceRequest`. -/
theorem recip_iff_isIfaceRequest (cfg : UsbConfig) (pkt : SetupPacket) :
    (pkt.req &&& usbRecipMask = usbRecipInterface ∧ (pkt.wIndex &&& 0xff).toNat < cfg.ifaceCount) ↔
      pkt.IsIfaceRequest cfg := by
  rw [show usbRecipMask = (0x1f : UInt8).toUInt16 from rfl,
    show usbRecipInterface = (0x01 : UInt8).toUInt16 from rfl, req_and_eq_iff]
  rfl

/-- `ep0_rx` on a stored SETUP packet, its tests read as tests of the packet. -/
theorem ep0Rx_receiveSetup_eq (cfg : UsbConfig) (ret : Int) (st : UsbState) (pkt : SetupPacket) :
    ep0Rx cfg ret (st.receiveSetup cfg pkt)
      = if pkt.IsIfaceRequest cfg then
          if ret < 0 then ((st.receiveSetup cfg pkt).resetTransfer cfg).stall
          else if ret = 1 then
            { (st.receiveSetup cfg pkt).resetTransfer cfg with
              ifaceNext := (pkt.wIndex &&& 0xff).toNat }
          else (st.receiveSetup cfg pkt).resetTransfer cfg
        else ep0Do cfg ((st.receiveSetup cfg pkt).resetTransfer cfg)
          (ep0Reply cfg st.usbSerialnoDesc pkt.req pkt.wValue pkt.wIndex) := by
  simp only [ep0Rx, receiveSetup_rx _ _ _ (show 0 < 4 by decide),
    receiveSetup_rx _ _ _ (show 1 < 4 by decide), receiveSetup_rx _ _ _ (show 2 < 4 by decide),
    words_zero, words_one, words_two, recip_iff_isIfaceRequest]
  rfl

/-- On a request no interface claims, `ep0_rx` clears the transfer state and takes the branch
`ep0Reply` picks. -/
theorem ep0Rx_receiveSetup (cfg : UsbConfig) (ret : Int) (st : UsbState) (pkt : SetupPacket)
    (hif : ¬ pkt.IsIfaceRequest cfg) :
    ep0Rx cfg ret (st.receiveSetup cfg pkt)
      = ep0Do cfg ((st.receiveSetup cfg pkt).resetTransfer cfg)
          (ep0Reply cfg st.usbSerialnoDesc pkt.req pkt.wValue pkt.wIndex) := by
  rw [ep0Rx_receiveSetup_eq, if_neg hif]

/-- On an interface request, `ep0_rx` clears the transfer state and acts on what the handler
returned: STALL on an error, keep the interface for the next IN on `1`. -/
theorem ep0Rx_receiveSetup_iface (cfg : UsbConfig) (ret : Int) (st : UsbState) (pkt : SetupPacket)
    (hif : pkt.IsIfaceRequest cfg) :
    ep0Rx cfg ret (st.receiveSetup cfg pkt)
      = if ret < 0 then ((st.receiveSetup cfg pkt).resetTransfer cfg).stall
        else if ret = 1 then
          { (st.receiveSetup cfg pkt).resetTransfer cfg with
            ifaceNext := (pkt.wIndex &&& 0xff).toNat }
        else (st.receiveSetup cfg pkt).resetTransfer cfg := by
  rw [ep0Rx_receiveSetup_eq, if_pos hif]

end Twonkie.Usb
