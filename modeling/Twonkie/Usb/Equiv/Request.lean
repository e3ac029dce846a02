import Twonkie.Usb.Equiv.Setup

/-!
# Which requests `ep0_rx` serves

`Ep0Supported` lists, field by field, the requests the control endpoint answers when no interface
handler claims them. `ep0Reply_eq_unknownReq_iff` shows that `ep0Reply` picks `unknown_req`
exactly outside that set, and `ep0Rx_stall_iff` turns this into the behaviour of `ep0_rx`: EP0 is
STALLed exactly for unsupported requests, and a STALLed request changes nothing but `desc_ptr`,
`iface_next` and the endpoint register.
-/

namespace Twonkie.Usb

/-- The requests `ep0_rx` answers itself: `GET_DESCRIPTOR` of the device, the configuration, the
BOS (when built in) or an existing string; `GET_STATUS`; `SET_ADDRESS`; `SET_CONFIGURATION`;
`SET_FEATURE` and `CLEAR_FEATURE` of remote wake-up (when built in); and the WebUSB URL (when built
in). -/
def Ep0Supported (cfg : UsbConfig) (pkt : SetupPacket) : Prop :=
  (pkt.bmRequestType = 0x80 ∧ pkt.bRequest.toUInt16 = usbReqGetDescriptor ∧
      (hi pkt.wValue = usbDtDevice ∨ hi pkt.wValue = usbDtConfiguration ∨
        (hi pkt.wValue = usbDtBos ∧ cfg.bos.isSome) ∨
        (hi pkt.wValue = usbDtString ∧ (lo pkt.wValue).toNat < cfg.usbStrings.length))) ∨
    (pkt.bmRequestType = 0x80 ∧ pkt.bRequest.toUInt16 = usbReqGetStatus) ∨
    (pkt.bmRequestType = 0x00 ∧
      (pkt.bRequest.toUInt16 = usbReqSetAddress ∨ pkt.bRequest.toUInt16 = usbReqSetConfiguration)) ∨
    (pkt.bmRequestType = 0x00 ∧
      (pkt.bRequest.toUInt16 = usbReqSetFeature ∨ pkt.bRequest.toUInt16 = usbReqClearFeature) ∧
      pkt.wValue = usbReqFeatureDeviceRemoteWakeup ∧ cfg.remoteWakeup) ∨
    (pkt.bmRequestType &&& 0x60 = 0x40 ∧ pkt.bRequest = 0x01 ∧
      cfg.webusb.map Prod.snd = some pkt.wIndex)

instance (cfg : UsbConfig) (pkt : SetupPacket) : Decidable (Ep0Supported cfg pkt) :=
  inferInstanceAs (Decidable (_ ∨ _))

/-- The device qualifier and a second string are not served; the language IDs are. -/
example : ¬ Ep0Supported sampleConfig ⟨0x80, 6, 0x0600, 0, 10⟩ ∧
    Ep0Supported sampleConfig ⟨0x80, 6, 0x0300, 0, 10⟩ ∧
    ¬ Ep0Supported sampleConfig ⟨0x80, 6, 0x0301, 0, 10⟩ := by decide

/-! ### The tests of `ep0_rx` on the packet's fields -/

theorem toUInt16_eq_iff {b c : UInt8} : b.toUInt16 = c.toUInt16 ↔ b = c :=
  ⟨uInt8_toUInt16_inj, fun h => h ▸ rfl⟩

theorem req_vendor_iff (pkt : SetupPacket) :
    pkt.req &&& usbTypeMask = usbTypeVendor ↔ pkt.bmRequestType &&& 0x60 = 0x40 :=
  req_and_eq_iff pkt 0x60 0x40

theorem req_getDescriptor_iff (pkt : SetupPacket) :
    pkt.req = usbDirIn ||| (usbReqGetDescriptor <<< 8) ↔
      pkt.bmRequestType = 0x80 ∧ pkt.bRequest.toUInt16 = usbReqGetDescriptor := by
  rw [req_eq_iff, show usbReqGetDescriptor = (6 : UInt8).toUInt16 from rfl, toUInt16_eq_iff]
  rfl

theorem req_getStatus_iff (pkt : SetupPacket) :
    pkt.req = usbDirIn ||| (usbReqGetStatus <<< 8) ↔
      pkt.bmRequestType = 0x80 ∧ pkt.bRequest.toUInt16 = usbReqGetStatus := by
  rw [req_eq_iff, show usbReqGetStatus = (0 : UInt8).toUInt16 from rfl, toUInt16_eq_iff]
  rfl

theorem and_0xff_uInt8 (b : UInt8) : b &&& 0xff = b := by
  apply uInt8_eq_of_toNat
  rw [toNat_and_uInt8, show (0xff : UInt8).toNat = 2 ^ 8 - 1 from rfl,
    Nat.and_pow_two_sub_one_eq_mod, Nat.mod_eq_of_lt (toNat_lt_of_uInt8 b)]

theorem req_dirOut_iff (pkt : SetupPacket) :
    pkt.req &&& 0xff = usbDirOut ↔ pkt.bmRequestType = 0x00 := by
  rw [← and_0xff_uInt8 pkt.bmRequestType]
  exact req_and_eq_iff pkt 0xff 0

theorem toUInt8_and_0xff (w : UInt16) : (w &&& 0xff).toUInt8 = lo w := by
  apply uInt8_eq_of_toNat
  rw [toNat_toUInt8, UInt16.and_toNat, show (0xff : UInt16).toNat = 2 ^ 8 - 1 from rfl,
    Nat.and_pow_two_sub_one_eq_mod, Nat.mod_mod, toNat_lo]

/-- The descriptor `switch` finds a descriptor exactly for the four served types. -/
theorem ep0GetDescriptor_eq_none_iff (cfg : UsbConfig) (serialno : UsbStringDesc)
    (type idx : UInt8) :
    ep0GetDescriptor cfg serialno type idx = none ↔
      ¬ (type = usbDtDevice ∨ type = usbDtConfiguration ∨ (type = usbDtBos ∧ cfg.bos.isSome) ∨
        (type = usbDtString ∧ idx.toNat < cfg.usbStrings.length)) := by
  unfold ep0GetDescriptor
  by_cases h1 : type = usbDtDevice
  · exact iff_of_false (by simp [h1]) fun h => h (.inl h1)
  rw [if_neg h1]
  by_cases h2 : type = usbDtConfiguration
  · exact iff_of_false (by simp [h2]) fun h => h (.inr (.inl h2))
  rw [if_neg h2]
  by_cases h3 : type = usbDtBos ∧ cfg.bos.isSome
  · rw [if_pos h3]
    exact iff_of_false (Option.isSome_iff_ne_none.mp h3.2) fun h => h (.inr (.inr (.inl h3)))
  rw [if_neg h3]
  simp only [h1, h2, h3, false_or]
  by_cases h4 : type = usbDtString
  · rw [if_pos h4, and_iff_right h4]
    split_ifs <;> simp only [not_lt, *, reduceCtorEq]
  · simp [h4]

/-! ### The supported set by request type -/

section
variable {cfg : UsbConfig} {pkt : SetupPacket}

theorem ep0Supported_of_vendor (hv : pkt.bmRequestType &&& 0x60 = 0x40) :
    Ep0Supported cfg pkt ↔ pkt.bRequest = 0x01 ∧ cfg.webusb.map Prod.snd = some pkt.wIndex := by
  have h80 : pkt.bmRequestType ≠ 0x80 := fun h => absurd (h ▸ hv) (by decide)
  have h00 : pkt.bmRequestType ≠ 0x00 := fun h => absurd (h ▸ hv) (by decide)
  simp only [Ep0Supported, h80, h00, hv, false_and, true_and, false_or]

theorem ep0Supported_of_dirIn (h : pkt.bmRequestType = 0x80) :
    Ep0Supported cfg pkt ↔
      (pkt.bRequest.toUInt16 = usbReqGetDescriptor ∧
        (hi pkt.wValue = usbDtDevice ∨ hi pkt.wValue = usbDtConfiguration ∨
          (hi pkt.wValue = usbDtBos ∧ cfg.bos.isSome) ∨
          (hi pkt.wValue = usbDtString ∧ (lo pkt.wValue).toNat < cfg.usbStrings.length))) ∨
      pkt.bRequest.toUInt16 = usbReqGetStatus := by
  simp only [Ep0Supported, h, show ¬ (0x80 : UInt8) = 0x00 by decide,
    show ¬ (0x80 : UInt8) &&& 0x60 = 0x40 by decide, true_and, false_and, or_false]

theorem ep0Supported_of_dirOut (h : pkt.bmRequestType = 0x00) :
    Ep0Supported cfg pkt ↔
      (pkt.bRequest.toUInt16 = usbReqSetAddress ∨
        pkt.bRequest.toUInt16 = usbReqSetConfiguration) ∨
      ((pkt.bRequest.toUInt16 = usbReqSetFeature ∨ pkt.bRequest.toUInt16 = usbReqClearFeature) ∧
        pkt.wValue = usbReqFeatureDeviceRemoteWakeup ∧ cfg.remoteWakeup) := by
  simp only [Ep0Supported, h, show ¬ (0x00 : UInt8) = 0x80 by decide,
    show ¬ (0x00 : UInt8) &&& 0x60 = 0x40 by decide, true_and, false_and, or_false, false_or]

theorem not_ep0Supported (hv : ¬ pkt.bmRequestType &&& 0x60 = 0x40)
    (h80 : pkt.bmRequestType ≠ 0x80) (h00 : pkt.bmRequestType ≠ 0x00) :
    ¬ Ep0Supported cfg pkt := by
  simp only [Ep0Supported, h80, h00, hv, false_and, or_self, not_false_eq_true]

end

/-! ### The dispatch -/

theorem shiftRight_eight_toUInt8 (w : UInt16) : (w >>> 8).toUInt8 = hi w := rfl

theorem toUInt8_toUInt16 (b : UInt8) : b.toUInt16.toUInt8 = b :=
  uInt8_toUInt16_inj (uInt16_eq_of_toNat (by
    rw [toNat_toUInt16, toNat_toUInt16, toNat_toUInt8, toNat_toUInt16,
      Nat.mod_eq_of_lt (toNat_lt_of_uInt8 b)]))

/-- **`ep0_rx` takes `unknown_req` exactly for the requests outside `Ep0Supported`.** -/
theorem ep0Reply_eq_unknownReq_iff (cfg : UsbConfig) (serialno : UsbStringDesc)
    (pkt : SetupPacket) :
    ep0Reply cfg serialno pkt.req pkt.wValue pkt.wIndex = .unknownReq ↔ ¬ Ep0Supported cfg pkt := by
  simp only [ep0Reply, req_vendor_iff, req_getDescriptor_iff, req_getStatus_iff,
    req_dirOut_iff, req_shiftRight, toUInt8_toUInt16, shiftRight_eight_toUInt8, toUInt8_and_0xff]
  by_cases hv : pkt.bmRequestType &&& 0x60 = 0x40
  · -- a vendor request: only the WebUSB URL is served
    rw [if_pos hv, ep0Supported_of_vendor hv]
    rcases cfg.webusb with _ | ⟨url, getUrl⟩
    · simp
    · simp only [Option.map_some', Option.some.injEq, eq_comm (a := getUrl)]
      split_ifs with h <;> simp [h]
  rw [if_neg hv]
  by_cases h80 : pkt.bmRequestType = 0x80
  · -- `GET_DESCRIPTOR` when the `switch` finds a descriptor, and `GET_STATUS`
    rw [ep0Supported_of_dirIn h80, if_neg (by rw [h80]; decide : ¬ pkt.bmRequestType = 0x00)]
    simp only [h80, true_and]
    by_cases hg : pkt.bRequest.toUInt16 = usbReqGetDescriptor
    · have hs : usbReqGetDescriptor ≠ usbReqGetStatus := by decide
      have hdesc := ep0GetDescriptor_eq_none_iff cfg serialno (hi pkt.wValue) (lo pkt.wValue)
      rw [if_pos hg]
      cases hd : ep0GetDescriptor cfg serialno (hi pkt.wValue) (lo pkt.wValue) with
      | none => simpa [hg, hs] using hdesc.mp hd
      | some d =>
        exact iff_of_false (by simp) fun h => h (.inl ⟨hg, not_not.mp (mt hdesc.mpr (by simp [hd]))⟩)
    · rw [if_neg hg]
      split_ifs with hs <;> simp [hg, hs]
  by_cases h00 : pkt.bmRequestType = 0x00
  · -- a standard OUT request: the address, the configuration and remote wake-up are served
    simp only [ep0Supported_of_dirOut h00, h80, false_and, if_false]
    rw [if_pos h00]
    by_cases hf : pkt.bRequest.toUInt16 = usbReqSetFeature ∨
        pkt.bRequest.toUInt16 = usbReqClearFeature
    · have ha : ¬ (pkt.bRequest.toUInt16 = usbReqSetAddress ∨
          pkt.bRequest.toUInt16 = usbReqSetConfiguration) := by
        rcases hf with h | h <;> rw [h] <;> decide
      rw [if_pos hf]
      split_ifs with hw <;> simp [ha, hf, hw, and_comm]
    · rw [if_neg hf]
      split_ifs <;> simp [*]
  · simp only [h80, h00, false_and, if_false, not_ep0Supported hv h80 h00, not_false_eq_true]

/-! ### `ep0_rx` on a request no interface claims -/

/-- Every branch but `unknown_req` arms EP0's transmit direction. -/
theorem ep0Do_ep0_tx (cfg : UsbConfig) (st : UsbState) {r : Ep0Reply} (hr : r ≠ .unknownReq) :
    (ep0Do cfg st r).ep0.tx = .valid := by
  cases r with
  | sendDescriptor desc len fixupSize =>
    simp only [ep0Do, ep0SendDescriptor]
    split_ifs <;> rfl
  | unknownReq => exact absurd rfl hr
  | _ => rfl

/-- **EP0 is STALLed exactly for the requests outside `Ep0Supported`, and a STALLed request
changes nothing but `desc_ptr`, `iface_next` and the endpoint register.** -/
theorem ep0Rx_stall_iff_unsupported (cfg : UsbConfig) (st : UsbState) (pkt : SetupPacket)
    (ret : Int) (hif : ¬ pkt.IsIfaceRequest cfg) :
    ((ep0Rx cfg ret (st.receiveSetup cfg pkt)).ep0.tx = .stall ↔ ¬ Ep0Supported cfg pkt) ∧
      (¬ Ep0Supported cfg pkt →
        ep0Rx cfg ret (st.receiveSetup cfg pkt)
          = ((st.receiveSetup cfg pkt).resetTransfer cfg).stall) := by
  rw [ep0Rx_receiveSetup cfg ret st pkt hif, ← ep0Reply_eq_unknownReq_iff cfg st.usbSerialnoDesc]
  refine ⟨⟨fun h => ?_, fun h => by rw [h]; rfl⟩, fun h => by rw [h]; rfl⟩
  by_contra hr
  rw [ep0Do_ep0_tx _ _ hr] at h
  cases h

/-- A `GET_DESCRIPTOR` of the device qualifier is STALLed and leaves the rest alone. -/
theorem ep0Rx_stall_iff_unsupported_deviceQualifier :
    ¬ SetupPacket.IsIfaceRequest sampleConfig ⟨0x80, 6, 0x0600, 0, 10⟩ ∧
      ((ep0Rx sampleConfig 0 (sampleState.receiveSetup sampleConfig ⟨0x80, 6, 0x0600, 0, 10⟩)).ep0.tx
          = .stall ↔ ¬ Ep0Supported sampleConfig ⟨0x80, 6, 0x0600, 0, 10⟩) ∧
      (¬ Ep0Supported sampleConfig ⟨0x80, 6, 0x0600, 0, 10⟩ →
        ep0Rx sampleConfig 0 (sampleState.receiveSetup sampleConfig ⟨0x80, 6, 0x0600, 0, 10⟩)
          = ((sampleState.receiveSetup sampleConfig ⟨0x80, 6, 0x0600, 0, 10⟩).resetTransfer
              sampleConfig).stall) :=
  ⟨by decide,
    ep0Rx_stall_iff_unsupported sampleConfig sampleState ⟨0x80, 6, 0x0600, 0, 10⟩ 0 (by decide)⟩

end Twonkie.Usb
