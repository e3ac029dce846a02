import Twonkie.Usb.Equiv.Request
import Twonkie.Usb.Equiv.Descriptor

/-!
# What outlives a transfer

`ep0_rx` starts every transfer by clearing `desc_ptr` and `iface_next`, and `usb_reset` rewrites
the endpoint and the address register, but neither touches `set_addr`, `desc_left` or
`remote_wakeup_enabled`. Each of the three carries state from one transfer into the next:

* a pending address (`set_addr ≠ 0`) outlives a bus reset and any later SETUP, and is written
  to `DADDR` at the first IN completion of whatever transfer follows
  (`set_address_outlives_reset`);
* `desc_left`, left nonzero by a descriptor stream that a new SETUP cut off, decides the
  `STATUS_OUT` flag of the next descriptor that fits in one packet
  (`short_descriptor_reads_stale_descLeft`);
* the remote wake-up flag outlives a bus reset, and `GET_STATUS` still reports it
  (`remote_wakeup_outlives_reset`).
-/

namespace Twonkie.Usb

/-! ### The address register -/

theorem ep0Do_daddr (cfg : UsbConfig) (st : UsbState) (r : Ep0Reply) :
    (ep0Do cfg st r).daddr = st.daddr := by
  cases r with
  | sendDescriptor desc len fixupSize =>
    simp only [ep0Do, ep0SendDescriptor]
    split_ifs <;> rfl
  | _ => rfl

/-- No branch of `ep0_rx` writes the address register. -/
theorem ep0Rx_daddr (cfg : UsbConfig) (ret : Int) (st : UsbState) :
    (ep0Rx cfg ret st).daddr = st.daddr := by
  simp only [ep0Rx]
  split_ifs <;> first | rfl | exact ep0Do_daddr _ _ _

/-- `ep0_tx` writes a pending address to the address register, and only that. -/
theorem ep0Tx_daddr (cfg : UsbConfig) (ret : Int) (st : UsbState) :
    (ep0Tx cfg ret st).daddr = if st.setAddr ≠ 0 then st.setAddr ||| 0x80 else st.daddr := by
  simp only [ep0Tx, apply_ite UsbState.descPtr, ite_self]
  split <;> simp only [apply_ite UsbState.daddr, UsbState.txValid_daddr, ite_self]

theorem ep0Do_setAddr (cfg : UsbConfig) (st : UsbState) {r : Ep0Reply}
    (hr : ∀ a, r ≠ .setAddress a) : (ep0Do cfg st r).setAddr = st.setAddr := by
  cases r with
  | sendDescriptor desc len fixupSize =>
    simp only [ep0Do, ep0SendDescriptor]
    split_ifs <;> rfl
  | setAddress a => exact absurd rfl (hr a)
  | _ => rfl

/-- Only a standard `SET_ADDRESS` is answered by setting `set_addr`. -/
theorem ep0Reply_eq_setAddress {cfg : UsbConfig} {serialno : UsbStringDesc} {pkt : SetupPacket}
    {a : Nat} (h : ep0Reply cfg serialno pkt.req pkt.wValue pkt.wIndex = .setAddress a) :
    pkt.bmRequestType = 0x00 ∧ pkt.bRequest.toUInt16 = usbReqSetAddress := by
  simp only [ep0Reply, req_vendor_iff, req_getDescriptor_iff, req_getStatus_iff, req_dirOut_iff,
    req_shiftRight] at h
  rcases ite_eq_iff.mp h with ⟨-, h⟩ | ⟨-, h⟩
  · split at h <;> (try split at h) <;> cases h
  rcases ite_eq_iff.mp h with ⟨-, h⟩ | ⟨-, h⟩
  · split at h <;> cases h
  rcases ite_eq_iff.mp h with ⟨-, h⟩ | ⟨-, h⟩
  · cases h
  rcases ite_eq_iff.mp h with ⟨hout, h⟩ | ⟨-, h⟩
  · rcases ite_eq_iff.mp h with ⟨-, h⟩ | ⟨-, h⟩
    · rcases ite_eq_iff.mp h with ⟨-, h⟩ | ⟨-, h⟩ <;> cases h
    rcases ite_eq_iff.mp h with ⟨hsa, -⟩ | ⟨-, h⟩
    · exact ⟨hout, hsa⟩
    rcases ite_eq_iff.mp h with ⟨-, h⟩ | ⟨-, h⟩ <;> cases h
  · cases h

/-- A SETUP other than `SET_ADDRESS` leaves `set_addr` alone. -/
theorem ep0Rx_receiveSetup_setAddr (cfg : UsbConfig) (ret : Int) (st : UsbState)
    (pkt : SetupPacket)
    (hsa : ¬ (pkt.bmRequestType = 0x00 ∧ pkt.bRequest.toUInt16 = usbReqSetAddress)) :
    (ep0Rx cfg ret (st.receiveSetup cfg pkt)).setAddr = st.setAddr := by
  rw [ep0Rx_receiveSetup_eq]
  split_ifs <;> first | rfl | exact ep0Do_setAddr _ _ fun _ h => hsa (ep0Reply_eq_setAddress h)

/-- **A pending address outlives a bus reset.** After the reset the device answers at address 0,
but the first IN completion of the next transfer that is not itself a `SET_ADDRESS` writes the
address asked for before the reset. -/
theorem set_address_outlives_reset (cfg : UsbConfig) (st : UsbState) (pkt : SetupPacket)
    (ret ret' : Int)
    (hsa : ¬ (pkt.bmRequestType = 0x00 ∧ pkt.bRequest.toUInt16 = usbReqSetAddress))
    (hpend : st.setAddr ≠ 0) :
    (ep0Run cfg st [.busReset, .setup pkt ret]).daddr = 0 ||| 0x80 ∧
      (ep0Run cfg st [.busReset, .setup pkt ret, .inDone ret']).daddr = st.setAddr ||| 0x80 := by
  simp only [ep0Run_cons, ep0Run_nil, ep0Step, ep0Tx_daddr, ep0Rx_daddr, usbReset_daddr,
    ep0Rx_receiveSetup_setAddr _ _ _ _ hsa, usbReset_setAddr, UsbState.receiveSetup_setAddr,
    UsbState.receiveSetup_daddr, if_pos hpend, and_self]


/-- The host asked for address 5 and the device was reset before the status stage. -/
theorem set_address_outlives_reset_sample :
    ¬ ((0x80 : UInt8) = 0x00 ∧ (0x00 : UInt8).toUInt16 = usbReqSetAddress) ∧
      (ep0Run sampleConfig sampleState [.setup ⟨0x00, 5, 5, 0, 0⟩ 0]).setAddr ≠ 0 ∧
      (ep0Run sampleConfig (ep0Run sampleConfig sampleState [.setup ⟨0x00, 5, 5, 0, 0⟩ 0])
          [.busReset, .setup ⟨0x80, 0, 0, 0, 2⟩ 0]).daddr = 0 ||| 0x80 ∧
      (ep0Run sampleConfig (ep0Run sampleConfig sampleState [.setup ⟨0x00, 5, 5, 0, 0⟩ 0])
          [.busReset, .setup ⟨0x80, 0, 0, 0, 2⟩ 0, .inDone 0]).daddr
        = (ep0Run sampleConfig sampleState [.setup ⟨0x00, 5, 5, 0, 0⟩ 0]).setAddr ||| 0x80 :=
  ⟨by decide, by decide, set_address_outlives_reset sampleConfig _ ⟨0x80, 0, 0, 0, 2⟩ 0 0
    (by decide) (by decide)⟩

/-! ### The descriptor cursor -/

/-- **`desc_left` outlives the transfer that set it**: for a descriptor reply that fits in one
packet, `ep0_rx` arms `STATUS_OUT` only if the `desc_left` of the state before the SETUP is `0`,
which is not so after a stream that a new SETUP cut off. -/
theorem short_descriptor_reads_stale_descLeft (cfg : UsbConfig) (st : UsbState)
    (pkt : SetupPacket) (ret : Int) (d : BytePtr) (len : Nat) (fix : UInt16)
    (hif : ¬ pkt.IsIfaceRequest cfg)
    (hreply : ep0Reply cfg st.usbSerialnoDesc pkt.req pkt.wValue pkt.wIndex
      = .sendDescriptor d len fix)
    (hshort : min pkt.wLength.toNat len < usbMaxPacketSize) :
    (ep0Run cfg st [.setup pkt ret]).ep0.statusOut = decide (st.descLeft = 0) := by
  rw [ep0Run_cons, ep0Run_nil, ep0Step, ep0Rx_short_descriptor cfg st pkt ret hif hreply hshort]
  rfl

/-- A 255-byte read of the 100-byte configuration descriptor, cut off after its first packet by
a read of the device descriptor. -/
theorem short_descriptor_reads_stale_descLeft_sample :
    ¬ SetupPacket.IsIfaceRequest sampleConfig ⟨0x80, 6, 0x0100, 0, 64⟩ ∧
      ep0Reply sampleConfig
          (ep0Run sampleConfig sampleState [.setup ⟨0x80, 6, 0x0200, 0, 255⟩ 0]).usbSerialnoDesc
          (⟨0x80, 6, 0x0100, 0, 64⟩ : SetupPacket).req (⟨0x80, 6, 0x0100, 0, 64⟩ : SetupPacket).wValue
          (⟨0x80, 6, 0x0100, 0, 64⟩ : SetupPacket).wIndex
        = .sendDescriptor (devDesc sampleConfig) devDescSize 0 ∧
      min (64 : Nat) devDescSize < usbMaxPacketSize ∧
      (ep0Run sampleConfig (ep0Run sampleConfig sampleState [.setup ⟨0x80, 6, 0x0200, 0, 255⟩ 0])
          [.setup ⟨0x80, 6, 0x0100, 0, 64⟩ 0]).ep0.statusOut
        = decide ((ep0Run sampleConfig sampleState
            [.setup ⟨0x80, 6, 0x0200, 0, 255⟩ 0]).descLeft = 0) :=
  ⟨by decide, rfl, by decide, short_descriptor_reads_stale_descLeft sampleConfig _
    ⟨0x80, 6, 0x0100, 0, 64⟩ 0 (devDesc sampleConfig) devDescSize 0 (by decide) rfl (by decide)⟩

/-! ### Remote wake-up -/

/-- A standard `GET_STATUS` is answered with the status word. -/
theorem ep0Reply_of_getStatus {cfg : UsbConfig} {serialno : UsbStringDesc} {pkt : SetupPacket}
    (h : pkt.bmRequestType = 0x80 ∧ pkt.bRequest.toUInt16 = usbReqGetStatus) :
    ep0Reply cfg serialno pkt.req pkt.wValue pkt.wIndex = .getStatus := by
  have hg : ¬ (pkt.bmRequestType = 0x80 ∧ pkt.bRequest.toUInt16 = usbReqGetDescriptor) :=
    fun hg => absurd (h.2.symm.trans hg.2) (by decide)
  have hv : ¬ pkt.bmRequestType &&& 0x60 = 0x40 := by rw [h.1]; decide
  simp only [ep0Reply, req_vendor_iff, req_getDescriptor_iff, req_getStatus_iff]
  rw [if_neg hv, if_neg hg, if_pos h]

theorem txPacket_getStatus (cfg : UsbConfig) (st : UsbState) :
    txPacket cfg (ep0Do cfg st .getStatus)
      = [lo (getStatusData cfg st.remoteWakeupEnabled),
          hi (getStatusData cfg st.remoteWakeupEnabled)] := by
  have htx : ((memcpyToUsbram st.ram (2 * cfg.ep0BufTx)
      (u16Bytes (getStatusData cfg st.remoteWakeupEnabled)) 2).setTxCount 2 btableTxCount).toNat
      = 2 := UsbRam.setTxCount_txCount _ (by decide)
  simp [txPacket, ep0Do, htx, byteView_setTxCount _ _ (txBuf_ne_btableTxCount cfg _),
    byteView_memcpyToUsbram, u16Bytes, List.range_succ]

/-- **The remote wake-up flag outlives a bus reset**: the first `GET_STATUS` after the reset
reports the flag the host set before it. -/
theorem remote_wakeup_outlives_reset (cfg : UsbConfig) (st : UsbState) (pkt : SetupPacket)
    (ret : Int) (hget : pkt.bmRequestType = 0x80 ∧ pkt.bRequest.toUInt16 = usbReqGetStatus) :
    txPacket cfg (ep0Run cfg st [.busReset, .setup pkt ret])
      = [lo (getStatusData cfg st.remoteWakeupEnabled),
          hi (getStatusData cfg st.remoteWakeupEnabled)] := by
  have hif : ¬ pkt.IsIfaceRequest cfg := fun hi => absurd (hget.1 ▸ hi.1) (by decide)
  rw [ep0Run_cons, ep0Run_cons, ep0Run_nil, ep0Step, ep0Step, ep0Rx_receiveSetup _ _ _ _ hif,
    usbReset_usbSerialnoDesc, ep0Reply_of_getStatus hget, txPacket_getStatus]
  rfl

/-- The host enabled remote wake-up, then reset the device. -/
theorem remote_wakeup_outlives_reset_sample :
    ((0x80 : UInt8) = 0x80 ∧ (0x00 : UInt8).toUInt16 = usbReqGetStatus) ∧
      txPacket sampleConfig (ep0Run sampleConfig
          (ep0Run sampleConfig sampleState [.setup ⟨0x00, 3, 1, 0, 0⟩ 0])
          [.busReset, .setup ⟨0x80, 0, 0, 0, 2⟩ 0])
        = [lo (getStatusData sampleConfig (ep0Run sampleConfig sampleState
              [.setup ⟨0x00, 3, 1, 0, 0⟩ 0]).remoteWakeupEnabled),
            hi (getStatusData sampleConfig (ep0Run sampleConfig sampleState
              [.setup ⟨0x00, 3, 1, 0, 0⟩ 0]).remoteWakeupEnabled)] :=
  ⟨by decide, remote_wakeup_outlives_reset sampleConfig _ ⟨0x80, 0, 0, 0, 2⟩ 0 (by decide)⟩

end Twonkie.Usb
