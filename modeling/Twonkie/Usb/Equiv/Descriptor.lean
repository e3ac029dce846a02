import Twonkie.Usb.Equiv.Setup

/-!
# Multi-packet descriptor transfers

A descriptor longer than one packet goes out in `USB_MAX_PACKET_SIZE` chunks: `ep0_rx` queues the
first through `ep0_send_descriptor` and every IN completion queues the next from `desc_ptr` and
`desc_left`. `Streaming … j s` is what holds after packet `j` of a transfer of `L` bytes: the
packet's count and bytes, the `STATUS_OUT` flag, the cursor, and the rest of packet memory
untouched but for `btable_ep[0].tx_count`. `streaming_first` and `streaming_next` establish it
for the first packet and carry it to the next; `ep0_descriptor_transfer` assembles them over a
whole run of IN completions and concatenates the packets into the descriptor cut at `L`.

The transfer reads no byte of the descriptor at or past `L`: `memcpy_to_usbram` reads only the
bytes it copies (`memcpyToUsbram_congr`), so handed a descriptor that agrees with the first below
`L`, `ep0_send_descriptor` and every IN completion after it reach states that differ at most in
bytes still to be sent (`SameSent`, `sameSent_ep0SendDescriptor`, `SameSent.ep0Tx`).

Whatever its length, a transfer never sends a byte past `L` (`txPacket_window`): one shorter than
a packet is queued whole by `ep0_rx`, and the IN completions after it re-arm the same packet.
-/

namespace Twonkie.Usb

/-- `d` with bytes 2 and 3 overwritten by a nonzero `fixup_size`, little-endian. -/
def fixupDescriptor (fixupSize : UInt16) (d : BytePtr) : BytePtr := fun i =>
  if fixupSize ≠ 0 ∧ i = 2 then lo fixupSize
  else if fixupSize ≠ 0 ∧ i = 3 then hi fixupSize
  else d i

/-- The IN packet EP0 has queued: the first `tx_count` bytes of `ep0_buf_tx`. -/
def txPacket (cfg : UsbConfig) (st : UsbState) : List UInt8 :=
  (List.range st.btableEp0.txCount).map fun i => byteView st.ram (2 * cfg.ep0BufTx + i)

theorem usbMaxPacketSize_eq : usbMaxPacketSize = 64 := rfl

/-! ### One packet -/

/-- Writing `tx_count` changes bytes 2 and 3 of packet memory only. -/
theorem byteView_setTxCount (ram : UsbRam) (len : Nat) {a : Nat} (ha : a / 2 ≠ btableTxCount) :
    byteView (ram.setTxCount len) a = byteView ram a := by
  rw [UsbRam.setTxCount, byteView_set, if_neg ha]

/-- The bytes of `ep0_buf_tx` lie past `btable_ep[0]`. -/
theorem txBuf_ne_btableTxCount (cfg : UsbConfig) (i : Nat) :
    (2 * cfg.ep0BufTx + i) / 2 ≠ btableTxCount := by
  have := cfg.bufsAfterBtable.1
  unfold btableTxCount
  omega

theorem ep0QueueDescriptor_txCount (cfg : UsbConfig) (st : UsbState) (desc : BytePtr) (len : Nat)
    (fix : UInt16) (hlen : len < 2 ^ 16) :
    (ep0QueueDescriptor cfg st desc len fix).btableEp0.txCount = len := by
  dsimp only [ep0QueueDescriptor, UsbState.btableEp0_txCount]
  exact UsbRam.setTxCount_txCount _ hlen

/-- Inside the packet `ep0_buf_tx` holds the descriptor with its fix-up, whatever the length. -/
theorem byteView_ep0QueueDescriptor_of_lt (cfg : UsbConfig) (st : UsbState) (desc : BytePtr)
    {len : Nat} (fix : UInt16) {i : Nat} (hi : i < len) :
    byteView (ep0QueueDescriptor cfg st desc len fix).ram (2 * cfg.ep0BufTx + i)
      = fixupDescriptor fix desc i := by
  have hin : 2 * cfg.ep0BufTx ≤ 2 * cfg.ep0BufTx + i ∧
      2 * cfg.ep0BufTx + i < 2 * cfg.ep0BufTx + len :=
    ⟨Nat.le_add_right _ _, Nat.add_lt_add_left hi _⟩
  dsimp only [ep0QueueDescriptor]
  rw [byteView_setTxCount _ _ (txBuf_ne_btableTxCount cfg i)]
  by_cases hfix : fix = 0
  · simp only [fixupDescriptor, hfix, ne_eq, not_true_eq_false, false_and, if_false,
      byteView_memcpyToUsbram, if_pos hin, Nat.add_sub_cancel_left]
  · simp only [fixupDescriptor, ne_eq, hfix, not_false_eq_true, true_and, if_true, byteView_set,
      byteView_memcpyToUsbram, if_pos hin, Nat.add_sub_cancel_left]
    split_ifs <;> first | rfl | omega

/-- Outside the packet and `tx_count`, packet memory is unchanged once the packet covers the
fix-up bytes. -/
theorem byteView_ep0QueueDescriptor_of_not_mem (cfg : UsbConfig) (st : UsbState)
    (desc : BytePtr) {len : Nat} (fix : UInt16) (hlen : 4 ≤ len) {a : Nat}
    (hbt : a / 2 ≠ btableTxCount) (ha : a < 2 * cfg.ep0BufTx ∨ 2 * cfg.ep0BufTx + len ≤ a) :
    byteView (ep0QueueDescriptor cfg st desc len fix).ram a = byteView st.ram a := by
  have hout : ¬ (2 * cfg.ep0BufTx ≤ a ∧ a < 2 * cfg.ep0BufTx + len) := by omega
  dsimp only [ep0QueueDescriptor]
  rw [byteView_setTxCount _ _ hbt]
  by_cases hfix : fix = 0
  · simp only [hfix, ne_eq, not_true_eq_false, if_false, byteView_memcpyToUsbram, if_neg hout]
  · simp only [ne_eq, hfix, not_false_eq_true, if_true, byteView_set, byteView_memcpyToUsbram,
      if_neg hout]
    rw [if_neg (by omega)]

/-- `ep0_tx` with a descriptor transfer under way sends the next `min desc_left 64` bytes. -/
theorem ep0Tx_of_descPtr (cfg : UsbConfig) (ret : Int) {st : UsbState} {p : BytePtr}
    (h : st.descPtr = some p) :
    (ep0Tx cfg ret st).ram
        = (memcpyToUsbram st.ram (2 * cfg.ep0BufTx) p
            (min st.descLeft usbMaxPacketSize)).setTxCount (min st.descLeft usbMaxPacketSize) ∧
      (ep0Tx cfg ret st).descLeft = st.descLeft - min st.descLeft usbMaxPacketSize ∧
      (ep0Tx cfg ret st).descPtr = some (fun i => p (min st.descLeft usbMaxPacketSize + i)) ∧
      (ep0Tx cfg ret st).ep0.statusOut
        = decide (st.descLeft - min st.descLeft usbMaxPacketSize = 0) := by
  simp only [ep0Tx, apply_ite UsbState.descPtr, apply_ite UsbState.descLeft, apply_ite UsbState.ram,
    apply_ite UsbState.ep0, ite_self, h, true_and]
  rfl

theorem ep0Tx_txCount_of_descPtr (cfg : UsbConfig) (ret : Int) {st : UsbState} {p : BytePtr}
    (h : st.descPtr = some p) :
    (ep0Tx cfg ret st).btableEp0.txCount = min st.descLeft usbMaxPacketSize := by
  rw [UsbState.btableEp0_txCount, (ep0Tx_of_descPtr cfg ret h).1]
  exact UsbRam.setTxCount_txCount _ (lt_of_le_of_lt (min_le_right _ _) (by decide))

/-! ### The invariant of a transfer -/

/-- After packet `j` of a transfer of `L` bytes of `d` (sent as `d'`, the bytes with the size
fix-up), packet memory having been `ram0` before the first: the packet holds
`d'[64 j, 64 j + tx_count)` with `tx_count = min 64 (L - 64 j)`, `STATUS_OUT` is armed once
`L ≤ 64 (j + 1)`, the cursor points past what was sent, and nothing outside `ep0_buf_tx` and
`tx_count` changed. -/
structure Streaming (cfg : UsbConfig) (d d' : BytePtr) (L : Nat) (ram0 : UsbRam) (j : Nat)
    (s : UsbState) : Prop where
  txCount : s.btableEp0.txCount = min usbMaxPacketSize (L - usbMaxPacketSize * j)
  bytes : ∀ i < s.btableEp0.txCount,
    byteView s.ram (2 * cfg.ep0BufTx + i) = d' (usbMaxPacketSize * j + i)
  statusOut : s.ep0.statusOut = decide (L ≤ usbMaxPacketSize * (j + 1))
  descPtr : s.descPtr = some fun i => d (min L (usbMaxPacketSize * (j + 1)) + i)
  descLeft : s.descLeft = L - usbMaxPacketSize * (j + 1)
  frame : ∀ a, a / 2 ≠ btableTxCount →
    a < 2 * cfg.ep0BufTx ∨ 2 * cfg.ep0BufTx + usbMaxPacketSize ≤ a →
    byteView s.ram a = byteView ram0 a

/-- The first packet, queued by `ep0_rx`. -/
theorem streaming_first (cfg : UsbConfig) (st : UsbState) (pkt : SetupPacket) (ret : Int)
    {d : BytePtr} {len : Nat} {fix : UInt16} (hif : ¬ pkt.IsIfaceRequest cfg)
    (hreply : ep0Reply cfg st.usbSerialnoDesc pkt.req pkt.wValue pkt.wIndex
      = .sendDescriptor d len fix)
    (hL : usbMaxPacketSize ≤ min pkt.wLength.toNat len) :
    Streaming cfg d (fixupDescriptor fix d) (min pkt.wLength.toNat len)
      (st.receiveSetup cfg pkt).ram 0 (ep0Step cfg st (.setup pkt ret)) := by
  rw [ep0Step, ep0Rx_receiveSetup _ _ _ _ hif, hreply, ep0Do, ep0SendDescriptor,
    resetTransfer_receiveSetup_wLength, if_pos hL]
  have htx := ep0QueueDescriptor_txCount cfg
    { (st.receiveSetup cfg pkt).resetTransfer cfg with
      descLeft := min pkt.wLength.toNat len - usbMaxPacketSize
      descPtr := some fun i => d (usbMaxPacketSize + i) } d usbMaxPacketSize fix (by decide)
  simp only [usbMaxPacketSize_eq] at hL htx
  constructor <;> simp only [usbMaxPacketSize_eq]
  · rw [htx]; omega
  · intro i hi
    rw [htx] at hi
    rw [byteView_ep0QueueDescriptor_of_lt _ _ _ _ hi, Nat.mul_zero, Nat.zero_add]
  · simp only [ep0QueueDescriptor_ep0, EpReg.toggleTxRx, decide_eq_decide]; omega
  · rw [ep0QueueDescriptor_descPtr, show min (min pkt.wLength.toNat len) (64 * (0 + 1)) = 64 by omega]
  · simp only [ep0QueueDescriptor_descLeft]
  · exact fun a hbt ha => byteView_ep0QueueDescriptor_of_not_mem _ _ _ _ (by decide) hbt ha

/-- The cursor after a chunk of at most `b` bytes from `a` on, in a transfer of `L` bytes. -/
theorem min_add_min_sub (L a b : Nat) : min L a + min (L - a) b = min L (a + b) := by omega

/-- Each further IN completion sends the next chunk, a shorter one at the end of the descriptor,
then zero-length packets. -/
theorem streaming_next {cfg : UsbConfig} {d d' : BytePtr} {L : Nat} {ram0 : UsbRam} {j : Nat}
    {s : UsbState} (hs : Streaming cfg d d' L ram0 j s) (hd : ∀ i, 4 ≤ i → d' i = d i)
    (ret : Int) : Streaming cfg d d' L ram0 (j + 1) (ep0Tx cfg ret s) := by
  have hcount := ep0Tx_txCount_of_descPtr cfg ret hs.descPtr
  obtain ⟨hram, hleft, hptr, hout⟩ := ep0Tx_of_descPtr cfg ret hs.descPtr
  simp only [hs.descLeft, usbMaxPacketSize_eq, tsub_min, Nat.sub_sub] at hcount hram hleft hptr hout
  constructor <;> simp only [usbMaxPacketSize_eq]
  · rw [hcount, Nat.min_comm]
  · intro i hi
    rw [hcount] at hi
    rw [hram, byteView_setTxCount _ _ (txBuf_ne_btableTxCount cfg i), byteView_memcpyToUsbram,
      if_pos ⟨Nat.le_add_right _ _, Nat.add_lt_add_left hi _⟩, hd _ (by omega),
      Nat.add_sub_cancel_left, Nat.min_eq_right (by omega)]
  · rw [hout, decide_eq_decide, Nat.sub_eq_zero_iff_le]; rfl
  · rw [hptr]; simp only [← Nat.add_assoc, min_add_min_sub]; rfl
  · exact hleft
  · intro a hbt ha
    rw [hram, byteView_setTxCount _ _ hbt, byteView_memcpyToUsbram, if_neg (by omega)]
    exact hs.frame a hbt (by simpa only [usbMaxPacketSize_eq] using ha)

/-! ### A whole transfer -/

theorem fixupDescriptor_of_le (fix : UInt16) (d : BytePtr) {i : Nat} (hi : 4 ≤ i) :
    fixupDescriptor fix d i = d i := by
  simp only [fixupDescriptor]
  split_ifs <;> first | rfl | omega


/-- The fix-up `ep0_rx` asks for is `USB_DESC_SIZE` for the configuration descriptor and none
otherwise. -/
theorem ep0Reply_fixupSize {cfg : UsbConfig} {serialno : UsbStringDesc} {req wValue wIndex : UInt16}
    {d : BytePtr} {len : Nat} {fix : UInt16}
    (h : ep0Reply cfg serialno req wValue wIndex = .sendDescriptor d len fix) :
    fix = if req = usbDirIn ||| (usbReqGetDescriptor <<< 8) ∧
      (wValue >>> 8).toUInt8 = usbDtConfiguration then cfg.usbDescSize.toUInt16 else 0 := by
  unfold ep0Reply at h
  by_cases hv : req &&& usbTypeMask = usbTypeVendor
  · have hreq : ¬ req = usbDirIn ||| (usbReqGetDescriptor <<< 8) := fun hr => by
      rw [hr] at hv; exact absurd hv (by decide)
    rw [if_neg fun hc => hreq hc.1]
    rw [if_pos hv] at h
    split at h
    · split_ifs at h; cases h; rfl
    · cases h
  · rw [if_neg hv] at h
    by_cases hg : req = usbDirIn ||| (usbReqGetDescriptor <<< 8)
    · rw [if_pos hg] at h
      dsimp only at h
      split at h
      · cases h; simp only [hg, true_and]
      · cases h
    · rw [if_neg hg] at h
      simp only [ite_eq_iff, reduceCtorEq, and_false, or_false, false_or] at h

/-- After the SETUP and `j` IN completions, packet `j` of the transfer is queued. -/
theorem streaming_run (cfg : UsbConfig) (st : UsbState) (pkt : SetupPacket) (ret : Int)
    {d : BytePtr} {len : Nat} {fix : UInt16} (hif : ¬ pkt.IsIfaceRequest cfg)
    (hreply : ep0Reply cfg st.usbSerialnoDesc pkt.req pkt.wValue pkt.wIndex
      = .sendDescriptor d len fix)
    (hL : usbMaxPacketSize ≤ min pkt.wLength.toNat len) (rets : List Int) :
    ∀ j ≤ rets.length, Streaming cfg d (fixupDescriptor fix d) (min pkt.wLength.toNat len)
      (st.receiveSetup cfg pkt).ram j
      (ep0Run cfg st (.setup pkt ret :: (rets.take j).map .inDone))
  | 0, _ => by simpa using streaming_first cfg st pkt ret hif hreply hL
  | j + 1, hj => by
    rw [List.take_succ, List.getElem?_eq_getElem (by omega), List.map_append, ← List.cons_append,
      ep0Run_append]
    exact streaming_next (streaming_run cfg st pkt ret hif hreply hL rets j (by omega))
      (fun _ hi => fixupDescriptor_of_le fix d hi) _

theorem txPacket_of_streaming {cfg : UsbConfig} {d d' : BytePtr} {L : Nat} {ram0 : UsbRam}
    {j : Nat} {s : UsbState} (hs : Streaming cfg d d' L ram0 j s) :
    txPacket cfg s
      = (List.range (min usbMaxPacketSize (L - usbMaxPacketSize * j))).map
          fun i => d' (usbMaxPacketSize * j + i) := by
  rw [txPacket, ← hs.txCount]
  exact List.map_congr_left fun i hi => hs.bytes i (List.mem_range.mp hi)

/-- The packets of a transfer, one after the other, are the descriptor's first bytes. -/
theorem flatten_txPacket {cfg : UsbConfig} {d d' : BytePtr} {L : Nat} {ram0 : UsbRam}
    {s : Nat → UsbState} (k : Nat) (hs : ∀ j ≤ k, Streaming cfg d d' L ram0 j (s j)) :
    ((List.range (k + 1)).map fun j => txPacket cfg (s j)).flatten
      = (List.range (min L (usbMaxPacketSize * (k + 1)))).map d' := by
  simp only [usbMaxPacketSize_eq]
  induction k with
  | zero =>
    rw [List.range_succ, List.range_zero, List.nil_append, List.map_singleton,
      List.flatten_singleton, txPacket_of_streaming (hs 0 le_rfl)]
    simp only [usbMaxPacketSize_eq, show min 64 (L - 64 * 0) = min L (64 * (0 + 1)) by omega,
      Nat.mul_zero, Nat.zero_add]
  | succ k ih =>
    rw [List.range_succ, List.map_append, List.flatten_append, ih fun j hj => hs j (by omega),
      List.map_singleton, List.flatten_singleton, txPacket_of_streaming (hs (k + 1) le_rfl)]
    simp only [usbMaxPacketSize_eq]
    by_cases hk : 64 * (k + 1) ≤ L
    · rw [Nat.min_comm 64, Nat.mul_add_one 64 (k + 1), ← min_add_min_sub, List.range_add,
        List.map_append, List.map_map, Nat.min_eq_right hk]
      rfl
    · rw [show min 64 (L - 64 * (k + 1)) = 0 by omega, show min L (64 * (k + 1 + 1)) = min L (64 * (k + 1)) by omega]
      simp

/-! ### The descriptor bytes a transfer reads -/

/-- `memcpy_to_usbram` reads only the bytes it copies. -/
theorem memcpyToUsbram_congr (ram : UsbRam) (o n : Nat) {p p' : BytePtr}
    (h : ∀ i < n, p i = p' i) : memcpyToUsbram ram o p n = memcpyToUsbram ram o p' n := by
  have ht : (fun i => if i < n then p i else 0) = fun i => if i < n then p' i else 0 :=
    funext fun i => if hi : i < n then by rw [if_pos hi, if_pos hi, h i hi]
      else by rw [if_neg hi, if_neg hi]
  rw [memcpyToUsbram_truncate, memcpyToUsbram_truncate ram o p', ht]

/-- Two states alike but for descriptor bytes that remain unsent: every field but `desc_ptr`
equal, and the two pointers agreeing on the `desc_left` bytes from where they point. -/
structure SameSent (s s' : UsbState) : Prop where
  rest : { s with descPtr := none } = { s' with descPtr := none }
  ptr : Option.Rel (fun p p' => ∀ i < s.descLeft, p i = p' i) s.descPtr s'.descPtr

theorem optionRel_agree_refl (n : Nat) (q : Option BytePtr) :
    Option.Rel (fun p p' => ∀ i < n, p i = p' i) q q := by
  cases q with
  | none => exact .none
  | some p => exact .some fun _ _ => rfl

/-- `ep0_tx` reads no descriptor byte past `desc_left`. -/
theorem SameSent.ep0Tx {s s' : UsbState} (h : SameSent s s') (cfg : UsbConfig) (ret : Int) :
    SameSent (ep0Tx cfg ret s) (ep0Tx cfg ret s') := by
  obtain ⟨hrest, hptr⟩ := h
  obtain ⟨a, l, q, n, w, sd, da, r, e, c, u, es⟩ := s
  obtain ⟨a', l', q', n', w', sd', da', r', e', c', u', es'⟩ := s'
  simp only [UsbState.mk.injEq, true_and] at hrest
  obtain ⟨rfl, rfl, rfl, rfl, rfl, rfl, rfl, rfl, rfl, rfl, rfl⟩ := hrest
  cases hptr with
  | none => exact ⟨rfl, optionRel_agree_refl _ _⟩
  | some hpp =>
    have hcopy := memcpyToUsbram_congr r (2 * cfg.ep0BufTx) (min l usbMaxPacketSize)
      fun i hi => hpp i (lt_of_lt_of_le hi (min_le_left _ _))
    unfold Usb.ep0Tx
    split_ifs <;> refine ⟨by simp only [hcopy], .some fun i hi => hpp _ ?_⟩ <;> dsimp only at hi ⊢ <;>
      omega

theorem ep0QueueDescriptor_congr (cfg : UsbConfig) (st : UsbState) {d d₂ : BytePtr} (len : Nat)
    (fix : UInt16) (h : ∀ i < len, d i = d₂ i) :
    ep0QueueDescriptor cfg st d len fix = ep0QueueDescriptor cfg st d₂ len fix := by
  simp only [ep0QueueDescriptor, memcpyToUsbram_congr st.ram _ len h]

/-- `ep0_send_descriptor` reads no byte of the descriptor at or past `min wLength len`. -/
theorem sameSent_ep0SendDescriptor (cfg : UsbConfig) (st : UsbState) {d d₂ : BytePtr} (len : Nat)
    (fix : UInt16) (hd : ∀ i < min (st.ram (cfg.ep0BufRx + 3)).toNat len, d i = d₂ i) :
    SameSent (ep0SendDescriptor cfg st d len fix) (ep0SendDescriptor cfg st d₂ len fix) := by
  unfold ep0SendDescriptor
  dsimp only
  split_ifs with hL
  · rw [ep0QueueDescriptor_congr cfg _ usbMaxPacketSize fix fun i hi => hd i (by omega)]
    refine ⟨rfl, .some fun i hi => hd _ ?_⟩
    simp only [ep0QueueDescriptor_descLeft] at hi
    omega
  · rw [ep0QueueDescriptor_congr cfg st _ fix hd]
    exact ⟨rfl, optionRel_agree_refl _ _⟩

/-- IN completions keep two states `SameSent`. -/
theorem SameSent.inDone {s s' : UsbState} (h : SameSent s s') (cfg : UsbConfig) (rets : List Int) :
    SameSent (ep0Run cfg s (rets.map .inDone)) (ep0Run cfg s' (rets.map .inDone)) := by
  induction rets generalizing s s' with
  | nil => exact h
  | cons r rets ih =>
    simp only [List.map_cons, ep0Run_cons, ep0Step]
    exact ih (h.ep0Tx cfg r)

/-- **Descriptor transfers.** Take any state and a SETUP that `ep0_rx` answers through
`ep0_send_descriptor` with descriptor `d` of length `len`, with `L = min wLength len` at least one
packet, followed by IN completions. The size fix-up is `USB_DESC_SIZE` for the configuration
descriptor and none otherwise; after the SETUP and after each IN completion `j`, packet `j` is
`min 64 (L - 64 j)` bytes of `d'` from `64 j` on, `STATUS_OUT` is armed exactly when
`L ≤ 64 (j + 1)`, the cursor is just past what was sent and packet memory outside `ep0_buf_tx`
and `tx_count` is unchanged; all the packets together are `d'` cut at `L`. No byte of `d` at or
past `L` is read: had `ep0_send_descriptor` been handed any `d₂` that agrees with `d` below `L`,
every state of the run would be the same but for descriptor bytes not yet sent. -/
theorem ep0_descriptor_transfer (cfg : UsbConfig) (st : UsbState) (pkt : SetupPacket) (ret : Int)
    (rets : List Int) (d : BytePtr) (len : Nat) (fix : UInt16) (hif : ¬ pkt.IsIfaceRequest cfg)
    (hreply : ep0Reply cfg st.usbSerialnoDesc pkt.req pkt.wValue pkt.wIndex
      = .sendDescriptor d len fix)
    (hL : usbMaxPacketSize ≤ min pkt.wLength.toNat len) :
    (fix = if pkt.req = usbDirIn ||| (usbReqGetDescriptor <<< 8) ∧
        (pkt.wValue >>> 8).toUInt8 = usbDtConfiguration then cfg.usbDescSize.toUInt16 else 0) ∧
      (∀ j ≤ rets.length, Streaming cfg d (fixupDescriptor fix d) (min pkt.wLength.toNat len)
        (st.receiveSetup cfg pkt).ram j
        (ep0Run cfg st (.setup pkt ret :: (rets.take j).map .inDone))) ∧
      ((List.range (rets.length + 1)).map fun j =>
          txPacket cfg (ep0Run cfg st (.setup pkt ret :: (rets.take j).map .inDone))).flatten
        = (List.range (min (min pkt.wLength.toNat len) (usbMaxPacketSize * (rets.length + 1)))).map
            (fixupDescriptor fix d) ∧
      ∀ d₂ : BytePtr, (∀ i < min pkt.wLength.toNat len, d i = d₂ i) →
        SameSent (ep0Run cfg st (.setup pkt ret :: rets.map .inDone))
          (ep0Run cfg (ep0SendDescriptor cfg ((st.receiveSetup cfg pkt).resetTransfer cfg) d₂ len fix)
            (rets.map .inDone)) :=
  ⟨ep0Reply_fixupSize hreply, streaming_run cfg st pkt ret hif hreply hL rets,
    flatten_txPacket _ (streaming_run cfg st pkt ret hif hreply hL rets), fun d₂ hd => by
      rw [ep0Run_cons, ep0Step, ep0Rx_receiveSetup _ _ _ _ hif, hreply, ep0Do]
      refine (sameSent_ep0SendDescriptor cfg _ len fix ?_).inDone cfg rets
      rwa [resetTransfer_receiveSetup_wLength]⟩

/-- The configuration blob of `sampleConfig`, asked for with `wLength = 255`: 64, then 36 bytes,
then a zero-length packet. -/
theorem ep0_descriptor_transfer_sample :
    ¬ (⟨0x80, 6, 0x0200, 0, 255⟩ : SetupPacket).IsIfaceRequest sampleConfig ∧
      ep0Reply sampleConfig sampleState.usbSerialnoDesc (⟨0x80, 6, 0x0200, 0, 255⟩ : SetupPacket).req
        0x0200 0 = .sendDescriptor sampleConfig.usbDesc 100 100 ∧
      usbMaxPacketSize ≤ min (255 : UInt16).toNat 100 ∧
      ((List.range (([0, 0] : List Int).length + 1)).map fun j =>
          txPacket sampleConfig (ep0Run sampleConfig sampleState
            (.setup ⟨0x80, 6, 0x0200, 0, 255⟩ 0 :: (([0, 0] : List Int).take j).map .inDone))).flatten
        = (List.range (min (min (255 : UInt16).toNat 100) (usbMaxPacketSize * (2 + 1)))).map
            (fixupDescriptor 100 sampleConfig.usbDesc) :=
  ⟨by decide, rfl, by decide,
    (ep0_descriptor_transfer sampleConfig sampleState ⟨0x80, 6, 0x0200, 0, 255⟩ 0 [0, 0]
      sampleConfig.usbDesc 100 100 (by decide) rfl (by decide)).2.2.1⟩

/-! ### Every transfer stays within its descriptor -/

/-- A descriptor reply that fits in one packet is queued by `ep0_rx` at once, with the
`STATUS_OUT` flag taken from `desc_left`. -/
theorem ep0Rx_short_descriptor (cfg : UsbConfig) (st : UsbState) (pkt : SetupPacket) (ret : Int)
    {d : BytePtr} {len : Nat} {fix : UInt16} (hif : ¬ pkt.IsIfaceRequest cfg)
    (hreply : ep0Reply cfg st.usbSerialnoDesc pkt.req pkt.wValue pkt.wIndex
      = .sendDescriptor d len fix)
    (hshort : min pkt.wLength.toNat len < usbMaxPacketSize) :
    ep0Rx cfg ret (st.receiveSetup cfg pkt)
      = ep0QueueDescriptor cfg ((st.receiveSetup cfg pkt).resetTransfer cfg) d
          (min pkt.wLength.toNat len) fix := by
  rw [ep0Rx_receiveSetup _ _ _ _ hif, hreply, ep0Do, ep0SendDescriptor,
    resetTransfer_receiveSetup_wLength, if_neg (Nat.not_le.mpr hshort)]

/-- The bytes a queued packet holds, for any length: the fix-up lands on bytes 2 and 3 of the
packet when they are in it. -/
theorem txPacket_ep0QueueDescriptor (cfg : UsbConfig) (st : UsbState) (desc : BytePtr) (len : Nat)
    (fix : UInt16) (hlen : len < 2 ^ 16) :
    txPacket cfg (ep0QueueDescriptor cfg st desc len fix)
      = (List.range len).map (fixupDescriptor fix desc) := by
  rw [txPacket, ep0QueueDescriptor_txCount _ _ _ _ _ hlen]
  exact List.map_congr_left fun i hi =>
    byteView_ep0QueueDescriptor_of_lt cfg st desc fix (List.mem_range.mp hi)

/-- `ep0_tx` with no descriptor stream and no interface holding EP0 only re-arms the transmit
direction: packet memory, the endpoint table in it and the transfer state stay as they are. -/
theorem ep0Tx_of_idle (cfg : UsbConfig) (ret : Int) {st : UsbState} (hdesc : st.descPtr = none)
    (hnext : cfg.ifaceCount ≤ st.ifaceNext) :
    (ep0Tx cfg ret st).ram = st.ram ∧ (ep0Tx cfg ret st).descPtr = none ∧
      (ep0Tx cfg ret st).ifaceNext = st.ifaceNext := by
  simp only [ep0Tx, apply_ite UsbState.descPtr, apply_ite UsbState.ifaceNext, apply_ite UsbState.ram,
    ite_self, hdesc, if_neg (Nat.not_lt.mpr hnext), UsbState.txValid_ram, UsbState.txValid_descPtr,
    UsbState.txValid_ifaceNext, and_true]
  split <;> rfl

/-- IN completions with no descriptor stream and no interface holding EP0 leave the queued
packet as it was. -/
theorem txPacket_inDone_of_idle (cfg : UsbConfig) (rets : List Int) :
    ∀ {s : UsbState}, s.descPtr = none → cfg.ifaceCount ≤ s.ifaceNext →
      txPacket cfg (ep0Run cfg s (rets.map .inDone)) = txPacket cfg s := by
  induction rets with
  | nil => exact fun _ _ => rfl
  | cons r rets ih =>
    intro s hdesc hnext
    obtain ⟨hram, hdesc', hnext'⟩ := ep0Tx_of_idle cfg r hdesc hnext
    rw [List.map_cons, ep0Run_cons, ep0Step, ih hdesc' (hnext'.symm ▸ hnext), txPacket, txPacket,
      UsbState.btableEp0_txCount, UsbState.btableEp0_txCount, hram]

/-- `min 64 (L - o)` bytes of `d` from `o` on are consecutive bytes of `d` below `L`. -/
theorem exists_window (d : BytePtr) (L o : Nat) :
    ∃ o' n, o' + n ≤ L ∧ (List.range (min usbMaxPacketSize (L - o))).map (fun i => d (o + i))
      = (List.range n).map fun i => d (o' + i) := by
  by_cases ho : o ≤ L
  · exact ⟨o, _, by omega, rfl⟩
  · exact ⟨0, 0, Nat.zero_le L, by
      rw [show min usbMaxPacketSize (L - o) = 0 by omega, List.range_zero, List.map_nil, List.map_nil]⟩

/-- **A descriptor transfer never sends a byte past its length.** Take any state and a SETUP
that `ep0_rx` answers through `ep0_send_descriptor` with descriptor `d` of length `len`, followed
by IN completions: after the SETUP and after each IN completion, the packet queued in `ep0_buf_tx`
is a run of consecutive bytes of `d` (with the size fix-up) that ends at or before
`min wLength len`. A transfer of a packet or more goes on as `Streaming` says; a shorter one is
queued whole by `ep0_rx`, and the IN completions after it re-arm that packet. -/
theorem txPacket_window (cfg : UsbConfig) (st : UsbState) (pkt : SetupPacket) (ret : Int)
    (rets : List Int) {d : BytePtr} {len : Nat} {fix : UInt16} (hif : ¬ pkt.IsIfaceRequest cfg)
    (hreply : ep0Reply cfg st.usbSerialnoDesc pkt.req pkt.wValue pkt.wIndex
      = .sendDescriptor d len fix) :
    ∀ j ≤ rets.length, ∃ o n, o + n ≤ min pkt.wLength.toNat len ∧
      txPacket cfg (ep0Run cfg st (.setup pkt ret :: (rets.take j).map .inDone))
        = (List.range n).map fun i => fixupDescriptor fix d (o + i) := by
  intro j hj
  by_cases hL : usbMaxPacketSize ≤ min pkt.wLength.toNat len
  · rw [txPacket_of_streaming (streaming_run cfg st pkt ret hif hreply hL rets j hj)]
    exact exists_window _ _ _
  · have hL' : min pkt.wLength.toNat len < usbMaxPacketSize := by omega
    rw [ep0Run_cons, ep0Step, ep0Rx_short_descriptor cfg st pkt ret hif hreply hL',
      txPacket_inDone_of_idle _ _ rfl (le_refl _),
      txPacket_ep0QueueDescriptor _ _ _ _ _ (lt_trans hL' (by decide))]
    exact ⟨0, min pkt.wLength.toNat len, by omega, by simp only [Nat.zero_add]⟩

end Twonkie.Usb
