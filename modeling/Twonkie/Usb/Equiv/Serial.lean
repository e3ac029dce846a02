import Twonkie.Usb.Serial
import Twonkie.Usb.Equiv.Request
import Twonkie.Usb.Equiv.Descriptor

/-!
# The serial number string descriptor

`usb_set_serial` copies at most `USB_STRING_LEN` characters and stops after a `NUL`. For the loop
started at index `i` with `n` turns left, `usbSetSerialLoop_stop` says where it stops (`StopsAt`:
at the first `NUL` of `serialno[i, i + n)`, or at `i + n`), `usbSetSerialLoop_data` what `_data`
holds after it, and `usbSetSerialLoop_reads` which characters it read: none at or past `i + n`.
`usb_set_serial_desc` assembles them: `_len` is twice the number of characters copied plus two,
which for `2 * USB_STRING_LEN + 2 ≤ 255` fits the `uint8_t` and the descriptor's storage, and a
`GET_DESCRIPTOR` of the serial number string sends no byte past `_len` (`txPacket_window`).
-/

namespace Twonkie.Usb

/-! ### The copy loop -/

/-- `k` is where a copy of `serialno` from `i`, for at most `n` characters, stops: at the first
`NUL` of `serialno[i, i + n)`, or at `i + n` when there is none. -/
structure StopsAt (serialno : Nat → UInt8) (i n k : Nat) : Prop where
  ge : i ≤ k
  le : k ≤ i + n
  noNul : ∀ j, i ≤ j → j < k → serialno j ≠ 0
  nul : k < i + n → serialno k = 0

section
variable (serialno : Nat → UInt8)

theorem usbSetSerialLoop_nul {i : Nat} (h : serialno i = 0) (n : Nat) (data : Nat → UInt16)
    (reads : List Nat) :
    usbSetSerialLoop serialno (n + 1) i data reads
      = (i, fun j => if j = i then (serialno i).toUInt16 else data j, reads ++ [i, i]) := by
  simp only [usbSetSerialLoop, h, if_true]

theorem usbSetSerialLoop_ne {i : Nat} (h : serialno i ≠ 0) (n : Nat) (data : Nat → UInt16)
    (reads : List Nat) :
    usbSetSerialLoop serialno (n + 1) i data reads
      = usbSetSerialLoop serialno n (i + 1)
          (fun j => if j = i then (serialno i).toUInt16 else data j) (reads ++ [i, i]) := by
  simp only [usbSetSerialLoop, h, if_false]

theorem usbSetSerialLoop_stop (n : Nat) : ∀ (i : Nat) (data : Nat → UInt16) (reads : List Nat),
    StopsAt serialno i n (usbSetSerialLoop serialno n i data reads).1 := by
  induction n with
  | zero =>
    exact fun i _ _ => show StopsAt serialno i 0 i from
      ⟨le_rfl, le_rfl, fun _ h1 h2 => absurd h2 (by omega), fun h => absurd h (by omega)⟩
  | succ n ih =>
    intro i data reads
    by_cases h : serialno i = 0
    · rw [usbSetSerialLoop_nul serialno h]
      exact ⟨le_rfl, by omega, fun _ h1 h2 => absurd h2 (by omega), fun _ => h⟩
    · rw [usbSetSerialLoop_ne serialno h]
      have hs := ih (i + 1) (fun j => if j = i then (serialno i).toUInt16 else data j) (reads ++ [i, i])
      refine ⟨by have := hs.ge; omega, by have := hs.le; omega, fun j hij hjk => ?_,
        fun hk => hs.nul (by omega)⟩
      rcases Nat.eq_or_lt_of_le hij with rfl | hij
      · exact h
      · exact hs.noNul j hij hjk

/-- After the loop, `_data` holds `serialno` from `i` to where the loop stopped, the `NUL` there
included when it stopped at one; the other characters are as they were. -/
theorem usbSetSerialLoop_data (n : Nat) :
    ∀ (i : Nat) (data : Nat → UInt16) (reads : List Nat) (j : Nat),
      (usbSetSerialLoop serialno n i data reads).2.1 j
        = if i ≤ j ∧ j ≤ (usbSetSerialLoop serialno n i data reads).1 ∧ j < i + n
          then (serialno j).toUInt16 else data j := by
  induction n with
  | zero => exact fun i data reads j => (if_neg (by omega)).symm
  | succ n ih =>
    intro i data reads j
    by_cases h : serialno i = 0
    · rw [usbSetSerialLoop_nul serialno h]
      dsimp only
      by_cases hj : j = i
      · subst hj; rw [if_pos rfl, if_pos (by omega)]
      · rw [if_neg hj, if_neg (by omega)]
    · rw [usbSetSerialLoop_ne serialno h, ih]
      have hge := (usbSetSerialLoop_stop serialno n (i + 1)
        (fun j => if j = i then (serialno i).toUInt16 else data j) (reads ++ [i, i])).ge
      by_cases hj : j = i
      · subst hj; rw [if_neg (by omega), if_pos rfl, if_pos (by omega)]
      · simp only [hj, if_false]
        split_ifs <;> first | rfl | omega

/-- The loop reads `serialno` only from `i` to where it stopped, and never at or past `i + n`. -/
theorem usbSetSerialLoop_reads (n : Nat) :
    ∀ (i : Nat) (data : Nat → UInt16) (reads : List Nat),
      ∀ x ∈ (usbSetSerialLoop serialno n i data reads).2.2,
        x ∈ reads ∨ i ≤ x ∧ x ≤ (usbSetSerialLoop serialno n i data reads).1 ∧ x < i + n := by
  induction n with
  | zero => exact fun _ _ _ _ hx => .inl hx
  | succ n ih =>
    intro i data reads x hx
    by_cases h : serialno i = 0
    · rw [usbSetSerialLoop_nul serialno h] at hx ⊢
      simp only [List.mem_append, List.mem_cons, List.not_mem_nil, or_false, or_self] at hx
      rcases hx with hx | rfl
      · exact .inl hx
      · exact .inr ⟨le_rfl, le_rfl, by omega⟩
    · rw [usbSetSerialLoop_ne serialno h] at hx ⊢
      have hge := (usbSetSerialLoop_stop serialno n (i + 1)
        (fun j => if j = i then (serialno i).toUInt16 else data j) (reads ++ [i, i])).ge
      rcases ih _ _ _ x hx with hx | hx
      · simp only [List.mem_append, List.mem_cons, List.not_mem_nil, or_false, or_self] at hx
        rcases hx with hx | rfl
        · exact .inl hx
        · exact .inr ⟨le_rfl, by omega, by omega⟩
      · exact .inr (by omega)

end

/-! ### The descriptor `ep0_rx` serves -/

/-- A standard `GET_DESCRIPTOR` of the serial number string: type `USB_DT_STRING`, index
`USB_STR_SERIALNO`, within `USB_STR_COUNT`. -/
def SetupPacket.IsSerialnoRequest (cfg : UsbConfig) (pkt : SetupPacket) : Prop :=
  pkt.bmRequestType = 0x80 ∧ pkt.bRequest.toUInt16 = usbReqGetDescriptor ∧
    hi pkt.wValue = usbDtString ∧ cfg.usbStrSerialno = some (lo pkt.wValue).toNat ∧
    (lo pkt.wValue).toNat < cfg.usbStrings.length

instance (cfg : UsbConfig) (pkt : SetupPacket) : Decidable (pkt.IsSerialnoRequest cfg) :=
  inferInstanceAs (Decidable (_ ∧ _))

/-- The serial number string is the descriptor `usb_serialno_desc` points at, its length
the `_len` byte. -/
theorem ep0GetDescriptor_serialno (cfg : UsbConfig) (sd : UsbStringDesc) {idx : UInt8}
    (hserial : cfg.usbStrSerialno = some idx.toNat) (hidx : idx.toNat < cfg.usbStrings.length) :
    ep0GetDescriptor cfg sd usbDtString idx = some (sd.bytes, sd.len.toNat) := by
  rw [ep0GetDescriptor, if_neg (by decide), if_neg (by decide),
    if_neg fun h => absurd h.1 (by decide), if_pos rfl, if_neg (Nat.not_le.mpr hidx)]
  simp only [hserial, if_true]
  rfl

theorem ep0Reply_serialno {cfg : UsbConfig} {sd : UsbStringDesc} {pkt : SetupPacket}
    (h : pkt.IsSerialnoRequest cfg) :
    ep0Reply cfg sd pkt.req pkt.wValue pkt.wIndex = .sendDescriptor sd.bytes sd.len.toNat 0 := by
  obtain ⟨hrt, hreq, htype, hserial, hidx⟩ := h
  have hv : ¬ pkt.req &&& usbTypeMask = usbTypeVendor := by rw [req_vendor_iff, hrt]; decide
  rw [ep0Reply, if_neg hv, if_pos ((req_getDescriptor_iff pkt).mpr ⟨hrt, hreq⟩)]
  simp only [shiftRight_eight_toUInt8, toUInt8_and_0xff, htype,
    ep0GetDescriptor_serialno cfg sd hserial hidx]
  rw [if_neg (by decide)]

theorem not_isIfaceRequest_of_serialno {cfg : UsbConfig} {pkt : SetupPacket}
    (h : pkt.IsSerialnoRequest cfg) : ¬ pkt.IsIfaceRequest cfg :=
  fun hif => absurd (h.1 ▸ hif.1) (by decide)

@[simp] theorem fixupDescriptor_zero (d : BytePtr) : fixupDescriptor 0 d = d := rfl

/-! ### `usb_set_serial` -/

/-- **`usb_set_serial` keeps the serial number descriptor within its storage.** For every
`serialno` and every `USB_STRING_LEN` with `2 * USB_STRING_LEN + 2 ≤ 255`, let `k` be the index of
the first `NUL` of `serialno[0, USB_STRING_LEN)`, or `USB_STRING_LEN` if there is none.
`usb_set_serial` succeeds with `_type = USB_DT_STRING`, `_len = 2 k + 2` and `_data[i] = serialno[i]`
for `i < k`, and reads no character of `serialno` at or past `USB_STRING_LEN`. So the length
`ep0_rx` takes for the serial number string, `_len`, is within `sizeof(struct usb_string_desc)`;
and in any state holding this descriptor, every packet that a `GET_DESCRIPTOR` of it queues,
after the SETUP and after each IN completion, is a run of its bytes that ends at or before
`_len`. -/
theorem usb_set_serial_desc (usbStringLen : Nat) (hlen : 2 * usbStringLen + 2 ≤ 255)
    (serialno : Nat → UInt8) (sd : UsbStringDesc) :
    ∃ k ≤ usbStringLen, (∀ i < k, serialno i ≠ 0) ∧ (k < usbStringLen → serialno k = 0) ∧
      ∃ sd' reads, usbSetSerial usbStringLen (some serialno) sd = some (sd', reads) ∧
        sd'.type = usbDtString ∧ sd'.len.toNat = 2 * k + 2 ∧
        (∀ i < k, sd'.data i = (serialno i).toUInt16) ∧ (∀ j ∈ reads, j < usbStringLen) ∧
        sd'.len.toNat ≤ usbStringDescSize usbStringLen ∧
        (∀ (cfg : UsbConfig) (idx : UInt8), cfg.usbStrSerialno = some idx.toNat →
          idx.toNat < cfg.usbStrings.length →
          ep0GetDescriptor cfg sd' usbDtString idx = some (sd'.bytes, sd'.len.toNat)) ∧
        ∀ (cfg : UsbConfig) (st : UsbState) (pkt : SetupPacket) (ret : Int) (rets : List Int),
          st.usbSerialnoDesc = sd' → pkt.IsSerialnoRequest cfg →
          ∀ j ≤ rets.length, ∃ o n, o + n ≤ sd'.len.toNat ∧
            txPacket cfg (ep0Run cfg st (.setup pkt ret :: (rets.take j).map .inDone))
              = (List.range n).map fun i => sd'.bytes (o + i) := by
  have hs := usbSetSerialLoop_stop serialno usbStringLen 0 sd.data []
  have hreads := usbSetSerialLoop_reads serialno usbStringLen 0 sd.data []
  generalize hk : (usbSetSerialLoop serialno usbStringLen 0 sd.data []).1 = k at hs hreads
  have hlenk : ((k * 2 + 2).toUInt8).toNat = 2 * k + 2 :=
    (Nat.mod_eq_of_lt (by have := hs.le; omega)).trans (by omega)
  have hkL : k ≤ usbStringLen := by have := hs.le; omega
  refine ⟨k, hkL, fun i hi => hs.noNul i (Nat.zero_le i) hi, fun h => hs.nul (by omega), _, _, rfl, rfl,
    hk ▸ hlenk, fun i hi => ?_, fun j hj => ?_, ?_, fun cfg idx => ep0GetDescriptor_serialno cfg _,
    fun cfg st pkt ret rets hst hreq j hj => ?_⟩
  · show (usbSetSerialLoop serialno usbStringLen 0 sd.data []).2.1 i = _
    rw [usbSetSerialLoop_data, hk, if_pos (by omega)]
  · rcases hreads j hj with h | h
    · exact absurd h (List.not_mem_nil j)
    · omega
  · rw [hk, hlenk, usbStringDescSize]; have := hs.le; omega
  · obtain ⟨o, n, hon, hpkt⟩ := txPacket_window cfg st pkt ret rets
      (not_isIfaceRequest_of_serialno hreq) (ep0Reply_serialno hreq) j hj
    rw [hst] at hon hpkt
    exact ⟨o, n, hon.trans (Nat.min_le_right _ _), by rw [hpkt, fixupDescriptor_zero]⟩

/-- A serial number of forty `A`s, not terminated within `USB_STRING_LEN = 28`: the descriptor
takes 28 of them, and no character past the 28th is read. -/
theorem usb_set_serial_desc_unterminated :
    2 * 28 + 2 ≤ 255 ∧ ∃ k ≤ 28, ∃ sd' reads,
      usbSetSerial 28 (some fun i => if i < 40 then 0x41 else 0) ⟨0, 0, fun _ => 0⟩
        = some (sd', reads) ∧ sd'.len.toNat = 2 * k + 2 ∧ ∀ j ∈ reads, j < 28 := by
  obtain ⟨k, hk, -, -, sd', reads, h, -, hl, -, hr, -⟩ :=
    usb_set_serial_desc 28 (by decide) (fun i => if i < 40 then 0x41 else 0) ⟨0, 0, fun _ => 0⟩
  exact ⟨by decide, k, hk, sd', reads, h, hl, hr⟩

end Twonkie.Usb
