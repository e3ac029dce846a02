import Twonkie.Usb.Pma

/-!
# Correctness of the packet-memory copies

`memcpyToUsbram ram o s n` is, on the byte view, `ram` with bytes `[o, o + n)` replaced by
`s[0, n)` and every other byte unchanged, the other half of each boundary word included
(`byteView_memcpyToUsbram`); `memcpyFromUsbram dst ram o n` is `dst` with `[0, n)` replaced by the
bytes `[o, o + n)` of `ram` (`memcpyFromUsbram_apply`). Both hold for either parity of `o` and of
`n`. The proofs go word by word: each store of the source (`(*d & ~0xff00) | (*s << 8)`,
`(s[1] << 8) | s[0]`, `(*d & ~0x00ff) | *s`) is read back through `lo` and `hi` by one lemma of the
toolbox below, and each loop by induction on its number of turns.
-/

namespace Twonkie.Usb

/-! ### Words and bytes -/

theorem toNat_lt_of_uInt16 (w : UInt16) : w.toNat < 2 ^ 16 := w.toBitVec.isLt

theorem toNat_lt_of_uInt8 (b : UInt8) : b.toNat < 2 ^ 8 := b.val.isLt

theorem uInt8_eq_of_toNat {a b : UInt8} (h : a.toNat = b.toNat) : a = b :=
  UInt8.eq_of_val_eq (Fin.ext h)

theorem uInt16_eq_of_toNat {a b : UInt16} (h : a.toNat = b.toNat) : a = b := by
  cases a; cases b; congr; exact BitVec.eq_of_toNat_eq h

theorem toNat_toUInt16 (b : UInt8) : b.toUInt16.toNat = b.toNat := by
  simp [UInt8.toUInt16, UInt16.toNat, Nat.toUInt16, UInt16.ofNat]

theorem toNat_toUInt8 (w : UInt16) : w.toUInt8.toNat = w.toNat % 2 ^ 8 := by
  simp [UInt16.toUInt8, UInt8.toNat, UInt8.ofNat, Fin.ofNat]

theorem toNat_shiftLeft_eight (w : UInt16) : (w <<< 8).toNat = w.toNat * 2 ^ 8 % 2 ^ 16 := by
  show (w.toBitVec <<< (UInt16.mod 8 16).toBitVec).toNat = _
  simp [UInt16.mod, Nat.shiftLeft_eq]; rfl

theorem toNat_shiftRight_eight (w : UInt16) : (w >>> 8).toNat = w.toNat / 2 ^ 8 := by
  show (w.toBitVec >>> (UInt16.mod 8 16).toBitVec).toNat = _
  simp [UInt16.mod, Nat.shiftRight_eq_div_pow]; rfl

theorem shiftRight_zero (w : UInt16) : w >>> 0 = w := by
  show (⟨w.toBitVec >>> (UInt16.mod 0 16).toBitVec⟩ : UInt16) = w
  simp [UInt16.mod]

theorem toNat_or (a b : UInt16) : (a ||| b).toNat = a.toNat ||| b.toNat := by
  show (a.toBitVec ||| b.toBitVec).toNat = _
  simp; rfl

theorem toNat_lo (w : UInt16) : (lo w).toNat = w.toNat % 2 ^ 8 := toNat_toUInt8 w

theorem toNat_hi (w : UInt16) : (hi w).toNat = w.toNat / 2 ^ 8 := by
  have := toNat_lt_of_uInt16 w
  rw [hi, toNat_toUInt8, toNat_shiftRight_eight, Nat.mod_eq_of_lt (by omega)]

/-- A word is its two bytes. -/
theorem eq_of_lo_hi {v w : UInt16} (hl : lo v = lo w) (hh : hi v = hi w) : v = w := by
  have hl' := congrArg UInt8.toNat hl
  have hh' := congrArg UInt8.toNat hh
  rw [toNat_lo, toNat_lo] at hl'
  rw [toNat_hi, toNat_hi] at hh'
  exact uInt16_eq_of_toNat (by omega)

/-- `2^8 * c ||| b` is `2^8 * c + b` for a byte `b`. -/
theorem mul_or_of_lt {b : Nat} (c : Nat) (hb : b < 2 ^ 8) : 2 ^ 8 * c ||| b = 2 ^ 8 * c + b :=
  (Nat.mul_add_lt_is_or hb c).symm

theorem and_high_byte {x : Nat} (hx : x < 2 ^ 16) : x &&& 0xff00 = 2 ^ 8 * (x / 2 ^ 8) := by
  apply Nat.eq_of_testBit_eq; intro j
  rw [Nat.testBit_and, show (0xff00 : Nat) = 2 ^ 8 * (2 ^ 8 - 1) from rfl, Nat.testBit_mul_pow_two,
    Nat.testBit_mul_pow_two, Nat.testBit_two_pow_sub_one, ← Nat.shiftRight_eq_div_pow,
    Nat.testBit_shiftRight]
  by_cases h : 8 ≤ j
  · by_cases h' : j < 16
    · simp [h, h', show 8 + (j - 8) = j by omega, show j - 8 < 8 by omega]
    · have : x < 2 ^ j := lt_of_lt_of_le hx (Nat.pow_le_pow_right (by decide) (by omega))
      simp [h, show ¬ j - 8 < 8 by omega, show 8 + (j - 8) = j by omega, Nat.testBit_lt_two_pow this]
  · simp [h]

theorem toNat_mergeHigh (w : UInt16) (b : UInt8) :
    ((w &&& ~~~(0xff00 : UInt16)) ||| (b.toUInt16 <<< 8)).toNat
      = 2 ^ 8 * b.toNat + w.toNat % 2 ^ 8 := by
  have hb := toNat_lt_of_uInt8 b
  rw [toNat_or, UInt16.and_toNat, show ~~~(0xff00 : UInt16) = 0x00ff from rfl,
    show (0x00ff : UInt16).toNat = 2 ^ 8 - 1 from rfl, Nat.and_pow_two_sub_one_eq_mod,
    toNat_shiftLeft_eight, toNat_toUInt16, Nat.mod_eq_of_lt (show b.toNat * 2 ^ 8 < 2 ^ 16 by omega),
    Nat.lor_comm, Nat.mul_comm, mul_or_of_lt _ (Nat.mod_lt _ (by decide))]

theorem toNat_mergeLow (w : UInt16) (b : UInt8) :
    ((w &&& ~~~(0x00ff : UInt16)) ||| b.toUInt16).toNat = 2 ^ 8 * (w.toNat / 2 ^ 8) + b.toNat := by
  rw [toNat_or, UInt16.and_toNat, show ~~~(0x00ff : UInt16) = 0xff00 from rfl,
    show (0xff00 : UInt16).toNat = 0xff00 from rfl, and_high_byte (toNat_lt_of_uInt16 w),
    toNat_toUInt16, mul_or_of_lt _ (toNat_lt_of_uInt8 b)]

theorem toNat_pack (b0 b1 : UInt8) :
    ((b1.toUInt16 <<< 8) ||| b0.toUInt16).toNat = 2 ^ 8 * b1.toNat + b0.toNat := by
  have := toNat_lt_of_uInt8 b1
  rw [toNat_or, toNat_shiftLeft_eight, toNat_toUInt16, toNat_toUInt16,
    Nat.mod_eq_of_lt (show b1.toNat * 2 ^ 8 < 2 ^ 16 by omega), Nat.mul_comm,
    mul_or_of_lt _ (toNat_lt_of_uInt8 b0)]

/-! ### The three stores and the two reads of the source -/

@[simp] theorem lo_mergeHigh (w : UInt16) (b : UInt8) :
    lo ((w &&& ~~~(0xff00 : UInt16)) ||| (b.toUInt16 <<< 8)) = lo w := by
  have := toNat_lt_of_uInt8 b
  apply uInt8_eq_of_toNat; rw [toNat_lo, toNat_lo, toNat_mergeHigh]; omega

@[simp] theorem hi_mergeHigh (w : UInt16) (b : UInt8) :
    hi ((w &&& ~~~(0xff00 : UInt16)) ||| (b.toUInt16 <<< 8)) = b := by
  have := toNat_lt_of_uInt8 b
  apply uInt8_eq_of_toNat; rw [toNat_hi, toNat_mergeHigh]; omega

@[simp] theorem lo_mergeLow (w : UInt16) (b : UInt8) :
    lo ((w &&& ~~~(0x00ff : UInt16)) ||| b.toUInt16) = b := by
  have := toNat_lt_of_uInt8 b
  apply uInt8_eq_of_toNat; rw [toNat_lo, toNat_mergeLow]; omega

@[simp] theorem hi_mergeLow (w : UInt16) (b : UInt8) :
    hi ((w &&& ~~~(0x00ff : UInt16)) ||| b.toUInt16) = hi w := by
  have := toNat_lt_of_uInt8 b
  apply uInt8_eq_of_toNat; rw [toNat_hi, toNat_hi, toNat_mergeLow]; omega

@[simp] theorem lo_pack (b0 b1 : UInt8) : lo ((b1.toUInt16 <<< 8) ||| b0.toUInt16) = b0 := by
  have := toNat_lt_of_uInt8 b0
  apply uInt8_eq_of_toNat; rw [toNat_lo, toNat_pack]; omega

@[simp] theorem hi_pack (b0 b1 : UInt8) : hi ((b1.toUInt16 <<< 8) ||| b0.toUInt16) = b1 := by
  have := toNat_lt_of_uInt8 b0
  apply uInt8_eq_of_toNat; rw [toNat_hi, toNat_pack]; omega

/-- `(value >> 0) & 0xff` stored in a byte is the low byte. -/
@[simp] theorem low_byte_eq_lo (w : UInt16) : ((w >>> 0) &&& 0xff).toUInt8 = lo w := by
  apply uInt8_eq_of_toNat
  rw [toNat_toUInt8, UInt16.and_toNat, shiftRight_zero, toNat_lo,
    show (0xff : UInt16).toNat = 2 ^ 8 - 1 from rfl, Nat.and_pow_two_sub_one_eq_mod, Nat.mod_mod]

/-- `(value >> 8) & 0xff` stored in a byte is the high byte. -/
@[simp] theorem high_byte_eq_hi (w : UInt16) : ((w >>> 8) &&& 0xff).toUInt8 = hi w := by
  apply uInt8_eq_of_toNat
  rw [toNat_toUInt8, UInt16.and_toNat, show (0xff : UInt16).toNat = 2 ^ 8 - 1 from rfl,
    Nat.and_pow_two_sub_one_eq_mod, Nat.mod_mod, ← toNat_toUInt8]
  rfl

/-! ### The byte view -/

theorem byteView_set (ram : UsbRam) (k : Nat) (v : UInt16) (a : Nat) :
    byteView (ram.set k v) a
      = if a / 2 = k then (if a % 2 = 0 then lo v else hi v) else byteView ram a := by
  by_cases h : a / 2 = k
  · subst h; simp [byteView]
  · simp [byteView, h]

/-- `*d = (*d & ~0xff00) | (*s << 8)` writes byte `2 d + 1` and only it. -/
theorem byteView_set_mergeHigh (ram : UsbRam) (w : Nat) (b : UInt8) (a : Nat) :
    byteView (ram.set w ((ram w &&& ~~~(0xff00 : UInt16)) ||| (b.toUInt16 <<< 8))) a
      = if a = 2 * w + 1 then b else byteView ram a := by
  rw [byteView_set]
  split_ifs with hw hp hb hb <;> first | omega | simp only [lo_mergeHigh, hi_mergeHigh]
  rw [byteView, if_pos hp, hw]

/-- `*d = (*d & ~0x00ff) | *s` writes byte `2 d` and only it. -/
theorem byteView_set_mergeLow (ram : UsbRam) (w : Nat) (b : UInt8) (a : Nat) :
    byteView (ram.set w ((ram w &&& ~~~(0x00ff : UInt16)) ||| b.toUInt16)) a
      = if a = 2 * w then b else byteView ram a := by
  rw [byteView_set]
  split_ifs with hw hp hb hb <;> first | omega | simp only [lo_mergeLow, hi_mergeLow]
  rw [byteView, if_neg hp, hw]

/-- `*d = (s[1] << 8) | s[0]` writes bytes `2 d` and `2 d + 1` and only them. -/
theorem byteView_set_pack (ram : UsbRam) (w : Nat) (b0 b1 : UInt8) (a : Nat) :
    byteView (ram.set w ((b1.toUInt16 <<< 8) ||| b0.toUInt16)) a
      = if a = 2 * w then b0 else if a = 2 * w + 1 then b1 else byteView ram a := by
  rw [byteView_set]
  split_ifs <;> first | omega | simp only [lo_pack, hi_pack]

/-- Packet memory is determined by its byte view. -/
theorem eq_of_byteView {r r' : UsbRam} (h : ∀ a, byteView r a = byteView r' a) : r = r' := by
  funext k
  have h0 := h (2 * k)
  have h1 := h (2 * k + 1)
  simp only [byteView, show (2 * k) % 2 = 0 by omega, show (2 * k + 1) % 2 = 1 by omega,
    show 2 * k / 2 = k by omega, show (2 * k + 1) / 2 = k by omega, if_true] at h0 h1
  exact eq_of_lo_hi h0 (by simpa using h1)

/-! ### `memcpy_to_usbram` -/

theorem byteView_copyWordsTo (k : Nat) : ∀ (ram : UsbRam) (d : Nat) (s : BytePtr) (a : Nat),
    byteView (copyWordsTo k ram d s) a
      = if 2 * d ≤ a ∧ a < 2 * d + 2 * k then s (a - 2 * d) else byteView ram a := by
  induction k with
  | zero => intro ram d s a; rw [copyWordsTo, if_neg (by omega)]
  | succ k ih =>
    intro ram d s a
    rw [copyWordsTo, ih, byteView_set_pack]
    split_ifs <;> first | rfl | omega | (congr 1; omega)

theorem byteView_copyTailTo (ram : UsbRam) (d : Nat) (s : BytePtr) (n a : Nat) :
    byteView (copyTailTo ram d s n) a
      = if 2 * d ≤ a ∧ a < 2 * d + n then s (a - 2 * d) else byteView ram a := by
  simp only [copyTailTo, Nat.and_one_is_mod]
  split_ifs <;> simp only [byteView_set_mergeLow, byteView_copyWordsTo] <;>
    split_ifs <;> first | rfl | omega | (congr 1; omega)

/-- **`memcpy_to_usbram` on the byte view**: bytes `[o, o + n)` become `s[0, n)` and no other
byte changes, for either parity of `o` and of `n`. -/
theorem byteView_memcpyToUsbram (ram : UsbRam) (o : Nat) (s : BytePtr) (n a : Nat) :
    byteView (memcpyToUsbram ram o s n) a
      = if o ≤ a ∧ a < o + n then s (a - o) else byteView ram a := by
  simp only [memcpyToUsbram, Nat.and_one_is_mod]
  split_ifs <;> simp only [byteView_copyTailTo, byteView_set_mergeHigh] <;>
    split_ifs <;> first | rfl | omega | (congr 1; omega)

/-! ### `memcpy_from_usbram` -/

theorem byteView_two_mul (ram : UsbRam) (k : Nat) : byteView ram (2 * k) = lo (ram k) := by
  simp [byteView]

theorem byteView_two_mul_add_one (ram : UsbRam) (k : Nat) :
    byteView ram (2 * k + 1) = hi (ram k) := by
  rw [byteView, if_neg (by omega), show (2 * k + 1) / 2 = k by omega]

theorem copyWordsFrom_apply (k : Nat) : ∀ (dst : BytePtr) (d s : Nat) (ram : UsbRam) (i : Nat),
    copyWordsFrom k dst d s ram i
      = if d ≤ i ∧ i < d + 2 * k then byteView ram (2 * s + (i - d)) else dst i := by
  induction k with
  | zero => intro dst d s ram i; rw [copyWordsFrom, if_neg (by omega)]
  | succ k ih =>
    intro dst d s ram i
    rw [copyWordsFrom, ih]
    simp only [Function.update_apply, low_byte_eq_lo, high_byte_eq_hi]
    split_ifs <;> first | rfl | omega | (congr 1; omega) |
      (subst_vars; simp [← byteView_two_mul, ← byteView_two_mul_add_one])

theorem copyTailFrom_apply (dst : BytePtr) (d s n : Nat) (ram : UsbRam) (i : Nat) :
    copyTailFrom dst d s n ram i
      = if d ≤ i ∧ i < d + n then byteView ram (2 * s + (i - d)) else dst i := by
  simp only [copyTailFrom, Nat.and_one_is_mod]
  split_ifs <;> simp only [Function.update_apply, copyWordsFrom_apply] <;>
    split_ifs <;> first | rfl | omega |
      (subst_vars; rw [show 2 * s + (d + 2 * (n / 2) - d) = 2 * (s + n / 2) by omega,
        byteView_two_mul]; rfl)

/-- **`memcpy_from_usbram`**: the destination's bytes `[0, n)` become bytes `[o, o + n)` of the
packet memory, and no other destination byte changes. -/
theorem memcpyFromUsbram_apply (dst : BytePtr) (ram : UsbRam) (o n i : Nat) :
    memcpyFromUsbram dst ram o n i = if i < n then byteView ram (o + i) else dst i := by
  simp only [memcpyFromUsbram, Nat.and_one_is_mod]
  split_ifs <;> simp only [copyTailFrom_apply, Function.update_apply] <;>
    split_ifs <;> first | rfl | omega | (congr 1; omega) |
      (subst_vars; rw [Nat.add_zero, byteView, if_neg ‹o % 2 ≠ 0 ∧ n ≠ 0›.1]; rfl)

/-! ### The byte-view contract of both routines -/

/-- Whatever `memcpy_to_usbram` stores depends only on `s[0, n)`. -/
theorem memcpyToUsbram_truncate (ram : UsbRam) (o : Nat) (s : BytePtr) (n : Nat) :
    memcpyToUsbram ram o s n = memcpyToUsbram ram o (fun i => if i < n then s i else 0) n := by
  refine eq_of_byteView fun a => ?_
  rw [byteView_memcpyToUsbram, byteView_memcpyToUsbram]
  split_ifs <;> first | rfl | omega

/-- **Packet-memory copies are exact byte copies.** Writing `s[0, n)` at byte offset `o` changes
exactly bytes `[o, o + n)` of the byte view and reads only `s[0, n)`; reading `n` bytes at `o`
returns bytes `[o, o + n)` and touches no other destination byte; so reading back what was
written returns it. Every offset parity and every length. -/
theorem memcpy_usbram_byteView_spec (ram : UsbRam) (o n : Nat) (s dst : BytePtr) :
    byteView (memcpyToUsbram ram o s n)
        = (fun a => if o ≤ a ∧ a < o + n then s (a - o) else byteView ram a) ∧
      memcpyToUsbram ram o s n = memcpyToUsbram ram o (fun i => if i < n then s i else 0) n ∧
      memcpyFromUsbram dst ram o n = (fun i => if i < n then byteView ram (o + i) else dst i) ∧
      memcpyFromUsbram dst (memcpyToUsbram ram o s n) o n
        = (fun i => if i < n then s i else dst i) := by
  refine ⟨funext (byteView_memcpyToUsbram ram o s n), memcpyToUsbram_truncate ram o s n,
    funext (memcpyFromUsbram_apply dst ram o n), funext fun i => ?_⟩
  rw [memcpyFromUsbram_apply, byteView_memcpyToUsbram]
  split_ifs <;> first | rfl | omega | (congr 1; omega)

end Twonkie.Usb
