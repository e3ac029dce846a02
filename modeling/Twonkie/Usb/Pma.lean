import Mathlib

/-!
# The USB packet memory and its copy routines

The STM32 USB peripheral's packet memory (`__usb_ram_start`) is reached through the APB bridge
one 16-bit `usb_uint` at a time, so byte offset `a` of the memory is a half of word `a / 2`: its
low byte when `a` is even, its high byte when `a` is odd (`byteView`).

`memcpyToUsbram` and `memcpyFromUsbram` are `memcpy_to_usbram` and `memcpy_from_usbram` of
`usb.c`, phase by phase: a read-modify-write (or a half-word read) for an odd leading byte, the
loop over whole words (`copyWordsTo`, `copyWordsFrom`), and a read-modify-write (or a half-word
read) for an odd trailing byte. A C pointer into ordinary memory is a function from offsets to
bytes, and `p += k` is `fun i => p (k + i)`.
-/

namespace Twonkie.Usb

/-- The packet memory as the CPU sees it: `__usb_ram_start[k]` is word `k`. -/
abbrev UsbRam := Nat → UInt16

/-- The bytes at and after a pointer into ordinary memory. -/
abbrev BytePtr := Nat → UInt8

/-- `__usb_ram_start[k] = v`. -/
def UsbRam.set (ram : UsbRam) (k : Nat) (v : UInt16) : UsbRam := Function.update ram k v

@[simp] theorem UsbRam.set_same (ram : UsbRam) (k : Nat) (v : UInt16) : ram.set k v k = v :=
  Function.update_same _ _ _

@[simp] theorem UsbRam.set_ne (ram : UsbRam) {k j : Nat} (v : UInt16) (h : j ≠ k) :
    ram.set k v j = ram j :=
  Function.update_noteq h _ _

/-- The low byte of a word, `w & 0xff` stored in a `uint8_t`. -/
def lo (w : UInt16) : UInt8 := w.toUInt8

/-- The high byte of a word, `w >> 8` stored in a `uint8_t`. -/
def hi (w : UInt16) : UInt8 := (w >>> 8).toUInt8

/-- Byte `a` of packet memory. -/
def byteView (ram : UsbRam) (a : Nat) : UInt8 :=
  if a % 2 = 0 then lo (ram (a / 2)) else hi (ram (a / 2))

/-! ### `memcpy_to_usbram` -/

/-- `k` turns of `for (i = 0; i < n / 2; i++, s += 2) *d++ = (s[1] << 8) | s[0];`
from word `d` and source `s`. -/
def copyWordsTo : Nat → UsbRam → Nat → BytePtr → UsbRam
  | 0, ram, _, _ => ram
  | k + 1, ram, d, s =>
    copyWordsTo k (ram.set d (((s 1).toUInt16 <<< 8) ||| (s 0).toUInt16)) (d + 1) (fun i => s (2 + i))

/-- The word loop and the trailing byte of `memcpy_to_usbram`, for `n` bytes from word `d`:
after the loop, `if (n & 1) *d = (*d & ~0x00ff) | *s;`. -/
def copyTailTo (ram : UsbRam) (d : Nat) (s : BytePtr) (n : Nat) : UsbRam :=
  let ram' := copyWordsTo (n / 2) ram d s
  let d' := d + n / 2
  if n &&& 1 ≠ 0 then ram'.set d' ((ram' d' &&& ~~~(0x00ff : UInt16)) ||| (s (2 * (n / 2))).toUInt16)
  else ram'

/-- `memcpy_to_usbram(dest, src, n)` on packet memory `ram`, `dest` a packet-memory byte offset.
An odd `dest` starts with `*d = (*d & ~0xff00) | (*s << 8); n--; s++; d++;`. -/
def memcpyToUsbram (ram : UsbRam) (dest : Nat) (src : BytePtr) (n : Nat) : UsbRam :=
  if dest &&& 1 ≠ 0 ∧ n ≠ 0 then
    copyTailTo (ram.set (dest / 2) ((ram (dest / 2) &&& ~~~(0xff00 : UInt16)) ||| ((src 0).toUInt16 <<< 8)))
      (dest / 2 + 1) (fun i => src (1 + i)) (n - 1)
  else copyTailTo ram (dest / 2) src n

/-! ### `memcpy_from_usbram` -/

/-- `k` turns of `value = *s++; *d++ = (value >> 0) & 0xff; *d++ = (value >> 8) & 0xff;`
into destination byte `d` from word `s`. -/
def copyWordsFrom : Nat → BytePtr → Nat → Nat → UsbRam → BytePtr
  | 0, dst, _, _, _ => dst
  | k + 1, dst, d, s, ram =>
    copyWordsFrom k
      (Function.update (Function.update dst d (((ram s >>> 0) &&& 0xff).toUInt8)) (d + 1)
        (((ram s >>> 8) &&& 0xff).toUInt8))
      (d + 2) (s + 1) ram

/-- The word loop and the trailing byte of `memcpy_from_usbram`: `if (n & 1) *d = *s;`. -/
def copyTailFrom (dst : BytePtr) (d s n : Nat) (ram : UsbRam) : BytePtr :=
  let dst' := copyWordsFrom (n / 2) dst d s ram
  if n &&& 1 ≠ 0 then Function.update dst' (d + 2 * (n / 2)) (ram (s + n / 2)).toUInt8 else dst'

/-- `memcpy_from_usbram(dest, src, n)`: the bytes of `dst` after the copy, `src` a packet-memory
byte offset. It only reads `ram`. An odd `src` starts with `*d = *s >> 8; n--; s++; d++;`. -/
def memcpyFromUsbram (dst : BytePtr) (ram : UsbRam) (src n : Nat) : BytePtr :=
  if src &&& 1 ≠ 0 ∧ n ≠ 0 then
    copyTailFrom (Function.update dst 0 (ram (src / 2) >>> 8).toUInt8) 1 (src / 2 + 1) (n - 1) ram
  else copyTailFrom dst 0 (src / 2) n ram

end Twonkie.Usb
