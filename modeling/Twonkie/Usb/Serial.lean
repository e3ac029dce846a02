import Twonkie.Usb.Ep0

/-!
# The serial number string (`usb_set_serial`)

With `CONFIG_USB_SERIALNO`, `usb_serialno_desc` points at a writable `struct usb_string_desc`
that `ep0_rx` hands out for the string index `USB_STR_SERIALNO` (the descriptor `usbSerialnoDesc`
of `UsbState`). `usb_set_serial` fills it from a `char` string: at most `USB_STRING_LEN`
characters, up to a `NUL`, each widened to a 16-bit character, then the length and type bytes
(`usbSetSerial`).

`USB_STRING_LEN` and the layout of `struct usb_string_desc` come from `usb_descriptor.h`, which is
not under `src/`: `USB_STRING_LEN` is a parameter here. `usb_load_serial` and `usb_save_serial`
read and write flash through the board and call `usb_set_serial`; they are not modelled.
-/

namespace Twonkie.Usb

/-- Modelled from the spec: `sizeof(struct usb_string_desc)`, the two header bytes and
`USB_STRING_LEN` 16-bit characters. -/
def usbStringDescSize (usbStringLen : Nat) : Nat := 2 * usbStringLen + 2

/-- The `for` loop of `usb_set_serial` at index `i`, with `n = USB_STRING_LEN - i` turns left:
`_data[i] = serialno[i]`, then `break` on a `NUL`. Returns `i` when the loop ends, `_data` then,
and the indices of `serialno` read so far, in order (a turn reads `serialno[i]` twice). -/
def usbSetSerialLoop (serialno : Nat → UInt8) :
    Nat → Nat → (Nat → UInt16) → List Nat → Nat × (Nat → UInt16) × List Nat
  | 0, i, data, reads => (i, data, reads)
  | n + 1, i, data, reads =>
    let data := fun j => if j = i then (serialno i).toUInt16 else data j
    if serialno i = 0 then (i, data, reads ++ [i, i])
    else usbSetSerialLoop serialno n (i + 1) data (reads ++ [i, i])

/-- `usb_set_serial(serialno)` on `*usb_serialno_desc`, for `USB_STRING_LEN = usbStringLen`:
`none` (`EC_ERROR_INVAL`) for a null `serialno`, the descriptor left as it was; otherwise
(`EC_SUCCESS`) the descriptor it leaves, with the indices of `serialno` it read. `char` is
unsigned on the ARM targets, so a character is zero-extended into `_data`; `(i * 2) + 2` is cut to
the `uint8_t` `_len`. -/
def usbSetSerial (usbStringLen : Nat) (serialno : Option (Nat → UInt8)) (sd : UsbStringDesc) :
    Option (UsbStringDesc × List Nat) :=
  match serialno with
  | none => none
  | some serialno =>
    let (i, data, reads) := usbSetSerialLoop serialno usbStringLen 0 sd.data []
    some ({ len := (i * 2 + 2).toUInt8, type := usbDtString, data := data }, reads)

end Twonkie.Usb
