import Mathlib

/-!
# The TPM register interface of `tpm_registers.c`

The FIFO-mode register file of the TPM SPI protocol: a host puts or gets 1 to 64 bytes at a
register address (`tpmRegisterPut`, `tpmRegisterGet`, called in interrupt context), and the TPM
task posts the response of each command it ran (`tpmPostResponse`). The state is the file's
statics: `tpm_` (the state machine, the two FIFO indices, `TPM_ACCESS`, `TPM_STS` and the 2048-byte
`data_fifo`), the firmware version string with its read index, and `reset_in_progress`.

Execution of a command by the TPM library is external: a `response` event carries the bytes it
produced. So are the console prints, the NVMEM and watchdog calls, and what `tpm_init` asks of
the TPM library. `set_version_string` is modelled on what the system calls it makes return
(`VersionInfo`). Here a `response` event stands for the task finishing a command whenever it
does; `Task.lean` adds the task itself, its events and the other tasks that call into this
file.
-/

namespace Twonkie.TpmRegisters

/-! ### Constants -/

/-- Register addresses for FIFO mode. -/
def tpmAccess : UInt32 := 0
def tpmIntfCapability : UInt32 := 0x14
def tpmSts : UInt32 := 0x18
def tpmDataFifo : UInt32 := 0x24
def tpmInterfaceId : UInt32 := 0x30
def tpmDidVid : UInt32 := 0xf00
def tpmRid : UInt32 := 0xf04
def tpmFwVer : UInt32 := 0xf90

def googleVid : UInt32 := 0x1ae0
def googleDid : UInt32 := 0x0028
def cr50Rid : UInt32 := 0

/-- `IF_CAPABILITY_REG`. -/
def ifCapabilityReg : UInt32 := ((3 : UInt32) <<< 28) ||| ((3 : UInt32) <<< 9) ||| 0x15

/-- `enum tpm_access_bits`. -/
def tpmRegValidSts : UInt8 := (1 : UInt8) <<< 7
def activeLocality : UInt8 := (1 : UInt8) <<< 5
def requestUse : UInt8 := (1 : UInt8) <<< 1
def tpmEstablishment : UInt8 := (1 : UInt8) <<< 0

/-- `enum tpm_sts_bits`. -/
def tpmFamilyShift : UInt32 := 26
def tpmFamilyTpm2 : UInt32 := 1
def commandCancel : UInt32 := (1 : UInt32) <<< 24
def burstCountShift : UInt32 := 8
def burstCountMask : UInt32 := ((1 : UInt32) <<< 16) - 1
def stsValid : UInt32 := (1 : UInt32) <<< 7
def commandReady : UInt32 := (1 : UInt32) <<< 6
def tpmGo : UInt32 := (1 : UInt32) <<< 5
def dataAvail : UInt32 := (1 : UInt32) <<< 4
def expect : UInt32 := (1 : UInt32) <<< 3
def responseRetry : UInt32 := (1 : UInt32) <<< 1

/-- `sizeof(tpm_.regs.data_fifo)`. -/
def dataFifoSize : UInt32 := 2048

/-- `sizeof(tpm_fw_ver)`. -/
def tpmFwVerSize : Nat := 80

/-! ### State -/

/-- `enum tpm_states`. -/
inductive TpmStates where
  | idle | ready | receivingCmd | executingCmd | completingCmd
  deriving DecidableEq, Repr

/-- The value of an `enum tpm_states` constant. -/
def TpmStates.toUInt32 : TpmStates → UInt32
  | .idle => 0
  | .ready => 1
  | .receivingCmd => 2
  | .executingCmd => 3
  | .completingCmd => 4

/-- The statics of `tpm_registers.c`. -/
structure Tpm where
  /-- `tpm_.state`. -/
  state : TpmStates
  /-- `tpm_.fifo_read_index`. -/
  fifoReadIndex : UInt32
  /-- `tpm_.fifo_write_index`. -/
  fifoWriteIndex : UInt32
  /-- `tpm_.regs.access`. -/
  access : UInt8
  /-- `tpm_.regs.sts`. -/
  sts : UInt32
  /-- `tpm_.regs.data_fifo`, bytes `0` to `2047`; what lies past them is whatever memory follows. -/
  dataFifo : Nat → UInt8
  /-- `tpm_fw_ver_index`. -/
  tpmFwVerIndex : Nat
  /-- `tpm_fw_ver`. -/
  tpmFwVer : Nat → UInt8
  /-- `reset_in_progress ≠ 0`. -/
  resetInProgress : Bool

/-- `set_tpm_state(state)`: entering `idle` empties the FIFO. -/
def setTpmState (state : TpmStates) (t : Tpm) : Tpm :=
  if state = .idle then { t with state := state, fifoReadIndex := 0, fifoWriteIndex := 0 }
  else { t with state := state }

/-- `single_bit_set(value)`. -/
def singleBitSet (value : UInt32) : Bool :=
  value != 0 && (value &&& (value - 1)) == 0

/-- `copy_bytes(dest, data_size, value)`: the low `min data_size 4` bytes of `value`,
little-endian. -/
def copyBytes (dataSize : UInt32) (value : UInt32) : List UInt8 :=
  (List.range (min dataSize.toNat 4)).map fun i => ((value >>> (i.toUInt32 * 8)) &&& 0xff).toUInt8

/-- `memcpy(&value, data, min(data_size, 4))` on a little-endian machine, `value` being `0`
first. -/
def leValue (data : List UInt8) : UInt32 :=
  ((data.take 4).enum.map fun (i, b) => b.toUInt32 <<< (i.toUInt32 * 8)).foldl (· ||| ·) 0

/-- Modelled from the spec: `be32toh(tpmh->size)`, the command size in the header of a TPM 2.0
command (`struct tpm_cmd_header`, not under `src/`): big-endian, after the 16-bit tag. -/
def cmdHeaderSize (fifo : Nat → UInt8) : UInt32 :=
  ((fifo 2).toUInt32 <<< 24) ||| ((fifo 3).toUInt32 <<< 16) ||| ((fifo 4).toUInt32 <<< 8) |||
    (fifo 5).toUInt32

/-! ### Writes -/

/-- `access_reg_write(data)`. -/
def accessRegWrite (data : UInt8) (t : Tpm) : Tpm :=
  if !singleBitSet data.toUInt32 then t
  else if data = requestUse then { t with access := t.access ||| activeLocality }
  else if data = activeLocality then
    setTpmState .idle { t with access := t.access &&& ~~~activeLocality }
  else t

/-- `sts_reg_write_cr()`: `commandReady` moves `idle` to `ready`, and aborts a command. -/
def stsRegWriteCr (t : Tpm) : Tpm :=
  match t.state with
  | .idle => { setTpmState .ready t with sts := t.sts ||| commandReady }
  | .ready => { t with sts := t.sts ||| commandReady }
  | .completingCmd | .executingCmd | .receivingCmd =>
    { setTpmState .idle t with sts := t.sts &&& ~~~commandReady }

/-- `sts_reg_write_tg()`: `tpmGo` starts the command being received. The guard tests
`tpm_.state & expect`, as the source does. -/
def stsRegWriteTg (t : Tpm) : Tpm :=
  match t.state with
  | .completingCmd | .executingCmd | .idle | .ready => t
  | .receivingCmd => if t.state.toUInt32 &&& expect = 0 then setTpmState .executingCmd t else t

/-- `sts_reg_write_rr()`: `responseRetry` rewinds the response. -/
def stsRegWriteRr (t : Tpm) : Tpm :=
  match t.state with
  | .idle | .ready | .receivingCmd | .executingCmd => t
  | .completingCmd => { t with fifoReadIndex := 0 }

/-- `sts_reg_write(data, data_size)`: only one bit may be written at a time. -/
def stsRegWrite (data : List UInt8) (t : Tpm) : Tpm :=
  let value := leValue data
  if !singleBitSet value then t
  else if value = commandReady then stsRegWriteCr t
  else if value = tpmGo then stsRegWriteTg t
  else if value = responseRetry then stsRegWriteRr t
  else t

/-- `memcpy(tpm_.regs.data_fifo + start, data, data_size)`. -/
def copyToFifo (fifo : Nat → UInt8) (start : Nat) (data : List UInt8) : Nat → UInt8 := fun i =>
  if start ≤ i ∧ i < start + data.length then data.getD (i - start) 0 else fifo i

/-- The end of `fifo_reg_write`, once the data is in: set `expect` until the FIFO holds the
whole command its header announces. -/
def fifoExpect (t : Tpm) : Tpm :=
  if t.fifoWriteIndex < 6 then { t with sts := t.sts ||| expect }
  else if t.fifoWriteIndex < cmdHeaderSize t.dataFifo then { t with sts := t.sts ||| expect }
  else { t with sts := t.sts &&& ~~~expect }

/-- `fifo_reg_write(data, data_size)`: collect command bytes; a write past the end of the
buffer resets the write index and goes back to `ready`. -/
def fifoRegWrite (data : List UInt8) (t : Tpm) : Tpm :=
  let dataSize := data.length.toUInt32
  let t := if t.state = .ready ∧ t.fifoWriteIndex = 0 then setTpmState .receivingCmd t else t
  if t.state ≠ .receivingCmd then t
  else if t.fifoWriteIndex + dataSize > dataFifoSize then
    setTpmState .ready { t with fifoWriteIndex := 0 }
  else
    fifoExpect { t with
      dataFifo := copyToFifo t.dataFifo t.fifoWriteIndex.toNat data
      fifoWriteIndex := t.fifoWriteIndex + dataSize }

/-- `tpm_register_put(regaddr, data, data_size)`, `data_size` being the length of `data`. A
write to `TPM_ACCESS` reads `data[0]` whatever `data_size` is. -/
def tpmRegisterPut (regaddr : UInt32) (data : List UInt8) (t : Tpm) : Tpm :=
  if t.resetInProgress then t
  else if regaddr = tpmAccess then accessRegWrite (data.getD 0 0) t
  else if regaddr = tpmSts then stsRegWrite data t
  else if regaddr = tpmDataFifo then fifoRegWrite data t
  else if regaddr = tpmFwVer then { t with tpmFwVerIndex := 0 }
  else t

/-! ### Reads -/

/-- The new `TPM_STS` after a FIFO read: the burst count is what is left, at most 63; once
nothing is left, 63 for the next command with `dataAvail` and `commandReady` cleared. -/
def stsAfterRead (sts write read : UInt32) : UInt32 :=
  let sts := sts &&& ~~~(burstCountMask <<< burstCountShift)
  if write = read then (sts &&& ~~~(dataAvail ||| commandReady)) ||| ((63 : UInt32) <<< burstCountShift)
  else sts ||| (min (write - read) 63 <<< burstCountShift)

/-- `fifo_reg_read(dest, data_size)`: the bytes copied to `dest`, and the new state. The amount
left, `still_in_fifo`, is an unsigned difference. -/
def fifoRegRead (dataSize : UInt32) (t : Tpm) : List UInt8 × Tpm :=
  let stillInFifo := t.fifoWriteIndex - t.fifoReadIndex
  let dataSize := min dataSize stillInFifo
  let bytes := (List.range dataSize.toNat).map fun i => t.dataFifo (t.fifoReadIndex.toNat + i)
  let read := t.fifoReadIndex + dataSize
  (bytes, { t with
    fifoReadIndex := read
    sts := stsAfterRead t.sts t.fifoWriteIndex read })

/-- The `TPM_FW_VER` loop of `tpm_register_get`, for `n` bytes: the string up to its `NUL`, then
that `NUL` over and over. -/
def fwVerRead : Nat → Tpm → List UInt8 × Tpm
  | 0, t => ([], t)
  | n + 1, t =>
    if t.tpmFwVerIndex < tpmFwVerSize then
      let b := t.tpmFwVer t.tpmFwVerIndex
      let t' := if b ≠ 0 then { t with tpmFwVerIndex := t.tpmFwVerIndex + 1 } else t
      let r := fwVerRead n t'
      (b :: r.1, r.2)
    else
      let r := fwVerRead n t
      (0 :: r.1, r.2)

/-- `tpm_register_get(regaddr, dest, data_size)`: the bytes written to `dest`, and the new
state. -/
def tpmRegisterGet (regaddr : UInt32) (dataSize : UInt32) (t : Tpm) : List UInt8 × Tpm :=
  if t.resetInProgress then ([], t)
  else if regaddr = tpmDidVid then (copyBytes dataSize ((googleDid <<< 16) ||| googleVid), t)
  else if regaddr = tpmRid then (copyBytes dataSize cr50Rid, t)
  else if regaddr = tpmIntfCapability then (copyBytes dataSize ifCapabilityReg, t)
  else if regaddr = tpmAccess then (copyBytes dataSize t.access.toUInt32, t)
  else if regaddr = tpmSts then (copyBytes dataSize t.sts, t)
  else if regaddr = tpmDataFifo then fifoRegRead dataSize t
  else if regaddr = tpmFwVer then fwVerRead dataSize.toNat t
  else ([], t)

/-! ### The version string -/

/-- What `set_version_string` gets from the system: `system_get_chip_revision()`,
`system_get_board_version()`, whether the RO and the RW copy running are `SYSTEM_IMAGE_RO` and
`SYSTEM_IMAGE_RW`, and `system_get_version` of each. A string is its bytes. -/
structure VersionInfo where
  chipRevision : List UInt8
  boardVersion : Int
  roIsA : Bool
  roVersion : List UInt8
  rwIsA : Bool
  rwVersion : List UInt8

/-- The bytes of an ASCII string literal of the source. -/
def asciiBytes (s : String) : List UInt8 := s.toList.map fun c => c.toNat.toUInt8

/-- What `%s` prints for a C string: its bytes up to the `NUL`. -/
def cStringBytes (s : List UInt8) : List UInt8 := s.takeWhile (· ≠ 0)

/-- What `%d` prints for an `int`: a minus sign for a negative value, then the decimal digits. -/
def decimalBytes (n : Int) : List UInt8 :=
  (if n < 0 then asciiBytes "-" else []) ++ (Nat.toDigits 10 n.natAbs).map fun c => c.toNat.toUInt8

/-- What `%c` prints for `(copy == A ? 'A' : 'B')`. -/
def imageLetter (isA : Bool) : List UInt8 := asciiBytes (if isA then "A" else "B")

/-- What `"%s:%d RO_%c:%s"` prints. -/
def versionRo (v : VersionInfo) : List UInt8 :=
  cStringBytes v.chipRevision ++ asciiBytes ":" ++ decimalBytes v.boardVersion ++
    asciiBytes " RO_" ++ imageLetter v.roIsA ++ asciiBytes ":" ++ cStringBytes v.roVersion

/-- What `" RW_%c:%s"` prints. -/
def versionRw (v : VersionInfo) : List UInt8 :=
  asciiBytes " RW_" ++ imageLetter v.rwIsA ++ asciiBytes ":" ++ cStringBytes v.rwVersion

/-- `snprintf(buf + offset, size, ...)` printing `out`: at most `size - 1` bytes of it, then a
`NUL`; nothing when `size` is `0`. -/
def snprintfAt (buf : Nat → UInt8) (offset size : Nat) (out : List UInt8) : Nat → UInt8 := fun i =>
  if size = 0 then buf i
  else if offset ≤ i ∧ i < offset + min out.length (size - 1) then out.getD (i - offset) 0
  else if i = offset + min out.length (size - 1) then 0
  else buf i

/-- `strlen(buf + i)`, looking at `fuel` bytes at most. -/
def strlenFrom (buf : Nat → UInt8) : Nat → Nat → Nat
  | 0, _ => 0
  | fuel + 1, i => if buf i = 0 then 0 else strlenFrom buf fuel (i + 1) + 1

/-- `set_version_string()` on `tpm_fw_ver`: the RO part, then the RW part after it unless the RO
part filled the buffer. -/
def setVersionString (v : VersionInfo) (tpmFwVer : Nat → UInt8) : Nat → UInt8 :=
  let buf := snprintfAt tpmFwVer 0 tpmFwVerSize (versionRo v)
  let offset := strlenFrom buf tpmFwVerSize 0
  if offset = tpmFwVerSize - 1 then buf
  else snprintfAt buf offset (tpmFwVerSize - offset) (versionRw v)

/-! ### The TPM task -/

/-- `(tpm_family_tpm2 << tpm_family_shift) | (63 << burst_count_shift) | sts_valid`, the value
`tpm_init` gives `TPM_STS`, as the number it is (`tpmStsInit_eq`). -/
def tpmStsInit : UInt32 := 0x04003f80

theorem tpmStsInit_eq :
    tpmStsInit = (tpmFamilyTpm2 <<< tpmFamilyShift) ||| ((63 : UInt32) <<< burstCountShift) |||
      stsValid := by
  decide

/-- `tpm_init()`: unless a rolling reboot is suspected, go idle with an empty FIFO and the reset
values of `TPM_ACCESS` and `TPM_STS`; `version` is the string `set_version_string` leaves. -/
def tpmInit (rollingReboot : Bool) (version : Nat → UInt8) (t : Tpm) : Tpm :=
  if rollingReboot then t
  else
    { setTpmState .idle t with
      access := tpmRegValidSts
      sts := tpmStsInit
      tpmFwVer := version }

/-- `tpm_reset_request(...)`: refused while a reset is in progress. -/
def tpmResetRequest (t : Tpm) : Tpm :=
  if t.resetInProgress then t else { t with resetInProgress := true }

/-- `tpm_reset_now(...)`: this file's zero-initialised statics are cleared with the TPM
library's, then `tpm_init` runs and the reset is over. -/
def tpmResetNow (rollingReboot : Bool) (version : Nat → UInt8) (t : Tpm) : Tpm :=
  let t : Tpm :=
    { state := .idle, fifoReadIndex := 0, fifoWriteIndex := 0, access := 0, sts := 0,
      dataFifo := fun _ => 0, tpmFwVerIndex := 0, tpmFwVer := fun _ => 0,
      resetInProgress := t.resetInProgress }
  { tpmInit rollingReboot version t with resetInProgress := false }

/-- The end of the command loop of `tpm_task`, once the command has run and produced
`response`: a response of 1 to 2048 bytes is put in the FIFO to be read, anything else is
dropped. -/
def tpmPostResponse (response : List UInt8) (t : Tpm) : Tpm :=
  let responseSize := response.length
  if responseSize ≠ 0 ∧ responseSize ≤ dataFifoSize.toNat then
    let t := setTpmState .completingCmd
      { t with
        dataFifo := copyToFifo t.dataFifo 0 response
        fifoReadIndex := 0
        fifoWriteIndex := responseSize.toUInt32 }
    { t with
      sts := (t.sts &&& ~~~(burstCountMask <<< burstCountShift)) |||
        (min responseSize.toUInt32 63 <<< burstCountShift) ||| dataAvail }
  else t

/-! ### Runs -/

/-- What can happen to the register file: a register access by the host, a reset of the TPM,
or the TPM task posting a response. -/
inductive TpmEvent where
  | put (regaddr : UInt32) (data : List UInt8)
  | get (regaddr : UInt32) (dataSize : UInt32)
  | resetRequest
  | resetNow (rollingReboot : Bool) (version : Nat → UInt8)
  | response (response : List UInt8)

/-- One event. -/
def tpmStep (t : Tpm) : TpmEvent → Tpm
  | .put regaddr data => tpmRegisterPut regaddr data t
  | .get regaddr dataSize => (tpmRegisterGet regaddr dataSize t).2
  | .resetRequest => tpmResetRequest t
  | .resetNow rollingReboot version => tpmResetNow rollingReboot version t
  | .response response => tpmPostResponse response t

/-- A run of events. -/
def tpmRun (t : Tpm) (evs : List TpmEvent) : Tpm :=
  evs.foldl tpmStep t

@[simp] theorem tpmRun_nil (t : Tpm) : tpmRun t [] = t := rfl

@[simp] theorem tpmRun_cons (t : Tpm) (e : TpmEvent) (evs : List TpmEvent) :
    tpmRun t (e :: evs) = tpmRun (tpmStep t e) evs := rfl

theorem tpmRun_append (t : Tpm) (evs evs' : List TpmEvent) :
    tpmRun t (evs ++ evs') = tpmRun (tpmRun t evs) evs' :=
  List.foldl_append _ _ _ _

end Twonkie.TpmRegisters
