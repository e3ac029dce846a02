import Twonkie.Tpm.Equiv.Task
import Twonkie.Tpm.Equiv.Locality

/-!
# The commands the TPM task runs, and the register file it drives

A command with a custom code goes through `call_extension_command`, which hands the bytes after
the 12-byte header to the extension handler and rewrites the header in place: `size` becomes
`*total_size`, the length of the response, and `command_code` the handler's return code. The
response is then posted from the FIFO itself, where the other commands' responses are copied.

* `be32_decode_encode`: `be32toh` undoes `htobe32`, so the `size` the header is given reads back
  as written.
* `tpmRunCommand_eq`: while the handler keeps to the room it is given, running a command is
  posting `commandResponse`, the bytes from the start of the FIFO for a custom code.
* `tpmSystemRun_resetNow`, `tpmSystemRun_firstReset`, `tpmSystemRun_command`: the statements of
  `tpm_reset_now` and of a command, run back to back by the task alone, are the atomic
  `tpmResetNow` and `tpmRunCommand`. The two writes of the rewritten header are one write of
  eight bytes (`TpmRegisters.copyToFifo_append`), and posting a response from the FIFO itself
  copies nothing (`copyToFifo_map_range_self`).
* `extension_response_size`: the posted response of every custom command whose header holds a
  `size` carries its own length in that `size`, whether the handler ran or the command was too
  short for it.
* `extension_command_round_trip`: after `TPM_GO`, the task's next twelve statements leave in the
  FIFO, for the host to read, the header `call_extension_command` writes followed by what the
  handler answered (`extensionResponse`).
* `tpmSystemRun_regsOk`: from boot, every run keeps the write index inside `data_fifo` and, once
  the task's first `tpm_init` has set them, `TPM_STS` and `TPM_ACCESS` well formed outside the
  statements of a later reset between its `memset` and its store of `TPM_STS`. The value the
  command loop stores in `TPM_STS` is computed from the one it read, so it is carried in the
  task's place (`CommandStep.Ok`) between the two.
-/

namespace Twonkie.TpmTask

open TpmRegisters (Tpm tpmPostResponse tpmRegisterGet copyToFifo cmdHeaderSize
  dataFifoSize setTpmState burstCountMask burstCountShift dataAvail tpmRegValidSts activeLocality
  RegsValid StsOk)

/-! ### `htobe32` and `be32toh` -/

theorem uInt32_toNat_or (a b : UInt32) : (a ||| b).toNat = a.toNat ||| b.toNat :=
  BitVec.toNat_or _ _

theorem uInt32_toNat_shiftLeft (x k : UInt32) (hk : k.toNat < 32) :
    (x <<< k).toNat = x.toNat <<< k.toNat % 2 ^ 32 := by
  show (x.toBitVec <<< (UInt32.mod k 32).toBitVec.toNat).toNat = _
  rw [BitVec.toNat_shiftLeft]
  show x.toNat <<< (k.toNat % 32) % 2 ^ 32 = _
  rw [Nat.mod_eq_of_lt hk]

theorem uInt32_toNat_shiftRight (x k : UInt32) (hk : k.toNat < 32) :
    (x >>> k).toNat = x.toNat >>> k.toNat := by
  show (x.toBitVec >>> (UInt32.mod k 32).toBitVec.toNat).toNat = _
  rw [BitVec.toNat_ushiftRight]
  show x.toNat >>> (k.toNat % 32) = _
  rw [Nat.mod_eq_of_lt hk]

/-- `be32toh` of the bytes `htobe32(v)` stores is `v`: each byte holds its eight bits of `v`. -/
theorem be32_decode_encode (v : UInt32) :
    ((v >>> 24).toUInt8.toUInt32 <<< 24) ||| ((v >>> 16).toUInt8.toUInt32 <<< 16) |||
      ((v >>> 8).toUInt8.toUInt32 <<< 8) ||| v.toUInt8.toUInt32 = v := by
  apply UInt32.toNat.inj
  have hv : v.toNat < 2 ^ 32 := v.toBitVec.isLt
  have hb : ∀ x : UInt32, x.toUInt8.toUInt32.toNat = x.toNat % 2 ^ 8 := UInt32.toUInt8_toNat
  simp only [uInt32_toNat_or, uInt32_toNat_shiftLeft _ _ (by decide : (24 : UInt32).toNat < 32),
    uInt32_toNat_shiftLeft _ _ (by decide : (16 : UInt32).toNat < 32),
    uInt32_toNat_shiftLeft _ _ (by decide : (8 : UInt32).toNat < 32), hb,
    uInt32_toNat_shiftRight _ _ (by decide : (24 : UInt32).toNat < 32),
    uInt32_toNat_shiftRight _ _ (by decide : (16 : UInt32).toNat < 32),
    uInt32_toNat_shiftRight _ _ (by decide : (8 : UInt32).toNat < 32),
    show (24 : UInt32).toNat = 24 from rfl, show (16 : UInt32).toNat = 16 from rfl,
    show (8 : UInt32).toNat = 8 from rfl]
  apply Nat.eq_of_testBit_eq
  intro j
  simp only [Nat.testBit_or, Nat.testBit_mod_two_pow, Nat.testBit_shiftRight, Nat.testBit_shiftLeft]
  by_cases h32 : j < 32
  · obtain h | h | h | h : j < 8 ∨ (8 ≤ j ∧ j < 16) ∨ (16 ≤ j ∧ j < 24) ∨ 24 ≤ j := by omega
    · simp [h, h32, show ¬ 8 ≤ j by omega, show ¬ 16 ≤ j by omega, show ¬ 24 ≤ j by omega]
    · simp [h32, show ¬ 16 ≤ j by omega, show ¬ 24 ≤ j by omega, show j - 8 < 8 by omega,
        Nat.add_sub_cancel' h.1, show ¬ j < 8 by omega, h.1]
    · simp [h32, show 8 ≤ j by omega, show ¬ 24 ≤ j by omega, show j - 16 < 8 by omega,
        show ¬ j - 8 < 8 by omega, Nat.add_sub_cancel' h.1, show ¬ j < 8 by omega, h.1]
    · simp [h32, show 8 ≤ j by omega, show 16 ≤ j by omega, show j - 24 < 8 by omega,
        show ¬ j - 8 < 8 by omega, show ¬ j - 16 < 8 by omega, Nat.add_sub_cancel' h,
        show ¬ j < 8 by omega, h]
  · have hj : v.toNat.testBit j = false :=
      Nat.testBit_lt_two_pow (lt_of_lt_of_le hv (Nat.pow_le_pow_right (by decide) (by omega)))
    simp [h32, hj]

theorem copyToFifo_of_lt (fifo : Nat → UInt8) (start : Nat) (data : List UInt8) {i : Nat}
    (h₁ : start ≤ i) (h₂ : i < start + data.length) :
    copyToFifo fifo start data i = data.getD (i - start) 0 :=
  if_pos ⟨h₁, h₂⟩

/-- The header's `size` reads bytes 2 to 5 only. -/
theorem cmdHeaderSize_congr {f g : Nat → UInt8} (h : ∀ i, 2 ≤ i → i < 6 → f i = g i) :
    cmdHeaderSize f = cmdHeaderSize g := by
  rw [cmdHeaderSize, cmdHeaderSize, h 2 (by omega) (by omega), h 3 (by omega) (by omega),
    h 4 (by omega) (by omega), h 5 (by omega) (by omega)]

/-- The `size` a header holds after `htobe32(v)` is stored in it, with anything after it. -/
theorem cmdHeaderSize_be32 (fifo : Nat → UInt8) (v : UInt32) (rest : List UInt8) :
    cmdHeaderSize (copyToFifo fifo 2 (be32Bytes v ++ rest)) = v := by
  have hl : (be32Bytes v).length = 4 := rfl
  have hc : ∀ i, 2 ≤ i → i < 6 →
      copyToFifo fifo 2 (be32Bytes v ++ rest) i = (be32Bytes v).getD (i - 2) 0 := fun i h₁ h₂ => by
    rw [copyToFifo_of_lt _ _ _ h₁ (by rw [List.length_append]; omega),
      List.getD_append _ _ _ _ (by omega)]
  rw [cmdHeaderSize_congr hc]
  exact be32_decode_encode v

/-! ### Running a command -/

/-- The contract of the extension handler: its response fits in the room it is given. -/
def TaskInput.HandlerOk (input : TaskInput) : Prop :=
  ∀ subcommand request requestSize room,
    (input.extension subcommand request requestSize room).body.length ≤ room.toNat

/-- The response the command loop posts for the command in the FIFO of `t`: for a custom code,
the first `*total_size` bytes of the FIFO `call_extension_command` leaves, and otherwise what
`ExecuteCommand` produced. -/
def commandResponse (input : TaskInput) (t : Tpm) : List UInt8 :=
  if isCustomCode (commandCode t.dataFifo) then
    let (fifo, responseSize) := callExtensionCommand input.extension t.dataFifo dataFifoSize
    (List.range responseSize.toNat).map fifo
  else input.response

/-- Posting the first `n` bytes of a FIFO that already holds them, however the FIFO came to differ
from the register file's before them. -/
theorem tpmPostResponse_own (t : Tpm) (fifo : Nat → UInt8) {n : Nat} (hn : n ≠ 0 ∧ n ≤ 2048)
    (h : ∀ i, n ≤ i → fifo i = t.dataFifo i) :
    tpmPostResponse ((List.range n).map fifo) { t with dataFifo := fifo } =
      tpmPostResponse ((List.range n).map fifo) t := by
  have hf : copyToFifo fifo 0 ((List.range n).map fifo) =
      copyToFifo t.dataFifo 0 ((List.range n).map fifo) := funext fun i => by
    simp only [copyToFifo, List.length_map, List.length_range]
    split_ifs with hi
    · rfl
    · exact h i (by omega)
  simp only [tpmPostResponse, List.length_map, List.length_range, TpmRegisters.dataFifoSize_toNat,
    if_pos hn, hf]

/-- `call_extension_command` with room for the header: the handler's response after the header,
and the header's `size` and `command_code` rewritten. -/
theorem callExtensionCommand_of_le (route : UInt16 → (Nat → UInt8) → UInt32 → UInt32 → ExtensionReply)
    (fifo : Nat → UInt8) (totalSize : UInt32)
    (hs : sizeofTpmCmdHeader ≤ (cmdHeaderSize fifo).toNat) :
    callExtensionCommand route fifo totalSize =
      let reply := route (subcommandCode fifo) (fun i => fifo (sizeofTpmCmdHeader + i))
        (cmdHeaderSize fifo - sizeofTpmCmdHeader.toUInt32) (totalSize - sizeofTpmCmdHeader.toUInt32)
      let totalSize := reply.body.length.toUInt32 + sizeofTpmCmdHeader.toUInt32
      (copyToFifo (copyToFifo fifo sizeofTpmCmdHeader reply.body) 2
        (be32Bytes totalSize ++ be32Bytes (if reply.rc ≠ 0 then reply.rc ||| vendorRcErr else reply.rc)),
        totalSize) :=
  if_pos hs

/-- A command too short for the header is left alone, its `size` taken as the response's. -/
theorem callExtensionCommand_of_lt (route : UInt16 → (Nat → UInt8) → UInt32 → UInt32 → ExtensionReply)
    (fifo : Nat → UInt8) (totalSize : UInt32)
    (hs : (cmdHeaderSize fifo).toNat < sizeofTpmCmdHeader) :
    callExtensionCommand route fifo totalSize = (fifo, cmdHeaderSize fifo) :=
  if_neg (by omega)

theorem be32Bytes_append_length (a b : UInt32) : (be32Bytes a ++ be32Bytes b).length = 8 := rfl

/-- A response of `len` bytes after the header is `len + 12` bytes in all, if the handler kept to
the 2036 bytes it was given. -/
theorem totalSize_toNat {len : Nat} (h : len ≤ (dataFifoSize - sizeofTpmCmdHeader.toUInt32).toNat) :
    (len.toUInt32 + sizeofTpmCmdHeader.toUInt32).toNat = len + sizeofTpmCmdHeader := by
  have h' : len ≤ 2036 := h
  have h12 : sizeofTpmCmdHeader.toUInt32.toNat = 12 := rfl
  rw [TpmRegisters.uInt32_toNat_add, TpmRegisters.toNat_toUInt32 (by omega), h12]
  exact Nat.mod_eq_of_lt (by omega)

/-- What `call_extension_command` leaves, while the handler keeps to its room: a command too
short for the header as it is, its `size` taken as the response's; or a response of 12 to 2048
bytes whose `size` field is its length, the FIFO past it as it was. -/
theorem callExtensionCommand_cases
    (route : UInt16 → (Nat → UInt8) → UInt32 → UInt32 → ExtensionReply) (fifo : Nat → UInt8)
    (hroute : ∀ subcommand request requestSize room,
      (route subcommand request requestSize room).body.length ≤ room.toNat) :
    ((cmdHeaderSize fifo).toNat < sizeofTpmCmdHeader ∧
        callExtensionCommand route fifo dataFifoSize = (fifo, cmdHeaderSize fifo)) ∨
      (sizeofTpmCmdHeader ≤ (callExtensionCommand route fifo dataFifoSize).2.toNat ∧
        (callExtensionCommand route fifo dataFifoSize).2.toNat ≤ 2048 ∧
        cmdHeaderSize (callExtensionCommand route fifo dataFifoSize).1 =
          (callExtensionCommand route fifo dataFifoSize).2 ∧
        ∀ i, (callExtensionCommand route fifo dataFifoSize).2.toNat ≤ i →
          (callExtensionCommand route fifo dataFifoSize).1 i = fifo i) := by
  by_cases hs : sizeofTpmCmdHeader ≤ (cmdHeaderSize fifo).toNat
  · right
    rw [callExtensionCommand_of_le _ _ _ hs]
    dsimp only
    have hb := hroute (subcommandCode fifo) (fun i => fifo (sizeofTpmCmdHeader + i))
      (cmdHeaderSize fifo - sizeofTpmCmdHeader.toUInt32) (dataFifoSize - sizeofTpmCmdHeader.toUInt32)
    have hroom : (dataFifoSize - sizeofTpmCmdHeader.toUInt32).toNat = 2036 := rfl
    have h12 : sizeofTpmCmdHeader = 12 := rfl
    rw [totalSize_toNat hb, cmdHeaderSize_be32]
    refine ⟨by omega, by omega, rfl, fun i hi => ?_⟩
    rw [TpmRegisters.copyToFifo_of_le _ _ _ (by rw [be32Bytes_append_length]; omega),
      TpmRegisters.copyToFifo_of_le _ _ _ (by omega)]
  · exact .inl ⟨by omega, callExtensionCommand_of_lt _ _ _ (by omega)⟩

/-- **Running a command is posting its response**, while the extension handler keeps to its
room: the header rewritten in place by `call_extension_command` lies inside the response. -/
theorem tpmRunCommand_eq (input : TaskInput) (t : Tpm) (hh : input.HandlerOk) :
    tpmRunCommand input t = tpmPostResponse (commandResponse input t) t := by
  unfold tpmRunCommand commandResponse
  split_ifs
  · have hcases := callExtensionCommand_cases input.extension t.dataFifo hh
    generalize callExtensionCommand input.extension t.dataFifo dataFifoSize = r at hcases ⊢
    obtain ⟨fifo, n⟩ := r
    rcases hcases with ⟨-, hr⟩ | ⟨h12, h2048, -, hout⟩
    · cases hr
      rfl
    · exact tpmPostResponse_own _ _ ⟨by simp only [sizeofTpmCmdHeader] at h12; omega, h2048⟩ hout
  · rfl

/-! ### Run back to back -/

/-- `tpm_reset_now(w)` from its first statement, called in the command loop or as the first
reset, run back to back. -/
theorem tpmSystemRun_reset (w : Bool) (input : TaskInput) (s : TpmSystem)
    (hpc : s.pc = .resetNow w .wipeResult ∨ s.pc = .firstReset .wipeResult ∧ w = false) :
    ∃ n, tpmSystemRun s (List.replicate n (.task input)) = (tpmResetNow w input s, [.cleared]) := by
  obtain ⟨pc, regs, events, wr, wres, waiting, callers, callerReset, ce, rp⟩ := s
  obtain ⟨apOn, rollingReboot, v, er, resp, ext⟩ := input
  dsimp only at hpc
  -- `tpm_init` is skipped on a suspected rolling reboot, the notification with no waiter
  rcases hpc with rfl | ⟨rfl, rfl⟩ <;> cases rollingReboot <;> cases waiting
  exacts [⟨13, by rfl⟩, ⟨15, by rfl⟩, ⟨6, by rfl⟩, ⟨8, by rfl⟩, ⟨13, by rfl⟩, ⟨15, by rfl⟩,
    ⟨6, by rfl⟩, ⟨8, by rfl⟩]

/-- **The statements of `tpm_reset_now` in the command loop, run back to back, are
`tpmResetNow`**, and show only the `memset`. -/
theorem tpmSystemRun_resetNow (w : Bool) (input : TaskInput) (s : TpmSystem)
    (hpc : s.pc = .resetNow w .wipeResult) :
    ∃ n, tpmSystemRun s (List.replicate n (.task input)) = (tpmResetNow w input s, [.cleared]) :=
  tpmSystemRun_reset w input s (.inl hpc)

/-- Task `1` asks for a reset with a wipe after the first reset, and the task takes it. -/
def wipeTaken : TpmSystem :=
  (tpmSystemRun (.boot false .ecSuccess false) (List.replicate 14 (.task apOnInput) ++
    .resetRequest 1 false false true :: List.replicate 4 (.caller 1) ++
    List.replicate 2 (.task apOnInput))).1

theorem tpmSystemRun_resetNow_wipe :
    wipeTaken.pc = .resetNow true .wipeResult ∧
      ∃ n, tpmSystemRun wipeTaken (List.replicate n (.task apOnInput)) =
        (tpmResetNow true apOnInput wipeTaken, [.cleared]) :=
  ⟨by decide, tpmSystemRun_resetNow _ _ _ (by decide)⟩

/-- The first reset, `tpm_reset_now(0)`, likewise: it leaves the register file that the
register-level results start from. -/
theorem tpmSystemRun_firstReset (input : TaskInput) (s : TpmSystem)
    (hpc : s.pc = .firstReset .wipeResult) :
    ∃ n, tpmSystemRun s (List.replicate n (.task input)) =
      (tpmResetNow false input s, [.cleared]) :=
  tpmSystemRun_reset false input s (.inr ⟨hpc, rfl⟩)

theorem getD_map_range (f : Nat → UInt8) {n i : Nat} (h : i < n) :
    ((List.range n).map f).getD i 0 = f i := by
  rw [List.getD_eq_getElem _ _ (by simpa using h), List.getElem_map, List.getElem_range]

/-- Copying the FIFO's own first bytes onto it leaves it as it is. -/
theorem copyToFifo_map_range_self (fifo : Nat → UInt8) (n : Nat) :
    copyToFifo fifo 0 ((List.range n).map fifo) = fifo := by
  funext i
  simp only [copyToFifo, List.length_map, List.length_range, Nat.zero_le, true_and, Nat.zero_add,
    Nat.sub_zero]
  split_ifs with h
  · exact getD_map_range fifo h
  · rfl

/-- The register file once a response of `n` bytes is in the FIFO and posted. -/
def postedRegs (n : Nat) (t : Tpm) : Tpm :=
  let t := setTpmState .completingCmd { t with fifoReadIndex := 0, fifoWriteIndex := n.toUInt32 }
  { t with sts := (t.sts &&& ~~~(burstCountMask <<< burstCountShift)) |||
      (min n.toUInt32 63 <<< burstCountShift) ||| dataAvail }

theorem tpmPostResponse_of_fits (response : List UInt8) (t : Tpm)
    (h : response.length ≠ 0 ∧ response.length ≤ dataFifoSize.toNat) :
    tpmPostResponse response t =
      postedRegs response.length { t with dataFifo := copyToFifo t.dataFifo 0 response } :=
  if_pos h

theorem tpmPostResponse_map_range (t : Tpm) (fifo : Nat → UInt8) {n : Nat}
    (h : n ≠ 0 ∧ n ≤ dataFifoSize.toNat) :
    tpmPostResponse ((List.range n).map fifo) { t with dataFifo := fifo } =
      postedRegs n { t with dataFifo := fifo } := by
  rw [tpmPostResponse_of_fits _ _ (by simpa using h), copyToFifo_map_range_self]
  simp only [List.length_map, List.length_range]

/-- From `tpm_.fifo_read_index = 0` on, the five statements that post a response of `n` bytes. -/
theorem tpmSystemRun_post (input : TaskInput) (s : TpmSystem) (n : Nat)
    (hpc : s.pc = .command (.readIndex n)) :
    tpmSystemRun s (List.replicate 5 (.task input)) =
      ({ s with regs := postedRegs n s.regs, pc := .waitEvent }, [.response]) := by
  obtain ⟨pc, regs, events, wr, wres, waiting, callers, callerReset, ce, rp⟩ := s
  dsimp only at hpc
  subst hpc
  rfl

/-- The statements of an extension command with room for the header, up to the rewritten
header: the FIFO is the one `call_extension_command` leaves, and its response is to be posted. -/
theorem tpmSystemRun_extension (input : TaskInput) (s : TpmSystem) (hh : input.HandlerOk)
    (hpc : s.pc = .command (.execute (commandCode s.regs.dataFifo)))
    (hc : isCustomCode (commandCode s.regs.dataFifo))
    (hroom : sizeofTpmCmdHeader ≤ (cmdHeaderSize s.regs.dataFifo).toNat) :
    tpmSystemRun s (List.replicate 5 (.task input)) =
      ({ s with
          regs := { s.regs with
            dataFifo := (callExtensionCommand input.extension s.regs.dataFifo dataFifoSize).1 }
          pc := .command (.readIndex
            (callExtensionCommand input.extension s.regs.dataFifo dataFifoSize).2.toNat) }, []) := by
  rw [callExtensionCommand_of_le _ _ _ hroom]
  set reply := input.extension (subcommandCode s.regs.dataFifo)
    (fun i => s.regs.dataFifo (sizeofTpmCmdHeader + i))
    (cmdHeaderSize s.regs.dataFifo - sizeofTpmCmdHeader.toUInt32)
    (dataFifoSize - sizeofTpmCmdHeader.toUInt32)
  have hb : reply.body.length ≤ 2036 := hh _ _ _ _
  have hfits : (reply.body.length.toUInt32 + sizeofTpmCmdHeader.toUInt32).toNat ≠ 0 ∧
      (reply.body.length.toUInt32 + sizeofTpmCmdHeader.toUInt32).toNat ≤ dataFifoSize.toNat := by
    rw [totalSize_toNat hb, TpmRegisters.dataFifoSize_toNat, sizeofTpmCmdHeader]
    omega
  simp only [List.replicate, tpmSystemRun_cons, tpmSystemRun_nil, tpmSystemStep, tpmTask, hpc,
    tpmCommandStep, hc, if_true, ge_iff_le, hroom, postIfFits, if_pos hfits]
  -- `size` then `command_code`: one write of the eight bytes
  rw [← TpmRegisters.copyToFifo_append]
  rfl

/-- An extension command with room for the header, run back to back in ten statements. -/
theorem tpmSystemRun_runExtension (input : TaskInput) (s : TpmSystem) (hh : input.HandlerOk)
    (hpc : s.pc = .command (.execute (commandCode s.regs.dataFifo)))
    (hc : isCustomCode (commandCode s.regs.dataFifo))
    (hroom : sizeofTpmCmdHeader ≤ (cmdHeaderSize s.regs.dataFifo).toNat) :
    tpmSystemRun s (List.replicate 10 (.task input)) =
      ({ s with regs := tpmRunCommand input s.regs, pc := .waitEvent }, [.response]) := by
  rw [show 10 = 5 + 5 from rfl, List.replicate_add, tpmSystemRun_append,
    tpmSystemRun_extension input s hh hpc hc hroom, tpmSystemRun_post _ _ _ rfl]
  rcases callExtensionCommand_cases input.extension s.regs.dataFifo hh with ⟨hlt, -⟩ | ⟨h12, h2048, -⟩
  · omega
  · simp only [sizeofTpmCmdHeader] at h12
    rw [tpmRunCommand, if_pos hc]
    dsimp only
    rw [tpmPostResponse_map_range _ _ ⟨by omega, h2048⟩]
    rfl

/-- **The statements of a command, run back to back, are `tpmRunCommand`.** From the command it
takes, the task alone runs it and posts its response as the register file's single event does,
whatever the command, while the handler keeps to its room. -/
theorem tpmSystemRun_command (input : TaskInput) (s : TpmSystem) (hh : input.HandlerOk)
    (hpc : s.pc = .command (.execute (commandCode s.regs.dataFifo))) :
    ∃ n, tpmSystemRun s (List.replicate n (.task input)) =
      ({ s with regs := tpmRunCommand input s.regs, pc := .waitEvent }, [.response]) := by
  have hexec : tpmSystemRun s (List.replicate 1 (.task input)) = tpmCommandStep input s
      (.execute (commandCode s.regs.dataFifo)) := by
    simp [tpmSystemStep, tpmTask, hpc]
  by_cases hc : isCustomCode (commandCode s.regs.dataFifo)
  · by_cases hroom : sizeofTpmCmdHeader ≤ (cmdHeaderSize s.regs.dataFifo).toNat
    · exact ⟨10, tpmSystemRun_runExtension input s hh hpc hc hroom⟩
    -- too short for the header: the command itself is the response
    have hrun : tpmRunCommand input s.regs = tpmPostResponse
        ((List.range (cmdHeaderSize s.regs.dataFifo).toNat).map s.regs.dataFifo)
        { s.regs with dataFifo := s.regs.dataFifo } := by
      rw [tpmRunCommand, if_pos hc, callExtensionCommand_of_lt _ _ _ (by omega)]
    simp only [tpmCommandStep, hc, if_true, ge_iff_le, if_neg hroom, postIfFits] at hexec
    split_ifs at hexec with hfits
    · refine ⟨1 + 5, ?_⟩
      rw [List.replicate_add, tpmSystemRun_append, hexec, tpmSystemRun_post _ _ _ rfl, hrun,
        tpmPostResponse_map_range _ _ hfits]
      rfl
    · refine ⟨1, ?_⟩
      rw [hexec, hrun, tpmPostResponse, if_neg (by simpa using hfits)]
  · -- `ExecuteCommand`'s response is copied into the FIFO
    have hrun : tpmRunCommand input s.regs = tpmPostResponse input.response s.regs := by
      rw [tpmRunCommand, if_neg hc]
    have hcopy : ∀ s' : TpmSystem, s'.pc = .command (.copy input.response) →
        tpmSystemRun s' (List.replicate 1 (.task input)) =
          ({ s' with
              regs := { s'.regs with dataFifo := copyToFifo s'.regs.dataFifo 0 input.response }
              pc := .command (.readIndex input.response.length) }, []) := fun s' hpc' => by
      obtain ⟨pc, regs, events, wr, wres, waiting, callers, callerReset, ce, rp⟩ := s'
      dsimp only at hpc'
      subst hpc'
      rfl
    simp only [tpmCommandStep, hc, if_false, Bool.false_eq_true, postIfFits] at hexec
    split_ifs at hexec with hfits
    · refine ⟨1 + 1 + 5, ?_⟩
      rw [List.replicate_add, List.replicate_add, tpmSystemRun_append, tpmSystemRun_append, hexec,
        hcopy _ rfl, tpmSystemRun_post _ _ _ rfl, hrun, tpmPostResponse_of_fits _ _ hfits]
      rfl
    · refine ⟨1, ?_⟩
      rw [hexec, hrun, tpmPostResponse, if_neg hfits]

/-- `TPM2_Startup`, started with `TPM_GO` after the first reset and taken by the task. -/
def commandTaken : TpmSystem :=
  (tpmSystemRun (.boot false .ecSuccess false) (List.replicate 14 (.task apOnInput) ++
    [.put TpmRegisters.tpmSts [0x40],
      .put TpmRegisters.tpmDataFifo [0x80, 0x01, 0, 0, 0, 12, 0, 0, 0x01, 0x44, 0, 0],
      .put TpmRegisters.tpmSts [0x20], .task apOnInput, .task apOnInput])).1

theorem tpmSystemRun_command_startup :
    apOnInput.HandlerOk ∧
      commandTaken.pc = .command (.execute (commandCode commandTaken.regs.dataFifo)) ∧
      ∃ n, tpmSystemRun commandTaken (List.replicate n (.task apOnInput)) =
        ({ commandTaken with regs := tpmRunCommand apOnInput commandTaken.regs, pc := .waitEvent },
          [.response]) :=
  have hh : apOnInput.HandlerOk := fun _ _ _ _ => Nat.zero_le _
  ⟨hh, by decide, tpmSystemRun_command _ _ hh (by decide)⟩

/-! ### The response of an extension command -/

/-- A handler that answers with return code `0` and as much of `[1, 2, 3]` as it has room for. -/
def sampleHandler : UInt16 → (Nat → UInt8) → UInt32 → UInt32 → ExtensionReply :=
  fun _ _ _ room => ⟨0, [1, 2, 3].take room.toNat⟩

/-- A step of the task with the AP on and `sampleHandler` as the extension handler. -/
def vendorInput : TaskInput :=
  { apOn := true, rollingReboot := false, versionInfo := ⟨[], 0, true, [], true, []⟩,
    eraseResult := .ecSuccess, response := [], extension := sampleHandler }

theorem vendorInput_handlerOk : vendorInput.HandlerOk := fun _ _ _ _ => List.length_take_le _ _

/-- A vendor command (`TPM_CC_VENDOR_BIT_MASK` set) for subcommand `5`: its 12-byte header. -/
def vendorCommand : List UInt8 := [0x80, 0x01, 0, 0, 0, 12, 0x20, 0, 0, 0, 0, 5]

/-- The `size` field of the first `n ≥ 6` bytes of a FIFO is the FIFO's. -/
theorem cmdHeaderSize_map_range (fifo : Nat → UInt8) {n : Nat} (hn : 6 ≤ n) :
    cmdHeaderSize (fun i => ((List.range n).map fifo).getD i 0) = cmdHeaderSize fifo :=
  cmdHeaderSize_congr fun _ _ h => getD_map_range fifo (by omega)

theorem uInt32_toNat_toUInt32 (x : UInt32) : x.toNat.toUInt32 = x :=
  TpmRegisters.uInt32_eq_of_toNat (TpmRegisters.toNat_toUInt32 (TpmRegisters.uInt32_toNat_lt x))

/-- **An extension command's response announces its own length.** For every command with a
custom code whose header holds a whole `size`, six bytes or more, while the handler keeps to its
room, the task posts a response of 6 to 2048 bytes whose `size` field is its length: the header
`call_extension_command` rewrites when the command has room for the header, and the command
itself, sent back as it is, when it does not. -/
theorem extension_response_size (input : TaskInput) (t : Tpm)
    (hc : isCustomCode (commandCode t.dataFifo) = true)
    (hs : 6 ≤ (cmdHeaderSize t.dataFifo).toNat) (hh : input.HandlerOk) :
    tpmRunCommand input t = tpmPostResponse (commandResponse input t) t ∧
      6 ≤ (commandResponse input t).length ∧ (commandResponse input t).length ≤ 2048 ∧
      cmdHeaderSize (fun i => (commandResponse input t).getD i 0) =
        (commandResponse input t).length.toUInt32 := by
  refine ⟨tpmRunCommand_eq input t hh, ?_⟩
  unfold commandResponse
  rw [if_pos hc]
  rcases callExtensionCommand_cases input.extension t.dataFifo hh with ⟨hlt, hr⟩ | ⟨h12, h2048, hsize, -⟩
  · -- too short for the header: the command comes back as it is, its `size` its length
    simp only [hr, List.length_map, List.length_range]
    refine ⟨hs, by simp only [sizeofTpmCmdHeader] at hlt; omega, ?_⟩
    rw [cmdHeaderSize_map_range _ hs, uInt32_toNat_toUInt32]
  · -- the header rewritten: its `size` is the length of the response
    generalize callExtensionCommand input.extension t.dataFifo dataFifoSize = r at h12 h2048 hsize ⊢
    simp only [sizeofTpmCmdHeader] at h12
    simp only [List.length_map, List.length_range]
    exact ⟨by omega, h2048, by rw [cmdHeaderSize_map_range _ (by omega), hsize, uInt32_toNat_toUInt32]⟩

theorem extension_response_size_vendorCommand :
    isCustomCode (commandCode fun i => vendorCommand.getD i 0) = true ∧
      6 ≤ (cmdHeaderSize fun i => vendorCommand.getD i 0).toNat ∧ vendorInput.HandlerOk ∧
      tpmRunCommand vendorInput { TpmRegisters.bootTpm with dataFifo := fun i => vendorCommand.getD i 0 } =
        tpmPostResponse (commandResponse vendorInput
          { TpmRegisters.bootTpm with dataFifo := fun i => vendorCommand.getD i 0 })
          { TpmRegisters.bootTpm with dataFifo := fun i => vendorCommand.getD i 0 } ∧
      6 ≤ (commandResponse vendorInput
          { TpmRegisters.bootTpm with dataFifo := fun i => vendorCommand.getD i 0 }).length ∧
      (commandResponse vendorInput
          { TpmRegisters.bootTpm with dataFifo := fun i => vendorCommand.getD i 0 }).length ≤ 2048 ∧
      cmdHeaderSize (fun i => (commandResponse vendorInput
          { TpmRegisters.bootTpm with dataFifo := fun i => vendorCommand.getD i 0 }).getD i 0) =
        (commandResponse vendorInput
          { TpmRegisters.bootTpm with dataFifo := fun i => vendorCommand.getD i 0 }).length.toUInt32 :=
  ⟨by decide, by decide, vendorInput_handlerOk,
    extension_response_size vendorInput _ (by decide) (by decide) vendorInput_handlerOk⟩

/-! ### An extension command from `TPM_GO` to its response -/

/-- The response `call_extension_command` leaves for a command with room for the header: the
command's `tag`, the response's length, the handler's return code with `VENDOR_RC_ERR` when it
is not `0`, the command's `subcommand_code`, and the handler's response. -/
def extensionResponse (fifo : Nat → UInt8) (reply : ExtensionReply) : List UInt8 :=
  [fifo 0, fifo 1] ++ be32Bytes (reply.body.length.toUInt32 + sizeofTpmCmdHeader.toUInt32) ++
    be32Bytes (if reply.rc ≠ 0 then reply.rc ||| vendorRcErr else reply.rc) ++
    [fifo 10, fifo 11] ++ reply.body

/-- The response of an extension command, the handler keeping to its room, fits the FIFO. -/
theorem extensionResponse_length_le {input : TaskInput} (hh : input.HandlerOk)
    (fifo : Nat → UInt8) (subcommand : UInt16) (request : Nat → UInt8) (requestSize : UInt32) :
    1 ≤ (extensionResponse fifo (input.extension subcommand request requestSize
        (dataFifoSize - sizeofTpmCmdHeader.toUInt32))).length ∧
      (extensionResponse fifo (input.extension subcommand request requestSize
        (dataFifoSize - sizeofTpmCmdHeader.toUInt32))).length ≤ 2048 := by
  have hb := hh subcommand request requestSize (dataFifoSize - sizeofTpmCmdHeader.toUInt32)
  have h2036 : (dataFifoSize - sizeofTpmCmdHeader.toUInt32).toNat = 2036 := rfl
  simp only [extensionResponse, be32Bytes, List.length_append, List.length_cons, List.length_nil]
  omega

theorem map_range_getD_self (l : List UInt8) :
    (List.range l.length).map (fun i => l.getD i 0) = l :=
  List.ext_getElem (by simp) fun i _ h => by
    rw [List.getElem_map, List.getElem_range, List.getD_eq_getElem _ _ h]

/-- The response of a command with a custom code and room for the header is `extensionResponse`
of what the handler did with it. -/
theorem commandResponse_extension (input : TaskInput) (t : Tpm)
    (hc : isCustomCode (commandCode t.dataFifo) = true)
    (hroom : sizeofTpmCmdHeader ≤ (cmdHeaderSize t.dataFifo).toNat) (hh : input.HandlerOk) :
    commandResponse input t = extensionResponse t.dataFifo
      (input.extension (subcommandCode t.dataFifo) (fun i => t.dataFifo (sizeofTpmCmdHeader + i))
        (cmdHeaderSize t.dataFifo - sizeofTpmCmdHeader.toUInt32)
        (dataFifoSize - sizeofTpmCmdHeader.toUInt32)) := by
  unfold commandResponse extensionResponse
  rw [if_pos hc, callExtensionCommand_of_le _ _ _ hroom]
  dsimp only
  generalize hreply : input.extension (subcommandCode t.dataFifo)
    (fun i => t.dataFifo (sizeofTpmCmdHeader + i))
    (cmdHeaderSize t.dataFifo - sizeofTpmCmdHeader.toUInt32)
    (dataFifoSize - sizeofTpmCmdHeader.toUInt32) = reply
  have hb : reply.body.length ≤ (dataFifoSize - sizeofTpmCmdHeader.toUInt32).toNat :=
    hreply ▸ hh _ _ _ _
  rw [totalSize_toNat hb, Nat.add_comm, List.range_add, List.map_append, List.map_map]
  -- the twelve header bytes match as they stand; the handler's response follows them
  congr 1
  conv_rhs => rw [← map_range_getD_self reply.body]
  refine List.map_congr_left fun i hi => ?_
  have hi' := List.mem_range.mp hi
  simp only [Function.comp, copyToFifo, be32Bytes_append_length, sizeofTpmCmdHeader]
  rw [if_neg (by omega), if_pos ⟨by omega, by omega⟩, Nat.add_sub_cancel_left]

/-- **A vendor command from `TPM_GO` to its response.** Let the host have written into the FIFO,
while the task waits for an event, a command with a custom code and room for the header. Then
`TPM_GO` wakes the task, the task takes the wake-up and the command, and its next ten statements
run it: the FIFO then streams to the host, from its first byte, the command's `tag`, the length
of the response, the handler's return code (with `VENDOR_RC_ERR` when it is not `0`), the
command's `subcommand_code`, and what the handler answered, given the subcommand, the bytes after
the header and the `size` of the header less 12. This holds for every handler that keeps to its
room. -/
theorem extension_command_round_trip (s : TpmSystem) (input : TaskInput)
    (hpc : s.pc = .waitEvent) (hev : s.events = .empty) (hs : s.regs.state = .receivingCmd)
    (hreset : s.regs.resetInProgress = false)
    (hc : isCustomCode (commandCode s.regs.dataFifo) = true)
    (hroom : sizeofTpmCmdHeader ≤ (cmdHeaderSize s.regs.dataFifo).toNat) (hh : input.HandlerOk) :
    (tpmSystemRun s (.put TpmRegisters.tpmSts [0x20] :: List.replicate 12 (.task input))).2 =
        [.woke, .command, .response] ∧
      TpmRegisters.Streams (.posted (extensionResponse s.regs.dataFifo
        (input.extension (subcommandCode s.regs.dataFifo)
          (fun i => s.regs.dataFifo (sizeofTpmCmdHeader + i))
          (cmdHeaderSize s.regs.dataFifo - sizeofTpmCmdHeader.toUInt32)
          (dataFifoSize - sizeofTpmCmdHeader.toUInt32))))
        (tpmSystemRun s
          (.put TpmRegisters.tpmSts [0x20] :: List.replicate 12 (.task input))).1.regs := by
  -- `TPM_GO` starts the command being received and wakes the task; the FIFO is left as it is
  have hguard : TpmRegisters.TpmStates.receivingCmd.toUInt32 &&& TpmRegisters.expect = 0 := by
    decide
  have hwake : tpmRegisterPutWakes TpmRegisters.tpmSts [0x20] s.regs = true := by
    simp only [tpmRegisterPutWakes, stsRegWriteWakes, stsRegWriteTgWakes, hreset, hs]
    decide
  have hgo : TpmRegisters.tpmRegisterPut TpmRegisters.tpmSts [0x20] s.regs =
      { s.regs with state := .executingCmd } := by
    rw [TpmRegisters.tpmRegisterPut_sts _ hreset,
      show TpmRegisters.stsRegWrite [0x20] s.regs = TpmRegisters.stsRegWriteTg s.regs from rfl]
    simp only [TpmRegisters.stsRegWriteTg, hs, hguard, if_true]
    exact TpmRegisters.setTpmState_of_ne_idle _ (by decide)
  have h₁ : tpmSystemStep s (.put TpmRegisters.tpmSts [0x20]) =
      ({ s with regs := { s.regs with state := .executingCmd }, events := ⟨true, false, false⟩ },
        [.woke]) := by
    simp only [tpmSystemStep, tpmRegisterPut, hwake, hgo, hev]
    rfl
  -- the task takes the wake-up, then the command, and runs it in ten statements
  have h₂ : tpmSystemRun
      { s with regs := { s.regs with state := .executingCmd }, events := ⟨true, false, false⟩ }
      (List.replicate 2 (.task input)) =
        ({ s with
            regs := { s.regs with state := .executingCmd }
            events := .empty
            commitsEnabled := s.commitsEnabled || false
            pc := .command (.execute (commandCode s.regs.dataFifo)) }, [.command]) := by
    simp [tpmSystemStep, tpmTask, hpc, TaskEvents.empty]
  have h₃ := tpmSystemRun_runExtension input
    { s with
      regs := { s.regs with state := .executingCmd }
      events := .empty
      commitsEnabled := s.commitsEnabled || false
      pc := .command (.execute (commandCode s.regs.dataFifo)) } hh rfl hc hroom
  rw [tpmSystemRun_cons, congrArg Prod.fst h₁, congrArg Prod.snd h₁, show 12 = 2 + 10 from rfl,
    List.replicate_add, tpmSystemRun_append, congrArg Prod.fst h₂, congrArg Prod.snd h₂, h₃]
  refine ⟨rfl, ?_⟩
  show TpmRegisters.Streams _ (tpmRunCommand input { s.regs with state := .executingCmd })
  rw [tpmRunCommand_eq input _ hh,
    commandResponse_extension input { s.regs with state := .executingCmd } hc hroom hh]
  exact TpmRegisters.streams_tpmPostResponse _ _ (extensionResponse_length_le hh _ _ _ _) hreset

/-- The vendor command written into the FIFO after the first reset, before `TPM_GO`. -/
def vendorPending : TpmSystem :=
  (tpmSystemRun (.boot false .ecSuccess false) (List.replicate 14 (.task vendorInput) ++
    [.put TpmRegisters.tpmSts [0x40], .put TpmRegisters.tpmDataFifo vendorCommand])).1

theorem extension_command_round_trip_vendorPending :
    vendorPending.pc = .waitEvent ∧ vendorPending.events = .empty ∧
      vendorPending.regs.state = .receivingCmd ∧ vendorPending.regs.resetInProgress = false ∧
      isCustomCode (commandCode vendorPending.regs.dataFifo) = true ∧
      sizeofTpmCmdHeader ≤ (cmdHeaderSize vendorPending.regs.dataFifo).toNat ∧
      vendorInput.HandlerOk ∧
      (tpmSystemRun vendorPending
          (.put TpmRegisters.tpmSts [0x20] :: List.replicate 12 (.task vendorInput))).2 =
        [.woke, .command, .response] ∧
      TpmRegisters.Streams (.posted (extensionResponse vendorPending.regs.dataFifo
        (vendorInput.extension (subcommandCode vendorPending.regs.dataFifo)
          (fun i => vendorPending.regs.dataFifo (sizeofTpmCmdHeader + i))
          (cmdHeaderSize vendorPending.regs.dataFifo - sizeofTpmCmdHeader.toUInt32)
          (dataFifoSize - sizeofTpmCmdHeader.toUInt32))))
        (tpmSystemRun vendorPending
          (.put TpmRegisters.tpmSts [0x20] :: List.replicate 12 (.task vendorInput))).1.regs :=
  ⟨by decide, by decide, by decide, by decide, by decide, by decide, vendorInput_handlerOk,
    extension_command_round_trip _ _ (by decide) (by decide) (by decide) (by decide) (by decide)
      (by decide) vendorInput_handlerOk⟩

/-! ### The registers stay well formed -/

/-- What the actions of a run keep to: host writes shorter than `2^32 - 2048` bytes (a bus
transaction carries 1 to 64), and no rolling reboot suspected when the task resets the TPM. -/
def TpmAction.Ok : TpmAction → Prop
  | .put _ data => data.length + 2048 < 2 ^ 32
  | .task input => input.rollingReboot = false
  | _ => True

instance : DecidablePred TpmAction.Ok
  | .put _ data => inferInstanceAs (Decidable (data.length + 2048 < 2 ^ 32))
  | .task input => inferInstanceAs (Decidable (input.rollingReboot = false))
  | .get _ _ | .resetRequest _ _ _ _ | .caller _ | .reinstate | .deferred =>
    inferInstanceAs (Decidable True)

/-- The statements of `tpm_reset_now` once `tpm_init` has stored `TPM_STS`. -/
def ResetStep.afterInit : ResetStep → Bool
  | .versionRo | .versionRw | .notifyTest | .notifySet | .notifyClear | .deferred | .clearFlag =>
    true
  | _ => false

/-- Whether `TPM_STS` and `TPM_ACCESS` hold what `tpm_init` set up: past the first reset's store
of `TPM_STS`, and not between the `memset` of a later reset and that store. -/
def TaskPc.regsUp : TaskPc → Bool
  | .waitAp | .waitApEvent => false
  | .firstReset step => step.afterInit
  | .resetNow _ step => step.beforeMemset || step.afterInit
  | _ => true

/-- At `tpm_init`'s store of `TPM_STS`, the store of `TPM_ACCESS` done. -/
def TaskPc.atInitSts : TaskPc → Bool
  | .firstReset .initSts | .resetNow _ .initSts => true
  | _ => false

/-- What a command carries from one statement to the next: a response of 1 to 2048 bytes to
post, and the `TPM_STS` computed for it. -/
def CommandStep.Ok : CommandStep → Prop
  | .copy response => response.length ≠ 0 ∧ response.length ≤ 2048
  | .readIndex n | .writeIndex n | .setState n | .readSts n => n ≠ 0 ∧ n ≤ 2048
  | .writeSts sts => StsOk sts
  | .execute _ | .subcommand _ | .route _ _ | .writeSize _ _ | .writeCode _ _ => True

/-- `TPM_ACCESS` as `tpm_init` leaves it, with or without the locality. -/
def AccessOk (access : UInt8) : Prop :=
  access = tpmRegValidSts ∨ access = tpmRegValidSts ||| activeLocality

/-- The register file in a state of the system: its write index inside `data_fifo`; `TPM_STS` and
`TPM_ACCESS` well formed while they hold what `tpm_init` set up, and `TPM_ACCESS` between its
store and that of `TPM_STS`; and what a command carries well formed. -/
structure RegsOk (s : TpmSystem) : Prop where
  write : s.regs.fifoWriteIndex.toNat ≤ 2048
  valid : s.pc.regsUp → RegsValid s.regs
  access : s.pc.atInitSts → AccessOk s.regs.access
  command : ∀ step, s.pc = .command step → step.Ok

theorem accessOk_tpmRegisterPut {t : Tpm} (h : AccessOk t.access) (regaddr : UInt32)
    (data : List UInt8) : AccessOk (TpmRegisters.tpmRegisterPut regaddr data t).access := by
  rcases TpmRegisters.tpmRegisterPut_cases regaddr data t with
    hp | ⟨-, hp⟩ | ⟨-, hp⟩ | ⟨-, hp⟩ | ⟨-, hp⟩ <;> rw [hp]
  · exact h
  · -- `request_use` takes the locality, `active_locality` gives it back
    unfold TpmRegisters.accessRegWrite
    split_ifs
    · exact h
    · refine .inr ?_
      show t.access ||| activeLocality = _
      rcases h with ha | ha <;> rw [ha]
      decide
    · rw [TpmRegisters.setTpmState_access]
      refine .inl ?_
      show t.access &&& ~~~activeLocality = _
      rcases h with ha | ha <;> rw [ha] <;> decide
    · exact h
  · exact congrArg Tpm.access (TpmRegisters.stsRegWrite_withAccess data t t.access) ▸ h
  · exact congrArg Tpm.access (TpmRegisters.fifoRegWrite_withAccess data t t.access) ▸ h
  · exact h

theorem tpmRegisterGet_access (regaddr n : UInt32) (t : Tpm) :
    (tpmRegisterGet regaddr n t).2.access = t.access := by
  have h := congrArg Tpm.access (TpmRegisters.tpmRegisterGet_snd_withAccess regaddr n t t.access)
  exact h

/-- A caller's step changes the register file's `reset_in_progress` only. -/
theorem callerStep_regs (c : Nat) (s : TpmSystem) :
    ∃ b, (callerStep c s).1.regs = { s.regs with resetInProgress := b } := by
  unfold callerStep
  split
  · exact ⟨_, rfl⟩
  · rename_i step _
    cases step <;> simp only [tpmResetRequestStep] <;> (try split_ifs) <;> exact ⟨_, rfl⟩
  all_goals (try split) <;> exact ⟨_, rfl⟩

/-- A response of `n` bytes that fits is carried to the statements that post it. -/
theorem regsOk_postIfFits {s : TpmSystem} (h : RegsOk s) (hs : RegsValid s.regs) (n : Nat)
    (next : CommandStep) (hnext : n ≠ 0 ∧ n ≤ 2048 → next.Ok) : RegsOk (postIfFits n next s).1 := by
  unfold postIfFits
  split_ifs with hfits
  · rw [TpmRegisters.dataFifoSize_toNat] at hfits
    exact ⟨h.write, fun _ => hs, (fun h => nomatch h), fun _ h => (TaskPc.command.inj h) ▸ hnext hfits⟩
  · exact ⟨h.write, fun _ => hs, (fun h => nomatch h), fun _ h => nomatch h⟩

theorem regsOk_tpmCommandStep {input : TaskInput} {s : TpmSystem} {step : CommandStep}
    (h : RegsOk s) (hpc : s.pc = .command step) : RegsOk (tpmCommandStep input s step).1 := by
  have hv : RegsValid s.regs := h.valid (by simp [hpc, TaskPc.regsUp])
  have hok := h.command step hpc
  -- what a statement that leaves the indices and `TPM_STS` alone keeps
  have hkeep : ∀ (t : Tpm) (next : CommandStep), t.fifoWriteIndex = s.regs.fifoWriteIndex →
      t.sts = s.regs.sts → t.access = s.regs.access → next.Ok →
      RegsOk { s with regs := t, pc := .command next } := fun t next hw hsts ha hnext =>
    ⟨hw ▸ h.write, fun _ => hv.of_eq hsts ha, (fun h => nomatch h),
      fun _ h => (TaskPc.command.inj h) ▸ hnext⟩
  cases step with
  | execute code =>
    simp only [tpmCommandStep]
    split_ifs
    · exact hkeep _ _ rfl rfl rfl (by trivial)
    · exact regsOk_postIfFits h hv _ _ id
    · exact regsOk_postIfFits h hv _ _ id
  | subcommand | route | writeSize => exact hkeep _ _ rfl rfl rfl (by trivial)
  | writeCode totalSize rc =>
    simp only [tpmCommandStep]
    refine regsOk_postIfFits ?_ ?_ _ (.readIndex _) fun hn => hn
    exacts [⟨h.write, fun _ => hv.of_eq rfl rfl, h.access, h.command⟩, hv.of_eq rfl rfl]
  | copy response => exact hkeep _ _ rfl rfl rfl (by exact hok)
  | readIndex n => exact hkeep _ _ rfl rfl rfl (by exact hok)
  | writeIndex n =>
    have hn : n ≠ 0 ∧ n ≤ 2048 := hok
    refine ⟨?_, fun _ => hv.of_eq rfl rfl, (fun h => nomatch h), fun _ h => (TaskPc.command.inj h) ▸ hok⟩
    show n.toUInt32.toNat ≤ 2048
    rw [TpmRegisters.toNat_toUInt32 (by omega)]
    exact hn.2
  | setState n =>
    exact hkeep _ _ (by simp [TpmRegisters.setTpmState]) (TpmRegisters.setTpmState_sts _ _)
      (TpmRegisters.setTpmState_access _ _) (by exact hok)
  | readSts n => exact hkeep _ _ rfl rfl rfl (by exact TpmRegisters.stsOk_posted hv.sts hok)
  | writeSts sts =>
    exact ⟨h.write, fun _ => hv.of_sts hok rfl, (fun h => nomatch h), fun _ h => nomatch h⟩

theorem regsValid_iff (t : Tpm) : RegsValid t ↔ StsOk t.sts ∧ AccessOk t.access :=
  ⟨fun h => ⟨h.sts, h.access⟩, fun h => ⟨h.1, h.2⟩⟩

theorem regsOk_tpmTask {input : TaskInput} (hin : input.rollingReboot = false) {s : TpmSystem}
    (h : RegsOk s) : RegsOk (tpmTask input s).1 := by
  have hv : s.pc.regsUp → RegsValid s.regs := h.valid
  have ha : s.pc.atInitSts → AccessOk s.regs.access := h.access
  have hw := h.write
  cases hpc : s.pc with
  | command step => simpa only [tpmTask, hpc] using regsOk_tpmCommandStep h hpc
  | firstReset step | resetNow w step =>
    rw [hpc] at hv ha
    cases step <;> simp only [tpmTask, hpc, tpmResetNowStep, hin] <;>
      refine ⟨?_, fun hu => ?_, fun hu => ?_, fun st hst => ?_⟩ <;>
      simp_all [TaskPc.regsUp, TaskPc.atInitSts, ResetStep.afterInit, ResetStep.beforeMemset,
        clearBss, regsValid_iff, TpmRegisters.stsOk_init, AccessOk]
  | _ =>
    rw [hpc] at hv ha
    simp only [tpmTask, hpc]
    split_ifs <;> refine ⟨?_, fun hu => ?_, fun hu => ?_, fun st hst => ?_⟩ <;>
      simp_all [TaskPc.regsUp, TaskPc.atInitSts, ResetStep.afterInit, ResetStep.beforeMemset]
    -- the command just taken carries nothing yet
    all_goals
      subst hst
      trivial

theorem regsOk_tpmSystemStep {s : TpmSystem} (h : RegsOk s) (a : TpmAction) (ha : a.Ok) :
    RegsOk (tpmSystemStep s a).1 := by
  cases a with
  | task input => exact regsOk_tpmTask ha h
  | put regaddr data =>
    exact ⟨(TpmRegisters.tpmStep_in_bounds h.write (e := .put regaddr data) ha).1,
      fun hu => TpmRegisters.regsValid_tpmRegisterPut (h.valid hu) _ _,
      fun hat => accessOk_tpmRegisterPut (h.access hat) _ _, h.command⟩
  | get regaddr n =>
    exact ⟨(TpmRegisters.tpmStep_in_bounds h.write (e := .get regaddr n) trivial).1,
      fun hu => TpmRegisters.regsValid_tpmRegisterGet (h.valid hu) _ _,
      fun hat => (tpmRegisterGet_access regaddr n s.regs).symm ▸ h.access hat, h.command⟩
  | caller c =>
    obtain ⟨b, hb⟩ := callerStep_regs c s
    have hpc := (callerStep_frame c s).1
    exact ⟨by simpa [tpmSystemStep, hb] using h.write,
      fun hu => by simpa [tpmSystemStep, hb, regsValid_iff] using h.valid (hpc ▸ hu),
      fun hat => by simpa [tpmSystemStep, hb] using h.access (hpc ▸ hat),
      fun st hst => h.command st (hpc ▸ hst)⟩
  | resetRequest c canSleep waitUntilDone wipe =>
    simp only [tpmSystemStep, tpmResetRequest]
    split_ifs <;> exact ⟨h.write, h.valid, h.access, h.command⟩
  | deferred =>
    simp only [tpmSystemStep]
    split_ifs <;> exact ⟨h.write, h.valid, h.access, h.command⟩
  | reinstate => exact ⟨h.write, h.valid, h.access, h.command⟩

/-- **`TPM_STS` and `TPM_ACCESS` stay well formed across the whole system.** In every state of
every run from boot, whatever the interleaving of host accesses, statements of the callers of
`tpm_reset_request`, deferred calls and statements of the TPM task, the FIFO's write index stays
inside `data_fifo`. Once the task's first `tpm_init` has stored `TPM_STS`, and outside a later
reset between its `memset` and that store, `tpm_get_burst_size()` is between 1 and 63, the fixed
bits of `TPM_STS` are as `tpm_init` set them and `TPM_ACCESS` is `tpmRegValidSts`, with or
without `activeLocality`: as long as no host write is longer than `2^32 - 2048` bytes and no
rolling reboot is suspected. The commands the task runs, extension commands included, keep it
whatever their handler does. -/
theorem tpmSystemRun_regsOk (resetInProgress : Bool) (wipeResult : EcErrorList)
    (commitsEnabled : Bool) (acts : List TpmAction) (hacts : ∀ a ∈ acts, a.Ok) :
    RegsOk (tpmSystemRun (TpmSystem.boot resetInProgress wipeResult commitsEnabled) acts).1 := by
  suffices ∀ s, RegsOk s → RegsOk (tpmSystemRun s acts).1 from
    this _ ⟨Nat.zero_le _, (fun h => nomatch h), (fun h => nomatch h), fun _ h => nomatch h⟩
  induction acts with
  | nil => exact fun _ h => h
  | cons a as ih =>
    intro s h
    exact ih (fun a' h' => hacts a' (List.mem_cons_of_mem a h'))
      _ (regsOk_tpmSystemStep h a (hacts a (List.mem_cons_self a as)))

/-- The host sends `vendorCommand` after the first reset and starts it, the task runs it, and
the host reads the response. -/
def vendorSession : List TpmAction :=
  List.replicate 14 (.task vendorInput) ++ [.put TpmRegisters.tpmSts [0x40],
    .put TpmRegisters.tpmDataFifo vendorCommand, .put TpmRegisters.tpmSts [0x20]] ++
    List.replicate 12 (.task vendorInput) ++ [.get TpmRegisters.tpmDataFifo 64]

theorem tpmSystemRun_regsOk_vendorSession :
    (∀ a ∈ vendorSession, a.Ok) ∧
      RegsOk (tpmSystemRun (TpmSystem.boot false .ecSuccess false) vendorSession).1 :=
  ⟨by decide, tpmSystemRun_regsOk false .ecSuccess false vendorSession (by decide)⟩

end Twonkie.TpmTask
