import Twonkie.Tpm.Registers

/-!
# The FIFO indices of the TPM register file

`fifo_reg_write` and `fifo_reg_read` index `data_fifo` by `fifo_write_index` and
`fifo_read_index`. This module gives each access its effect on the state machine and the two
indices, and shows two ways a host breaks what the indices are meant to keep:

* a write that overflows the buffer resets `fifo_write_index` but not `fifo_read_index`
  (`fifoRegWrite_overflow`), so after a FIFO read in the middle of a command the read index
  passes the write index, the unsigned `still_in_fifo` wraps, and reads run past the data
  (`fifo_overflow_keeps_read_index`);
* `TPM_GO` starts any command being received, whatever the FIFO holds, because the guard of
  `sts_reg_write_tg` tests `tpm_.state & expect`, which is `0` in `receiving_cmd`
  (`tpm_go_ignores_expect`).
-/

namespace Twonkie.TpmRegisters

/-! ### `UInt32` arithmetic -/

theorem uInt32_lt_iff {a b : UInt32} : a < b ↔ a.toNat < b.toNat := Iff.rfl

theorem uInt32_toNat_add (a b : UInt32) : (a + b).toNat = (a.toNat + b.toNat) % 2 ^ 32 :=
  BitVec.toNat_add _ _

theorem uInt32_toNat_sub (a b : UInt32) : (a - b).toNat = (2 ^ 32 - b.toNat + a.toNat) % 2 ^ 32 :=
  BitVec.toNat_sub _ _

theorem uInt32_toNat_min (a b : UInt32) : (min a b).toNat = min a.toNat b.toNat := by
  show (if a ≤ b then a else b).toNat = _
  split_ifs with h
  · exact (Nat.min_eq_left h).symm
  · exact (Nat.min_eq_right (Nat.le_of_lt (Nat.lt_of_not_le h))).symm

theorem uInt32_toNat_lt (a : UInt32) : a.toNat < 2 ^ 32 := a.toBitVec.isLt

theorem toNat_toUInt32 {n : Nat} (h : n < 2 ^ 32) : n.toUInt32.toNat = n := Nat.mod_eq_of_lt h

theorem uInt32_eq_of_toNat {a b : UInt32} (h : a.toNat = b.toNat) : a = b :=
  UInt32.toNat.inj h

/-! ### Small lemmas per definition -/

@[simp] theorem setTpmState_state (s : TpmStates) (t : Tpm) : (setTpmState s t).state = s := by
  unfold setTpmState; split_ifs <;> rfl

@[simp] theorem setTpmState_resetInProgress (s : TpmStates) (t : Tpm) :
    (setTpmState s t).resetInProgress = t.resetInProgress := by
  unfold setTpmState; split_ifs <;> rfl

theorem setTpmState_of_ne_idle {s : TpmStates} (t : Tpm) (h : s ≠ .idle) :
    setTpmState s t = { t with state := s } := if_neg h

@[simp] theorem fifoExpect_state (t : Tpm) : (fifoExpect t).state = t.state := by
  unfold fifoExpect; split_ifs <;> rfl

@[simp] theorem fifoExpect_fifoReadIndex (t : Tpm) : (fifoExpect t).fifoReadIndex = t.fifoReadIndex := by
  unfold fifoExpect; split_ifs <;> rfl

@[simp] theorem fifoExpect_fifoWriteIndex (t : Tpm) :
    (fifoExpect t).fifoWriteIndex = t.fifoWriteIndex := by
  unfold fifoExpect; split_ifs <;> rfl

@[simp] theorem fifoExpect_resetInProgress (t : Tpm) :
    (fifoExpect t).resetInProgress = t.resetInProgress := by
  unfold fifoExpect; split_ifs <;> rfl

theorem tpmRegisterPut_sts (data : List UInt8) {t : Tpm} (h : t.resetInProgress = false) :
    tpmRegisterPut tpmSts data t = stsRegWrite data t := by
  simp only [tpmRegisterPut, h]; rfl

theorem tpmRegisterPut_dataFifo (data : List UInt8) {t : Tpm} (h : t.resetInProgress = false) :
    tpmRegisterPut tpmDataFifo data t = fifoRegWrite data t := by
  simp only [tpmRegisterPut, h]; rfl

theorem tpmRegisterGet_dataFifo (n : UInt32) {t : Tpm} (h : t.resetInProgress = false) :
    tpmRegisterGet tpmDataFifo n t = fifoRegRead n t := by
  simp only [tpmRegisterGet, h]; rfl


theorem dataFifoSize_toNat : dataFifoSize.toNat = 2048 := rfl

/-! ### `fifo_reg_write` -/

/-- In `receiving_cmd`, a FIFO write either overflows or appends its data. -/
theorem fifoRegWrite_of_receiving (data : List UInt8) {t : Tpm} (hs : t.state = .receivingCmd) :
    fifoRegWrite data t =
      if t.fifoWriteIndex + data.length.toUInt32 > dataFifoSize then
        setTpmState .ready { t with fifoWriteIndex := 0 }
      else fifoExpect { t with
        dataFifo := copyToFifo t.dataFifo t.fifoWriteIndex.toNat data
        fifoWriteIndex := t.fifoWriteIndex + data.length.toUInt32 } := by
  simp only [fifoRegWrite, hs, reduceCtorEq, false_and, if_false, ne_eq, not_true_eq_false]

/-- In `ready` with an empty FIFO, a FIFO write starts receiving a command. -/
theorem fifoRegWrite_of_ready (data : List UInt8) {t : Tpm} (hs : t.state = .ready)
    (hw : t.fifoWriteIndex = 0) :
    fifoRegWrite data t = fifoRegWrite data { t with state := .receivingCmd } := by
  have hne : TpmStates.receivingCmd ≠ .idle := by decide
  simp only [fifoRegWrite, hs, hw, and_self, if_true, setTpmState_of_ne_idle _ hne, reduceCtorEq,
    false_and, if_false]

/-- A write that fits is appended: the state stays `receiving_cmd` and only the write index
moves. -/
theorem fifoRegWrite_fits (data : List UInt8) {t : Tpm} (hs : t.state = .receivingCmd)
    (hfit : t.fifoWriteIndex.toNat + data.length ≤ 2048) :
    (fifoRegWrite data t).state = .receivingCmd ∧
      (fifoRegWrite data t).fifoWriteIndex.toNat = t.fifoWriteIndex.toNat + data.length ∧
      (fifoRegWrite data t).fifoReadIndex = t.fifoReadIndex ∧
      (fifoRegWrite data t).resetInProgress = t.resetInProgress := by
  have hadd : (t.fifoWriteIndex + data.length.toUInt32).toNat = t.fifoWriteIndex.toNat + data.length := by
    rw [uInt32_toNat_add, toNat_toUInt32 (by omega), Nat.mod_eq_of_lt (by omega)]
  have hle : ¬ t.fifoWriteIndex + data.length.toUInt32 > dataFifoSize := by
    rw [gt_iff_lt, uInt32_lt_iff, hadd, dataFifoSize_toNat]; omega
  rw [fifoRegWrite_of_receiving data hs, if_neg hle, fifoExpect_state, fifoExpect_fifoWriteIndex,
    fifoExpect_fifoReadIndex, fifoExpect_resetInProgress]
  exact ⟨hs, hadd, rfl, rfl⟩

/-- **A write past the end of the buffer resets the write index, and only the write index.** -/
theorem fifoRegWrite_overflow (data : List UInt8) {t : Tpm} (hs : t.state = .receivingCmd)
    (hover : 2048 < t.fifoWriteIndex.toNat + data.length)
    (hwrap : t.fifoWriteIndex.toNat + data.length < 2 ^ 32) :
    fifoRegWrite data t = setTpmState .ready { t with fifoWriteIndex := 0 } := by
  have hgt : t.fifoWriteIndex + data.length.toUInt32 > dataFifoSize := by
    rw [gt_iff_lt, uInt32_lt_iff, uInt32_toNat_add, toNat_toUInt32 (by omega),
      Nat.mod_eq_of_lt hwrap, dataFifoSize_toNat]
    exact hover
  rw [fifoRegWrite_of_receiving data hs, if_pos hgt]

/-! ### `fifo_reg_read` -/

@[simp] theorem fifoRegRead_length (n : UInt32) (t : Tpm) :
    (fifoRegRead n t).1.length = (min n (t.fifoWriteIndex - t.fifoReadIndex)).toNat := by
  simp [fifoRegRead]

@[simp] theorem fifoRegRead_state (n : UInt32) (t : Tpm) : (fifoRegRead n t).2.state = t.state := rfl

@[simp] theorem fifoRegRead_fifoWriteIndex (n : UInt32) (t : Tpm) :
    (fifoRegRead n t).2.fifoWriteIndex = t.fifoWriteIndex := rfl

@[simp] theorem fifoRegRead_fifoReadIndex (n : UInt32) (t : Tpm) :
    (fifoRegRead n t).2.fifoReadIndex = t.fifoReadIndex + min n (t.fifoWriteIndex - t.fifoReadIndex) := rfl

@[simp] theorem fifoRegRead_resetInProgress (n : UInt32) (t : Tpm) :
    (fifoRegRead n t).2.resetInProgress = t.resetInProgress := rfl


/-! ### The FIFO over runs -/

/-- What decides the FIFO accesses: the state machine, the two indices, and no reset in
progress. -/
structure FifoAt (t : Tpm) (s : TpmStates) (r w : Nat) : Prop where
  state : t.state = s
  read : t.fifoReadIndex.toNat = r
  write : t.fifoWriteIndex.toNat = w
  noReset : t.resetInProgress = false

theorem fifoAt_tpmResetNow (version : Nat → UInt8) (t : Tpm) :
    FifoAt (tpmResetNow false version t) .idle 0 0 :=
  ⟨rfl, rfl, rfl, rfl⟩

theorem fifoAt_commandReady {t : Tpm} {r w : Nat} (h : FifoAt t .idle r w) :
    FifoAt (tpmStep t (.put tpmSts [0x40])) .ready r w := by
  have hne : TpmStates.ready ≠ .idle := by decide
  rw [tpmStep, tpmRegisterPut_sts _ h.noReset, show stsRegWrite [0x40] t = stsRegWriteCr t from rfl]
  simp only [stsRegWriteCr, h.state, setTpmState_of_ne_idle _ hne]
  exact ⟨rfl, h.read, h.write, h.noReset⟩

theorem fifoAt_write_fits {t : Tpm} {r w : Nat} (data : List UInt8)
    (h : FifoAt t .receivingCmd r w) (hfit : w + data.length ≤ 2048) :
    FifoAt (tpmStep t (.put tpmDataFifo data)) .receivingCmd r (w + data.length) := by
  rw [tpmStep, tpmRegisterPut_dataFifo _ h.noReset]
  obtain ⟨hs, hw, hr, hx⟩ := fifoRegWrite_fits data h.state (h.write ▸ hfit)
  exact ⟨hs, hr ▸ h.read, hw ▸ h.write ▸ rfl, hx ▸ h.noReset⟩

theorem fifoAt_write_ready {t : Tpm} {r : Nat} (data : List UInt8) (h : FifoAt t .ready r 0)
    (hfit : data.length ≤ 2048) :
    FifoAt (tpmStep t (.put tpmDataFifo data)) .receivingCmd r data.length := by
  have h' : FifoAt { t with state := .receivingCmd } .receivingCmd r 0 :=
    ⟨rfl, h.read, h.write, h.noReset⟩
  have := fifoAt_write_fits data h' (by omega)
  rw [Nat.zero_add, tpmStep, tpmRegisterPut_dataFifo _ h'.noReset] at this
  rwa [tpmStep, tpmRegisterPut_dataFifo _ h.noReset,
    fifoRegWrite_of_ready data h.state (uInt32_eq_of_toNat h.write)]

theorem fifoAt_write_overflow {t : Tpm} {r w : Nat} (data : List UInt8)
    (h : FifoAt t .receivingCmd r w) (hover : 2048 < w + data.length)
    (hwrap : w + data.length < 2 ^ 32) :
    FifoAt (tpmStep t (.put tpmDataFifo data)) .ready r 0 := by
  have hne : TpmStates.ready ≠ .idle := by decide
  rw [tpmStep, tpmRegisterPut_dataFifo _ h.noReset,
    fifoRegWrite_overflow data h.state (h.write ▸ hover) (h.write ▸ hwrap),
    setTpmState_of_ne_idle _ hne]
  exact ⟨rfl, h.read, rfl, h.noReset⟩

theorem fifoAt_read {t : Tpm} {s : TpmStates} {r w : Nat} (n : UInt32) (h : FifoAt t s r w)
    (hrw : r ≤ w) : FifoAt (tpmStep t (.get tpmDataFifo n)) s (r + min n.toNat (w - r)) w := by
  have hsub : (t.fifoWriteIndex - t.fifoReadIndex).toNat = w - r := by
    rw [uInt32_toNat_sub, h.read, h.write]
    have := h.write ▸ uInt32_toNat_lt t.fifoWriteIndex
    omega
  have hmin : (min n (t.fifoWriteIndex - t.fifoReadIndex)).toNat = min n.toNat (w - r) := by
    rw [uInt32_toNat_min, hsub]
  rw [tpmStep, tpmRegisterGet_dataFifo _ h.noReset]
  refine ⟨h.state, ?_, h.write, h.noReset⟩
  rw [fifoRegRead_fifoReadIndex, uInt32_toNat_add, hmin, h.read]
  have := h.write ▸ uInt32_toNat_lt t.fifoWriteIndex
  exact Nat.mod_eq_of_lt (by omega)

/-- Writes that fit, one after another, in `receiving_cmd`. -/
theorem fifoAt_writes (ps : List (List UInt8)) :
    ∀ {t : Tpm} {r w : Nat}, FifoAt t .receivingCmd r w → w + (ps.map List.length).sum ≤ 2048 →
      FifoAt (tpmRun t (ps.map (.put tpmDataFifo))) .receivingCmd r (w + (ps.map List.length).sum) := by
  induction ps with
  | nil => exact fun h _ => h
  | cons p ps ih =>
    intro t r w h hfit
    simp only [List.map_cons, List.sum_cons] at hfit ⊢
    rw [tpmRun_cons, ← Nat.add_assoc]
    exact ih (fifoAt_write_fits p h (by omega)) (by omega)


/-! ### The overflow -/

/-- A host that readies the TPM, writes a 64-byte block, reads one byte back, then writes 32
more 64-byte blocks; the blocks are `d 0` to `d 32`. -/
def overflowAccesses (d : Nat → Nat → UInt8) : List TpmEvent :=
  [.put tpmSts [0x40], .put tpmDataFifo ((List.range 64).map (d 0)), .get tpmDataFifo 1] ++
    ((List.range 32).map fun i => (List.range 64).map (d (i + 1))).map (.put tpmDataFifo)

/-- **An overflow leaves the read index behind.** After a reset of the TPM, whatever the state
before it, the version string and the data written, the last block of `overflowAccesses`
overflows the buffer: the write index goes back to `0` while the read index stays at `1`. The
next 64-byte FIFO read then returns 64 bytes from a FIFO that holds none, since
`still_in_fifo = 0 - 1` wraps; each further read moves the read index 64 bytes on, past the end
of `data_fifo`. -/
theorem fifo_overflow_keeps_read_index (t : Tpm) (version : Nat → UInt8)
    (d : Nat → Nat → UInt8) :
    (tpmRun (tpmResetNow false version t) (overflowAccesses d)).fifoReadIndex = 1 ∧
      (tpmRun (tpmResetNow false version t) (overflowAccesses d)).fifoWriteIndex = 0 ∧
      (tpmRegisterGet tpmDataFifo 64
        (tpmRun (tpmResetNow false version t) (overflowAccesses d))).1.length = 64 := by
  have hlen : ∀ i, ((List.range 64).map (d i)).length = 64 := fun i => by
    rw [List.length_map, List.length_range]
  have hblocks : (((List.range 31).map fun i => (List.range 64).map (d (i + 1))).map
      List.length).sum = 31 * 64 := by
    simp only [List.map_map, Function.comp_def, hlen, List.map_const', List.length_range]
    rfl
  have h64 := hlen 0
  have h3 : FifoAt _ .receivingCmd 1 64 := fifoAt_read 1 (fifoAt_write_ready ((List.range 64).map (d 0))
    (fifoAt_commandReady (fifoAt_tpmResetNow version t)) (by omega)) (Nat.zero_le _)
  have h4 := fifoAt_writes ((List.range 31).map fun i => (List.range 64).map (d (i + 1))) h3
    (by omega)
  rw [hblocks] at h4
  have h32 := hlen 32
  have h5 := fifoAt_write_overflow ((List.range 64).map (d 32)) h4 (by omega) (by omega)
  have hrun : tpmRun (tpmResetNow false version t) (overflowAccesses d) =
      tpmStep (tpmRun (tpmStep (tpmStep (tpmStep (tpmResetNow false version t)
        (.put tpmSts [0x40])) (.put tpmDataFifo ((List.range 64).map (d 0))))
        (.get tpmDataFifo 1))
        (((List.range 31).map fun i => (List.range 64).map (d (i + 1))).map (.put tpmDataFifo)))
        (.put tpmDataFifo ((List.range 64).map (d 32))) := by
    rw [overflowAccesses, List.range_succ 31, List.map_append, List.map_append, tpmRun_append,
      tpmRun_append]
    simp only [List.map_cons, List.map_nil, tpmRun_cons, tpmRun_nil]
  rw [hrun]
  have hr : _ = (1 : UInt32) := uInt32_eq_of_toNat (b := 1) h5.read
  have hw : _ = (0 : UInt32) := uInt32_eq_of_toNat (b := 0) h5.write
  refine ⟨hr, hw, ?_⟩
  rw [tpmRegisterGet_dataFifo _ h5.noReset, fifoRegRead_length, hr, hw]
  rfl


/-! ### `TPM_GO` -/

/-- **`TPM_GO` ignores `expect`.** In `receiving_cmd`, a write of `TPM_GO` to `TPM_STS` starts
the command whatever the FIFO holds: `sts_reg_write_tg` tests `tpm_.state & expect`, that is
`2 & 8 = 0`, where the `expect` bit of `TPM_STS` is meant. -/
theorem tpm_go_ignores_expect (t : Tpm) (hr : t.resetInProgress = false)
    (hs : t.state = .receivingCmd) :
    tpmRegisterPut tpmSts [0x20] t = { t with state := .executingCmd } := by
  have hguard : TpmStates.receivingCmd.toUInt32 &&& expect = 0 := by decide
  rw [tpmRegisterPut_sts _ hr, show stsRegWrite [0x20] t = stsRegWriteTg t from rfl]
  simp only [stsRegWriteTg, hs, hguard, if_true]
  exact setTpmState_of_ne_idle _ (by decide)

/-- The register file after the TPM task's first reset, with an empty version string. -/
def bootTpm : Tpm :=
  tpmResetNow false (fun _ => 0) ⟨.idle, 0, 0, 0, 0, fun _ => 0, 0, fun _ => 0, false⟩

/-- `commandReady`, then one byte of a command: `expect` is set and the FIFO holds one byte when
`TPM_GO` arrives. -/
theorem tpm_go_ignores_expect_sample :
    (tpmRun bootTpm [.put tpmSts [0x40], .put tpmDataFifo [0x80]]).fifoWriteIndex = 1 ∧
      (tpmRun bootTpm [.put tpmSts [0x40], .put tpmDataFifo [0x80]]).sts &&& expect = expect ∧
      (tpmRun bootTpm [.put tpmSts [0x40], .put tpmDataFifo [0x80]]).resetInProgress = false ∧
      (tpmRun bootTpm [.put tpmSts [0x40], .put tpmDataFifo [0x80]]).state = .receivingCmd ∧
      tpmRegisterPut tpmSts [0x20] (tpmRun bootTpm [.put tpmSts [0x40], .put tpmDataFifo [0x80]])
        = { tpmRun bootTpm [.put tpmSts [0x40], .put tpmDataFifo [0x80]] with
            state := .executingCmd } :=
  ⟨by decide, by decide, by decide, by decide,
    tpm_go_ignores_expect _ (by decide) (by decide)⟩

end Twonkie.TpmRegisters
