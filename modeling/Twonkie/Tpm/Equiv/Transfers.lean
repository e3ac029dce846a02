import Twonkie.Tpm.Equiv.Invariant

/-!
# Transfers through `TPM_DATA_FIFO` and `TPM_FW_VER`

A bus transaction moves 1 to 64 bytes, so the host moves a command or the version string in
several register accesses. How it splits them does not matter:

* **Commands.** In `receiving_cmd`, two FIFO writes that fit are one write of both
  (`fifoRegWrite_append`): the bytes land one after the other, the write index moves by the
  total, and `expect` is decided by the last write alone. So a command written in any number
  of chunks, from `ready` with an empty FIFO or while one is being received, leaves the register
  file that one write of the whole command leaves (`tpm_command_chunks`).
* **The version string.** `TPM_FW_VER` reads return consecutive bytes of one stream,
  `fwVerStream`: the string from the read index to its `NUL`, within the 80 bytes of
  `tpm_fw_ver`, then `NUL`s (`fwVerRead_spec`). After a write to `TPM_FW_VER` rewinds it, every run
  of reads of any sizes, interleaved with accesses to other registers, returns the string up to
  and including its `NUL` and then `NUL`s (`tpm_fw_ver_reads`).
-/

namespace Twonkie.TpmRegisters

/-! ### Command writes -/

/-- The copy and index update of `fifo_reg_write`: `data` appended at `fifo_write_index`. -/
def appendFifo (data : List UInt8) (t : Tpm) : Tpm :=
  { t with
    dataFifo := copyToFifo t.dataFifo t.fifoWriteIndex.toNat data
    fifoWriteIndex := t.fifoWriteIndex + data.length.toUInt32 }

/-- `TPM_STS` with `expect` set (`true`) or cleared (`false`). -/
def withExpect (more : Bool) (sts : UInt32) : UInt32 :=
  if more then sts ||| expect else sts &&& ~~~expect

/-- Whether `fifo_reg_write` asks for more data: fewer than 6 bytes, or fewer than the header's
size. -/
def needsMore (t : Tpm) : Bool :=
  decide (t.fifoWriteIndex < 6) || decide (t.fifoWriteIndex < cmdHeaderSize t.dataFifo)

theorem fifoExpect_eq (t : Tpm) : fifoExpect t = { t with sts := withExpect (needsMore t) t.sts } := by
  unfold fifoExpect needsMore withExpect
  by_cases h1 : t.fifoWriteIndex < 6
  · simp only [h1, if_true, decide_True, Bool.true_or]
  · by_cases h2 : t.fifoWriteIndex < cmdHeaderSize t.dataFifo <;>
      simp only [h1, h2, if_true, if_false, decide_True, decide_False, Bool.false_or,
        Bool.false_eq_true]

/-- Only the last decision on `expect` counts. -/
theorem withExpect_withExpect (more more' : Bool) (sts : UInt32) :
    withExpect more (withExpect more' sts) = withExpect more sts := by
  apply UInt32.eq_of_toBitVec_eq
  ext j
  cases more <;> cases more' <;>
    simp only [withExpect, if_true, if_false, Bool.false_eq_true, uInt32_toBitVec_or,
      uInt32_toBitVec_and, uInt32_toBitVec_not, BitVec.getLsbD_or, BitVec.getLsbD_and,
      BitVec.getLsbD_not] <;>
    cases sts.toBitVec.getLsbD j <;> cases expect.toBitVec.getLsbD j <;> simp

theorem appendFifo_with_sts (data : List UInt8) (t : Tpm) (sts : UInt32) :
    appendFifo data { t with sts := sts } = { appendFifo data t with sts := sts } := rfl

/-- A decision on `expect` before a further append is overridden by the one after it. -/
theorem fifoExpect_appendFifo_fifoExpect (data : List UInt8) (t : Tpm) :
    fifoExpect (appendFifo data (fifoExpect t)) = fifoExpect (appendFifo data t) := by
  rw [fifoExpect_eq t, appendFifo_with_sts, fifoExpect_eq, fifoExpect_eq]
  exact congrArg (fun s => { appendFifo data t with sts := s })
    (withExpect_withExpect _ _ _)

theorem copyToFifo_append (fifo : Nat → UInt8) (start : Nat) (c₁ c₂ : List UInt8) :
    copyToFifo (copyToFifo fifo start c₁) (start + c₁.length) c₂ = copyToFifo fifo start (c₁ ++ c₂) := by
  funext i
  simp only [copyToFifo, List.length_append]
  by_cases h₂ : start + c₁.length ≤ i ∧ i < start + c₁.length + c₂.length
  · rw [if_pos h₂, if_pos (by omega), List.getD_append_right _ _ _ _ (by omega), Nat.sub_sub]
  · rw [if_neg h₂]
    by_cases h₁ : start ≤ i ∧ i < start + c₁.length
    · rw [if_pos h₁, if_pos (by omega), List.getD_append _ _ _ _ (by omega)]
    · rw [if_neg h₁, if_neg (by omega)]

theorem appendFifo_append (c₁ c₂ : List UInt8) (t : Tpm)
    (hfit : t.fifoWriteIndex.toNat + c₁.length + c₂.length < 2 ^ 32) :
    appendFifo c₂ (appendFifo c₁ t) = appendFifo (c₁ ++ c₂) t := by
  have h₁ : (t.fifoWriteIndex + c₁.length.toUInt32).toNat = t.fifoWriteIndex.toNat + c₁.length := by
    rw [uInt32_toNat_add, toNat_toUInt32 (by omega), Nat.mod_eq_of_lt (by omega)]
  unfold appendFifo
  dsimp only
  rw [h₁, copyToFifo_append]
  congr 1
  apply uInt32_eq_of_toNat
  rw [uInt32_toNat_add, h₁, toNat_toUInt32 (by omega), uInt32_toNat_add, List.length_append,
    toNat_toUInt32 (by omega), Nat.add_assoc]

/-- In `receiving_cmd`, a write that fits is an append followed by the `expect` decision. -/
theorem fifoRegWrite_of_fits (data : List UInt8) {t : Tpm} (hs : t.state = .receivingCmd)
    (hfit : t.fifoWriteIndex.toNat + data.length ≤ 2048) :
    fifoRegWrite data t = fifoExpect (appendFifo data t) := by
  rw [fifoRegWrite_of_receiving data hs, if_neg]
  · rfl
  rw [gt_iff_lt, uInt32_lt_iff, uInt32_toNat_add, toNat_toUInt32 (by omega),
    Nat.mod_eq_of_lt (by omega), dataFifoSize_toNat]
  omega

/-- **Two FIFO writes that fit are one write of both.** -/
theorem fifoRegWrite_append (c₁ c₂ : List UInt8) {t : Tpm} (hs : t.state = .receivingCmd)
    (hfit : t.fifoWriteIndex.toNat + c₁.length + c₂.length ≤ 2048) :
    fifoRegWrite c₂ (fifoRegWrite c₁ t) = fifoRegWrite (c₁ ++ c₂) t := by
  obtain ⟨hs₁, hw₁, -, -⟩ := fifoRegWrite_fits c₁ hs (by omega)
  rw [fifoRegWrite_of_fits c₂ hs₁ (by omega), fifoRegWrite_of_fits c₁ hs (by omega),
    fifoRegWrite_of_fits (c₁ ++ c₂) hs (by rw [List.length_append]; omega),
    fifoExpect_appendFifo_fifoExpect, appendFifo_append c₁ c₂ t (by omega)]

theorem tpmRun_fifo_chunks (cs : List (List UInt8)) (hcs : cs ≠ []) :
    ∀ {t : Tpm}, t.resetInProgress = false → t.state = .receivingCmd →
      t.fifoWriteIndex.toNat + cs.flatten.length ≤ 2048 →
        tpmRun t (cs.map (.put tpmDataFifo)) = fifoRegWrite cs.flatten t := by
  induction cs with
  | nil => exact absurd rfl hcs
  | cons c cs ih =>
    intro t hreset hs hfit
    rw [List.flatten_cons, List.length_append] at hfit
    rw [List.map_cons, tpmRun_cons, tpmStep, tpmRegisterPut_dataFifo _ hreset, List.flatten_cons]
    rcases List.eq_nil_or_concat cs with rfl | ⟨_, _, rfl⟩
    · rw [List.map_nil, tpmRun_nil, List.flatten_nil, List.append_nil]
    · obtain ⟨hs₁, hw₁, -, hr₁⟩ := fifoRegWrite_fits c hs (by omega)
      rw [ih (List.concat_ne_nil _ _) (hr₁.trans hreset) hs₁ (by omega),
        fifoRegWrite_append c _ hs (by omega)]

/-- **A command written in chunks.** From `ready` with an empty FIFO (as after `commandReady`),
or while a command is being received, with no reset in progress: FIFO writes of any non-empty
list of chunks that fit in `data_fifo` leave the register file that one write of their
concatenation leaves. The state is `receiving_cmd`, the bytes follow each other from the write
index on, the index has moved by the total, and `expect` is set or cleared on the final index and
header alone. -/
theorem tpm_command_chunks (t : Tpm) (cs : List (List UInt8)) (hcs : cs ≠ [])
    (hreset : t.resetInProgress = false)
    (hs : t.state = .receivingCmd ∨ t.state = .ready ∧ t.fifoWriteIndex = 0)
    (hfit : t.fifoWriteIndex.toNat + cs.flatten.length ≤ 2048) :
    tpmRun t (cs.map (.put tpmDataFifo)) =
      fifoExpect { t with
        state := .receivingCmd
        dataFifo := copyToFifo t.dataFifo t.fifoWriteIndex.toNat cs.flatten
        fifoWriteIndex := t.fifoWriteIndex + cs.flatten.length.toUInt32 } := by
  obtain ⟨c, cs', rfl⟩ := List.exists_cons_of_ne_nil hcs
  have hstep : tpmStep t (.put tpmDataFifo c) =
      tpmStep { t with state := .receivingCmd } (.put tpmDataFifo c) := by
    rw [tpmStep, tpmStep, tpmRegisterPut_dataFifo _ hreset,
      tpmRegisterPut_dataFifo (t := { t with state := .receivingCmd }) _ hreset]
    rcases hs with hs | ⟨hs, hw⟩
    · exact congrArg (fifoRegWrite c) (by cases t; cases hs; rfl)
    · exact fifoRegWrite_of_ready c hs hw
  rw [List.map_cons, tpmRun_cons, hstep, ← tpmRun_cons, ← List.map_cons,
    tpmRun_fifo_chunks _ hcs (t := { t with state := .receivingCmd }) hreset rfl hfit,
    fifoRegWrite_of_fits (t := { t with state := .receivingCmd }) _ rfl hfit]
  rfl

/-- A command in two chunks, after `commandReady`. -/
theorem tpm_command_chunks_startup :
    [startupCommand.take 5, startupCommand.drop 5] ≠ [] ∧
      (tpmRun bootTpm [.put tpmSts [0x40]]).resetInProgress = false ∧
      ((tpmRun bootTpm [.put tpmSts [0x40]]).state = .receivingCmd ∨
        (tpmRun bootTpm [.put tpmSts [0x40]]).state = .ready ∧
          (tpmRun bootTpm [.put tpmSts [0x40]]).fifoWriteIndex = 0) ∧
      (tpmRun bootTpm [.put tpmSts [0x40]]).fifoWriteIndex.toNat +
          [startupCommand.take 5, startupCommand.drop 5].flatten.length ≤ 2048 ∧
      tpmRun (tpmRun bootTpm [.put tpmSts [0x40]])
          ([startupCommand.take 5, startupCommand.drop 5].map (.put tpmDataFifo)) =
        fifoExpect { tpmRun bootTpm [.put tpmSts [0x40]] with
          state := .receivingCmd
          dataFifo := copyToFifo (tpmRun bootTpm [.put tpmSts [0x40]]).dataFifo
            (tpmRun bootTpm [.put tpmSts [0x40]]).fifoWriteIndex.toNat
            [startupCommand.take 5, startupCommand.drop 5].flatten
          fifoWriteIndex := (tpmRun bootTpm [.put tpmSts [0x40]]).fifoWriteIndex +
            [startupCommand.take 5, startupCommand.drop 5].flatten.length.toUInt32 } :=
  ⟨List.cons_ne_nil _ _, by decide, .inr ⟨by decide, by decide⟩, by decide,
    tpm_command_chunks _ _ (List.cons_ne_nil _ _) (by decide) (.inr ⟨by decide, by decide⟩)
      (by decide)⟩

/-! ### The version string -/

/-- The bytes the host reads from `TPM_FW_VER` from read index `k` on: the string from `k` up to
and including its `NUL`, within the 80 bytes of `tpm_fw_ver`, then `NUL`s. -/
def fwVerStream (ver : Nat → UInt8) (k j : Nat) : UInt8 :=
  if k + j < tpmFwVerSize ∧ ∀ i < j, ver (k + i) ≠ 0 then ver (k + j) else 0

theorem fwVerStream_zero (ver : Nat → UInt8) {k : Nat} (hk : k < tpmFwVerSize) :
    fwVerStream ver k 0 = ver k :=
  if_pos ⟨hk, fun _ h => absurd h (Nat.not_lt_zero _)⟩

/-- Past a character that is not the `NUL`, the stream moves on by one. -/
theorem fwVerStream_succ (ver : Nat → UInt8) {k : Nat} (hv : ver k ≠ 0) (j : Nat) :
    fwVerStream ver (k + 1) j = fwVerStream ver k (j + 1) := by
  have hall : (∀ i < j, ver (k + 1 + i) ≠ 0) ↔ ∀ i < j + 1, ver (k + i) ≠ 0 := by
    constructor
    · intro h i hi
      rcases i with _ | i
      · exact hv
      · rw [show k + (i + 1) = k + 1 + i by omega]; exact h i (by omega)
    · intro h i hi
      rw [show k + 1 + i = k + (i + 1) by omega]; exact h (i + 1) (by omega)
  simp only [fwVerStream, hall, show k + 1 + j = k + (j + 1) by omega]

/-- At the `NUL`, or past the end of `tpm_fw_ver`, the stream is `NUL`s. -/
theorem fwVerStream_eq_zero (ver : Nat → UInt8) {k : Nat} (h : ¬ (k < tpmFwVerSize ∧ ver k ≠ 0))
    (j : Nat) : fwVerStream ver k j = 0 := by
  unfold fwVerStream
  split_ifs with hj
  · rcases j with _ | j
    · exact not_not.mp fun hv => h ⟨by simpa using hj.1, by simpa using hv⟩
    · exact absurd (by simpa using hj.2 0 (Nat.succ_pos j)) fun hv => h ⟨by omega, hv⟩
  · rfl

/-- **Reading `TPM_FW_VER`**: `n` bytes of the stream from the read index, and the index moves
to where the stream goes on. -/
theorem fwVerRead_spec (n : Nat) : ∀ t : Tpm,
    (fwVerRead n t).1 = (List.range n).map (fwVerStream t.tpmFwVer t.tpmFwVerIndex) ∧
      ∃ k, (fwVerRead n t).2 = { t with tpmFwVerIndex := k } ∧
        ∀ j, fwVerStream t.tpmFwVer k j = fwVerStream t.tpmFwVer t.tpmFwVerIndex (n + j) := by
  induction n with
  | zero => exact fun t => ⟨rfl, t.tpmFwVerIndex, rfl, fun j => by rw [Nat.zero_add]⟩
  | succ n ih =>
    intro t
    have hstuck : ¬ (t.tpmFwVerIndex < tpmFwVerSize ∧ t.tpmFwVer t.tpmFwVerIndex ≠ 0) →
        (fwVerRead n t).1 = (List.range n).map (fun j => fwVerStream t.tpmFwVer t.tpmFwVerIndex (j + 1)) ∧
          ∃ k, (fwVerRead n t).2 = { t with tpmFwVerIndex := k } ∧
            ∀ j, fwVerStream t.tpmFwVer k j = fwVerStream t.tpmFwVer t.tpmFwVerIndex (n + 1 + j) := by
      intro h
      obtain ⟨h1, k, h2, h3⟩ := ih t
      refine ⟨?_, k, h2, fun j => ?_⟩
      · rw [h1]
        exact List.map_congr_left fun j _ => by
          rw [fwVerStream_eq_zero _ h, fwVerStream_eq_zero _ h]
      · rw [h3, fwVerStream_eq_zero _ h, fwVerStream_eq_zero _ h]
    rw [List.range_succ_eq_map, List.map_cons, List.map_map]
    unfold fwVerRead
    split
    · rename_i hk
      by_cases hv : t.tpmFwVer t.tpmFwVerIndex = 0
      · simp only [hv, ne_eq, not_true_eq_false, if_false]
        obtain ⟨h1, h2⟩ := hstuck fun h => h.2 hv
        refine ⟨?_, h2⟩
        rw [h1, fwVerStream_zero _ hk, hv]
        rfl
      · simp only [hv, ne_eq, not_false_eq_true, if_true]
        obtain ⟨h1, k, h2, h3⟩ := ih { t with tpmFwVerIndex := t.tpmFwVerIndex + 1 }
        refine ⟨?_, k, h2, fun j => ?_⟩
        · rw [h1, fwVerStream_zero _ hk]
          exact congrArg _ (List.map_congr_left fun j _ => fwVerStream_succ _ hv j)
        · rw [show n + 1 + j = n + j + 1 by omega, ← fwVerStream_succ _ hv]
          exact h3 j
    · rename_i hk
      obtain ⟨h1, h2⟩ := hstuck fun h => hk h.1
      refine ⟨?_, h2⟩
      show 0 :: (fwVerRead n t).1 = _
      rw [h1, fwVerStream_eq_zero _ fun h => hk h.1]
      rfl

/-- How many bytes a host access asks of register `regaddr`. -/
def regReadSize (regaddr : UInt32) : TpmEvent → Nat
  | .get r n => if r = regaddr then n.toNat else 0
  | _ => 0

/-- What a host access returns from register `regaddr`. -/
def regReply (regaddr : UInt32) (t : Tpm) : TpmEvent → List UInt8
  | .get r n => if r = regaddr then (tpmRegisterGet r n t).1 else []
  | _ => []

/-- What the reads of register `regaddr` in a run return, one after the other. -/
def regReplies (regaddr : UInt32) : Tpm → List TpmEvent → List UInt8
  | _, [] => []
  | t, e :: evs => regReply regaddr t e ++ regReplies regaddr (tpmStep t e) evs

/-- The host accesses a read of the version string survives: a read of any register, or a write
to any register but `TPM_FW_VER`. -/
def FwVerAccess : TpmEvent → Prop
  | .get _ _ => True
  | .put regaddr _ => regaddr ≠ tpmFwVer
  | _ => False

instance : DecidablePred FwVerAccess
  | .get _ _ => inferInstanceAs (Decidable True)
  | .put regaddr _ => inferInstanceAs (Decidable (regaddr ≠ tpmFwVer))
  | .resetRequest => inferInstanceAs (Decidable False)
  | .resetNow _ _ => inferInstanceAs (Decidable False)
  | .response _ => inferInstanceAs (Decidable False)

/-- The fields a read of the version string depends on. -/
structure SameVersion (t t' : Tpm) : Prop where
  ver : t'.tpmFwVer = t.tpmFwVer
  index : t'.tpmFwVerIndex = t.tpmFwVerIndex
  reset : t'.resetInProgress = t.resetInProgress

theorem SameVersion.trans {t t' t'' : Tpm} (h : SameVersion t t') (h' : SameVersion t' t'') :
    SameVersion t t'' :=
  ⟨h'.ver.trans h.ver, h'.index.trans h.index, h'.reset.trans h.reset⟩

theorem sameVersion_setTpmState (s : TpmStates) (t : Tpm) : SameVersion t (setTpmState s t) := by
  unfold setTpmState; split_ifs <;> exact ⟨rfl, rfl, rfl⟩

theorem sameVersion_accessRegWrite (data : UInt8) (t : Tpm) :
    SameVersion t (accessRegWrite data t) := by
  unfold accessRegWrite
  split_ifs
  · exact ⟨rfl, rfl, rfl⟩
  · exact ⟨rfl, rfl, rfl⟩
  · exact (⟨rfl, rfl, rfl⟩ : SameVersion t { t with access := t.access &&& ~~~activeLocality }).trans
      (sameVersion_setTpmState _ _)
  · exact ⟨rfl, rfl, rfl⟩

theorem sameVersion_stsRegWrite (data : List UInt8) (t : Tpm) :
    SameVersion t (stsRegWrite data t) := by
  unfold stsRegWrite
  dsimp only
  split_ifs
  · exact ⟨rfl, rfl, rfl⟩
  · unfold stsRegWriteCr
    split
    · exact (sameVersion_setTpmState _ t).trans ⟨rfl, rfl, rfl⟩
    · exact ⟨rfl, rfl, rfl⟩
    all_goals exact (sameVersion_setTpmState _ t).trans ⟨rfl, rfl, rfl⟩
  · unfold stsRegWriteTg
    split <;> first | exact ⟨rfl, rfl, rfl⟩ | split_ifs
    exacts [sameVersion_setTpmState _ t, ⟨rfl, rfl, rfl⟩]
  · unfold stsRegWriteRr
    split <;> exact ⟨rfl, rfl, rfl⟩
  · exact ⟨rfl, rfl, rfl⟩

theorem sameVersion_fifoRegWrite (data : List UInt8) (t : Tpm) :
    SameVersion t (fifoRegWrite data t) := by
  have h₁ : SameVersion t (if t.state = .ready ∧ t.fifoWriteIndex = 0 then
      setTpmState .receivingCmd t else t) := by
    split_ifs
    · exact sameVersion_setTpmState _ t
    · exact ⟨rfl, rfl, rfl⟩
  unfold fifoRegWrite
  generalize (if t.state = .ready ∧ t.fifoWriteIndex = 0 then setTpmState .receivingCmd t
    else t) = t₁ at h₁ ⊢
  dsimp only
  split_ifs
  · exact h₁
  · exact h₁.trans ((⟨rfl, rfl, rfl⟩ : SameVersion t₁ { t₁ with fifoWriteIndex := 0 }).trans
      (sameVersion_setTpmState _ _))
  · rw [fifoExpect_eq]; exact h₁.trans ⟨rfl, rfl, rfl⟩

theorem sameVersion_tpmRegisterPut {regaddr : UInt32} (h : regaddr ≠ tpmFwVer)
    (data : List UInt8) (t : Tpm) : SameVersion t (tpmRegisterPut regaddr data t) := by
  rcases tpmRegisterPut_cases regaddr data t with hp | ⟨-, hp⟩ | ⟨-, hp⟩ | ⟨-, hp⟩ | ⟨hr, -⟩
  · rw [hp]; exact ⟨rfl, rfl, rfl⟩
  · rw [hp]; exact sameVersion_accessRegWrite _ t
  · rw [hp]; exact sameVersion_stsRegWrite _ t
  · rw [hp]; exact sameVersion_fifoRegWrite _ t
  · exact absurd hr h

theorem sameVersion_tpmRegisterGet {regaddr : UInt32} (h : regaddr ≠ tpmFwVer) (n : UInt32)
    (t : Tpm) : SameVersion t (tpmRegisterGet regaddr n t).2 := by
  by_cases hreset : t.resetInProgress
  · rw [tpmRegisterGet, if_pos hreset]; exact ⟨rfl, rfl, rfl⟩
  rw [tpmRegisterGet, if_neg hreset]
  by_cases hd : regaddr = tpmDataFifo
  · subst hd
    rw [if_neg (by decide), if_neg (by decide), if_neg (by decide), if_neg (by decide),
      if_neg (by decide), if_pos rfl]
    exact ⟨rfl, rfl, rfl⟩
  · simp only [apply_ite Prod.snd, hd, h, if_false, ite_self]
    exact ⟨rfl, rfl, rfl⟩

theorem tpmRegisterGet_fwVer (n : UInt32) {t : Tpm} (h : t.resetInProgress = false) :
    tpmRegisterGet tpmFwVer n t = fwVerRead n.toNat t := by
  rw [tpmRegisterGet, if_neg (by rw [h]; exact Bool.false_ne_true), if_neg (by decide),
    if_neg (by decide), if_neg (by decide), if_neg (by decide), if_neg (by decide),
    if_neg (by decide), if_pos rfl]

/-- A write to `TPM_FW_VER` rewinds the read index, and does nothing else. -/
theorem tpmRegisterPut_fwVer (data : List UInt8) {t : Tpm} (h : t.resetInProgress = false) :
    tpmRegisterPut tpmFwVer data t = { t with tpmFwVerIndex := 0 } := by
  rw [tpmRegisterPut, if_neg (by rw [h]; exact Bool.false_ne_true), if_neg (by decide),
    if_neg (by decide), if_neg (by decide), if_pos rfl]

/-- The `TPM_FW_VER` reads of a run return the next bytes of the stream, as many as they ask for
in all. -/
theorem fwVer_replies (evs : List TpmEvent) (hevs : ∀ e ∈ evs, FwVerAccess e) :
    ∀ t : Tpm, t.resetInProgress = false →
      regReplies tpmFwVer t evs =
        (List.range (evs.map (regReadSize tpmFwVer)).sum).map
          (fwVerStream t.tpmFwVer t.tpmFwVerIndex) := by
  induction evs with
  | nil => exact fun _ _ => rfl
  | cons e evs ih =>
    specialize ih fun e' he' => hevs e' (List.mem_cons_of_mem e he')
    intro t hreset
    have same : ∀ {t'}, SameVersion t t' → regReplies tpmFwVer t' evs =
        (List.range (evs.map (regReadSize tpmFwVer)).sum).map
          (fwVerStream t.tpmFwVer t.tpmFwVerIndex) := fun hs => by
      rw [ih _ (hs.reset.trans hreset), hs.ver, hs.index]
    rw [regReplies, List.map_cons, List.sum_cons]
    cases e with
    | get regaddr n =>
      by_cases hr : regaddr = tpmFwVer
      · subst hr
        obtain ⟨h1, k, h2, h3⟩ := fwVerRead_spec n.toNat t
        rw [regReply, if_pos rfl, regReadSize, if_pos rfl, tpmStep, tpmRegisterGet_fwVer n hreset,
          h1, h2, ih { t with tpmFwVerIndex := k } hreset, List.range_add, List.map_append, List.map_map]
        exact congrArg _ (List.map_congr_left fun j _ => h3 j)
      · rw [regReply, if_neg hr, regReadSize, if_neg hr, Nat.zero_add, List.nil_append]
        exact same (sameVersion_tpmRegisterGet hr n t)
    | put regaddr data =>
      dsimp only [regReply, regReadSize]
      rw [Nat.zero_add, List.nil_append]
      exact same (sameVersion_tpmRegisterPut (hevs _ (List.mem_cons_self _ _)) data t)
    | resetRequest => exact (hevs _ (List.mem_cons_self _ _)).elim
    | resetNow _ _ => exact (hevs _ (List.mem_cons_self _ _)).elim
    | response _ => exact (hevs _ (List.mem_cons_self _ _)).elim

/-- **Reading the version string.** With no reset in progress, after a write to `TPM_FW_VER`
rewinds its read index, every run of reads of any registers and sizes, and writes to registers
other than `TPM_FW_VER`, returns from `TPM_FW_VER` the version string up to and including its
first `NUL`, cut at the 80 bytes of `tpm_fw_ver`, and `NUL`s after it: as many bytes as the reads
ask for in all, however they are split. -/
theorem tpm_fw_ver_reads (t : Tpm) (hreset : t.resetInProgress = false) (data : List UInt8)
    (evs : List TpmEvent) (hevs : ∀ e ∈ evs, FwVerAccess e) :
    regReplies tpmFwVer (tpmRegisterPut tpmFwVer data t) evs =
      (List.range (evs.map (regReadSize tpmFwVer)).sum).map fun j =>
        if j < tpmFwVerSize ∧ ∀ i < j, t.tpmFwVer i ≠ 0 then t.tpmFwVer j else 0 := by
  rw [tpmRegisterPut_fwVer data hreset, fwVer_replies evs hevs { t with tpmFwVerIndex := 0 } hreset]
  exact List.map_congr_left fun j _ => by simp only [fwVerStream, Nat.zero_add]

/-- `"ab"` read in a 1-byte and a 4-byte read, around a write to `TPM_STS`. -/
theorem tpm_fw_ver_reads_ab :
    (tpmResetNow false (fun i => if i = 0 then 0x61 else if i = 1 then 0x62 else 0)
        bootTpm).resetInProgress = false ∧
      (∀ e ∈ [.get tpmFwVer 1, .put tpmSts [0x40], .get tpmFwVer 4], FwVerAccess e) ∧
      regReplies tpmFwVer
          (tpmRegisterPut tpmFwVer []
            (tpmResetNow false (fun i => if i = 0 then 0x61 else if i = 1 then 0x62 else 0)
              bootTpm))
          [.get tpmFwVer 1, .put tpmSts [0x40], .get tpmFwVer 4] =
        (List.range ([TpmEvent.get tpmFwVer 1, .put tpmSts [0x40], .get tpmFwVer 4].map
            (regReadSize tpmFwVer)).sum).map fun j =>
          if j < tpmFwVerSize ∧ ∀ i < j, (tpmResetNow false
              (fun i => if i = 0 then 0x61 else if i = 1 then 0x62 else 0) bootTpm).tpmFwVer i ≠ 0
          then (tpmResetNow false (fun i => if i = 0 then 0x61 else if i = 1 then 0x62 else 0)
            bootTpm).tpmFwVer j
          else 0 :=
  ⟨rfl, by decide, tpm_fw_ver_reads _ rfl [] _ (by decide)⟩

end Twonkie.TpmRegisters
