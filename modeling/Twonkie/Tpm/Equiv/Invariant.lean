import Twonkie.Tpm.Equiv.Response

/-!
# Invariants of the TPM register file

Two facts the host relies on hold in every state a run of the register file reaches, whatever
the host accesses, the reset requests and the responses in it:

* `TPM_STS` and `TPM_ACCESS` stay as `tpm_init` set them up (`RegsValid`): the bits the state
  machine does not drive keep their `tpm_init` value (the TPM 2.0 family and `stsValid`), the
  burst count that `tpm_get_burst_size` returns is between 1 and 63, and `TPM_ACCESS` is
  `tpmRegValidSts`, with `activeLocality` while the host holds the locality
  (`tpmRun_regsValid`). A reset with a suspected rolling reboot is the exception: `tpm_init`
  returns early and leaves both registers `0`.
* `fifo_write_index` never passes the 2048 bytes of `data_fifo`, so neither `fifo_reg_write` nor
  the response copy of `tpm_task` writes past the buffer (`tpmRun_fifo_in_bounds`), as long as a
  single write is shorter than `2^32 - 2048` bytes; a longer one wraps the unsigned sum that
  `fifo_reg_write` checks.

Each operation on `TPM_STS` either sets or clears one of the flags `dataAvail`, `commandReady`
and `expect`, or rewrites the burst-count field; `StsOk` is kept by each of these
(`StsOk.or_flag`, `StsOk.and_not_flag`, `stsOk_stsAfterRead`, `stsOk_post`), and each function of
the register file has one lemma saying which of them it does.
-/

namespace Twonkie.TpmRegisters

/-! ### Bits of `TPM_STS` -/

/-- The bits of `TPM_STS` that change after `tpm_init`: the burst count, `dataAvail`,
`commandReady` and `expect`. -/
def stsDriven : UInt32 :=
  (burstCountMask <<< burstCountShift) ||| dataAvail ||| commandReady ||| expect

theorem uInt32_toBitVec_zero : (0 : UInt32).toBitVec = 0#32 := rfl

/-- Setting bits inside `d` leaves the bits outside `d` alone. -/
theorem or_and_not_eq {s b d : UInt32} (hb : b &&& ~~~d = 0) : (s ||| b) &&& ~~~d = s &&& ~~~d := by
  apply UInt32.eq_of_toBitVec_eq
  ext j
  have hj := congrArg (fun x : UInt32 => x.toBitVec.getLsbD j) hb
  simp only [uInt32_toBitVec_and, uInt32_toBitVec_or, uInt32_toBitVec_not, uInt32_toBitVec_zero,
    BitVec.getLsbD_and, BitVec.getLsbD_or, BitVec.getLsbD_not, BitVec.getLsbD_zero] at hj ⊢
  cases hb' : b.toBitVec.getLsbD j <;> cases hd : d.toBitVec.getLsbD j <;> simp_all

/-- Clearing bits inside `d` leaves the bits outside `d` alone. -/
theorem and_and_not_eq {s c d : UInt32} (hc : ~~~c &&& ~~~d = 0) : (s &&& c) &&& ~~~d = s &&& ~~~d := by
  apply UInt32.eq_of_toBitVec_eq
  ext j
  have hj := congrArg (fun x : UInt32 => x.toBitVec.getLsbD j) hc
  simp only [uInt32_toBitVec_and, uInt32_toBitVec_not, uInt32_toBitVec_zero,
    BitVec.getLsbD_and, BitVec.getLsbD_not, BitVec.getLsbD_zero] at hj ⊢
  cases hc' : c.toBitVec.getLsbD j <;> cases hd : d.toBitVec.getLsbD j <;> simp_all

theorem burstCount_or_of_and_eq_zero {s b : UInt32} (hb : b &&& (burstCountMask <<< burstCountShift) = 0) :
    burstCount (s ||| b) = burstCount s := by
  apply UInt32.eq_of_toBitVec_eq
  ext j
  have hj := congrArg (fun x : UInt32 => x.toBitVec.getLsbD (8 + j)) hb
  simp only [uInt32_toBitVec_and, toBitVec_shiftLeft_burstCountShift, uInt32_toBitVec_zero,
    BitVec.getLsbD_and, BitVec.getLsbD_shiftLeft, getLsbD_burstCountMask, BitVec.getLsbD_zero] at hj
  rw [getLsbD_burstCount, getLsbD_burstCount, uInt32_toBitVec_or, BitVec.getLsbD_or]
  by_cases h : (j : Nat) < 16
  · simp_all [show 8 + (j : Nat) < 32 by omega]
  · simp [h]

theorem burstCount_and_of_not_and_eq_zero {s c : UInt32}
    (hc : ~~~c &&& (burstCountMask <<< burstCountShift) = 0) :
    burstCount (s &&& c) = burstCount s := by
  apply UInt32.eq_of_toBitVec_eq
  ext j
  have hj := congrArg (fun x : UInt32 => x.toBitVec.getLsbD (8 + j)) hc
  simp only [uInt32_toBitVec_and, uInt32_toBitVec_not, toBitVec_shiftLeft_burstCountShift,
    uInt32_toBitVec_zero, BitVec.getLsbD_and, BitVec.getLsbD_not, BitVec.getLsbD_shiftLeft,
    getLsbD_burstCountMask, BitVec.getLsbD_zero] at hj
  rw [getLsbD_burstCount, getLsbD_burstCount, uInt32_toBitVec_and, BitVec.getLsbD_and]
  by_cases h : (j : Nat) < 16
  · simp_all [show 8 + (j : Nat) < 32 by omega]
  · simp [h]

/-- A burst count written into its field stays inside `stsDriven`. -/
theorem shiftLeft_and_not_stsDriven {v : UInt32} (hv : v.toNat < 2 ^ 16) :
    (v <<< burstCountShift) &&& ~~~stsDriven = 0 := by
  apply UInt32.eq_of_toBitVec_eq
  ext j
  have hdriven : ∀ k < 16, stsDriven.toBitVec.getLsbD (8 + k) = true := by decide
  rw [uInt32_toBitVec_and, uInt32_toBitVec_not, toBitVec_shiftLeft_burstCountShift,
    BitVec.getLsbD_and, BitVec.getLsbD_not, BitVec.getLsbD_shiftLeft, uInt32_toBitVec_zero,
    BitVec.getLsbD_zero]
  by_cases h : 8 ≤ (j : Nat) ∧ (j : Nat) < 24
  · have := hdriven ((j : Nat) - 8) (by omega)
    rw [show 8 + ((j : Nat) - 8) = j by omega] at this
    simp [this]
  · have hv' : v.toBitVec.getLsbD ((j : Nat) - 8) = false ∨ (j : Nat) < 8 := by
      by_cases h8 : (j : Nat) < 8
      · exact .inr h8
      · exact .inl (Nat.testBit_lt_two_pow
          (Nat.lt_of_lt_of_le hv (Nat.pow_le_pow_right (by decide) (by omega))))
    rcases hv' with hv' | hv' <;> simp [hv', Nat.not_lt.mpr, *]

/-- `TPM_STS` as `tpm_init` sets it up: the bits outside `stsDriven` are the TPM 2.0 family and
`stsValid`, and the burst count is between 1 and 63. -/
structure StsOk (sts : UInt32) : Prop where
  fixed : sts &&& ~~~stsDriven = (tpmFamilyTpm2 <<< tpmFamilyShift) ||| stsValid
  burstPos : 1 ≤ (burstCount sts).toNat
  burstLe : (burstCount sts).toNat ≤ 63

theorem stsOk_init : StsOk tpmStsInit :=
  ⟨by decide, by decide, by decide⟩

/-- Setting a flag of `stsDriven` outside the burst count. -/
theorem StsOk.or_flag {s b : UInt32} (h : StsOk s) (hb : b &&& ~~~stsDriven = 0)
    (hb' : b &&& (burstCountMask <<< burstCountShift) = 0) : StsOk (s ||| b) := by
  refine ⟨?_, ?_, ?_⟩
  · rw [or_and_not_eq hb, h.fixed]
  · rw [burstCount_or_of_and_eq_zero hb']; exact h.burstPos
  · rw [burstCount_or_of_and_eq_zero hb']; exact h.burstLe

/-- Clearing flags of `stsDriven` outside the burst count. -/
theorem StsOk.and_flag {s c : UInt32} (h : StsOk s) (hc : ~~~c &&& ~~~stsDriven = 0)
    (hc' : ~~~c &&& (burstCountMask <<< burstCountShift) = 0) : StsOk (s &&& c) := by
  refine ⟨?_, ?_, ?_⟩
  · rw [and_and_not_eq hc, h.fixed]
  · rw [burstCount_and_of_not_and_eq_zero hc']; exact h.burstPos
  · rw [burstCount_and_of_not_and_eq_zero hc']; exact h.burstLe

/-- A new burst count between 1 and 63 written into a cleared field. -/
theorem StsOk.burst {s v : UInt32} (h : StsOk s) (hv : 1 ≤ v.toNat) (hv' : v.toNat ≤ 63) :
    StsOk ((s &&& ~~~(burstCountMask <<< burstCountShift)) ||| (v <<< burstCountShift)) := by
  have hv16 : v.toNat < 2 ^ 16 := by omega
  refine ⟨?_, ?_, ?_⟩
  · rw [or_and_not_eq (shiftLeft_and_not_stsDriven hv16), and_and_not_eq (by decide), h.fixed]
  all_goals rw [burstCount_or_shiftLeft (burstCount_clear s) hv16]; assumption

theorem stsOk_stsAfterRead {s : UInt32} (h : StsOk s) (w r : UInt32) :
    StsOk (stsAfterRead s w r) := by
  unfold stsAfterRead
  dsimp only
  split
  · have hc := burstCount_and_of_eq_zero (burstCount_clear s) (~~~(dataAvail ||| commandReady))
    refine ⟨?_, ?_, ?_⟩
    · rw [or_and_not_eq (by decide), and_and_not_eq (by decide), and_and_not_eq (by decide), h.fixed]
    all_goals rw [burstCount_or_shiftLeft hc (by decide)]; decide
  · rename_i hne
    have hsub : (w - r).toNat ≠ 0 := fun h0 => hne (uInt32_eq_of_toNat (by
      have := uInt32_toNat_lt w
      have := uInt32_toNat_lt r
      rw [uInt32_toNat_sub] at h0
      omega))
    refine h.burst ?_ ?_ <;> rw [uInt32_toNat_min, show (63 : UInt32).toNat = 63 from rfl] <;> omega

/-! ### What each function does to `TPM_STS` and `TPM_ACCESS` -/

@[simp] theorem setTpmState_sts (s : TpmStates) (t : Tpm) : (setTpmState s t).sts = t.sts := by
  unfold setTpmState; split_ifs <;> rfl

@[simp] theorem setTpmState_access (s : TpmStates) (t : Tpm) :
    (setTpmState s t).access = t.access := by
  unfold setTpmState; split_ifs <;> rfl

/-- What the host may rely on in `TPM_STS` and `TPM_ACCESS` once `tpm_init` has run. -/
structure RegsValid (t : Tpm) : Prop where
  sts : StsOk t.sts
  access : t.access = tpmRegValidSts ∨ t.access = tpmRegValidSts ||| activeLocality

theorem RegsValid.of_sts {t t' : Tpm} (h : RegsValid t) (hs : StsOk t'.sts)
    (ha : t'.access = t.access) : RegsValid t' :=
  ⟨hs, ha ▸ h.access⟩

theorem RegsValid.of_eq {t t' : Tpm} (h : RegsValid t) (hs : t'.sts = t.sts)
    (ha : t'.access = t.access) : RegsValid t' :=
  h.of_sts (hs ▸ h.sts) ha

theorem regsValid_setTpmState {t : Tpm} (h : RegsValid t) (s : TpmStates) :
    RegsValid (setTpmState s t) :=
  h.of_eq (setTpmState_sts s t) (setTpmState_access s t)

/-- `request_use` takes the locality, `active_locality` gives it back. -/
theorem regsValid_accessRegWrite {t : Tpm} (h : RegsValid t) (data : UInt8) :
    RegsValid (accessRegWrite data t) := by
  unfold accessRegWrite
  split_ifs
  · exact h
  · refine ⟨h.sts, .inr ?_⟩
    show t.access ||| activeLocality = _
    rcases h.access with ha | ha <;> exact (congrArg (· ||| activeLocality) ha).trans (by decide)
  · refine regsValid_setTpmState (t := { t with access := t.access &&& ~~~activeLocality })
      ⟨h.sts, .inl ?_⟩ _
    show t.access &&& ~~~activeLocality = _
    rcases h.access with ha | ha <;> exact (congrArg (· &&& ~~~activeLocality) ha).trans (by decide)
  · exact h

theorem regsValid_stsRegWrite {t : Tpm} (h : RegsValid t) (data : List UInt8) :
    RegsValid (stsRegWrite data t) := by
  have hcr := h.sts.or_flag (b := commandReady) (by decide) (by decide)
  have hncr := h.sts.and_flag (c := ~~~commandReady) (by decide) (by decide)
  unfold stsRegWrite
  dsimp only
  split_ifs
  · exact h
  · unfold stsRegWriteCr
    split
    · exact h.of_sts hcr (setTpmState_access _ _)
    · exact h.of_sts hcr rfl
    all_goals exact h.of_sts hncr (setTpmState_access _ _)
  · unfold stsRegWriteTg
    split <;> first | exact h | split_ifs
    exacts [regsValid_setTpmState h _, h]
  · unfold stsRegWriteRr
    split <;> first | exact h | exact h.of_eq rfl rfl
  · exact h

theorem regsValid_fifoExpect {t : Tpm} (h : RegsValid t) : RegsValid (fifoExpect t) := by
  have he := h.sts.or_flag (b := expect) (by decide) (by decide)
  unfold fifoExpect
  split_ifs
  · exact h.of_sts he rfl
  · exact h.of_sts he rfl
  · exact h.of_sts (h.sts.and_flag (c := ~~~expect) (by decide) (by decide)) rfl

theorem regsValid_fifoRegWrite {t : Tpm} (h : RegsValid t) (data : List UInt8) :
    RegsValid (fifoRegWrite data t) := by
  have h₁ : RegsValid (if t.state = .ready ∧ t.fifoWriteIndex = 0 then setTpmState .receivingCmd t
      else t) := by
    split_ifs
    · exact regsValid_setTpmState h _
    · exact h
  unfold fifoRegWrite
  generalize (if t.state = .ready ∧ t.fifoWriteIndex = 0 then setTpmState .receivingCmd t
    else t) = t₁ at h₁ ⊢
  dsimp only
  split_ifs
  · exact h₁
  · exact regsValid_setTpmState (t := { t₁ with fifoWriteIndex := 0 }) (h₁.of_eq rfl rfl) _
  · exact regsValid_fifoExpect (h₁.of_eq rfl rfl)

/-- What a register write can do: nothing, or one of the four writes of `tpm_register_put`. -/
theorem tpmRegisterPut_cases (regaddr : UInt32) (data : List UInt8) (t : Tpm) :
    tpmRegisterPut regaddr data t = t ∨
      regaddr = tpmAccess ∧ tpmRegisterPut regaddr data t = accessRegWrite (data.getD 0 0) t ∨
      regaddr = tpmSts ∧ tpmRegisterPut regaddr data t = stsRegWrite data t ∨
      regaddr = tpmDataFifo ∧ tpmRegisterPut regaddr data t = fifoRegWrite data t ∨
      regaddr = tpmFwVer ∧ tpmRegisterPut regaddr data t = { t with tpmFwVerIndex := 0 } := by
  unfold tpmRegisterPut
  by_cases h0 : t.resetInProgress
  · exact .inl (if_pos h0)
  rw [if_neg h0]
  by_cases h1 : regaddr = tpmAccess
  · exact .inr (.inl ⟨h1, if_pos h1⟩)
  rw [if_neg h1]
  by_cases h2 : regaddr = tpmSts
  · exact .inr (.inr (.inl ⟨h2, if_pos h2⟩))
  rw [if_neg h2]
  by_cases h3 : regaddr = tpmDataFifo
  · exact .inr (.inr (.inr (.inl ⟨h3, if_pos h3⟩)))
  rw [if_neg h3]
  by_cases h4 : regaddr = tpmFwVer
  · exact .inr (.inr (.inr (.inr ⟨h4, if_pos h4⟩)))
  · exact .inl (if_neg h4)

theorem regsValid_tpmRegisterPut {t : Tpm} (h : RegsValid t) (regaddr : UInt32)
    (data : List UInt8) : RegsValid (tpmRegisterPut regaddr data t) := by
  rcases tpmRegisterPut_cases regaddr data t with hp | ⟨-, hp⟩ | ⟨-, hp⟩ | ⟨-, hp⟩ | ⟨-, hp⟩ <;>
    rw [hp]
  · exact h
  · exact regsValid_accessRegWrite h _
  · exact regsValid_stsRegWrite h _
  · exact regsValid_fifoRegWrite h _
  · exact h.of_eq rfl rfl

/-- A read changes the register file through `fifo_reg_read` or moves the version index. -/
theorem tpmRegisterGet_snd_cases (regaddr n : UInt32) (t : Tpm) :
    (tpmRegisterGet regaddr n t).2 = (fifoRegRead n t).2 ∨
      ∃ k, (tpmRegisterGet regaddr n t).2 = { t with tpmFwVerIndex := k } := by
  by_cases hreset : t.resetInProgress
  · exact .inr ⟨t.tpmFwVerIndex, by rw [tpmRegisterGet, if_pos hreset]⟩
  rw [tpmRegisterGet, if_neg hreset]
  by_cases hd : regaddr = tpmDataFifo
  · subst hd
    rw [if_neg (by decide), if_neg (by decide), if_neg (by decide), if_neg (by decide),
      if_neg (by decide), if_pos rfl]
    exact .inl rfl
  by_cases hf : regaddr = tpmFwVer
  · subst hf
    rw [if_neg (by decide), if_neg (by decide), if_neg (by decide), if_neg (by decide),
      if_neg (by decide), if_neg (by decide), if_pos rfl]
    exact .inr (fwVerRead_snd _ _)
  · simp only [apply_ite Prod.snd, hd, hf, if_false, ite_self]
    exact .inr ⟨t.tpmFwVerIndex, rfl⟩

theorem regsValid_tpmRegisterGet {t : Tpm} (h : RegsValid t) (regaddr n : UInt32) :
    RegsValid (tpmRegisterGet regaddr n t).2 := by
  rcases tpmRegisterGet_snd_cases regaddr n t with hr | ⟨k, hr⟩ <;> rw [hr]
  · exact ⟨stsOk_stsAfterRead h.sts _ _, h.access⟩
  · exact h.of_eq rfl rfl

/-- The `TPM_STS` the command loop stores for a response of 1 to 2048 bytes. -/
theorem stsOk_posted {sts : UInt32} (h : StsOk sts) {n : Nat} (hn : n ≠ 0 ∧ n ≤ 2048) :
    StsOk ((sts &&& ~~~(burstCountMask <<< burstCountShift)) |||
      (min n.toUInt32 63 <<< burstCountShift) ||| dataAvail) := by
  have hv : (min n.toUInt32 63).toNat = min n 63 := by
    rw [uInt32_toNat_min, toNat_toUInt32 (by omega)]; rfl
  exact StsOk.or_flag (StsOk.burst h (by rw [hv]; omega) (by rw [hv]; omega)) (by decide) (by decide)

theorem regsValid_tpmPostResponse {t : Tpm} (h : RegsValid t) (response : List UInt8) :
    RegsValid (tpmPostResponse response t) := by
  unfold tpmPostResponse
  dsimp only
  split_ifs with hr
  · rw [dataFifoSize_toNat] at hr
    exact h.of_sts (stsOk_posted h.sts hr) (setTpmState_access _ _)
  · exact h

theorem regsValid_tpmResetNow (version : Nat → UInt8) (t : Tpm) :
    RegsValid (tpmResetNow false version t) :=
  ⟨stsOk_init, .inl rfl⟩

theorem regsValid_tpmStep {t : Tpm} (h : RegsValid t) (e : TpmEvent)
    (he : ∀ v, e ≠ .resetNow true v) : RegsValid (tpmStep t e) := by
  cases e with
  | put regaddr data => exact regsValid_tpmRegisterPut h regaddr data
  | get regaddr n => exact regsValid_tpmRegisterGet h regaddr n
  | resetRequest =>
    unfold tpmStep tpmResetRequest
    split_ifs
    · exact h
    · exact h.of_eq rfl rfl
  | resetNow rollingReboot version =>
    cases rollingReboot
    · exact regsValid_tpmResetNow version t
    · exact absurd rfl (he version)
  | response r => exact regsValid_tpmPostResponse h r

theorem regsValid_tpmRun (evs : List TpmEvent) (hevs : ∀ e ∈ evs, ∀ v, e ≠ .resetNow true v) :
    ∀ {t : Tpm}, RegsValid t → RegsValid (tpmRun t evs) := by
  induction evs with
  | nil => exact fun h => h
  | cons e evs ih =>
    intro t h
    exact ih (fun e' he' => hevs e' (List.mem_cons_of_mem e he'))
      (regsValid_tpmStep h e (hevs e (List.mem_cons_self e evs)))

/-- **`TPM_STS` and `TPM_ACCESS` stay well formed.** After the TPM task's reset without a
suspected rolling reboot, through every run of host accesses, reset requests, further such
resets and response posts: `tpm_get_burst_size()` is between 1 and 63, every bit of `TPM_STS`
outside the burst count, `dataAvail`, `commandReady` and `expect` is as `tpm_init` set it (the
TPM 2.0 family and `stsValid`, nothing else), and `TPM_ACCESS` is `tpmRegValidSts`, with or
without `activeLocality`. -/
theorem tpmRun_regsValid (t : Tpm) (version : Nat → UInt8) (evs : List TpmEvent)
    (hevs : ∀ e ∈ evs, ∀ v, e ≠ .resetNow true v) :
    1 ≤ (burstCount (tpmRun (tpmResetNow false version t) evs).sts).toNat ∧
      (burstCount (tpmRun (tpmResetNow false version t) evs).sts).toNat ≤ 63 ∧
      (tpmRun (tpmResetNow false version t) evs).sts &&& ~~~stsDriven
        = (tpmFamilyTpm2 <<< tpmFamilyShift) ||| stsValid ∧
      ((tpmRun (tpmResetNow false version t) evs).access = tpmRegValidSts ∨
        (tpmRun (tpmResetNow false version t) evs).access = tpmRegValidSts ||| activeLocality) := by
  have h := regsValid_tpmRun evs hevs (regsValid_tpmResetNow version t)
  exact ⟨h.sts.burstPos, h.sts.burstLe, h.sts.fixed, h.access⟩

/-- A command, its response and a full read of it, then the locality given back. -/
def startupSession : List TpmEvent :=
  [.put tpmAccess [0x02], .put tpmSts [0x40], .put tpmDataFifo startupCommand, .put tpmSts [0x20],
    .response startupResponse, .get tpmDataFifo 64, .put tpmAccess [0x20]]

theorem tpmRun_regsValid_startup :
    (∀ e ∈ startupSession, ∀ v, e ≠ .resetNow true v) ∧
      1 ≤ (burstCount (tpmRun (tpmResetNow false (fun _ => 0) bootTpm) startupSession).sts).toNat ∧
      (burstCount (tpmRun (tpmResetNow false (fun _ => 0) bootTpm) startupSession).sts).toNat ≤ 63 ∧
      (tpmRun (tpmResetNow false (fun _ => 0) bootTpm) startupSession).sts &&& ~~~stsDriven
        = (tpmFamilyTpm2 <<< tpmFamilyShift) ||| stsValid ∧
      ((tpmRun (tpmResetNow false (fun _ => 0) bootTpm) startupSession).access = tpmRegValidSts ∨
        (tpmRun (tpmResetNow false (fun _ => 0) bootTpm) startupSession).access
          = tpmRegValidSts ||| activeLocality) := by
  have hevs : ∀ e ∈ startupSession, ∀ v, e ≠ .resetNow true v := by
    simp only [startupSession, List.mem_cons, List.not_mem_nil, or_false]
    rintro e (rfl | rfl | rfl | rfl | rfl | rfl | rfl) v <;> exact TpmEvent.noConfusion
  exact ⟨hevs, tpmRun_regsValid bootTpm (fun _ => 0) startupSession hevs⟩

/-! ### `data_fifo` is never written past its end -/

/-- Whether a host write carries fewer than `2^32 - 2048` bytes, so that `fifo_write_index +
data_size` cannot wrap. -/
def TpmEvent.SizeOk : TpmEvent → Prop
  | .put _ data => data.length + 2048 < 2 ^ 32
  | _ => True

instance : DecidablePred TpmEvent.SizeOk
  | .put _ data => inferInstanceAs (Decidable (data.length + 2048 < 2 ^ 32))
  | .get _ _ => inferInstanceAs (Decidable True)
  | .resetRequest => inferInstanceAs (Decidable True)
  | .resetNow _ _ => inferInstanceAs (Decidable True)
  | .response _ => inferInstanceAs (Decidable True)

/-- A step that neither moves `fifo_write_index` forward nor writes `data_fifo`. -/
structure Quiet (t t' : Tpm) : Prop where
  write : t'.fifoWriteIndex.toNat ≤ t.fifoWriteIndex.toNat
  fifo : t'.dataFifo = t.dataFifo

theorem Quiet.of_eq {t t' : Tpm} (hw : t'.fifoWriteIndex = t.fifoWriteIndex)
    (hf : t'.dataFifo = t.dataFifo) : Quiet t t' :=
  ⟨hw ▸ le_rfl, hf⟩

theorem Quiet.trans {t t' t'' : Tpm} (h : Quiet t t') (h' : Quiet t' t'') : Quiet t t'' :=
  ⟨h'.write.trans h.write, h'.fifo.trans h.fifo⟩

theorem quiet_setTpmState (s : TpmStates) (t : Tpm) : Quiet t (setTpmState s t) := by
  unfold setTpmState
  split_ifs
  · exact ⟨Nat.zero_le _, rfl⟩
  · exact .of_eq rfl rfl

theorem quiet_accessRegWrite (data : UInt8) (t : Tpm) : Quiet t (accessRegWrite data t) := by
  unfold accessRegWrite
  split_ifs
  · exact .of_eq rfl rfl
  · exact .of_eq rfl rfl
  · exact (Quiet.of_eq rfl rfl : Quiet t { t with access := t.access &&& ~~~activeLocality }).trans
      (quiet_setTpmState _ _)
  · exact .of_eq rfl rfl

theorem quiet_stsRegWrite (data : List UInt8) (t : Tpm) : Quiet t (stsRegWrite data t) := by
  unfold stsRegWrite
  dsimp only
  split_ifs
  · exact .of_eq rfl rfl
  · unfold stsRegWriteCr
    split
    · exact (quiet_setTpmState _ t).trans (.of_eq rfl rfl)
    · exact .of_eq rfl rfl
    all_goals exact (quiet_setTpmState _ t).trans (.of_eq rfl rfl)
  · unfold stsRegWriteTg
    split <;> first | exact .of_eq rfl rfl | split_ifs
    exacts [quiet_setTpmState _ t, .of_eq rfl rfl]
  · unfold stsRegWriteRr
    split <;> exact .of_eq rfl rfl
  · exact .of_eq rfl rfl

theorem quiet_tpmRegisterGet (regaddr n : UInt32) (t : Tpm) :
    Quiet t (tpmRegisterGet regaddr n t).2 := by
  rcases tpmRegisterGet_snd_cases regaddr n t with hr | ⟨k, hr⟩ <;> rw [hr] <;> exact .of_eq rfl rfl

@[simp] theorem fifoExpect_dataFifo (t : Tpm) : (fifoExpect t).dataFifo = t.dataFifo := by
  unfold fifoExpect; split_ifs <;> rfl

theorem copyToFifo_of_le (fifo : Nat → UInt8) (start : Nat) (data : List UInt8) {i : Nat}
    (hi : start + data.length ≤ i) : copyToFifo fifo start data i = fifo i :=
  if_neg (by omega)

/-- A FIFO write short enough not to wrap the index stays inside `data_fifo`. -/
theorem fifoRegWrite_in_bounds {t : Tpm} (ht : t.fifoWriteIndex.toNat ≤ 2048) (data : List UInt8)
    (hsize : data.length + 2048 < 2 ^ 32) :
    (fifoRegWrite data t).fifoWriteIndex.toNat ≤ 2048 ∧
      ∀ i, 2048 ≤ i → (fifoRegWrite data t).dataFifo i = t.dataFifo i := by
  have h₁ : Quiet t (if t.state = .ready ∧ t.fifoWriteIndex = 0 then setTpmState .receivingCmd t
      else t) := by
    split_ifs
    · exact quiet_setTpmState _ t
    · exact .of_eq rfl rfl
  unfold fifoRegWrite
  generalize (if t.state = .ready ∧ t.fifoWriteIndex = 0 then setTpmState .receivingCmd t
    else t) = t₁ at h₁ ⊢
  have hw₁ := h₁.write.trans ht
  have hadd : (t₁.fifoWriteIndex + data.length.toUInt32).toNat = t₁.fifoWriteIndex.toNat + data.length := by
    rw [uInt32_toNat_add, toNat_toUInt32 (by omega), Nat.mod_eq_of_lt (by omega)]
  dsimp only
  split_ifs with hs hover
  · exact ⟨hw₁, fun i _ => congrFun h₁.fifo i⟩
  · have hq := quiet_setTpmState .ready { t₁ with fifoWriteIndex := 0 }
    refine ⟨hq.write.trans (Nat.zero_le _), fun i _ => ?_⟩
    rw [hq.fifo]; exact congrFun h₁.fifo i
  · rw [gt_iff_lt, uInt32_lt_iff, hadd, dataFifoSize_toNat, Nat.not_lt] at hover
    refine ⟨by rw [fifoExpect_fifoWriteIndex, hadd]; exact hover, fun i hi => ?_⟩
    rw [fifoExpect_dataFifo]
    show copyToFifo t₁.dataFifo t₁.fifoWriteIndex.toNat data i = _
    rw [copyToFifo_of_le _ _ _ (by omega)]
    exact congrFun h₁.fifo i

theorem tpmPostResponse_in_bounds (response : List UInt8) (t : Tpm)
    (ht : t.fifoWriteIndex.toNat ≤ 2048) :
    (tpmPostResponse response t).fifoWriteIndex.toNat ≤ 2048 ∧
      ∀ i, 2048 ≤ i → (tpmPostResponse response t).dataFifo i = t.dataFifo i := by
  unfold tpmPostResponse
  dsimp only
  split_ifs with hr
  · rw [dataFifoSize_toNat] at hr
    have hq := quiet_setTpmState .completingCmd
      { t with
        dataFifo := copyToFifo t.dataFifo 0 response
        fifoReadIndex := 0
        fifoWriteIndex := response.length.toUInt32 }
    refine ⟨hq.write.trans (by rw [toNat_toUInt32 (by omega)]; exact hr.2), fun i hi => ?_⟩
    show (setTpmState .completingCmd { t with
        dataFifo := copyToFifo t.dataFifo 0 response
        fifoReadIndex := 0
        fifoWriteIndex := response.length.toUInt32 }).dataFifo i = t.dataFifo i
    rw [hq.fifo]
    exact copyToFifo_of_le _ _ _ (by omega)
  · exact ⟨ht, fun _ _ => rfl⟩

/-- One step from a state whose write index is inside `data_fifo`: the index stays inside, and
unless the step is a reset (which clears the statics) nothing past `data_fifo` is written. -/
theorem tpmStep_in_bounds {t : Tpm} (ht : t.fifoWriteIndex.toNat ≤ 2048) {e : TpmEvent}
    (he : e.SizeOk) :
    (tpmStep t e).fifoWriteIndex.toNat ≤ 2048 ∧
      ((∀ r v, e ≠ .resetNow r v) → ∀ i, 2048 ≤ i → (tpmStep t e).dataFifo i = t.dataFifo i) := by
  have quiet : ∀ {t'}, Quiet t t' → t'.fifoWriteIndex.toNat ≤ 2048 ∧
      ((∀ r v, e ≠ .resetNow r v) → ∀ i, 2048 ≤ i → t'.dataFifo i = t.dataFifo i) :=
    fun hq => ⟨hq.write.trans ht, fun _ i _ => congrFun hq.fifo i⟩
  cases e with
  | put regaddr data =>
    dsimp only [tpmStep]
    rcases tpmRegisterPut_cases regaddr data t with hp | ⟨-, hp⟩ | ⟨-, hp⟩ | ⟨-, hp⟩ | ⟨-, hp⟩ <;>
      rw [hp]
    · exact quiet (.of_eq rfl rfl)
    · exact quiet (quiet_accessRegWrite _ t)
    · exact quiet (quiet_stsRegWrite _ t)
    · exact (fifoRegWrite_in_bounds ht data he).imp_right fun h _ => h
    · exact quiet (.of_eq rfl rfl)
  | get regaddr n => exact quiet (quiet_tpmRegisterGet regaddr n t)
  | resetRequest =>
    dsimp only [tpmStep]
    unfold tpmResetRequest
    split_ifs
    · exact quiet (.of_eq rfl rfl)
    · exact quiet (.of_eq rfl rfl)
  | resetNow r v =>
    refine ⟨?_, fun h => absurd rfl (h r v)⟩
    cases r <;> exact Nat.zero_le _
  | response r => exact (tpmPostResponse_in_bounds r t ht).imp_right fun h _ => h

theorem tpmRun_write_le (evs : List TpmEvent) (hevs : ∀ e ∈ evs, e.SizeOk) :
    ∀ {t : Tpm}, t.fifoWriteIndex.toNat ≤ 2048 → (tpmRun t evs).fifoWriteIndex.toNat ≤ 2048 := by
  induction evs with
  | nil => exact fun ht => ht
  | cons e evs ih =>
    intro t ht
    exact ih (fun e' he' => hevs e' (List.mem_cons_of_mem e he'))
      (tpmStep_in_bounds ht (hevs e (List.mem_cons_self e evs))).1

/-- **`data_fifo` is never written past its end.** From a state whose write index is inside
the 2048 bytes of `data_fifo`, after every run whose host writes are shorter than
`2^32 - 2048` bytes (as the 1 to 64 bytes of a bus transaction are), the write index is still
inside, and the next such host access or response post writes nothing past `data_fifo`: every
`memcpy` of `fifo_reg_write` and of `tpm_task` stays in the buffer. -/
theorem tpmRun_fifo_in_bounds (t : Tpm) (evs : List TpmEvent) (ht : t.fifoWriteIndex.toNat ≤ 2048)
    (hevs : ∀ e ∈ evs, e.SizeOk) :
    (tpmRun t evs).fifoWriteIndex.toNat ≤ 2048 ∧
      ∀ e, e.SizeOk → (∀ r v, e ≠ .resetNow r v) → ∀ i, 2048 ≤ i →
        (tpmStep (tpmRun t evs) e).dataFifo i = (tpmRun t evs).dataFifo i := by
  have hrun := tpmRun_write_le evs hevs ht
  exact ⟨hrun, fun e he hne => (tpmStep_in_bounds hrun he).2 hne⟩

theorem tpmRun_fifo_in_bounds_startup :
    bootTpm.fifoWriteIndex.toNat ≤ 2048 ∧ (∀ e ∈ startupSession, e.SizeOk) ∧
      (tpmRun bootTpm startupSession).fifoWriteIndex.toNat ≤ 2048 ∧
      ∀ e, e.SizeOk → (∀ r v, e ≠ .resetNow r v) → ∀ i, 2048 ≤ i →
        (tpmStep (tpmRun bootTpm startupSession) e).dataFifo i
          = (tpmRun bootTpm startupSession).dataFifo i :=
  ⟨by decide, by decide, tpmRun_fifo_in_bounds bootTpm startupSession (by decide) (by decide)⟩

end Twonkie.TpmRegisters
