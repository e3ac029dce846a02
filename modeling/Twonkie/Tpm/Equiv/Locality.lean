import Twonkie.Tpm.Equiv.Invariant

/-!
# The locality is never checked

`TPM_ACCESS` reports whether the host holds the locality: `access_reg_write` sets
`activeLocality` on every `requestUse` ("No multiple localities supported, let's just always
honor this request") and clears it, going idle, on a release. Nothing else in the file reads it.
The writes to `TPM_STS` and `TPM_DATA_FIFO`, every read, the responses of the TPM task and the
resets act on a register file the same way whatever `TPM_ACCESS` holds (`tpmStep_withAccess`).
So over every run two register files that differ only in `TPM_ACCESS` stay so, and every read of
another register returns the same bytes on both (`locality_never_checked`): a host that never
requests the locality drives commands and reads responses as one that holds it does.
-/

namespace Twonkie.TpmRegisters

/-- `t` with `TPM_ACCESS` set to `a`. -/
def withAccess (a : UInt8) (t : Tpm) : Tpm := { t with access := a }

@[simp] theorem withAccess_state (a : UInt8) (t : Tpm) : (withAccess a t).state = t.state := rfl

@[simp] theorem withAccess_fifoWriteIndex (a : UInt8) (t : Tpm) :
    (withAccess a t).fifoWriteIndex = t.fifoWriteIndex := rfl

@[simp] theorem withAccess_sts (a : UInt8) (t : Tpm) : (withAccess a t).sts = t.sts := rfl

@[simp] theorem withAccess_dataFifo (a : UInt8) (t : Tpm) :
    (withAccess a t).dataFifo = t.dataFifo := rfl

@[simp] theorem withAccess_tpmFwVerIndex (a : UInt8) (t : Tpm) :
    (withAccess a t).tpmFwVerIndex = t.tpmFwVerIndex := rfl

@[simp] theorem withAccess_tpmFwVer (a : UInt8) (t : Tpm) :
    (withAccess a t).tpmFwVer = t.tpmFwVer := rfl

@[simp] theorem withAccess_resetInProgress (a : UInt8) (t : Tpm) :
    (withAccess a t).resetInProgress = t.resetInProgress := rfl

/-! ### Register writes -/

theorem setTpmState_withAccess (s : TpmStates) (t : Tpm) (a : UInt8) :
    setTpmState s (withAccess a t) = withAccess a (setTpmState s t) := by
  unfold setTpmState withAccess; split_ifs <;> rfl

theorem stsRegWriteCr_withAccess (t : Tpm) (a : UInt8) :
    stsRegWriteCr (withAccess a t) = withAccess a (stsRegWriteCr t) := by
  obtain ⟨state⟩ := t; cases state <;> rfl

theorem stsRegWriteTg_withAccess (t : Tpm) (a : UInt8) :
    stsRegWriteTg (withAccess a t) = withAccess a (stsRegWriteTg t) := by
  obtain ⟨state⟩ := t
  cases state <;> first | rfl | (simp only [stsRegWriteTg, withAccess_state]; split_ifs <;> rfl)

theorem stsRegWriteRr_withAccess (t : Tpm) (a : UInt8) :
    stsRegWriteRr (withAccess a t) = withAccess a (stsRegWriteRr t) := by
  obtain ⟨state⟩ := t; cases state <;> rfl

theorem stsRegWrite_withAccess (data : List UInt8) (t : Tpm) (a : UInt8) :
    stsRegWrite data (withAccess a t) = withAccess a (stsRegWrite data t) := by
  unfold stsRegWrite
  dsimp only
  split_ifs <;>
    simp only [stsRegWriteCr_withAccess, stsRegWriteTg_withAccess, stsRegWriteRr_withAccess]

theorem fifoExpect_withAccess (t : Tpm) (a : UInt8) :
    fifoExpect (withAccess a t) = withAccess a (fifoExpect t) := by
  unfold fifoExpect; simp only [withAccess_fifoWriteIndex, withAccess_dataFifo]; split_ifs <;> rfl

theorem fifoRegWrite_withAccess (data : List UInt8) (t : Tpm) (a : UInt8) :
    fifoRegWrite data (withAccess a t) = withAccess a (fifoRegWrite data t) := by
  have h₁ : (if t.state = .ready ∧ t.fifoWriteIndex = 0 then
        setTpmState .receivingCmd (withAccess a t) else withAccess a t) =
      withAccess a (if t.state = .ready ∧ t.fifoWriteIndex = 0 then setTpmState .receivingCmd t
        else t) := by
    split_ifs
    · exact setTpmState_withAccess _ t a
    · rfl
  simp only [fifoRegWrite, withAccess_state, withAccess_fifoWriteIndex, h₁]
  generalize (if t.state = .ready ∧ t.fifoWriteIndex = 0 then setTpmState .receivingCmd t
    else t) = t
  simp only [withAccess_state, withAccess_fifoWriteIndex, withAccess_dataFifo]
  split_ifs
  · rfl
  · exact setTpmState_withAccess _ { t with fifoWriteIndex := 0 } a
  · exact fifoExpect_withAccess { t with
      dataFifo := copyToFifo t.dataFifo t.fifoWriteIndex.toNat data
      fifoWriteIndex := t.fifoWriteIndex + data.length.toUInt32 } a

/-! ### Register reads -/

theorem fifoRegRead_withAccess (n : UInt32) (t : Tpm) (a : UInt8) :
    fifoRegRead n (withAccess a t) = ((fifoRegRead n t).1, withAccess a (fifoRegRead n t).2) :=
  rfl

theorem fwVerRead_withAccess (n : Nat) : ∀ (t : Tpm) (a : UInt8),
    fwVerRead n (withAccess a t) = ((fwVerRead n t).1, withAccess a (fwVerRead n t).2) := by
  induction n with
  | zero => exact fun _ _ => rfl
  | succ n ih =>
    intro t a
    simp only [fwVerRead, withAccess_tpmFwVerIndex, withAccess_tpmFwVer]
    split_ifs
    · erw [ih { t with tpmFwVerIndex := t.tpmFwVerIndex + 1 } a]
    · rw [ih t a]
    · rw [ih t a]

theorem tpmRegisterGet_snd_withAccess (regaddr n : UInt32) (t : Tpm) (a : UInt8) :
    (tpmRegisterGet regaddr n (withAccess a t)).2 =
      withAccess a (tpmRegisterGet regaddr n t).2 := by
  simp only [tpmRegisterGet, withAccess_resetInProgress, apply_ite Prod.snd,
    apply_ite (withAccess a), fifoRegRead_withAccess, fwVerRead_withAccess]

/-- A read of a register other than `TPM_ACCESS` does not depend on it. -/
theorem tpmRegisterGet_fst_withAccess {regaddr : UInt32} (h : regaddr ≠ tpmAccess) (n : UInt32)
    (t : Tpm) (a : UInt8) :
    (tpmRegisterGet regaddr n (withAccess a t)).1 = (tpmRegisterGet regaddr n t).1 := by
  simp only [tpmRegisterGet, withAccess_resetInProgress, apply_ite Prod.fst, h, if_false,
    withAccess_sts, fifoRegRead_withAccess, fwVerRead_withAccess]


theorem accessRegWrite_withAccess (data : UInt8) (t : Tpm) (a : UInt8) :
    ∃ a', accessRegWrite data (withAccess a t) = withAccess a' (accessRegWrite data t) := by
  unfold accessRegWrite
  split_ifs
  · exact ⟨a, rfl⟩
  · exact ⟨a ||| activeLocality, rfl⟩
  · exact ⟨a &&& ~~~activeLocality,
      setTpmState_withAccess _ { t with access := t.access &&& ~~~activeLocality } _⟩
  · exact ⟨a, rfl⟩

theorem tpmRegisterPut_withAccess (regaddr : UInt32) (data : List UInt8) (t : Tpm) (a : UInt8) :
    ∃ a', tpmRegisterPut regaddr data (withAccess a t) =
      withAccess a' (tpmRegisterPut regaddr data t) := by
  unfold tpmRegisterPut
  rw [withAccess_resetInProgress]
  split_ifs
  · exact ⟨a, rfl⟩
  · exact accessRegWrite_withAccess _ t a
  · exact ⟨a, stsRegWrite_withAccess data t a⟩
  · exact ⟨a, fifoRegWrite_withAccess data t a⟩
  · exact ⟨a, rfl⟩
  · exact ⟨a, rfl⟩

theorem tpmPostResponse_withAccess (response : List UInt8) (t : Tpm) (a : UInt8) :
    tpmPostResponse response (withAccess a t) = withAccess a (tpmPostResponse response t) := by
  unfold tpmPostResponse
  dsimp only
  split_ifs <;> rfl

/-! ### Runs -/

/-- Every event acts on the register file as it would with any other `TPM_ACCESS`, and changes
nothing else because of it. -/
theorem tpmStep_withAccess (e : TpmEvent) (t : Tpm) (a : UInt8) :
    ∃ a', tpmStep (withAccess a t) e = withAccess a' (tpmStep t e) := by
  cases e with
  | put regaddr data => exact tpmRegisterPut_withAccess regaddr data t a
  | get regaddr n => exact ⟨a, tpmRegisterGet_snd_withAccess regaddr n t a⟩
  | resetRequest =>
    refine ⟨a, ?_⟩
    simp only [tpmStep, tpmResetRequest, withAccess_resetInProgress]
    split_ifs <;> rfl
  | resetNow rollingReboot version => exact ⟨_, rfl⟩
  | response response => exact ⟨a, tpmPostResponse_withAccess response t a⟩

theorem tpmRun_withAccess (evs : List TpmEvent) : ∀ (t : Tpm) (a : UInt8),
    ∃ a', tpmRun (withAccess a t) evs = withAccess a' (tpmRun t evs) := by
  induction evs with
  | nil => exact fun t a => ⟨a, rfl⟩
  | cons e evs ih =>
    intro t a
    obtain ⟨a₁, h₁⟩ := tpmStep_withAccess e t a
    obtain ⟨a₂, h₂⟩ := ih (tpmStep t e) a₁
    exact ⟨a₂, by rw [tpmRun_cons, h₁, h₂, tpmRun_cons]⟩

/-- **The locality is never checked.** Run the same register accesses, resets and responses
on two register files that differ only in `TPM_ACCESS`: after the run they still differ only in
`TPM_ACCESS`, and a read of any other register returns the same bytes on both. -/
theorem locality_never_checked (t : Tpm) (a : UInt8) (evs : List TpmEvent) (regaddr n : UInt32)
    (hr : regaddr ≠ tpmAccess) :
    (∃ a', tpmRun (withAccess a t) evs = withAccess a' (tpmRun t evs)) ∧
      (tpmRegisterGet regaddr n (tpmRun (withAccess a t) evs)).1 =
        (tpmRegisterGet regaddr n (tpmRun t evs)).1 := by
  obtain ⟨a', h⟩ := tpmRun_withAccess evs t a
  exact ⟨⟨a', h⟩, by rw [h, tpmRegisterGet_fst_withAccess hr]⟩

theorem locality_never_checked_startup :
    tpmDataFifo ≠ tpmAccess ∧
      (∃ a', tpmRun (withAccess activeLocality bootTpm) startupSession =
        withAccess a' (tpmRun bootTpm startupSession)) ∧
      (tpmRegisterGet tpmDataFifo 64
          (tpmRun (withAccess activeLocality bootTpm) startupSession)).1 =
        (tpmRegisterGet tpmDataFifo 64 (tpmRun bootTpm startupSession)).1 :=
  ⟨by decide, locality_never_checked _ _ _ _ _ (by decide)⟩

end Twonkie.TpmRegisters
