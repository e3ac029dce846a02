import Twonkie.Tpm.Equiv.Transfers

/-!
# The version string

`set_version_string` prints the RO part of the version into `tpm_fw_ver`, and then the RW part
after it unless the RO part filled the buffer. No byte it prints is a `NUL` (`noNul_versionRo`,
`noNul_versionRw`), so `strlen` finds the end of the RO part, and the two prints leave what one
`snprintf` of the whole format would: the string cut to 79 bytes and `NUL`-terminated, the early
return losing nothing (`setVersionString_eq`). Through the reads of `TPM_FW_VER`
(`fwVer_replies`), that is what the host reads after `tpm_init`, followed by `NUL`s
(`tpm_fw_ver_reads_version`).
-/

namespace Twonkie.TpmRegisters

/-! ### No `NUL` is printed -/

/-- No byte of `l` is a `NUL`. -/
def NoNul (l : List UInt8) : Prop := ∀ b ∈ l, b ≠ 0

instance : DecidablePred NoNul := fun l => inferInstanceAs (Decidable (∀ b ∈ l, b ≠ 0))

theorem NoNul.append {l l' : List UInt8} (h : NoNul l) (h' : NoNul l') : NoNul (l ++ l') :=
  List.forall_mem_append.mpr ⟨h, h'⟩

theorem noNul_cStringBytes (s : List UInt8) : NoNul (cStringBytes s) :=
  fun _ hb => of_decide_eq_true (List.mem_takeWhile_imp (p := fun b => decide (b ≠ 0)) hb)

theorem digitChar_ne_zero : ∀ d < 10, (Nat.digitChar d).toNat.toUInt8 ≠ 0 := by decide

theorem toDigitsCore_ne_zero (fuel : Nat) : ∀ (n : Nat) (ds : List Char),
    (∀ c ∈ ds, c.toNat.toUInt8 ≠ 0) →
      ∀ c ∈ Nat.toDigitsCore 10 fuel n ds, c.toNat.toUInt8 ≠ 0 := by
  induction fuel with
  | zero => exact fun _ _ hds => hds
  | succ fuel ih =>
    intro n ds hds
    have hds' : ∀ c ∈ Nat.digitChar (n % 10) :: ds, c.toNat.toUInt8 ≠ 0 :=
      List.forall_mem_cons.mpr ⟨digitChar_ne_zero _ (Nat.mod_lt _ (by decide)), hds⟩
    simp only [Nat.toDigitsCore]
    split_ifs
    · exact hds'
    · exact ih _ _ hds'

theorem noNul_decimalBytes (n : Int) : NoNul (decimalBytes n) := by
  refine NoNul.append ?_ fun b hb => ?_
  · split_ifs
    · decide
    · exact fun _ h => absurd h (List.not_mem_nil _)
  · obtain ⟨c, hc, rfl⟩ := List.mem_map.mp hb
    exact toDigitsCore_ne_zero _ _ [] (fun _ h => absurd h (List.not_mem_nil _)) c hc

theorem noNul_imageLetter (isA : Bool) : NoNul (imageLetter isA) := by
  cases isA <;> decide

theorem noNul_versionRo (v : VersionInfo) : NoNul (versionRo v) :=
  ((((((noNul_cStringBytes _).append (by decide)).append (noNul_decimalBytes _)).append
    (by decide)).append (noNul_imageLetter _)).append (by decide)).append (noNul_cStringBytes _)

theorem noNul_versionRw (v : VersionInfo) : NoNul (versionRw v) :=
  (((show NoNul (asciiBytes " RW_") by decide).append (noNul_imageLetter _)).append
    (by decide)).append (noNul_cStringBytes _)

/-! ### `snprintf` and `strlen` -/

/-- `snprintf` into a cleared buffer. -/
theorem snprintfAt_zero (size : Nat) (out : List UInt8) (hs : size ≠ 0) :
    snprintfAt (fun _ => 0) 0 size out =
      fun i => if i < min out.length (size - 1) then out.getD i 0 else 0 := by
  funext i
  simp only [snprintfAt, if_neg hs, Nat.zero_le, true_and, Nat.zero_add, Nat.sub_zero]
  split_ifs <;> rfl

/-- `strlen` stops at the first `NUL`. -/
theorem strlenFrom_eq (buf : Nat → UInt8) (j : Nat) : ∀ {fuel i : Nat}, j < fuel →
    (∀ k < j, buf (i + k) ≠ 0) → buf (i + j) = 0 → strlenFrom buf fuel i = j := by
  induction j with
  | zero =>
    intro fuel i hf _ h0
    obtain ⟨fuel, rfl⟩ : ∃ f, fuel = f + 1 := ⟨fuel - 1, by omega⟩
    exact if_pos h0
  | succ j ih =>
    intro fuel i hf hk h0
    obtain ⟨fuel, rfl⟩ : ∃ f, fuel = f + 1 := ⟨fuel - 1, by omega⟩
    have hne : buf i ≠ 0 := hk 0 (Nat.succ_pos j)
    have hk' : ∀ k < j, buf (i + 1 + k) ≠ 0 := fun k hk'' => by
      rw [show i + 1 + k = i + (k + 1) by omega]; exact hk (k + 1) (by omega)
    rw [strlenFrom, if_neg hne, ih (by omega) hk' (by rwa [show i + 1 + j = i + (j + 1) by omega])]

/-- The `strlen` that `set_version_string` takes after printing the RO part. -/
theorem strlenFrom_versionRo (v : VersionInfo) :
    strlenFrom (snprintfAt (fun _ => 0) 0 tpmFwVerSize (versionRo v)) tpmFwVerSize 0 =
      min (versionRo v).length (tpmFwVerSize - 1) := by
  rw [snprintfAt_zero _ _ (by decide)]
  refine strlenFrom_eq _ _ (by simp [tpmFwVerSize]) (fun k hk => ?_) ?_
  · rw [Nat.zero_add, if_pos hk, List.getD_eq_getElem _ _ (by omega)]
    exact noNul_versionRo v _ (List.getElem_mem _)
  · rw [Nat.zero_add, if_neg (lt_irrefl _)]

/-- Printing `w` where the printed `r` ends, with the room that is left, is printing `r ++ w`. -/
theorem snprintfAt_snprintfAt (size : Nat) (r w : List UInt8) (hr : r.length < size - 1) :
    snprintfAt (snprintfAt (fun _ => 0) 0 size r) r.length (size - r.length) w =
      snprintfAt (fun _ => 0) 0 size (r ++ w) := by
  rw [snprintfAt_zero _ _ (by omega), snprintfAt_zero _ _ (by omega)]
  funext i
  simp only [snprintfAt, List.length_append]
  split_ifs <;> first | omega | rw [List.getD_append _ _ _ _ (by omega)] |
    rw [List.getD_append_right _ _ _ _ (by omega)] | rfl

/-- When `r` fills the buffer, nothing printed after it shows. -/
theorem snprintfAt_full (size : Nat) (r w : List UInt8) (hs : size ≠ 0) (hr : size - 1 ≤ r.length) :
    snprintfAt (fun _ => 0) 0 size r = snprintfAt (fun _ => 0) 0 size (r ++ w) := by
  rw [snprintfAt_zero _ _ hs, snprintfAt_zero _ _ hs]
  funext i
  simp only [List.length_append]
  split_ifs <;> first | omega | rw [List.getD_append _ _ _ _ (by omega)] | rfl

/-- Read from the start, a string without `NUL`s printed into the cleared `tpm_fw_ver` gives its
first 79 bytes and then `NUL`s. -/
theorem fwVerStream_snprintfAt (out : List UInt8) (h : NoNul out) (j : Nat) :
    fwVerStream (snprintfAt (fun _ => 0) 0 tpmFwVerSize out) 0 j =
      if j < tpmFwVerSize - 1 then out.getD j 0 else 0 := by
  rw [snprintfAt_zero _ _ (by decide)]
  simp only [fwVerStream, Nat.zero_add]
  by_cases hj : j < min out.length (tpmFwVerSize - 1)
  · have hall : ∀ i < j, (if i < min out.length (tpmFwVerSize - 1) then out.getD i 0 else 0) ≠ 0 :=
      fun i hi => by
        rw [if_pos (by omega), List.getD_eq_getElem _ _ (by omega)]
        exact h _ (List.getElem_mem _)
    rw [if_pos ⟨by omega, hall⟩, if_pos hj, if_pos (by omega)]
  · rw [if_neg hj]
    split_ifs <;> first | rfl | exact (List.getD_eq_default _ _ (by omega)).symm

/-- After a reset without a suspected rolling reboot and a write to `TPM_FW_VER`, the reads
stream `tpm_fw_ver` from its start. -/
theorem fwVer_replies_tpmResetNow (ver : Nat → UInt8) (t : Tpm) (data : List UInt8)
    (evs : List TpmEvent) (hevs : ∀ e ∈ evs, FwVerAccess e) :
    regReplies tpmFwVer (tpmRegisterPut tpmFwVer data (tpmResetNow false ver t)) evs =
      (List.range (evs.map (regReadSize tpmFwVer)).sum).map (fwVerStream ver 0) := by
  rw [tpmRegisterPut_fwVer data rfl]
  exact fwVer_replies evs hevs _ rfl

/-! ### The whole string -/

/-- **`set_version_string` prints the whole format at once.** On the cleared `tpm_fw_ver` it
leaves what `snprintf(tpm_fw_ver, 80, "%s:%d RO_%c:%s RW_%c:%s", ...)` would: the RO part and
the RW part, cut to 79 bytes, then a `NUL`. When the RO part alone fills the buffer, the early
return loses nothing. -/
theorem setVersionString_eq (v : VersionInfo) :
    setVersionString v (fun _ => 0) =
      snprintfAt (fun _ => 0) 0 tpmFwVerSize (versionRo v ++ versionRw v) := by
  simp only [setVersionString, strlenFrom_versionRo]
  split_ifs with hfull
  · exact snprintfAt_full _ _ _ (by decide) (by omega)
  · rw [min_eq_left (by omega)]
    exact snprintfAt_snprintfAt _ _ _ (by omega)

/-- **The host reads the version string as `set_version_string` printed it.** After a reset
without a suspected rolling reboot, a write to `TPM_FW_VER`, then any run of reads of any
registers and sizes and of writes to registers other than `TPM_FW_VER`, returns from
`TPM_FW_VER` the printed string `"%s:%d RO_%c:%s RW_%c:%s"` cut to 79 bytes, and `NUL`s after
it, as many bytes as the reads ask for. -/
theorem tpm_fw_ver_reads_version (v : VersionInfo) (t : Tpm) (data : List UInt8)
    (evs : List TpmEvent) (hevs : ∀ e ∈ evs, FwVerAccess e) :
    regReplies tpmFwVer
        (tpmRegisterPut tpmFwVer data (tpmResetNow false (setVersionString v fun _ => 0) t)) evs =
      (List.range (evs.map (regReadSize tpmFwVer)).sum).map fun j =>
        if j < tpmFwVerSize - 1 then (versionRo v ++ versionRw v).getD j 0 else 0 := by
  rw [fwVer_replies_tpmResetNow _ t data evs hevs, setVersionString_eq]
  exact List.map_congr_left fun j _ =>
    fwVerStream_snprintfAt _ ((noNul_versionRo v).append (noNul_versionRw v)) j

/-- A board at version `-3` of chip `H1`, running RO image A and RW image B. -/
def sampleVersion : VersionInfo :=
  ⟨asciiBytes "H1", -3, true, asciiBytes "0.1", false, asciiBytes "0.2"⟩

/-- The host reads the version of `sampleVersion` in a 4-byte and a 64-byte read, around a write
to `TPM_STS`. -/
theorem tpm_fw_ver_reads_sample_version :
    (∀ e ∈ [.get tpmFwVer 4, .put tpmSts [0x40], .get tpmFwVer 64], FwVerAccess e) ∧
      regReplies tpmFwVer
          (tpmRegisterPut tpmFwVer []
            (tpmResetNow false (setVersionString sampleVersion fun _ => 0) bootTpm))
          [.get tpmFwVer 4, .put tpmSts [0x40], .get tpmFwVer 64] =
        (List.range ([TpmEvent.get tpmFwVer 4, .put tpmSts [0x40], .get tpmFwVer 64].map
            (regReadSize tpmFwVer)).sum).map fun j =>
          if j < tpmFwVerSize - 1 then (versionRo sampleVersion ++ versionRw sampleVersion).getD j 0
          else 0 :=
  ⟨by decide, tpm_fw_ver_reads_version _ _ _ _ (by decide)⟩

end Twonkie.TpmRegisters
