import Twonkie.Tpm.Equiv.Fifo

/-!
# Reading a response

Once the TPM task has posted a response of `r` bytes, the host reads it from `TPM_DATA_FIFO` in
bursts, and may rewind it by writing `responseRetry` to `TPM_STS`. `ResponseStream` is what the
host should see: the response and how much of it has been read since it was posted or last
rewound; a read of `n` bytes returns the next `min n remaining` bytes and moves past them, a
rewind goes back to the start. `Streams s t` says that the register file `t` holds the stream `s`:
`completing_cmd`, the read index at the cursor and the write index at `r`, the response in
`data_fifo`, and no reset in progress. Posting a response starts a stream
(`streams_tpmPostResponse`); a FIFO read returns what the stream says and keeps the relation
(`streams_read`), and so do a rewind (`streams_retry`) and a read of any other register
(`streams_get_other`), hence every run of such accesses (`streams_run`). After a FIFO read, the
burst count of `TPM_STS` is what is left, at most 63, and 63 with `dataAvail` and `commandReady`
cleared once nothing is left (`stsAfterRead_spec`). `tpm_response_reads` puts these together.

The relation needs no reset in progress: while one is, `tpm_register_get` returns without writing
to `dest`, and `tpm_task` posts a response whatever `reset_in_progress` says
(`response_read_during_reset`).
-/

namespace Twonkie.TpmRegisters

/-! ### The burst count of `TPM_STS` -/

/-- The burst-count field of `TPM_STS`, bits 8 to 23: how many bytes the host may move in its
next burst. -/
def burstCount (sts : UInt32) : UInt32 := (sts >>> burstCountShift) &&& burstCountMask

theorem uInt32_toBitVec_and (a b : UInt32) : (a &&& b).toBitVec = a.toBitVec &&& b.toBitVec := rfl

theorem uInt32_toBitVec_or (a b : UInt32) : (a ||| b).toBitVec = a.toBitVec ||| b.toBitVec := rfl

theorem uInt32_toBitVec_not (a : UInt32) : (~~~a).toBitVec = ~~~a.toBitVec := rfl

theorem toBitVec_shiftRight_burstCountShift (a : UInt32) :
    (a >>> burstCountShift).toBitVec = a.toBitVec >>> 8 := rfl

theorem toBitVec_shiftLeft_burstCountShift (a : UInt32) :
    (a <<< burstCountShift).toBitVec = a.toBitVec <<< 8 := rfl

theorem getLsbD_burstCountMask (j : Nat) :
    burstCountMask.toBitVec.getLsbD j = decide (j < 16) := by
  rw [show burstCountMask.toBitVec = BitVec.ofNat 32 (2 ^ 16 - 1) from rfl, BitVec.getLsbD_ofNat,
    Nat.testBit_two_pow_sub_one]
  by_cases h : j < 16 <;> simp [h]; omega

theorem getLsbD_burstCount (x : UInt32) (j : Nat) :
    (burstCount x).toBitVec.getLsbD j = (x.toBitVec.getLsbD (8 + j) && decide (j < 16)) := by
  rw [burstCount, uInt32_toBitVec_and, BitVec.getLsbD_and, toBitVec_shiftRight_burstCountShift,
    BitVec.getLsbD_ushiftRight, getLsbD_burstCountMask]

theorem burstCount_eq_zero_iff (x : UInt32) :
    burstCount x = 0 ↔ ∀ j < 16, x.toBitVec.getLsbD (8 + j) = false := by
  constructor
  · intro h j hj
    have := getLsbD_burstCount x j
    rw [h, show (0 : UInt32).toBitVec = 0#32 from rfl, BitVec.getLsbD_zero] at this
    simpa [hj] using this.symm
  · intro h
    apply UInt32.eq_of_toBitVec_eq
    ext j
    rw [getLsbD_burstCount, show (0 : UInt32).toBitVec = 0#32 from rfl, BitVec.getLsbD_zero]
    by_cases hj : (j : Nat) < 16
    · rw [h j hj, Bool.false_and]
    · simp [hj]

/-- `sts &= ~(burst_count_mask << burst_count_shift)` clears the field. -/
theorem burstCount_clear (a : UInt32) :
    burstCount (a &&& ~~~(burstCountMask <<< burstCountShift)) = 0 := by
  rw [burstCount_eq_zero_iff]
  intro j hj
  simp only [uInt32_toBitVec_and, uInt32_toBitVec_not, toBitVec_shiftLeft_burstCountShift,
    BitVec.getLsbD_and, BitVec.getLsbD_not, BitVec.getLsbD_shiftLeft, getLsbD_burstCountMask]
  simp [hj, show 8 + j < 32 by omega]

theorem burstCount_and_of_eq_zero {x : UInt32} (hx : burstCount x = 0) (b : UInt32) :
    burstCount (x &&& b) = 0 := by
  rw [burstCount_eq_zero_iff] at hx ⊢
  intro j hj
  rw [uInt32_toBitVec_and, BitVec.getLsbD_and, hx j hj, Bool.false_and]

/-- Or-ing `v << burst_count_shift` into a cleared field sets it to `v`. -/
theorem burstCount_or_shiftLeft {x : UInt32} (hx : burstCount x = 0) {v : UInt32}
    (hv : v.toNat < 2 ^ 16) : burstCount (x ||| (v <<< burstCountShift)) = v := by
  rw [burstCount_eq_zero_iff] at hx
  apply UInt32.eq_of_toBitVec_eq
  ext j
  rw [getLsbD_burstCount, uInt32_toBitVec_or, BitVec.getLsbD_or, toBitVec_shiftLeft_burstCountShift,
    BitVec.getLsbD_shiftLeft]
  by_cases hj : (j : Nat) < 16
  · simp [hx j hj, hj, show 8 + (j : Nat) < 32 by omega]
  · have : v.toBitVec.getLsbD j = false :=
      Nat.testBit_lt_two_pow (Nat.lt_of_lt_of_le hv (Nat.pow_le_pow_right (by decide) (by omega)))
    simp [hj, this]

theorem burstCount_stsAfterRead (sts write read : UInt32) :
    burstCount (stsAfterRead sts write read)
      = if write = read then 63 else min (write - read) 63 := by
  unfold stsAfterRead
  split
  · exact burstCount_or_shiftLeft (burstCount_and_of_eq_zero (burstCount_clear sts) _) (by decide)
  · refine burstCount_or_shiftLeft (burstCount_clear sts) ?_
    rw [uInt32_toNat_min]
    exact lt_of_le_of_lt (Nat.min_le_right _ _) (by decide)

/-- Once nothing is left, a FIFO read clears `dataAvail` and `commandReady`. -/
theorem stsAfterRead_and_self (sts w : UInt32) :
    stsAfterRead sts w w &&& (dataAvail ||| commandReady) = 0 := by
  have hcm : ((63 : UInt32) <<< burstCountShift) &&& (dataAvail ||| commandReady) = 0 := by decide
  simp only [stsAfterRead, if_true]
  generalize dataAvail ||| commandReady = m at hcm ⊢
  generalize (63 : UInt32) <<< burstCountShift = c at hcm ⊢
  apply UInt32.eq_of_toBitVec_eq
  ext j
  have hj := congrArg (fun x : UInt32 => x.toBitVec.getLsbD j) hcm
  simp only [uInt32_toBitVec_and, uInt32_toBitVec_or, uInt32_toBitVec_not, BitVec.getLsbD_and,
    BitVec.getLsbD_or, BitVec.getLsbD_not, show (0 : UInt32).toBitVec = 0#32 from rfl,
    BitVec.getLsbD_zero] at hj ⊢
  cases hm : m.toBitVec.getLsbD j <;> simp_all

/-- **`TPM_STS` after a FIFO read**, with `w - r` bytes left: the burst count is `min (w - r) 63`,
or `63` with `dataAvail` and `commandReady` cleared when nothing is left. -/
theorem stsAfterRead_spec (sts w r : UInt32) (hrw : r.toNat ≤ w.toNat) :
    (burstCount (stsAfterRead sts w r)).toNat
        = (if w.toNat - r.toNat = 0 then 63 else min (w.toNat - r.toNat) 63) ∧
      (w.toNat - r.toNat = 0 → stsAfterRead sts w r &&& (dataAvail ||| commandReady) = 0) := by
  rw [burstCount_stsAfterRead]
  by_cases h : w = r
  · subst h
    rw [if_pos rfl, Nat.sub_self, if_pos rfl]
    exact ⟨rfl, fun _ => stsAfterRead_and_self sts w⟩
  · have hne : w.toNat - r.toNat ≠ 0 := fun h0 => h (uInt32_eq_of_toNat (by omega))
    rw [if_neg h, if_neg hne, uInt32_toNat_min, uInt32_toNat_sub]
    refine ⟨?_, fun h0 => absurd h0 hne⟩
    have := uInt32_toNat_lt w
    congr 1
    omega

/-! ### Host accesses -/

/-- The host accesses a response stream survives: a read of any register, or a write of
`responseRetry` to `TPM_STS`. -/
def ResponseAccess : TpmEvent → Prop
  | .get _ _ => True
  | .put regaddr data => regaddr = tpmSts ∧ leValue data = responseRetry
  | _ => False

instance : DecidablePred ResponseAccess
  | .get _ _ => inferInstanceAs (Decidable True)
  | .put regaddr data =>
    inferInstanceAs (Decidable (regaddr = tpmSts ∧ leValue data = responseRetry))
  | .resetRequest => inferInstanceAs (Decidable False)
  | .resetNow _ _ => inferInstanceAs (Decidable False)
  | .response _ => inferInstanceAs (Decidable False)

/-- How many bytes a host access asks of `TPM_DATA_FIFO`. -/
def fifoReadSize : TpmEvent → Nat
  | .get regaddr n => if regaddr = tpmDataFifo then n.toNat else 0
  | _ => 0

/-- What a host access returns from `TPM_DATA_FIFO`. -/
def fifoReply (t : Tpm) : TpmEvent → List UInt8
  | .get regaddr n => if regaddr = tpmDataFifo then (tpmRegisterGet regaddr n t).1 else []
  | _ => []

/-- What the `TPM_DATA_FIFO` reads of a run return, one after the other. -/
def fifoReplies : Tpm → List TpmEvent → List UInt8
  | _, [] => []
  | t, e :: evs => fifoReply t e ++ fifoReplies (tpmStep t e) evs

/-! ### What the host should see -/

/-- A posted response as the host reads it: `sent` bytes of it read since it was posted or last
rewound. -/
@[ext]
structure ResponseStream where
  response : List UInt8
  sent : Nat
  sent_le : sent ≤ response.length

namespace ResponseStream

/-- A response just posted: nothing read yet. -/
def posted (response : List UInt8) : ResponseStream := ⟨response, 0, Nat.zero_le _⟩

/-- What is left to read. -/
def remaining (s : ResponseStream) : Nat := s.response.length - s.sent

/-- What a read of `n` bytes returns: the next `min n remaining` bytes. -/
def readBytes (s : ResponseStream) (n : Nat) : List UInt8 := (s.response.drop s.sent).take n

/-- The stream after a read of `n` bytes. -/
def read (s : ResponseStream) (n : Nat) : ResponseStream :=
  ⟨s.response, s.sent + min n s.remaining, by have := s.sent_le; unfold remaining; omega⟩

/-- The stream after `responseRetry`: back to the start. -/
def retry (s : ResponseStream) : ResponseStream := ⟨s.response, 0, Nat.zero_le _⟩

/-- What a host access does to the stream: a FIFO read moves on, `responseRetry` rewinds, and
nothing else changes it. -/
def step (s : ResponseStream) : TpmEvent → ResponseStream
  | .get regaddr n => if regaddr = tpmDataFifo then s.read n.toNat else s
  | .put regaddr data => if regaddr = tpmSts ∧ leValue data = responseRetry then s.retry else s
  | _ => s

/-- A run of host accesses. -/
def run (s : ResponseStream) (evs : List TpmEvent) : ResponseStream := evs.foldl step s

@[simp] theorem run_nil (s : ResponseStream) : s.run [] = s := rfl

@[simp] theorem run_cons (s : ResponseStream) (e : TpmEvent) (evs : List TpmEvent) :
    s.run (e :: evs) = (s.step e).run evs := rfl

theorem run_append (s : ResponseStream) (evs evs' : List TpmEvent) :
    s.run (evs ++ evs') = (s.run evs).run evs' :=
  List.foldl_append _ _ _ _

theorem length_readBytes (s : ResponseStream) (n : Nat) :
    (s.readBytes n).length = min n s.remaining := by
  rw [readBytes, List.length_take, List.length_drop, remaining]

@[simp] theorem read_zero (s : ResponseStream) : s.read 0 = s := by
  ext1
  · rfl
  · simp [read]

theorem read_read (s : ResponseStream) (n m : Nat) : (s.read n).read m = s.read (n + m) := by
  ext1
  · rfl
  · simp only [read, remaining]; omega

theorem posted_read_sent (response : List UInt8) (k : Nat) :
    ((posted response).read k).sent = min k response.length := by
  simp only [read, posted, remaining]; omega

theorem posted_read_remaining (response : List UInt8) (k : Nat) :
    ((posted response).read k).remaining = response.length - min k response.length := by
  simp only [read, posted, remaining]; omega

/-- Two reads, one after the other, return what one read of both sizes returns. -/
theorem readBytes_append (s : ResponseStream) (n m : Nat) :
    s.readBytes n ++ (s.read n).readBytes m = s.readBytes (n + m) := by
  simp only [readBytes, read, remaining, List.take_add, List.drop_drop]
  by_cases h : n ≤ s.response.length - s.sent
  · rw [Nat.min_eq_left h]
  · have h1 : s.response.drop (s.sent + min n (s.response.length - s.sent)) = [] :=
      List.drop_eq_nil_of_le (by omega)
    have h2 : s.response.drop (s.sent + n) = [] := List.drop_eq_nil_of_le (by omega)
    rw [h1, h2]

@[simp] theorem step_response (s : ResponseStream) (e : TpmEvent) :
    (s.step e).response = s.response := by
  unfold step; split <;> (try split) <;> rfl

theorem run_response (evs : List TpmEvent) :
    ∀ s : ResponseStream, (s.run evs).response = s.response := by
  induction evs with
  | nil => exact fun _ => rfl
  | cons e evs ih => exact fun s => (ih _).trans (step_response s e)

theorem step_get (s : ResponseStream) (regaddr n : UInt32) :
    s.step (.get regaddr n) = s.read (fifoReadSize (.get regaddr n)) := by
  by_cases hr : regaddr = tpmDataFifo <;> simp [step, fifoReadSize, hr]

/-- Reads alone move the stream on by what they ask of `TPM_DATA_FIFO`, in all. -/
theorem run_gets (evs : List TpmEvent) (hevs : ∀ e ∈ evs, ∃ regaddr n, e = .get regaddr n) :
    ∀ s : ResponseStream, s.run evs = s.read (evs.map fifoReadSize).sum := by
  induction evs with
  | nil => exact fun s => (read_zero s).symm
  | cons e evs ih =>
    intro s
    obtain ⟨regaddr, n, rfl⟩ := hevs e (List.mem_cons_self _ _)
    rw [run_cons, ih (fun e he => hevs e (List.mem_cons_of_mem _ he)), step_get, read_read,
      List.map_cons, List.sum_cons]

/-- A run that ends with `responseRetry` leaves a posted response as it was posted. -/
theorem run_posted (response : List UInt8) (evs : List TpmEvent)
    (hlast : ∀ e ∈ evs.getLast?, ∃ data, e = .put tpmSts data ∧ leValue data = responseRetry) :
    (posted response).run evs = posted response := by
  rcases List.eq_nil_or_concat evs with rfl | ⟨L, e, rfl⟩
  · rfl
  · rw [List.concat_eq_append] at hlast ⊢
    obtain ⟨data, rfl, hdata⟩ := hlast e (by simp)
    rw [run_append, run_cons, run_nil, step, if_pos ⟨rfl, hdata⟩]
    ext1
    · exact run_response L _
    · rfl

end ResponseStream

/-! ### The register file holds the stream -/

/-- The register file `t` holds the stream `s`: the FIFO of `completing_cmd` with the read index
at the cursor and the write index at the end of the response, the response in `data_fifo`, and
no reset in progress. -/
structure Streams (s : ResponseStream) (t : Tpm) : Prop where
  fifo : FifoAt t .completingCmd s.sent s.response.length
  data : ∀ i < s.response.length, t.dataFifo i = s.response.getD i 0

/-- Posting a response of 1 to 2048 bytes with no reset in progress starts a stream. -/
theorem streams_tpmPostResponse (response : List UInt8) (t : Tpm)
    (hr : 1 ≤ response.length ∧ response.length ≤ 2048) (hreset : t.resetInProgress = false) :
    Streams (.posted response) (tpmPostResponse response t) := by
  have hne : TpmStates.completingCmd ≠ .idle := by decide
  simp only [tpmPostResponse, setTpmState_of_ne_idle _ hne, dataFifoSize_toNat]
  rw [if_pos ⟨by omega, hr.2⟩]
  refine ⟨⟨rfl, rfl, toNat_toUInt32 (by omega), hreset⟩, fun i (hi : i < response.length) => ?_⟩
  simp only [copyToFifo]
  rw [if_pos ⟨Nat.zero_le i, by omega⟩, Nat.sub_zero]
  rfl

theorem map_range_getD (l : List UInt8) (k n : Nat) :
    (List.range (min n (l.length - k))).map (fun i => l.getD (k + i) 0) = (l.drop k).take n := by
  apply List.ext_getElem
  · simp only [List.length_map, List.length_range, List.length_take, List.length_drop]
  · intro i h1 _
    simp only [List.length_map, List.length_range] at h1
    rw [List.getElem_map, List.getElem_range, List.getElem_take, List.getElem_drop,
      List.getD_eq_getElem]

/-- **A FIFO read returns the next bytes of the stream**, and moves the stream on by them. -/
theorem streams_read {s : ResponseStream} {t : Tpm} (h : Streams s t) (n : UInt32) :
    (tpmRegisterGet tpmDataFifo n t).1 = s.readBytes n.toNat ∧
      Streams (s.read n.toNat) (tpmRegisterGet tpmDataFifo n t).2 := by
  have hfifo := fifoAt_read n h.fifo s.sent_le
  rw [tpmStep, tpmRegisterGet_dataFifo _ h.fifo.noReset] at hfifo
  rw [tpmRegisterGet_dataFifo _ h.fifo.noReset]
  refine ⟨?_, hfifo, h.data⟩
  have hsub : (t.fifoWriteIndex - t.fifoReadIndex).toNat = s.remaining := by
    rw [uInt32_toNat_sub, h.fifo.read, h.fifo.write, ResponseStream.remaining]
    have := h.fifo.write ▸ uInt32_toNat_lt t.fifoWriteIndex
    have := s.sent_le
    omega
  show (List.range (min n (t.fifoWriteIndex - t.fifoReadIndex)).toNat).map
    (fun i => t.dataFifo (t.fifoReadIndex.toNat + i)) = _
  rw [uInt32_toNat_min, hsub, h.fifo.read, ResponseStream.readBytes, ← map_range_getD]
  exact List.map_congr_left fun i hi => h.data _ (by
    rw [List.mem_range, ResponseStream.remaining] at hi; omega)

/-- After a FIFO read, the burst count of `TPM_STS` is what is left of the stream, at most 63;
once nothing is left, 63 with `dataAvail` and `commandReady` cleared. -/
theorem sts_read {s : ResponseStream} {t : Tpm} (h : Streams s t) (n : UInt32) :
    (burstCount (tpmRegisterGet tpmDataFifo n t).2.sts).toNat
        = (if (s.read n.toNat).remaining = 0 then 63 else min (s.read n.toNat).remaining 63) ∧
      ((s.read n.toNat).remaining = 0 →
        (tpmRegisterGet tpmDataFifo n t).2.sts &&& (dataAvail ||| commandReady) = 0) := by
  have h' := (streams_read h n).2.fifo
  have hrem : (s.read n.toNat).remaining = (tpmRegisterGet tpmDataFifo n t).2.fifoWriteIndex.toNat
      - (tpmRegisterGet tpmDataFifo n t).2.fifoReadIndex.toNat := by
    rw [h'.read, h'.write]; rfl
  have hle := (s.read n.toNat).sent_le
  rw [← h'.read, ← h'.write] at hle
  rw [hrem]
  rw [tpmRegisterGet_dataFifo _ h.fifo.noReset] at hle ⊢
  exact stsAfterRead_spec _ _ _ hle

theorem fwVerRead_snd (n : Nat) :
    ∀ t : Tpm, ∃ k, (fwVerRead n t).2 = { t with tpmFwVerIndex := k } := by
  induction n with
  | zero => exact fun t => ⟨t.tpmFwVerIndex, rfl⟩
  | succ n ih =>
    intro t
    unfold fwVerRead
    split
    · obtain ⟨k, hk⟩ := ih (if t.tpmFwVer t.tpmFwVerIndex ≠ 0
        then { t with tpmFwVerIndex := t.tpmFwVerIndex + 1 } else t)
      refine ⟨k, ?_⟩
      dsimp only
      rw [hk]
      split <;> rfl
    · exact ih t

/-- A read of any other register leaves the stream where it was. -/
theorem streams_get_other {s : ResponseStream} {t : Tpm} (h : Streams s t) {regaddr : UInt32}
    (hne : regaddr ≠ tpmDataFifo) (n : UInt32) : Streams s (tpmRegisterGet regaddr n t).2 := by
  obtain ⟨k, hk⟩ : ∃ k, (tpmRegisterGet regaddr n t).2 = { t with tpmFwVerIndex := k } := by
    rw [tpmRegisterGet, if_neg (by rw [h.fifo.noReset]; exact Bool.false_ne_true), if_neg hne]
    by_cases hf : regaddr = tpmFwVer
    · subst hf
      rw [if_neg (by decide), if_neg (by decide), if_neg (by decide), if_neg (by decide),
        if_neg (by decide), if_pos rfl]
      exact fwVerRead_snd _ _
    · simp only [apply_ite Prod.snd, hf, if_false, ite_self]
      exact ⟨t.tpmFwVerIndex, rfl⟩
  rw [hk]
  exact ⟨⟨h.fifo.state, h.fifo.read, h.fifo.write, h.fifo.noReset⟩, h.data⟩

/-- `responseRetry` rewinds the stream. -/
theorem streams_retry {s : ResponseStream} {t : Tpm} (h : Streams s t) {data : List UInt8}
    (hdata : leValue data = responseRetry) : Streams s.retry (tpmRegisterPut tpmSts data t) := by
  have hrr : stsRegWrite data t = stsRegWriteRr t := by
    simp only [stsRegWrite, hdata]
    rw [if_neg (by decide), if_neg (by decide), if_neg (by decide), if_true]
  rw [tpmRegisterPut_sts _ h.fifo.noReset, hrr]
  simp only [stsRegWriteRr, h.fifo.state]
  exact ⟨⟨rfl, rfl, h.fifo.write, h.fifo.noReset⟩, h.data⟩

/-- Every host access the stream survives keeps the register file holding it. -/
theorem streams_step {s : ResponseStream} {t : Tpm} (h : Streams s t) {e : TpmEvent}
    (he : ResponseAccess e) : Streams (s.step e) (tpmStep t e) := by
  cases e with
  | get regaddr n =>
    by_cases hr : regaddr = tpmDataFifo
    · subst hr
      rw [ResponseStream.step, if_pos rfl]
      exact (streams_read h n).2
    · rw [ResponseStream.step, if_neg hr]
      exact streams_get_other h hr n
  | put regaddr data =>
    obtain ⟨rfl, hdata⟩ := he
    rw [ResponseStream.step, if_pos ⟨rfl, hdata⟩]
    exact streams_retry h hdata
  | resetRequest => exact (he : False).elim
  | resetNow _ _ => exact (he : False).elim
  | response _ => exact (he : False).elim

/-- **The register file refines the stream** over every run of host accesses it survives. -/
theorem streams_run (evs : List TpmEvent) (hevs : ∀ e ∈ evs, ResponseAccess e) :
    ∀ {s : ResponseStream} {t : Tpm}, Streams s t → Streams (s.run evs) (tpmRun t evs) := by
  induction evs with
  | nil => exact fun h => h
  | cons e evs ih =>
    intro s t h
    exact ih (fun e he => hevs e (List.mem_cons_of_mem _ he))
      (streams_step h (hevs e (List.mem_cons_self _ _)))

/-- The FIFO reads among a run of reads return the stream's next bytes, as many as they ask for
in all. -/
theorem fifoReplies_gets (evs : List TpmEvent)
    (hevs : ∀ e ∈ evs, ∃ regaddr n, e = .get regaddr n) :
    ∀ {s : ResponseStream} {t : Tpm}, Streams s t →
      fifoReplies t evs = s.readBytes (evs.map fifoReadSize).sum := by
  induction evs with
  | nil => exact fun _ => (List.take_zero _).symm
  | cons e evs ih =>
    intro s t h
    obtain ⟨regaddr, n, rfl⟩ := hevs e (List.mem_cons_self _ _)
    have h' := streams_step h (e := .get regaddr n) trivial
    rw [fifoReplies, ih (fun e he => hevs e (List.mem_cons_of_mem _ he)) h', List.map_cons,
      List.sum_cons, ← ResponseStream.readBytes_append, ResponseStream.step_get]
    congr 1
    by_cases hr : regaddr = tpmDataFifo
    · subst hr
      simp only [fifoReply, if_pos rfl, fifoReadSize]
      exact (streams_read h n).1
    · simp only [fifoReply, hr, if_false, fifoReadSize, ResponseStream.readBytes, List.take_zero]

/-! ### Reading a posted response -/

/-- **Reading a response.** Let the TPM task post a response of `r` bytes, `1 ≤ r ≤ 2048`, with
no reset in progress. Take any host accesses `pre` (reads of any register, `responseRetry`
writes) that are none or end with a `responseRetry`, then any reads `mid`, then a FIFO read of `n`
bytes. The FIFO reads of `mid` return, one after the other, the response cut at
`c = min (what they ask for in all) r`; the read of `n` returns the next `min n (r - c)` bytes;
after it the burst count of `TPM_STS` is `min rest 63`, `rest` being what is still unread, and
`63` with `dataAvail` and `commandReady` cleared once `rest = 0`. -/
theorem tpm_response_reads (t : Tpm) (response : List UInt8)
    (hr : 1 ≤ response.length ∧ response.length ≤ 2048) (hreset : t.resetInProgress = false)
    (pre mid : List TpmEvent) (hpre : ∀ e ∈ pre, ResponseAccess e)
    (hlast : ∀ e ∈ pre.getLast?, ∃ data, e = .put tpmSts data ∧ leValue data = responseRetry)
    (hmid : ∀ e ∈ mid, ∃ regaddr dataSize, e = .get regaddr dataSize) (n : UInt32) :
    let t₀ := tpmRun (tpmPostResponse response t) pre
    let t₁ := tpmRun t₀ mid
    let c := min (mid.map fifoReadSize).sum response.length
    let rest := response.length - min ((mid.map fifoReadSize).sum + n.toNat) response.length
    fifoReplies t₀ mid = response.take c ∧
      (tpmRegisterGet tpmDataFifo n t₁).1 = (response.drop c).take n.toNat ∧
      (tpmRegisterGet tpmDataFifo n t₁).1.length = min n.toNat (response.length - c) ∧
      (burstCount (tpmRegisterGet tpmDataFifo n t₁).2.sts).toNat
        = (if rest = 0 then 63 else min rest 63) ∧
      (rest = 0 → (tpmRegisterGet tpmDataFifo n t₁).2.sts &&& (dataAvail ||| commandReady) = 0) := by
  have h₀ := streams_run pre hpre (streams_tpmPostResponse response t hr hreset)
  rw [ResponseStream.run_posted response pre hlast] at h₀
  have h₁ := streams_run mid (fun e he => by obtain ⟨_, _, rfl⟩ := hmid e he; trivial) h₀
  rw [ResponseStream.run_gets mid hmid] at h₁
  obtain ⟨hbytes, -⟩ := streams_read h₁ n
  refine ⟨?_, ?_, ?_, ?_⟩
  · rw [fifoReplies_gets mid hmid h₀, ResponseStream.readBytes]
    show (response.drop 0).take _ = _
    rw [List.drop_zero, List.take_eq_take, Nat.min_eq_left (Nat.min_le_right _ _)]
  · rw [hbytes, ResponseStream.readBytes, ResponseStream.posted_read_sent]
    rfl
  · rw [hbytes, ResponseStream.length_readBytes, ResponseStream.posted_read_remaining]
  · have := sts_read h₁ n
    rwa [ResponseStream.read_read, ResponseStream.posted_read_remaining] at this

/-- A `TPM2_Startup(CLEAR)` command: tag, size 12, command code `0x144`, startup type. -/
def startupCommand : List UInt8 := [0x80, 0x01, 0, 0, 0, 0x0c, 0, 0, 0x01, 0x44, 0, 0]

/-- Its response: tag, size 10, success. -/
def startupResponse : List UInt8 := [0x80, 0x01, 0, 0, 0, 0x0a, 0, 0, 0, 0]

/-- The response read in a burst of 4, rewound, then `TPM_STS` read and a burst of 4: the next
burst of 64 returns the six bytes after the first four. -/
theorem tpm_response_reads_startup :
    (1 ≤ startupResponse.length ∧ startupResponse.length ≤ 2048) ∧
      bootTpm.resetInProgress = false ∧
      (∀ e ∈ ([.get tpmDataFifo 4, .put tpmSts [2]] : List TpmEvent), ResponseAccess e) ∧
      (∀ e ∈ ([.get tpmDataFifo 4, .put tpmSts [2]] : List TpmEvent).getLast?,
        ∃ data, e = .put tpmSts data ∧ leValue data = responseRetry) ∧
      (∀ e ∈ ([.get tpmSts 4, .get tpmDataFifo 4] : List TpmEvent),
        ∃ regaddr dataSize, e = .get regaddr dataSize) ∧
      (tpmRegisterGet tpmDataFifo 64 (tpmRun (tpmRun (tpmPostResponse startupResponse bootTpm)
          [.get tpmDataFifo 4, .put tpmSts [2]]) [.get tpmSts 4, .get tpmDataFifo 4])).1
        = (startupResponse.drop
            (min (([.get tpmSts 4, .get tpmDataFifo 4] : List TpmEvent).map fifoReadSize).sum
              startupResponse.length)).take
            (64 : UInt32).toNat := by
  have hpre : ∀ e ∈ ([.get tpmDataFifo 4, .put tpmSts [2]] : List TpmEvent), ResponseAccess e := by
    decide
  have hlast : ∀ e ∈ ([.get tpmDataFifo 4, .put tpmSts [2]] : List TpmEvent).getLast?,
      ∃ data, e = .put tpmSts data ∧ leValue data = responseRetry :=
    fun e he => ⟨[2], (Option.some_inj.mp he).symm, by decide⟩
  have hmid : ∀ e ∈ ([.get tpmSts 4, .get tpmDataFifo 4] : List TpmEvent),
      ∃ regaddr dataSize, e = .get regaddr dataSize := by
    intro e he
    rcases List.mem_cons.mp he with rfl | he
    · exact ⟨_, _, rfl⟩
    · exact ⟨_, _, List.mem_singleton.mp he⟩
  exact ⟨by decide, rfl, hpre, hlast, hmid,
    (tpm_response_reads bootTpm startupResponse (by decide) rfl _ _ hpre hlast hmid 64).2.1⟩

/-! ### A reset in progress -/

/-- A host readies the TPM, writes `TPM2_Startup` and starts it; a reset is requested while the
command runs, and the TPM task posts the response. -/
def resetDuringCommand : List TpmEvent :=
  [.put tpmSts [0x40], .put tpmDataFifo startupCommand, .put tpmSts [0x20], .resetRequest,
    .response startupResponse]

/-- **A response posted while a reset is pending cannot be read.** `tpm_reset_request` sets
`reset_in_progress` and leaves the reset to the TPM task, which first finishes the command it is
running and posts its response: `completing_cmd`, read index `0`, write index `10`. Until the
reset has run, `tpm_register_get` returns at once, so a FIFO read of 4 bytes returns none of
them. -/
theorem response_read_during_reset :
    (tpmRun bootTpm resetDuringCommand).state = .completingCmd ∧
      (tpmRun bootTpm resetDuringCommand).fifoReadIndex = 0 ∧
      (tpmRun bootTpm resetDuringCommand).fifoWriteIndex = 10 ∧
      (tpmRegisterGet tpmDataFifo 4 (tpmRun bootTpm resetDuringCommand)).1 = [] := by
  decide


end Twonkie.TpmRegisters
