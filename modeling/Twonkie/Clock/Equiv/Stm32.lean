import Twonkie.Clock.Stm32

/-!
# Correctness of the clock code

* `clock_wait_bus_cycles` returns after exactly `cycles` reads of its bus register, with `cycles`
  wrapped to `0xffffffff` (`clockWaitBusCycles_eq`).
* Over every run of the idle loop: from a clear `SLEEPDEEP`, a `wfi` enters STOP mode exactly in
  the deep-sleep branch (`idleRun_wfiDeep`); and the statistics count the turns of each kind, add
  up the time slept in STOP mode modulo `2^64` and keep the smallest margin, itself a 32-bit
  difference that wraps (`idleRun_stats`). What a turn asks of the drivers depends on its input and `SLEEPDEEP`
  alone, never on the statistics (`idleStep_of_deep`, `idleStep_of_not_deep`).
-/

namespace Twonkie.Clock

/-! ### Machine words -/

theorem toBitVec_and (a b : UInt32) : (a &&& b).toBitVec = a.toBitVec &&& b.toBitVec := rfl

theorem toBitVec_or (a b : UInt32) : (a ||| b).toBitVec = a.toBitVec ||| b.toBitVec := rfl

/-! ### The bus wait loop -/

/-- With a test of `cycles` to spare, the loop reads `cycles` more times and leaves `cycles`
wrapped to `0xffffffff` by the last, failing, `cycles--`. -/
theorem waitLoop_eq (reg : BusReg) :
    ∀ (fuel : Nat) (cycles : UInt32) (reads : List BusReg), cycles.toNat < fuel →
      waitLoop reg fuel cycles reads
        = some (reads ++ List.replicate cycles.toNat reg, 0xffffffff)
  | 0, _, _, h => absurd h (Nat.not_lt_zero _)
  | fuel + 1, cycles, reads, h => by
    by_cases hc : cycles = 0
    · subst hc
      rw [waitLoop, if_neg (not_not.mpr rfl), show UInt32.toNat 0 = 0 from rfl,
        List.replicate_zero, List.append_nil]
      rfl
    · have hpos : 0 < cycles.toNat := Nat.pos_of_ne_zero fun h0 => hc (UInt32.toNat.inj h0)
      have hdec : (cycles - 1).toNat = cycles.toNat - 1 := UInt32.toNat_sub_of_le _ _ hpos
      have hreads : List.replicate cycles.toNat reg = reg :: List.replicate (cycles.toNat - 1) reg := by
        rw [← List.replicate_succ, Nat.sub_add_cancel hpos]
      rw [waitLoop, if_pos hc, waitLoop_eq reg fuel (cycles - 1) _ (by omega), hdec, hreads,
        List.append_assoc]
      rfl

/-- **`clock_wait_bus_cycles` returns, after exactly `cycles` reads of its bus's register**, for
every `cycles`, `0` and `0xffffffff` included. -/
theorem clockWaitBusCycles_eq (bus : BusType) (cycles : UInt32) :
    clockWaitBusCycles bus cycles
      = some (List.replicate cycles.toNat (if bus = .ahb then .dma1Isr else .usart1Brr),
          0xffffffff) :=
  waitLoop_eq _ _ cycles [] (Nat.lt_succ_self _)

/-! ### One turn of the idle loop -/

/-- Whether the turn's `wfi` ran with `SLEEPDEEP` set, that is, entered STOP mode. -/
def IdleEffect.wfiDeep : IdleEffect → Bool
  | .sleep deep => deep
  | .deepSleep _ deep _ _ => deep

/-- Whether the turn took the deep-sleep branch. -/
def IdleEffect.isDeep : IdleEffect → Bool
  | .sleep _ => false
  | .deepSleep .. => true

theorem sleepDeep_or_four (x : UInt32) : sleepDeep (x ||| 0x4) = true := by
  have : (x ||| 0x4) &&& 0x4 = 0x4 := by
    apply UInt32.eq_of_toBitVec_eq
    rw [toBitVec_and, toBitVec_or]
    apply BitVec.eq_of_getLsbD_eq; intro i
    simp only [BitVec.getLsbD_and, BitVec.getLsbD_or]
    cases BitVec.getLsbD _ i <;> simp
  simp [sleepDeep, this]

theorem sleepDeep_and_not_four (x : UInt32) : sleepDeep (x &&& ~~~0x4) = false := by
  have : (x &&& ~~~0x4) &&& 0x4 = 0 := by
    apply UInt32.eq_of_toBitVec_eq
    show (x.toBitVec &&& ~~~(4#32)) &&& 4#32 = 0#32
    rw [BitVec.and_assoc]
    simp
  simp [sleepDeep, this]

/-- `int` added to `uint64_t` twice is the sum added once. -/
theorem toUInt64_add (a b : Int) : toUInt64 (a + b) = toUInt64 a + toUInt64 b :=
  congrArg UInt64.mk (BitVec.ofInt_add a b)

theorem add_toUInt64_zero (x : UInt64) : x + toUInt64 0 = x :=
  UInt64.eq_of_toBitVec_eq (BitVec.add_zero _)

/-- `if (margin < m) m = margin;` keeps the smaller. -/
theorem ite_lt_eq_min (margin m : Int) : (if margin < m then margin else m) = min m margin := by
  rw [Int.min_def]
  split <;> split <;> omega

section
variable (cfg : ClockConfig) (st : IdleState) (inp : IdleInput)

theorem idleStep_of_deep (h : idleDeep cfg inp = true) :
    idleStep cfg st inp =
      ({ st with
          idleDsleepCnt := st.idleDsleepCnt + 1
          sysctrl := (st.sysctrl ||| 0x4) &&& ~~~0x4
          idleDsleepTimeUs := st.idleDsleepTimeUs + toUInt64 inp.rtcDiff.toInt
          dsleepRecoveryMarginUs := min st.dsleepRecoveryMarginUs (marginUs inp) },
        .deepSleep (nextDelay inp - stopModeLatency cfg) (sleepDeep (st.sysctrl ||| 0x4))
          (inp.t0 + toUInt64 inp.rtcDiff.toInt) (marginUs inp < 0)) := by
  rw [idleStep, if_pos h]
  dsimp only
  rw [ite_lt_eq_min]

theorem idleStep_of_not_deep (h : idleDeep cfg inp = false) :
    idleStep cfg st inp
      = ({ st with idleSleepCnt := st.idleSleepCnt + 1 }, .sleep (sleepDeep st.sysctrl)) := by
  rw [idleStep, if_neg (by simp [h])]

/-- A turn leaves `SLEEPDEEP` clear if it took the deep-sleep branch, and as it was otherwise;
its `wfi` runs in STOP mode if it took that branch or `SLEEPDEEP` was already set. -/
theorem idleStep_sleepDeep :
    sleepDeep (idleStep cfg st inp).1.sysctrl = (!idleDeep cfg inp && sleepDeep st.sysctrl) ∧
      (idleStep cfg st inp).2.wfiDeep = (idleDeep cfg inp || sleepDeep st.sysctrl) ∧
      (idleStep cfg st inp).2.isDeep = idleDeep cfg inp := by
  cases h : idleDeep cfg inp
  · rw [idleStep_of_not_deep cfg st inp h]
    exact ⟨rfl, rfl, rfl⟩
  · rw [idleStep_of_deep cfg st inp h]
    exact ⟨sleepDeep_and_not_four _, sleepDeep_or_four _, rfl⟩

end

/-! ### Every run of the idle loop -/

/-- **STOP mode exactly when the loop chose it.** From statics with `SLEEPDEEP` clear, as at
boot, every `wfi` of a run enters STOP mode if and only if its turn took the deep-sleep branch,
and `SLEEPDEEP` is clear again after the run. -/
theorem idleRun_wfiDeep (cfg : ClockConfig) (st : IdleState) (inps : List IdleInput)
    (h : sleepDeep st.sysctrl = false) :
    sleepDeep (idleRun cfg st inps).1.sysctrl = false ∧
      ∀ e ∈ (idleRun cfg st inps).2, e.wfiDeep = e.isDeep := by
  induction inps generalizing st with
  | nil => exact ⟨h, fun e he => by cases he⟩
  | cons inp inps ih =>
    obtain ⟨hs, hw, hd⟩ := idleStep_sleepDeep cfg st inp
    have h' : sleepDeep (idleStep cfg st inp).1.sysctrl = false := by rw [hs, h, Bool.and_false]
    refine ⟨(ih _ h').1, fun e he => ?_⟩
    rw [idleRun_cons, List.mem_cons] at he
    rcases he with rfl | he
    · rw [hw, hd, h, Bool.or_false]
    · exact (ih _ h').2 e he

/-- Two turns from the boot statics on a 48 MHz chip with no variant of its own: a deep sleep
for an event 4000 µs away, then a light one. -/
theorem idleRun_wfiDeep_boot :
    sleepDeep (IdleState.init 0).sysctrl = false ∧
      (sleepDeep (idleRun ⟨.other, 48000000⟩ (IdleState.init 0)
          [⟨true, 1000, 5000, 3900⟩, ⟨false, 5000, 9000, 0⟩]).1.sysctrl = false ∧
        ∀ e ∈ (idleRun ⟨.other, 48000000⟩ (IdleState.init 0)
          [⟨true, 1000, 5000, 3900⟩, ⟨false, 5000, 9000, 0⟩]).2, e.wfiDeep = e.isDeep) :=
  ⟨by decide, idleRun_wfiDeep _ _ _ (by decide)⟩

theorem idleRun_idleDsleepCnt (cfg : ClockConfig) (st : IdleState) (inps : List IdleInput) :
    (idleRun cfg st inps).1.idleDsleepCnt = st.idleDsleepCnt + (inps.filter (idleDeep cfg)).length := by
  induction inps generalizing st with
  | nil => simp
  | cons inp inps ih =>
    rw [idleRun_cons, ih]
    cases h : idleDeep cfg inp
    · rw [idleStep_of_not_deep cfg st inp h, List.filter_cons_of_neg (by simp [h])]
    · rw [idleStep_of_deep cfg st inp h, List.filter_cons_of_pos h, List.length_cons]
      show st.idleDsleepCnt + 1 + _ = _
      omega

theorem idleRun_idleSleepCnt (cfg : ClockConfig) (st : IdleState) (inps : List IdleInput) :
    (idleRun cfg st inps).1.idleSleepCnt
      = st.idleSleepCnt + (inps.filter fun inp => !idleDeep cfg inp).length := by
  induction inps generalizing st with
  | nil => simp
  | cons inp inps ih =>
    rw [idleRun_cons, ih]
    cases h : idleDeep cfg inp
    · rw [idleStep_of_not_deep cfg st inp h, List.filter_cons_of_pos (by simp [h]),
        List.length_cons]
      show st.idleSleepCnt + 1 + _ = _
      omega
    · rw [idleStep_of_deep cfg st inp h, List.filter_cons_of_neg (by simp [h])]

theorem idleRun_idleDsleepTimeUs (cfg : ClockConfig) (st : IdleState) (inps : List IdleInput) :
    (idleRun cfg st inps).1.idleDsleepTimeUs
      = st.idleDsleepTimeUs + toUInt64 ((inps.filter (idleDeep cfg)).map fun inp => inp.rtcDiff.toInt).sum := by
  induction inps generalizing st with
  | nil => exact (add_toUInt64_zero _).symm
  | cons inp inps ih =>
    rw [idleRun_cons, ih]
    cases h : idleDeep cfg inp
    · rw [idleStep_of_not_deep cfg st inp h, List.filter_cons_of_neg (by simp [h])]
    · rw [idleStep_of_deep cfg st inp h, List.filter_cons_of_pos h, List.map_cons, List.sum_cons,
        toUInt64_add]
      exact UInt64.eq_of_toBitVec_eq (BitVec.add_assoc _ _ _)

theorem idleRun_dsleepRecoveryMarginUs (cfg : ClockConfig) (st : IdleState)
    (inps : List IdleInput) :
    (idleRun cfg st inps).1.dsleepRecoveryMarginUs
      = ((inps.filter (idleDeep cfg)).map marginUs).foldl min
          st.dsleepRecoveryMarginUs := by
  induction inps generalizing st with
  | nil => rfl
  | cons inp inps ih =>
    rw [idleRun_cons, ih]
    cases h : idleDeep cfg inp
    · rw [idleStep_of_not_deep cfg st inp h, List.filter_cons_of_neg (by simp [h])]
    · rw [idleStep_of_deep cfg st inp h, List.filter_cons_of_pos h]
      rfl

/-- The 32-bit subtraction wraps: an event `INT_MAX` µs away and an RTC that went back 5 µs
record a margin of `-2147483644` µs, and the turn reports that it overslept. -/
example :
    (idleStep ⟨.other, 48000000⟩ (IdleState.init 0) ⟨true, 0, 0x7fffffff, -5⟩).1.dsleepRecoveryMarginUs
        = -2147483644 ∧
      (idleStep ⟨.other, 48000000⟩ (IdleState.init 0) ⟨true, 0, 0x7fffffff, -5⟩).2
        = .deepSleep (0x7fffffff - 50) true 0xfffffffffffffffb true := by
  decide

end Twonkie.Clock
