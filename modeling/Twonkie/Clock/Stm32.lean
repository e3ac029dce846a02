import Mathlib

/-!
# Clocks and low-power idle (`clock.c`)

`clock_wait_bus_cycles` spends bus cycles by reading a register of the bus (`clockWaitBusCycles`).
`__idle` sleeps until the next timer event at each turn of its loop: in STOP mode, with an RTC
alarm to wake it, when the event is far enough away, and with a plain `wfi` otherwise; it counts
both kinds of sleep, adds up the time spent in STOP mode and keeps the closest it came to missing
a deadline (`idleStep`, `idleRun`).

The RTC and timer drivers (`get_time`, `__hw_clock_event_get`, `set_rtc_alarm`,
`reset_rtc_alarm`, `get_rtc_diff`, `force_time`) are not in this file: a turn of the idle loop
reads what they return from an `IdleInput` and reports what it asks of them in an `IdleEffect`.
An `int` of the loop that the code computes with 32-bit arithmetic is its bits (`BitVec 32`), read
by `BitVec.toInt`; signed overflow is undefined in C, and the model takes the wrap-around of the
instructions the compiler emits for it.
`config_hispeed_clock`, `enable_serial_wakeup` and `rtc_init` wait on or write hardware registers
that nothing here reads.
-/

namespace Twonkie.Clock

/-! ### Waiting for bus cycles -/

/-- `enum bus_type`, as the wait loop sees it: `BUS_AHB`, and every other bus. -/
inductive BusType where
  | ahb | apb
  deriving DecidableEq, Repr

/-- The register a turn of the wait loop reads. -/
inductive BusReg where
  /-- `STM32_DMA1_REGS->isr`, on the AHB. -/
  | dma1Isr
  /-- `STM32_USART_BRR(STM32_USART1_BASE)`, on the APB. -/
  | usart1Brr
  deriving DecidableEq, Repr

/-- `while (cycles--) dummy = reg;`, for at most `fuel` tests of `cycles`: the reads made, in
order, and `cycles` after the loop; `none` if the fuel runs out first. -/
def waitLoop (reg : BusReg) : Nat → UInt32 → List BusReg → Option (List BusReg × UInt32)
  | 0, _, _ => none
  | fuel + 1, cycles, reads =>
    if cycles ≠ 0 then waitLoop reg fuel (cycles - 1) (reads ++ [reg])
    else some (reads, cycles - 1)

/-- `clock_wait_bus_cycles`. The loop tests `cycles` once more than it turns, so `cycles + 1`
tests are all it can make. -/
def clockWaitBusCycles (bus : BusType) (cycles : UInt32) : Option (List BusReg × UInt32) :=
  waitLoop (if bus = .ahb then .dma1Isr else .usart1Brr) (cycles.toNat + 1) cycles []

/-! ### The low-power idle loop -/

/-- The chip variants the `STOP_MODE_LATENCY` chain tells apart. -/
inductive ChipVariant where
  | stm32f373 | stm32f05x | other
  deriving DecidableEq, Repr

/-- `PLL_CLOCK` (Hz). -/
def pllClock : Nat := 38400000

/-- The build configuration `__idle` depends on: the chip variant and `CPU_CLOCK`. -/
structure ClockConfig where
  variant : ChipVariant
  cpuClock : Nat
  deriving DecidableEq, Repr

/-- `STOP_MODE_LATENCY` (µs): the longest wake-up from STOP mode. -/
def stopModeLatency (cfg : ClockConfig) : Int :=
  match cfg.variant with
  | .stm32f373 => 500
  | .stm32f05x => 300
  | .other => if cfg.cpuClock = pllClock then 300 else 50

/-- `SET_RTC_MATCH_DELAY` (µs): the longest it takes to set the RTC alarm. -/
def setRtcMatchDelay : Int := 200

/-- The statics of the idle loop, and `CPU_SCB_SYSCTRL`. The `int` counters are unbounded here:
their overflow, after `2^31` turns, is undefined behaviour. -/
structure IdleState where
  idleSleepCnt : Int
  idleDsleepCnt : Int
  idleDsleepTimeUs : UInt64
  dsleepRecoveryMarginUs : Int
  sysctrl : UInt32
  deriving DecidableEq, Repr

/-- The statics as the image has them: no sleep yet, a recovery margin of one second. -/
def IdleState.init (sysctrl : UInt32) : IdleState := ⟨0, 0, 0, 1000000, sysctrl⟩

/-- What a turn of the idle loop reads from the drivers. -/
structure IdleInput where
  /-- `DEEP_SLEEP_ALLOWED`. -/
  deepSleepAllowed : Bool
  /-- `get_time()`. -/
  t0 : UInt64
  /-- `__hw_clock_event_get()`: the low word of the next timer event's deadline. -/
  event : UInt32
  /-- `get_rtc_diff` of the RTC readings before and after a deep sleep, an `int`. -/
  rtcDiff : BitVec 32
  deriving DecidableEq, Repr

/-- What a turn of the idle loop does outside its statics. -/
inductive IdleEffect where
  /-- `wfi`, with `SLEEPDEEP` as `deep`. -/
  | sleep (deep : Bool)
  /-- `set_rtc_alarm(0, alarmUs)`, `wfi` with `SLEEPDEEP` as `deep`, `force_time(time)`, and
  `"Idle overslept!"` printed when `overslept`. -/
  | deepSleep (alarmUs : Int) (deep : Bool) (time : UInt64) (overslept : Bool)
  deriving DecidableEq, Repr

/-- `SLEEPDEEP`, bit 2 of `CPU_SCB_SYSCTRL`: set, `wfi` enters STOP mode. -/
def sleepDeep (sysctrl : UInt32) : Bool := sysctrl &&& 0x4 != 0

/-- `next_delay = __hw_clock_event_get() - t0.le.lo`: a `uint32_t` difference stored in an `int`. -/
def nextDelay (inp : IdleInput) : Int := (inp.event - inp.t0.toUInt32).toBitVec.toInt

/-- `margin_us = next_delay - rtc_diff`: an `int` subtraction, which wraps modulo `2^32`. -/
def marginUs (inp : IdleInput) : Int :=
  ((inp.event - inp.t0.toUInt32).toBitVec - inp.rtcDiff).toInt

/-- An `int` added to a `uint64_t`: converted modulo `2^64`. -/
def toUInt64 (i : Int) : UInt64 := ⟨BitVec.ofInt 64 i⟩

/-- `DEEP_SLEEP_ALLOWED && (next_delay > (STOP_MODE_LATENCY + SET_RTC_MATCH_DELAY))`: the test
for a deep sleep. -/
def idleDeep (cfg : ClockConfig) (inp : IdleInput) : Bool :=
  inp.deepSleepAllowed && decide (nextDelay inp > stopModeLatency cfg + setRtcMatchDelay)

/-- One turn of the `while (1)` loop of `__idle`. -/
def idleStep (cfg : ClockConfig) (st : IdleState) (inp : IdleInput) : IdleState × IdleEffect :=
  if idleDeep cfg inp then
    let sysctrl := st.sysctrl ||| 0x4
    let alarmUs := nextDelay inp - stopModeLatency cfg
    let deep := sleepDeep sysctrl
    let marginUs := marginUs inp
    ({ st with
        idleDsleepCnt := st.idleDsleepCnt + 1
        sysctrl := sysctrl &&& ~~~0x4
        idleDsleepTimeUs := st.idleDsleepTimeUs + toUInt64 inp.rtcDiff.toInt
        dsleepRecoveryMarginUs :=
          if marginUs < st.dsleepRecoveryMarginUs then marginUs else st.dsleepRecoveryMarginUs },
      .deepSleep alarmUs deep (inp.t0 + toUInt64 inp.rtcDiff.toInt) (marginUs < 0))
  else
    ({ st with idleSleepCnt := st.idleSleepCnt + 1 }, .sleep (sleepDeep st.sysctrl))

/-- Turns of the idle loop, one per input: the statics after them and what each turn did. -/
def idleRun (cfg : ClockConfig) (st : IdleState) : List IdleInput → IdleState × List IdleEffect
  | [] => (st, [])
  | inp :: inps =>
    let (st', e) := idleStep cfg st inp
    let (st'', es) := idleRun cfg st' inps
    (st'', e :: es)

@[simp] theorem idleRun_nil (cfg : ClockConfig) (st : IdleState) : idleRun cfg st [] = (st, []) :=
  rfl

@[simp] theorem idleRun_cons (cfg : ClockConfig) (st : IdleState) (inp : IdleInput)
    (inps : List IdleInput) :
    idleRun cfg st (inp :: inps)
      = ((idleRun cfg (idleStep cfg st inp).1 inps).1,
          (idleStep cfg st inp).2 :: (idleRun cfg (idleStep cfg st inp).1 inps).2) :=
  rfl

end Twonkie.Clock
