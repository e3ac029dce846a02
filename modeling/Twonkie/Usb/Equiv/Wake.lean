import Twonkie.Usb.Wake
import Twonkie.Usb.Equiv.Setup

/-!
# The wake-up countdown

`usb_wake` asks the interrupt handler to count three ESOFs with `RESUME` asserted, then to wait
for the bus to resume; `usb_wake_done = 0` marks the countdown as running. The task clears
`usb_wake_done` (W1) before it sets `esof_count` (W2), so an ESOF interrupt between the two counts
down from whatever `esof_count` the last wake-up left, finds it at or below zero, and ends the
countdown before it has begun. W3 then asserts `RESUME` and unmasks ESOF with no countdown
running, and no later interrupt releases it (`wake_race_strands_resume`).

Without the race the countdown does its work: `usb_interrupt` acts on `usb_wake_done`,
`esof_count`, `RESUME` and `ESOFM` only in its ESOF block (`usbInterrupt_countdownView`), each ESOF
lowers the count by one, and a running countdown is over within `esof_count + 300` ESOFs whatever
the bus does, with `RESUME` released on the way when the count started above zero
(`usb_wake_countdown_ends`).
-/

namespace Twonkie.Usb

/-- `RESUME` asserted and ESOF unmasked with no countdown running (`usb_wake_done ≠ 0`): no
interrupt will release `RESUME`. -/
def ResumeStranded (st : UsbState) : Prop :=
  st.cntr.resume = true ∧ st.cntr.esofm = true ∧ st.usbWakeDone = true

/-! ### The EP0 handlers leave the countdown alone -/

/-- What `usb_wake` and the ESOF countdown share: `CNTR`, `usb_wake_done` and `esof_count`. -/
def UsbState.wakeView (st : UsbState) : Cntr × Bool × Int :=
  (st.cntr, st.usbWakeDone, st.esofCount)

theorem ep0Do_wakeView (cfg : UsbConfig) (st : UsbState) (r : Ep0Reply) :
    (ep0Do cfg st r).wakeView = st.wakeView := by
  cases r with
  | sendDescriptor desc len fixupSize =>
    simp only [ep0Do, ep0SendDescriptor]
    split_ifs <;> rfl
  | _ => rfl

theorem ep0Rx_wakeView (cfg : UsbConfig) (ret : Int) (st : UsbState) :
    (ep0Rx cfg ret st).wakeView = st.wakeView := by
  simp only [ep0Rx]
  split_ifs <;> first | rfl | exact ep0Do_wakeView _ _ _

theorem ep0Tx_wakeView (cfg : UsbConfig) (ret : Int) (st : UsbState) :
    (ep0Tx cfg ret st).wakeView = st.wakeView := by
  simp only [ep0Tx, apply_ite UsbState.descPtr, ite_self]
  split <;> simp only [UsbState.wakeView, apply_ite UsbState.cntr, apply_ite UsbState.usbWakeDone,
    apply_ite UsbState.esofCount, UsbState.txValid_cntr, UsbState.txValid_usbWakeDone,
    UsbState.txValid_esofCount, ite_self]

/-- What the countdown reads and writes: `usb_wake_done`, `esof_count`, `RESUME` and `ESOFM`. -/
def UsbState.countdownView (st : UsbState) : Bool × Int × Bool × Bool :=
  (st.usbWakeDone, st.esofCount, st.cntr.resume, st.cntr.esofm)

theorem countdownView_of_wakeView {s s' : UsbState} (hv : s'.wakeView = s.wakeView) :
    s'.countdownView = s.countdownView := by
  simp only [UsbState.wakeView, Prod.mk.injEq] at hv
  simp only [UsbState.countdownView, hv]

@[simp] theorem usbSuspend_countdownView (st : UsbState) :
    (usbSuspend st).countdownView = st.countdownView := rfl
@[simp] theorem usbResume_countdownView (st : UsbState) :
    (usbResume st).countdownView = st.countdownView := rfl
@[simp] theorem usbReset_countdownView (cfg : UsbConfig) (st : UsbState) :
    (usbReset cfg st).countdownView = st.countdownView := rfl
@[simp] theorem receiveSetup_countdownView (cfg : UsbConfig) (st : UsbState) (pkt : SetupPacket) :
    (st.receiveSetup cfg pkt).countdownView = st.countdownView := rfl
@[simp] theorem ep0Rx_countdownView (cfg : UsbConfig) (ret : Int) (st : UsbState) :
    (ep0Rx cfg ret st).countdownView = st.countdownView :=
  countdownView_of_wakeView (ep0Rx_wakeView cfg ret st)
@[simp] theorem ep0Tx_countdownView (cfg : UsbConfig) (ret : Int) (st : UsbState) :
    (ep0Tx cfg ret st).countdownView = st.countdownView :=
  countdownView_of_wakeView (ep0Tx_wakeView cfg ret st)

theorem usbWakeDone_eq_of_wakeView {s s' : UsbState} (hv : s'.wakeView = s.wakeView) :
    s'.usbWakeDone = s.usbWakeDone :=
  congrArg (fun v => v.2.1) hv

theorem resumeStranded_of_wakeView {s s' : UsbState} (hv : s'.wakeView = s.wakeView)
    (h : ResumeStranded s) : ResumeStranded s' := by
  simp only [UsbState.wakeView, Prod.mk.injEq] at hv
  exact ⟨hv.1 ▸ h.1, hv.1 ▸ h.2.1, hv.2.1 ▸ h.2.2⟩

/-! ### One interrupt -/

/-- With no countdown running, `usb_interrupt` skips the ESOF block, and nothing else it does
touches `RESUME`, `ESOFM` or `usb_wake_done`. -/
theorem resumeStranded_usbInterrupt (cfg : UsbConfig) (status : Istr) (lineState : Fin 4)
    {st : UsbState} (h : ResumeStranded st) :
    ResumeStranded (usbInterrupt cfg status lineState st) := by
  have hreset : ResumeStranded (if status.reset then usbReset cfg st else st) := by
    split_ifs <;> exact h
  simp only [usbInterrupt]
  generalize (if status.reset then usbReset cfg st else st) = s at hreset ⊢
  simp only [hreset.2.2, Bool.not_true, Bool.and_false, Bool.false_eq_true, ↓reduceIte]
  have hbus : ResumeStranded (if status.wkup then usbResume (if status.susp then usbSuspend s else s)
      else if status.susp then usbSuspend s else s) := by
    split_ifs <;> exact hreset
  generalize (if status.wkup then usbResume (if status.susp then usbSuspend s else s)
    else if status.susp then usbSuspend s else s) = s' at hbus ⊢
  split
  · exact resumeStranded_of_wakeView (ep0Rx_wakeView cfg _ _) hbus
  · exact resumeStranded_of_wakeView (ep0Tx_wakeView cfg _ _) hbus
  · exact hbus

theorem esofCountdown_usbWakeDone {lineState : Fin 4} {st : UsbState} (hcount : st.esofCount ≤ 1)
    (hline : lineState = 2 ∨ lineState = 3) : (esofCountdown lineState st).usbWakeDone = true := by
  have hc : st.esofCount - 1 ≤ 0 ∧
      (lineState = 2 ∨ lineState = 3 ∨ st.esofCount - 1 ≤ -usbResumeTimeoutMs) :=
    ⟨by omega, hline.elim .inl (.inr ∘ .inl)⟩
  simp only [esofCountdown, if_pos hc]
  split_ifs <;> rfl

/-- An ESOF with the countdown at or below one, and the bus resumed (line state 2 or 3), ends
the countdown: `usb_wake_done` is set whatever else the interrupt does. -/
theorem usbInterrupt_ends_countdown (cfg : UsbConfig) (status : Istr) (lineState : Fin 4)
    {st : UsbState} (hesof : status.esof = true) (hdone : st.usbWakeDone = false)
    (hcount : st.esofCount ≤ 1) (hline : lineState = 2 ∨ lineState = 3) :
    (usbInterrupt cfg status lineState st).usbWakeDone = true := by
  have hreset : (if status.reset then usbReset cfg st else st).usbWakeDone = false ∧
      (if status.reset then usbReset cfg st else st).esofCount ≤ 1 := by
    split_ifs <;> exact ⟨hdone, hcount⟩
  simp only [usbInterrupt]
  generalize (if status.reset then usbReset cfg st else st) = s at hreset ⊢
  simp only [hesof, hreset.1, Bool.not_false, Bool.and_self, ↓reduceIte]
  have hend : (if status.wkup then usbResume (if status.susp then usbSuspend (esofCountdown lineState s)
      else esofCountdown lineState s) else if status.susp then usbSuspend (esofCountdown lineState s)
      else esofCountdown lineState s).usbWakeDone = true := by
    simp only [apply_ite UsbState.usbWakeDone, usbResume_usbWakeDone, usbSuspend_usbWakeDone,
      ite_self]
    exact esofCountdown_usbWakeDone hreset.2 hline
  generalize (if status.wkup then usbResume (if status.susp then usbSuspend (esofCountdown lineState s)
    else esofCountdown lineState s) else if status.susp then usbSuspend (esofCountdown lineState s)
    else esofCountdown lineState s) = s' at hend ⊢
  split
  · rw [usbWakeDone_eq_of_wakeView (ep0Rx_wakeView cfg _ _)]
    exact hend
  · rw [usbWakeDone_eq_of_wakeView (ep0Tx_wakeView cfg _ _)]
    exact hend
  · exact hend

/-! ### The race -/

theorem resumeStranded_interrupts (cfg : UsbConfig) (ints : List (Istr × Fin 4)) :
    ∀ {s : UsbState × WakePc}, ResumeStranded s.1 →
      ResumeStranded (wakeRun cfg s (ints.map fun i => .interrupt i.1 i.2)).1 := by
  induction ints with
  | nil => exact id
  | cons i ints ih => exact fun h => ih (resumeStranded_usbInterrupt cfg i.1 i.2 h)

/-- **The wake-up race.** Take any state with remote wake-up enabled, the bus suspended, no
wake-up running and the last countdown over (`esof_count ≤ 1`). If an interrupt with ESOF pending
and the bus resumed lands between W1 and W2 of `usb_wake`, then `RESUME` is left asserted with no
countdown running, and stays so through every later interrupt. -/
theorem wake_race_strands_resume (cfg : UsbConfig) (st : UsbState) (status : Istr)
    (lineState : Fin 4) (ints : List (Istr × Fin 4)) (hen : st.remoteWakeupEnabled = true)
    (hsusp : st.cntr.fsusp = true) (hdone : st.usbWakeDone = true) (hcount : st.esofCount ≤ 1)
    (hesof : status.esof = true) (hline : lineState = 2 ∨ lineState = 3) :
    ResumeStranded (wakeRun cfg (st, .idle)
      ([.wake, .wake, .interrupt status lineState, .wake, .wake] ++
        ints.map fun i => .interrupt i.1 i.2)).1 := by
  have hend : (usbInterrupt cfg status lineState { st with usbWakeDone := false }).usbWakeDone
      = true := usbInterrupt_ends_countdown cfg status lineState hesof rfl hcount hline
  have hw0 : wakeStep cfg (st, .idle) .wake = (st, .readClear) := by
    simp [wakeStep, usbWakeStep, hen, hsusp]
  have hw1 : wakeStep cfg (st, .readClear) .wake = ({ st with usbWakeDone := false }, .setCount) := by
    simp [wakeStep, usbWakeStep, hdone]
  rw [wakeRun_append]
  apply resumeStranded_interrupts
  rw [wakeRun_cons, hw0, wakeRun_cons, hw1]
  exact ⟨rfl, rfl, hend⟩

/-- `sampleState` once the host has enabled remote wake-up (over EP0) and suspended the bus. -/
def suspendedSample : UsbState :=
  (wakeRun sampleConfig (sampleState, .idle)
    [.interrupt ⟨false, false, false, false, some (.rx ⟨0x00, 3, 1, 0, 0⟩ 0)⟩ 0,
      .interrupt ⟨false, false, true, false, none⟩ 0]).1

/-- The race on `suspendedSample`, with one more ESOF after it. -/
theorem wake_race_strands_resume_sample :
    (suspendedSample.remoteWakeupEnabled = true ∧ suspendedSample.cntr.fsusp = true ∧
      suspendedSample.usbWakeDone = true ∧ suspendedSample.esofCount ≤ 1 ∧
      (⟨false, true, false, false, none⟩ : Istr).esof = true ∧ ((2 : Fin 4) = 2 ∨ (2 : Fin 4) = 3)) ∧
    ResumeStranded (wakeRun sampleConfig (suspendedSample, .idle)
      ([.wake, .wake, .interrupt ⟨false, true, false, false, none⟩ 2, .wake, .wake] ++
        [((⟨false, true, false, false, none⟩ : Istr), (2 : Fin 4))].map
          fun i => .interrupt i.1 i.2)).1 :=
  ⟨by decide, wake_race_strands_resume sampleConfig suspendedSample ⟨false, true, false, false, none⟩ 2
    [(⟨false, true, false, false, none⟩, 2)] (by decide) (by decide) (by decide) (by decide) rfl
    (by decide)⟩

/-! ### The countdown ends -/

/-- No countdown running, and none to come from the interrupt handler: `usb_wake_done` set, ESOF
masked and `esof_count` at or below zero. -/
structure CountdownOver (st : UsbState) : Prop where
  done : st.usbWakeDone = true
  masked : st.cntr.esofm = false
  count : st.esofCount ≤ 0

/-- `RESUME` is asserted only while `esof_count` is above zero. -/
def ResumeWhilePositive (st : UsbState) : Prop :=
  1 ≤ st.esofCount ∨ st.cntr.resume = false

theorem CountdownOver.of_countdownView {s s' : UsbState} (hv : s'.countdownView = s.countdownView)
    (h : CountdownOver s) : CountdownOver s' := by
  simp only [UsbState.countdownView, Prod.mk.injEq] at hv
  exact ⟨hv.1 ▸ h.done, hv.2.2.2 ▸ h.masked, hv.2.1 ▸ h.count⟩

theorem ResumeWhilePositive.of_countdownView {s s' : UsbState}
    (hv : s'.countdownView = s.countdownView) (h : ResumeWhilePositive s) :
    ResumeWhilePositive s' := by
  simp only [UsbState.countdownView, Prod.mk.injEq] at hv
  simpa only [ResumeWhilePositive, hv.2.1, hv.2.2.1] using h

/-- The bus reset and the ESOF block touch different parts of the state. -/
theorem esofCountdown_usbReset (cfg : UsbConfig) (lineState : Fin 4) (st : UsbState) :
    esofCountdown lineState (usbReset cfg st) = usbReset cfg (esofCountdown lineState st) := by
  simp only [esofCountdown, usbReset_esofCount, usbReset_cntr]
  split_ifs <;> rfl

/-- Outside its ESOF block, `usb_interrupt` leaves the countdown as it is: the bus reset, suspend,
resume and the EP0 handlers touch none of it. -/
theorem usbInterrupt_countdownView (cfg : UsbConfig) (status : Istr) (lineState : Fin 4)
    (st : UsbState) :
    (usbInterrupt cfg status lineState st).countdownView =
      (if status.esof && !st.usbWakeDone then esofCountdown lineState st
        else st).countdownView := by
  simp only [usbInterrupt, apply_ite UsbState.usbWakeDone, usbReset_usbWakeDone, ite_self,
    apply_ite (esofCountdown lineState), esofCountdown_usbReset]
  split <;> simp only [apply_ite UsbState.countdownView, ep0Rx_countdownView, ep0Tx_countdownView,
    receiveSetup_countdownView, usbResume_countdownView, usbSuspend_countdownView,
    usbReset_countdownView, ite_self]

@[simp] theorem esofCountdown_esofCount (lineState : Fin 4) (st : UsbState) :
    (esofCountdown lineState st).esofCount = st.esofCount - 1 := by
  simp only [esofCountdown]
  split_ifs <;> rfl

/-- One ESOF of a running countdown: it ends, or it goes on, above the timeout. -/
theorem esofCountdown_cases (lineState : Fin 4) (st : UsbState) :
    CountdownOver (esofCountdown lineState st) ∨
      ((esofCountdown lineState st).usbWakeDone = st.usbWakeDone ∧
        -usbResumeTimeoutMs < st.esofCount - 1) := by
  by_cases hend : st.esofCount - 1 ≤ 0 ∧
      (lineState = 2 ∨ lineState = 3 ∨ st.esofCount - 1 ≤ -usbResumeTimeoutMs)
  · refine .inl ⟨?_, ?_, by simpa only [esofCountdown_esofCount] using hend.1⟩ <;>
      simp only [esofCountdown, if_pos hend] <;> split_ifs <;> rfl
  · refine .inr ⟨by simp only [esofCountdown, if_neg hend], ?_⟩
    by_contra hlt
    exact hend ⟨by simp only [usbResumeTimeoutMs] at hlt; omega, .inr (.inr (by omega))⟩

theorem esofCountdown_cntr_resume (lineState : Fin 4) (st : UsbState) :
    (esofCountdown lineState st).cntr.resume =
      if st.esofCount - 1 = 0 then false else st.cntr.resume := by
  simp only [esofCountdown]
  split_ifs <;> rfl

/-- The ESOF that brings `esof_count` to zero releases `RESUME`. -/
theorem esofCountdown_resume (lineState : Fin 4) {st : UsbState} (h : ResumeWhilePositive st) :
    ResumeWhilePositive (esofCountdown lineState st) := by
  simp only [ResumeWhilePositive, esofCountdown_esofCount, esofCountdown_cntr_resume]
  split_ifs with h0
  · exact .inr rfl
  · exact h.imp (fun h => by omega) id

/-- One interrupt during a countdown: the countdown ends, or it goes on, one lower after an ESOF
and above the timeout. -/
theorem usbInterrupt_countdown (cfg : UsbConfig) (status : Istr) (lineState : Fin 4)
    {st : UsbState} (hdone : st.usbWakeDone = false) :
    CountdownOver (usbInterrupt cfg status lineState st) ∨
      ((usbInterrupt cfg status lineState st).usbWakeDone = false ∧
        (usbInterrupt cfg status lineState st).esofCount + (if status.esof then 1 else 0) =
          st.esofCount ∧
        (status.esof →
          -usbResumeTimeoutMs < (usbInterrupt cfg status lineState st).esofCount)) := by
  have hv := usbInterrupt_countdownView cfg status lineState st
  cases hesof : status.esof
  · simp only [hesof, Bool.false_and, UsbState.countdownView, Prod.mk.injEq] at hv
    exact .inr ⟨hv.1.trans hdone, by simp [hv.2.1], nofun⟩
  · simp only [hesof, hdone, Bool.not_false, Bool.and_self, if_true] at hv
    rcases esofCountdown_cases lineState st with h | ⟨hd, hlt⟩
    · exact .inl (.of_countdownView hv h)
    · simp only [UsbState.countdownView, Prod.mk.injEq, esofCountdown_esofCount] at hv
      exact .inr ⟨hv.1.trans (hd.trans hdone), by rw [if_pos rfl]; omega, fun _ => by omega⟩

/-- A countdown that is over stays over: no interrupt clears `usb_wake_done` or unmasks ESOF. -/
theorem countdownOver_usbInterrupt (cfg : UsbConfig) (status : Istr) (lineState : Fin 4)
    {st : UsbState} (h : CountdownOver st) : CountdownOver (usbInterrupt cfg status lineState st) :=
  .of_countdownView (usbInterrupt_countdownView cfg status lineState st)
    (by simpa only [h.done, Bool.not_true, Bool.and_false] using h)

theorem resumeWhilePositive_usbInterrupt (cfg : UsbConfig) (status : Istr) (lineState : Fin 4)
    {st : UsbState} (h : ResumeWhilePositive st) :
    ResumeWhilePositive (usbInterrupt cfg status lineState st) := by
  refine .of_countdownView (usbInterrupt_countdownView cfg status lineState st) ?_
  split_ifs
  · exact esofCountdown_resume lineState h
  · exact h

theorem countdownOver_interrupts (cfg : UsbConfig) (ints : List (Istr × Fin 4)) :
    ∀ {s : UsbState × WakePc}, CountdownOver s.1 →
      CountdownOver (wakeRun cfg s (ints.map fun i => .interrupt i.1 i.2)).1 := by
  induction ints with
  | nil => exact id
  | cons i ints ih => exact fun h => ih (countdownOver_usbInterrupt cfg i.1 i.2 h)

theorem resumeWhilePositive_interrupts (cfg : UsbConfig) (ints : List (Istr × Fin 4)) :
    ∀ {s : UsbState × WakePc}, ResumeWhilePositive s.1 →
      ResumeWhilePositive (wakeRun cfg s (ints.map fun i => .interrupt i.1 i.2)).1 := by
  induction ints with
  | nil => exact id
  | cons i ints ih => exact fun h => ih (resumeWhilePositive_usbInterrupt cfg i.1 i.2 h)

/-- A running countdown is over after `esof_count + USB_RESUME_TIMEOUT_MS` ESOFs, and at least one:
each ESOF it outlasts lowers `esof_count` by one and leaves it above `-USB_RESUME_TIMEOUT_MS`. -/
theorem countdownOver_of_esofs (cfg : UsbConfig) (ints : List (Istr × Fin 4)) :
    ∀ {s : UsbState × WakePc}, s.1.usbWakeDone = false → 0 < ints.countP (fun i => i.1.esof) →
      s.1.esofCount + usbResumeTimeoutMs ≤ ints.countP (fun i => i.1.esof) →
      CountdownOver (wakeRun cfg s (ints.map fun i => .interrupt i.1 i.2)).1 := by
  induction ints with
  | nil => exact fun _ h => absurd h (Nat.lt_irrefl 0)
  | cons i ints ih =>
    intro s hdone hpos hn
    rcases usbInterrupt_countdown cfg i.1 i.2 hdone with h | ⟨hd, hc, hlt⟩
    · exact countdownOver_interrupts cfg ints (s := (_, s.2)) h
    · rw [List.countP_cons] at hpos hn
      refine ih (s := (_, s.2)) hd ?_ ?_ <;> cases he : i.1.esof <;>
        simp only [he, if_true, if_false, Bool.false_eq_true, forall_const] at hpos hn hc hlt ⊢ <;>
        omega

/-- **A wake-up's countdown always ends.** Take a countdown running (`usb_wake_done = 0`) with
`esof_count = n`, and any run of USB interrupts with at least one ESOF and at least
`n + USB_RESUME_TIMEOUT_MS` of them, whatever the line states and whatever else the interrupts
carry (bus resets, suspends, resumes, EP0 transfers). After the run the countdown is over:
`usb_wake_done` is set, ESOF is masked and `esof_count` is at or below zero. If `n ≥ 1`, as W2
leaves it when no interrupt lands between W1 and W2, `RESUME` has been released too. -/
theorem usb_wake_countdown_ends (cfg : UsbConfig) (s : UsbState × WakePc)
    (ints : List (Istr × Fin 4)) (hdone : s.1.usbWakeDone = false)
    (hpos : 0 < ints.countP fun i => i.1.esof)
    (hn : s.1.esofCount + usbResumeTimeoutMs ≤ ints.countP fun i => i.1.esof) :
    CountdownOver (wakeRun cfg s (ints.map fun i => .interrupt i.1 i.2)).1 ∧
      (1 ≤ s.1.esofCount →
        (wakeRun cfg s (ints.map fun i => .interrupt i.1 i.2)).1.cntr.resume = false) := by
  have hover := countdownOver_of_esofs cfg ints hdone hpos hn
  refine ⟨hover, fun h1 => ?_⟩
  have hcount := hover.count
  exact (resumeWhilePositive_interrupts cfg ints (s := s) (.inl h1)).resolve_left (by omega)

/-- `suspendedSample` after a whole `usb_wake`, with no interrupt between its steps. -/
def wokenSample : UsbState × WakePc :=
  wakeRun sampleConfig (suspendedSample, .idle) [.wake, .wake, .wake, .wake]

/-- 303 ESOFs on an idle bus (line state 0). -/
def idleEsofs : List (Istr × Fin 4) :=
  List.replicate 303 (⟨false, true, false, false, none⟩, 0)

theorem usb_wake_countdown_ends_sample :
    (wokenSample.1.usbWakeDone = false ∧ 0 < idleEsofs.countP (fun i => i.1.esof) ∧
      wokenSample.1.esofCount + usbResumeTimeoutMs ≤ idleEsofs.countP (fun i => i.1.esof)) ∧
    CountdownOver (wakeRun sampleConfig wokenSample (idleEsofs.map fun i => .interrupt i.1 i.2)).1 ∧
      (1 ≤ wokenSample.1.esofCount →
        (wakeRun sampleConfig wokenSample
          (idleEsofs.map fun i => .interrupt i.1 i.2)).1.cntr.resume = false) :=
  have hcount : idleEsofs.countP (fun i => i.1.esof) = 303 := List.countP_replicate _ _ _
  ⟨⟨by decide, by rw [hcount]; decide, by rw [hcount]; decide⟩,
    usb_wake_countdown_ends _ _ _ (by decide) (by rw [hcount]; decide) (by rw [hcount]; decide)⟩

end Twonkie.Usb
