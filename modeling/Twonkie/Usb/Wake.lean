import Twonkie.Usb.Ep0

/-!
# Suspend, resume and remote wake-up

`usb_suspend`, `usb_resume`, `usb_wake` and `usb_interrupt` of `chip/stm32/usb.c`: the part of the
driver that runs in two contexts. `usb_wake` runs in a task and is cut into its four atomic steps
(`usbWakeStep`, W0 to W3: the guard, `atomic_read_clear(&usb_wake_done)`, `esof_count = 3`, and
`CNTR |= RESUME | ESOFM`); `usb_interrupt` runs whole between any two of them (`usbInterrupt`).
`wakeRun` interleaves the two.

The clock and sleep calls of `usb_suspend` and `usb_resume`, the console prints,
`board_usb_wake` and the acknowledgement write to `ISTR` touch nothing modelled here and are left
out.
-/

namespace Twonkie.Usb

/-- `USB_RESUME_TIMEOUT_MS`. -/
def usbResumeTimeoutMs : Int := 300

/-- `usb_suspend`: set `FSUSP`, then `LP_MODE`. -/
@[simps]
def usbSuspend (st : UsbState) : UsbState :=
  { st with cntr := { st.cntr with fsusp := true, lpMode := true } }

/-- `usb_resume`: clear `FSUSP`. -/
@[simps]
def usbResume (st : UsbState) : UsbState :=
  { st with cntr := { st.cntr with fsusp := false } }

/-- The ESOF block of `usb_interrupt`, run while a wake-up is in progress: count one ESOF and
release `RESUME` at zero, then wait for the bus to resume (line state 2 or 3) or for the
timeout; on any line state but 2, suspend again. `lineState` is what `RXDP`/`RXDM` of
`STM32_USB_FNR` read. -/
def esofCountdown (lineState : Fin 4) (st : UsbState) : UsbState :=
  let esofCount := st.esofCount - 1
  let st := { st with
    esofCount := esofCount
    cntr := if esofCount = 0 then { st.cntr with resume := false } else st.cntr }
  if esofCount ≤ 0 ∧ (lineState = 2 ∨ lineState = 3 ∨ esofCount ≤ -usbResumeTimeoutMs) then
    let st := { st with cntr := { st.cntr with esofm := false }, usbWakeDone := true }
    if lineState ≠ 2 then usbSuspend st else st
  else st

/-- A correct transfer on EP0, as `usb_interrupt` dispatches it: `DIR` set calls `ep0_rx` on the
SETUP in `ep0_buf_rx`, `DIR` clear calls `ep0_tx`; `ret` is what an interface handler called
there returns. -/
inductive Ep0Ctr where
  | rx (pkt : SetupPacket) (ret : Int)
  | tx (ret : Int)
  deriving DecidableEq, Repr

/-- The bits of `STM32_USB_ISTR` that `usb_interrupt` tests. -/
structure Istr where
  reset : Bool
  esof : Bool
  susp : Bool
  wkup : Bool
  /-- `CTR` with `EP_ID` 0, or `none` for no correct transfer or one on an endpoint whose
  handlers are not in this file. -/
  ctr : Option Ep0Ctr
  deriving DecidableEq, Repr

/-- `usb_interrupt` for status word `status` and line state `lineState`. -/
def usbInterrupt (cfg : UsbConfig) (status : Istr) (lineState : Fin 4) (st : UsbState) :
    UsbState :=
  let st := if status.reset then usbReset cfg st else st
  let st := if status.esof && !st.usbWakeDone then esofCountdown lineState st else st
  let st := if status.susp then usbSuspend st else st
  let st := if status.wkup then usbResume st else st
  match status.ctr with
  | some (.rx pkt ret) => ep0Rx cfg ret (st.receiveSetup cfg pkt)
  | some (.tx ret) => ep0Tx cfg ret st
  | none => st

/-- Where the task in `usb_wake` is: outside it, or before W1, W2 or W3. -/
inductive WakePc where
  | idle | readClear | setCount | setResume
  deriving DecidableEq, Repr

/-- One atomic step of `usb_wake`. W0 returns unless remote wake-up is enabled and the bus is
suspended; W1 returns unless `usb_wake_done` was set. -/
def usbWakeStep (st : UsbState) : WakePc → UsbState × WakePc
  | .idle => if st.remoteWakeupEnabled && st.cntr.fsusp then (st, .readClear) else (st, .idle)
  | .readClear => ({ st with usbWakeDone := false }, if st.usbWakeDone then .setCount else .idle)
  | .setCount => ({ st with esofCount := 3 }, .setResume)
  | .setResume => ({ st with cntr := { st.cntr with resume := true, esofm := true } }, .idle)

/-- What happens next: the task takes a step of `usb_wake` (W0 starts a call), or the USB
interrupt runs. -/
inductive WakeEvent where
  | wake
  | interrupt (status : Istr) (lineState : Fin 4)

/-- One event of the interleaving. -/
def wakeStep (cfg : UsbConfig) (s : UsbState × WakePc) : WakeEvent → UsbState × WakePc
  | .wake => usbWakeStep s.1 s.2
  | .interrupt status lineState => (usbInterrupt cfg status lineState s.1, s.2)

/-- A run of the interleaving. -/
def wakeRun (cfg : UsbConfig) (s : UsbState × WakePc) (evs : List WakeEvent) : UsbState × WakePc :=
  evs.foldl (wakeStep cfg) s

@[simp] theorem wakeRun_nil (cfg : UsbConfig) (s : UsbState × WakePc) : wakeRun cfg s [] = s := rfl

@[simp] theorem wakeRun_cons (cfg : UsbConfig) (s : UsbState × WakePc) (e : WakeEvent)
    (evs : List WakeEvent) : wakeRun cfg s (e :: evs) = wakeRun cfg (wakeStep cfg s e) evs := rfl

theorem wakeRun_append (cfg : UsbConfig) (s : UsbState × WakePc) (evs evs' : List WakeEvent) :
    wakeRun cfg s (evs ++ evs') = wakeRun cfg (wakeRun cfg s evs) evs' :=
  List.foldl_append _ _ _ _

end Twonkie.Usb
