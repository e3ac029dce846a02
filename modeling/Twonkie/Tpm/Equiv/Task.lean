import Twonkie.Tpm.Task
import Twonkie.Tpm.Equiv.Transfers

/-!
# The TPM task among the host and the other contexts

Properties of every interleaving of the host's register accesses, the statements of the callers
of `tpm_reset_request` and the statements of `tpm_task` (`tpmSystemRun`), each proved as one
lemma per step and an induction over the run:

* **The reset protocol.** Once the task has done its first reset, `reset_in_progress` is set only
  while `TPM_EVENT_RESET` is pending, or the task has taken it and not finished `tpm_reset_now`,
  or a caller is between setting the flag and setting the event; `wipe_requested` is set only
  while `TPM_EVENT_RESET` is pending, or the task has taken it and not reached the `memset`, or a
  caller is between its `wipe_requested |=` and its `task_set_event` (`tpmSystemRun_resetOk`).
  The flag and the wipe are not tied: a request accepted inside a `tpm_reset_now` that runs with
  the flag clear, after its `memset`, leaves `wipe_requested` set once the reset clears the flag.
* **Wipes.** The first `tpm_reset_now` of a run from boot is `tpm_reset_now(0)`, whatever was
  requested before it, and its `memset` clears `wipe_requested`. From then on each reset wipes
  exactly when a wipe was requested since the last `memset`: a wipe requested inside a reset,
  before its `memset`, is dropped. A run that stops inside the first reset, before its `memset`,
  is left out: a wipe accepted there is still pending (`tpmSystemRun_boot_wipes`).
* **Notification.** `tpm_reset_now` wakes only the task named in `waiting_for_reset`. A caller of
  `tpm_reset_request(1, ·)` whose reset the task has already done when it records itself there is
  not told: from a state where the task is in its loop, no reset is pending or in progress, no
  caller is inside `tpm_reset_request` and the caller is neither woken nor holds an event, until
  some caller's request is admitted its wait can only end in `EC_ERROR_TIMEOUT`
  (`unnotified_caller_times_out`).
* **Commands.** Wake-ups coalesce in the event mask, so over any run the task takes at most one
  command per `TPM_GO` that woke it, and finishes at most the commands it took
  (`tpmSystemRun_commands_le_wakes`). A wake-up outlives the command it was for: whatever the host
  does to the register file meanwhile, aborting that command and writing another included, the
  task's next two statements take a command from the FIFO (`stale_wake_takes_command`).
* **NVMEM commits.** From the first reset's `nvmem_disable_commits` on, commits are disabled only
  while their re-enabling is on its way (`tpmSystemRun_commitsOk`).

`tpmSystemRun_induction` lifts what one step keeps to every run; the step lemmas split on the
action and, for the TPM task, on the statement it runs.
-/

namespace Twonkie.TpmRegisters

/-! ### `reset_in_progress` under the register accesses -/

@[simp] theorem tpmRegisterPut_resetInProgress (regaddr : UInt32) (data : List UInt8) (t : Tpm) :
    (tpmRegisterPut regaddr data t).resetInProgress = t.resetInProgress := by
  rcases tpmRegisterPut_cases regaddr data t with hp | ⟨-, hp⟩ | ⟨-, hp⟩ | ⟨-, hp⟩ | ⟨-, hp⟩ <;>
    rw [hp]
  · exact (sameVersion_accessRegWrite _ t).reset
  · exact (sameVersion_stsRegWrite _ t).reset
  · exact (sameVersion_fifoRegWrite _ t).reset

@[simp] theorem tpmRegisterGet_resetInProgress (regaddr n : UInt32) (t : Tpm) :
    (tpmRegisterGet regaddr n t).2.resetInProgress = t.resetInProgress := by
  rcases tpmRegisterGet_snd_cases regaddr n t with hr | ⟨k, hr⟩ <;> simp [hr]

@[simp] theorem tpmPostResponse_resetInProgress (response : List UInt8) (t : Tpm) :
    (tpmPostResponse response t).resetInProgress = t.resetInProgress := by
  unfold tpmPostResponse; dsimp only; split_ifs <;> simp

end Twonkie.TpmRegisters

namespace Twonkie.TpmTask

open TpmRegisters (Tpm tpmPostResponse tpmRegisterGet)

/-! ### Where the task is -/

/-- Whether the task is past its first reset: in the command loop, or in a reset it called
there. -/
def TaskPc.started : TaskPc → Bool
  | .waitAp | .waitApEvent | .firstReset _ => false
  | .waitEvent | .took _ | .resetNow _ _ | .command _ => true

/-- Whether the task holds a reset it took: it has taken `TPM_EVENT_RESET` and not yet cleared
`reset_in_progress` at the end of `tpm_reset_now`. -/
def TaskPc.holdsReset : TaskPc → Bool
  | .took evt => evt.reset
  | .resetNow _ _ => true
  | _ => false

/-- The statements of `tpm_reset_now` before its `memset`. -/
def ResetStep.beforeMemset : ResetStep → Bool
  | .wipeResult | .memset => true
  | _ => false

/-- Whether the task has taken `TPM_EVENT_RESET`, or is in the first reset, and has not reached
the `memset`. -/
def TaskPc.beforeMemset : TaskPc → Bool
  | .took evt => evt.reset
  | .firstReset step | .resetNow _ step => step.beforeMemset
  | _ => false

/-- Whether a caller has set `reset_in_progress` and not yet `TPM_EVENT_RESET`. -/
def CallerPc.raisedFlag : CallerPc → Bool
  | .requesting _ _ _ .setResult | .requesting _ _ _ .orWipe | .requesting _ _ _ .setEvent => true
  | _ => false

/-- Whether a caller has or-ed its wipe into `wipe_requested` and not yet set
`TPM_EVENT_RESET`. -/
def CallerPc.orredWipe : CallerPc → Bool
  | .requesting _ _ _ .setEvent => true
  | _ => false

/-! ### Small lemmas per definition -/

@[simp] theorem taskEvents_empty_wake : TaskEvents.empty.wake = false := rfl
@[simp] theorem taskEvents_empty_reset : TaskEvents.empty.reset = false := rfl
@[simp] theorem taskEvents_empty_commit : TaskEvents.empty.commit = false := rfl

@[simp] theorem tpmSystemRun_nil (s : TpmSystem) : tpmSystemRun s [] = (s, []) := rfl

@[simp] theorem tpmSystemRun_cons (s : TpmSystem) (a : TpmAction) (as : List TpmAction) :
    tpmSystemRun s (a :: as) =
      ((tpmSystemRun (tpmSystemStep s a).1 as).1,
        (tpmSystemStep s a).2 ++ (tpmSystemRun (tpmSystemStep s a).1 as).2) := rfl

theorem tpmSystemRun_append (s : TpmSystem) (as bs : List TpmAction) :
    tpmSystemRun s (as ++ bs) =
      ((tpmSystemRun (tpmSystemRun s as).1 bs).1,
        (tpmSystemRun s as).2 ++ (tpmSystemRun (tpmSystemRun s as).1 bs).2) := by
  induction as generalizing s with
  | nil => rfl
  | cons a as ih => simp [ih]

section
variable (w : Bool) (next : ResetStep → TaskPc) (input : TaskInput) (s : TpmSystem)
  (step : ResetStep)

/-- `tpm_reset_now` leaves the task's event mask and the other contexts alone. -/
@[simp] theorem tpmResetNowStep_events : (tpmResetNowStep w next input s step).1.events = s.events := by
  cases step <;> dsimp only [tpmResetNowStep]

@[simp] theorem tpmResetNowStep_callers :
    (tpmResetNowStep w next input s step).1.callers = s.callers := by
  cases step <;> dsimp only [tpmResetNowStep]

/-- `tpm_reset_now` goes on to its next statement or back to the command loop. -/
theorem tpmResetNowStep_pc :
    (∃ step', (tpmResetNowStep w next input s step).1.pc = next step') ∨
      (tpmResetNowStep w next input s step).1.pc = .waitEvent := by
  cases step <;> simp only [tpmResetNowStep] <;> (try split_ifs) <;> simp

/-- Of the statements of `tpm_reset_now`, only the `memset` shows. -/
@[simp] theorem tpmResetNowStep_effects :
    (tpmResetNowStep w next input s step).2 = if step = .memset then [.cleared] else [] := by
  cases step <;> rfl

end

section
variable (input : TaskInput) (s : TpmSystem) (step : CommandStep)

/-- A command touches the register file only, and shows only its end. -/
@[simp] theorem tpmCommandStep_events : (tpmCommandStep input s step).1.events = s.events := by
  cases step <;> simp only [tpmCommandStep, postIfFits] <;> (try split_ifs) <;> rfl

@[simp] theorem tpmCommandStep_callers : (tpmCommandStep input s step).1.callers = s.callers := by
  cases step <;> simp only [tpmCommandStep, postIfFits] <;> (try split_ifs) <;> rfl

@[simp] theorem tpmCommandStep_wipeRequested :
    (tpmCommandStep input s step).1.wipeRequested = s.wipeRequested := by
  cases step <;> simp only [tpmCommandStep, postIfFits] <;> (try split_ifs) <;> rfl

@[simp] theorem tpmCommandStep_commitsEnabled :
    (tpmCommandStep input s step).1.commitsEnabled = s.commitsEnabled := by
  cases step <;> simp only [tpmCommandStep, postIfFits] <;> (try split_ifs) <;> rfl

@[simp] theorem tpmCommandStep_reinstatePending :
    (tpmCommandStep input s step).1.reinstatePending = s.reinstatePending := by
  cases step <;> simp only [tpmCommandStep, postIfFits] <;> (try split_ifs) <;> rfl

@[simp] theorem tpmCommandStep_callerReset :
    (tpmCommandStep input s step).1.callerReset = s.callerReset := by
  cases step <;> simp only [tpmCommandStep, postIfFits] <;> (try split_ifs) <;> rfl

@[simp] theorem tpmCommandStep_resetInProgress :
    (tpmCommandStep input s step).1.regs.resetInProgress = s.regs.resetInProgress := by
  cases step <;> simp only [tpmCommandStep, postIfFits] <;> (try split_ifs) <;>
    simp [TpmRegisters.setTpmState_resetInProgress]

/-- A command stays in the command loop, and its statements show only its end. -/
theorem tpmCommandStep_cases :
    ((∃ step', (tpmCommandStep input s step).1.pc = .command step') ∧
        (tpmCommandStep input s step).2 = []) ∨
      ((tpmCommandStep input s step).1.pc = .waitEvent ∧
        (tpmCommandStep input s step).2 = [.response]) := by
  cases step <;> simp only [tpmCommandStep, postIfFits] <;> (try split_ifs) <;> simp

end

/-- The task leaves the other contexts where they are. -/
@[simp] theorem tpmTask_callers (input : TaskInput) (s : TpmSystem) :
    (tpmTask input s).1.callers = s.callers := by
  unfold tpmTask
  split <;> (try split_ifs) <;> simp

/-! ### Runs -/

/-- The context that takes a step: the caller of `tpm_reset_request`, if any. -/
def TpmAction.actor : TpmAction → Option Nat
  | .resetRequest c .. | .caller c => some c
  | _ => none

/-- A caller's step moves only that caller. -/
theorem callerStep_callers_of_ne {c d : Nat} (hc : d ≠ c) (s : TpmSystem) :
    (callerStep c s).1.callers d = s.callers d := by
  unfold callerStep
  split
  · rfl
  · rename_i step _
    cases step <;> simp only [tpmResetRequestStep] <;> (try split_ifs) <;>
      simp [Function.update_noteq hc]
  all_goals (try split) <;> simp [Function.update_noteq hc]

/-- A caller that takes no step stays where it is. -/
theorem tpmSystemStep_callers_of_ne {a : TpmAction} {d : Nat} (ha : a.actor ≠ some d)
    (s : TpmSystem) : (tpmSystemStep s a).1.callers d = s.callers d := by
  cases a with
  | resetRequest c =>
    have hc : d ≠ c := by rintro rfl; exact ha rfl
    simp only [tpmSystemStep, tpmResetRequest]
    split_ifs <;> simp [Function.update_noteq hc]
  | caller c => exact callerStep_callers_of_ne (by rintro rfl; exact ha rfl) s
  | deferred =>
    simp only [tpmSystemStep]
    split_ifs <;> rfl
  | task input => exact congrFun (tpmTask_callers input s) d
  | put | get | reinstate => rfl

theorem tpmSystemRun_callers_of_ne {acts : List TpmAction} {d : Nat}
    (h : ∀ a ∈ acts, a.actor ≠ some d) (s : TpmSystem) :
    (tpmSystemRun s acts).1.callers d = s.callers d := by
  induction acts generalizing s with
  | nil => rfl
  | cons a as ih =>
    simp only [List.mem_cons, forall_eq_or_imp] at h
    rw [tpmSystemRun_cons, ih h.2, tpmSystemStep_callers_of_ne h.1]

/-- What one step keeps, kept by every run. -/
theorem tpmSystemRun_induction (P : TpmSystem → Prop)
    (hstep : ∀ s a, P s → P (tpmSystemStep s a).1) (s : TpmSystem) (acts : List TpmAction)
    (h : P s) : P (tpmSystemRun s acts).1 := by
  induction acts generalizing s with
  | nil => exact h
  | cons a as ih => exact ih _ (hstep s a h)

/-- A step of the task with the AP on and nothing from outside code. -/
def apOnInput : TaskInput :=
  { apOn := true, rollingReboot := false, versionInfo := ⟨[], 0, true, [], true, []⟩,
    eraseResult := .ecSuccess, response := [], extension := fun _ _ _ _ => ⟨0, []⟩ }

/-- Moving caller `c` from a place without `p` to anywhere keeps every other caller with `p`. -/
theorem exists_update_callers {p : CallerPc → Bool} {f : Nat → CallerPc} {c : Nat}
    (hc : p (f c) = false) (v : CallerPc) (h : ∃ d, p (f d)) :
    ∃ d, p (Function.update f c v d) := by
  obtain ⟨d, hd⟩ := h
  refine ⟨d, ?_⟩
  rwa [Function.update_noteq (by rintro rfl; simp [hc] at hd)]

/-! ### The reset protocol -/

/-- The reset protocol: once the task has done its first reset, a reset in progress has its
`TPM_EVENT_RESET` pending, taken by the task, or about to be set by the caller that raised the
flag; and a wipe requested has its `TPM_EVENT_RESET` pending, taken by a task that has not
reached the `memset`, or about to be set. -/
structure ResetOk (s : TpmSystem) : Prop where
  pending : s.pc.started → s.regs.resetInProgress →
    s.events.reset ∨ s.pc.holdsReset ∨ ∃ c, (s.callers c).raisedFlag
  wipe : s.wipeRequested → s.events.reset ∨ s.pc.beforeMemset ∨ ∃ c, (s.callers c).orredWipe

/-- The reset protocol reads the flag, the wipe, `TPM_EVENT_RESET`, where the task is and the
callers that raised the flag or or-ed their wipe. -/
theorem ResetOk.of_eq {s s' : TpmSystem} (h : ResetOk s) (hpc : s'.pc = s.pc)
    (hflag : s'.regs.resetInProgress = s.regs.resetInProgress)
    (hev : s'.events.reset = s.events.reset) (hw : s'.wipeRequested = s.wipeRequested)
    (hraised : ∀ d, (s.callers d).raisedFlag → (s'.callers d).raisedFlag)
    (horred : ∀ d, (s.callers d).orredWipe → (s'.callers d).orredWipe) : ResetOk s' := by
  constructor
  · intro hs hf
    rw [hpc] at hs ⊢
    rw [hev]
    rcases h.pending hs (hflag ▸ hf) with h | h | ⟨d, hd⟩
    exacts [.inl h, .inr (.inl h), .inr (.inr ⟨d, hraised d hd⟩)]
  · intro hwr
    rw [hpc, hev]
    rcases h.wipe (hw ▸ hwr) with h | h | ⟨d, hd⟩
    exacts [.inl h, .inr (.inl h), .inr (.inr ⟨d, horred d hd⟩)]

/-- Moving a caller that neither raised the flag nor or-ed its wipe. -/
theorem ResetOk.update_callers {s s' : TpmSystem} (h : ResetOk s) (hpc : s'.pc = s.pc)
    (hflag : s'.regs.resetInProgress = s.regs.resetInProgress)
    (hev : s'.events.reset = s.events.reset) (hw : s'.wipeRequested = s.wipeRequested) {c : Nat}
    {v : CallerPc} (hcs : s'.callers = Function.update s.callers c v)
    (hr : (s.callers c).raisedFlag = false) (ho : (s.callers c).orredWipe = false) : ResetOk s' := by
  refine h.of_eq hpc hflag hev hw (fun d hd => ?_) (fun d hd => ?_) <;> rw [hcs] <;>
    rwa [Function.update_noteq (by rintro rfl; simp_all)]

theorem resetOk_callerStep {s : TpmSystem} (h : ResetOk s) (c : Nat) :
    ResetOk (callerStep c s).1 := by
  unfold callerStep
  split
  · exact h
  · rename_i canSleep waitUntilDone wipe step hc
    cases step with
    | setFlag =>
      refine ⟨fun _ _ => .inr (.inr ⟨c, by simp [tpmResetRequestStep, CallerPc.raisedFlag]⟩),
        fun hw => ?_⟩
      rcases h.wipe hw with h | h | hd
      exacts [.inl h, .inr (.inl h), .inr (.inr (exists_update_callers (by simp [hc, CallerPc.orredWipe]) _ hd))]
    | setResult =>
      refine ⟨fun _ _ => .inr (.inr ⟨c, by simp [tpmResetRequestStep, CallerPc.raisedFlag]⟩),
        fun hw => ?_⟩
      rcases h.wipe hw with h | h | hd
      exacts [.inl h, .inr (.inl h), .inr (.inr (exists_update_callers (by simp [hc, CallerPc.orredWipe]) _ hd))]
    | orWipe =>
      exact ⟨fun _ _ => .inr (.inr ⟨c, by simp [tpmResetRequestStep, CallerPc.raisedFlag]⟩),
        fun _ => .inr (.inr ⟨c, by simp [tpmResetRequestStep, CallerPc.orredWipe]⟩)⟩
    | setEvent =>
      simp only [tpmResetRequestStep]
      split_ifs <;> exact ⟨fun _ _ => .inl rfl, fun _ => .inl rfl⟩
  all_goals
    rename_i hc
    first
    | exact h.update_callers rfl rfl rfl rfl rfl (by simp [hc, CallerPc.raisedFlag])
        (by simp [hc, CallerPc.orredWipe])
    | split <;> exact h.update_callers rfl rfl rfl rfl rfl (by simp [hc, CallerPc.raisedFlag])
        (by simp [hc, CallerPc.orredWipe])

/-- The reset protocol, given what a step does to each of the facts it reads. -/
theorem ResetOk.mono {s s' : TpmSystem} (h : ResetOk s)
    (hstarted : s'.pc.started → s.pc.started ∨ s'.regs.resetInProgress = false)
    (hholds : s.pc.holdsReset → s'.pc.holdsReset ∨ s'.regs.resetInProgress = false)
    (hbefore : s.pc.beforeMemset → s'.pc.beforeMemset ∨ s'.wipeRequested = false)
    (hflag : s'.regs.resetInProgress → s.regs.resetInProgress)
    (hev : s.events.reset → s'.events.reset ∨ (s'.pc.started → s'.pc.holdsReset) ∧ s'.pc.beforeMemset)
    (hw : s'.wipeRequested → s.wipeRequested) (hcallers : s'.callers = s.callers) :
    ResetOk s' := by
  constructor
  · intro hs' hf
    rcases hstarted hs' with hs | hf'
    · rcases h.pending hs (hflag hf) with he | hh | hc
      · rcases hev he with he | ⟨hh, -⟩
        exacts [.inl he, .inr (.inl (hh hs'))]
      · rcases hholds hh with hh | hf'
        · exact .inr (.inl hh)
        · simp [hf'] at hf
      · exact .inr (.inr (hcallers ▸ hc))
    · simp [hf'] at hf
  · intro hwr
    rcases h.wipe (hw hwr) with he | hb | hc
    · rcases hev he with he | ⟨-, hb⟩
      exacts [.inl he, .inr (.inl hb)]
    · rcases hbefore hb with hb | hw'
      · exact .inr (.inl hb)
      · simp [hw'] at hwr
    · exact .inr (.inr (hcallers ▸ hc))

theorem resetOk_tpmTask {s : TpmSystem} (h : ResetOk s) (input : TaskInput) :
    ResetOk (tpmTask input s).1 := by
  cases hpc : s.pc with
  | firstReset step | resetNow w step =>
    cases step <;> simp only [tpmTask, hpc, tpmResetNowStep] <;> (try split_ifs) <;>
      refine h.mono ?_ ?_ ?_ ?_ ?_ ?_ ?_ <;>
      simp [hpc, TaskPc.started, TaskPc.holdsReset, TaskPc.beforeMemset, ResetStep.beforeMemset,
        clearBss]
  | command step =>
    simp only [tpmTask, hpc]
    rcases tpmCommandStep_cases input s step with ⟨⟨st, h'⟩, -⟩ | ⟨h', -⟩ <;>
      refine h.mono ?_ ?_ ?_ ?_ ?_ ?_ ?_ <;>
      simp [h', hpc, TaskPc.started, TaskPc.holdsReset, TaskPc.beforeMemset]
  | _ =>
    simp only [tpmTask, hpc]
    split_ifs <;> refine h.mono ?_ ?_ ?_ ?_ ?_ ?_ ?_ <;>
      simp_all [TaskPc.started, TaskPc.holdsReset, TaskPc.beforeMemset, ResetStep.beforeMemset]

theorem resetOk_tpmSystemStep {s : TpmSystem} (h : ResetOk s) (a : TpmAction) :
    ResetOk (tpmSystemStep s a).1 := by
  cases a with
  | task input => exact resetOk_tpmTask h input
  | caller c => exact resetOk_callerStep h c
  | resetRequest c canSleep waitUntilDone wipe =>
    simp only [tpmSystemStep, tpmResetRequest]
    split_ifs with hc
    · exact h
    · exact h.update_callers rfl rfl rfl rfl rfl (by simp [hc, CallerPc.raisedFlag])
        (by simp [hc, CallerPc.orredWipe])
    · exact h
  | deferred =>
    simp only [tpmSystemStep]
    split_ifs
    · exact h.of_eq rfl rfl rfl rfl (fun _ => id) (fun _ => id)
    · exact h
  | put | get | reinstate =>
    exact h.of_eq rfl (by simp [tpmSystemStep, tpmRegisterPut, tpmReinstateNvmemCommits]) rfl rfl
      (fun _ => id) (fun _ => id)

/-- **The reset protocol holds in every state reachable from boot.** -/
theorem tpmSystemRun_resetOk (resetInProgress : Bool) (wipeResult : EcErrorList)
    (commitsEnabled : Bool) (acts : List TpmAction) :
    ResetOk (tpmSystemRun (.boot resetInProgress wipeResult commitsEnabled) acts).1 :=
  tpmSystemRun_induction ResetOk (fun _ a h => resetOk_tpmSystemStep h a) _ acts
    ⟨fun h => (nomatch h), fun h => (nomatch h)⟩

/-- The flag and the wipe are not tied: task `1` asks for a reset with a wipe inside the first
reset, after its `memset`, and the reset then clears the flag and leaves the wipe pending. -/
example :
    let s := (tpmSystemRun (.boot false .ecSuccess false) (List.replicate 4 (.task apOnInput) ++
      .resetRequest 1 false false true :: List.replicate 4 (.caller 1) ++
      List.replicate 10 (.task apOnInput))).1
    s.pc = .waitEvent ∧ s.regs.resetInProgress = false ∧ s.wipeRequested = true ∧
      s.events.reset = true := by
  decide

/-! ### Wipes -/

/-- The wipes a run's effects show, read in order: `asked` is whether a wipe has been requested
since the last `memset`, and each reset must wipe exactly when one has. The result is `asked` at
the end, or `none` if a reset does not match. -/
def wipeCheck (asked : Bool) : List TaskEffect → Option Bool
  | [] => some asked
  | .accepted w :: es => wipeCheck (asked || w) es
  | .reset w :: es => if w = asked then wipeCheck asked es else none
  | .cleared :: es => wipeCheck false es
  | .woke :: es | .admitted _ :: es | .returned _ _ :: es | .command :: es | .response :: es =>
    wipeCheck asked es

theorem wipeCheck_append (asked : Bool) (l₁ l₂ : List TaskEffect) :
    wipeCheck asked (l₁ ++ l₂) = (wipeCheck asked l₁).bind (wipeCheck · l₂) := by
  induction l₁ generalizing asked with
  | nil => rfl
  | cons e l ih =>
    cases e with
    | reset w =>
      show (if w = asked then _ else none) = (if w = asked then _ else none).bind _
      split_ifs
      · exact ih asked
      · rfl
    | _ => exact ih _

/-- Effects without a reset leave the check going. -/
theorem wipeCheck_of_no_reset (asked : Bool) {l : List TaskEffect} (hl : ∀ b, .reset b ∉ l) :
    ∃ a, wipeCheck asked l = some a := by
  induction l generalizing asked with
  | nil => exact ⟨asked, rfl⟩
  | cons e l ih =>
    have hl' : ∀ b, .reset b ∉ l := fun b hb => hl b (List.mem_cons_of_mem _ hb)
    cases e with
    | reset w => exact absurd (List.mem_cons_self _ _) (hl w)
    | _ => exact ih _ hl'

/-- Whether the `memset` of the first reset has cleared `wipe_requested`. -/
def TaskPc.cleared : TaskPc → Bool
  | .waitAp | .waitApEvent => false
  | .firstReset step => !step.beforeMemset
  | _ => true

/-- The effects only the TPM task has. -/
def TaskEffect.ofTask : TaskEffect → Bool
  | .reset _ | .cleared | .command | .response => true
  | .woke | .admitted _ | .accepted _ | .returned _ _ => false

/-- The actions of the other contexts. -/
def TpmAction.isTask : TpmAction → Bool
  | .task _ => true
  | _ => false

theorem TaskEffect.reset_not_mem {l : List TaskEffect} (h : ∀ e ∈ l, e.ofTask = false) (b : Bool) :
    .reset b ∉ l := fun hb => Bool.noConfusion (h _ hb)

theorem TaskEffect.cleared_not_mem {l : List TaskEffect} (h : ∀ e ∈ l, e.ofTask = false) :
    .cleared ∉ l := fun hb => Bool.noConfusion (h _ hb)

/-- A caller's step leaves the task where it is, with its wake-up, and has no effect of the
task. -/
theorem callerStep_frame (c : Nat) (s : TpmSystem) :
    (callerStep c s).1.pc = s.pc ∧ (callerStep c s).1.events.wake = s.events.wake ∧
      ∀ e ∈ (callerStep c s).2, e.ofTask = false := by
  unfold callerStep
  split
  · simp
  · rename_i step _
    cases step <;> simp only [tpmResetRequestStep] <;> (try split_ifs) <;> simp [TaskEffect.ofTask]
  all_goals (try split) <;> simp [TaskEffect.ofTask]

/-- The other contexts leave the task where it is, set `TASK_EVENT_WAKE` only with a `TPM_GO`,
and have no effect of the task. -/
theorem tpmSystemStep_frame {a : TpmAction} (ha : a.isTask = false) (s : TpmSystem) :
    (tpmSystemStep s a).1.pc = s.pc ∧
      ((tpmSystemStep s a).1.events.wake → s.events.wake ∨ .woke ∈ (tpmSystemStep s a).2) ∧
      ∀ e ∈ (tpmSystemStep s a).2, e.ofTask = false := by
  cases a with
  | put regaddr data =>
    simp only [tpmSystemStep, tpmRegisterPut]
    split_ifs <;> simp_all [TaskEffect.ofTask]
  | resetRequest c canSleep waitUntilDone wipe =>
    simp only [tpmSystemStep, tpmResetRequest]
    split_ifs <;> simp [TaskEffect.ofTask]
  | caller c =>
    obtain ⟨h₁, h₂, h₃⟩ := callerStep_frame c s
    exact ⟨h₁, fun h => .inl (h₂ ▸ h), h₃⟩
  | deferred =>
    simp only [tpmSystemStep]
    split_ifs <;> simp [reinstateNvmemCommits, tpmReinstateNvmemCommits]
  | get | reinstate => simp [tpmSystemStep, tpmReinstateNvmemCommits]
  | task => exact Bool.noConfusion ha

/-- A caller's steps record the wipe it asks for. -/
theorem wipeCheck_callerStep (c : Nat) (s : TpmSystem) :
    wipeCheck s.wipeRequested (callerStep c s).2 = some (callerStep c s).1.wipeRequested := by
  unfold callerStep
  split
  · rfl
  · rename_i step _
    cases step <;> simp only [tpmResetRequestStep] <;> (try split_ifs) <;> rfl
  all_goals first | rfl | (split <;> rfl)

/-- Past the first `memset`, the effects of a step match the wipes requested. -/
theorem wipeCheck_tpmSystemStep {s : TpmSystem} (hs : s.pc.cleared) (a : TpmAction) :
    wipeCheck s.wipeRequested (tpmSystemStep s a).2 = some (tpmSystemStep s a).1.wipeRequested ∧
      (tpmSystemStep s a).1.pc.cleared := by
  cases a with
  | put regaddr data =>
    simp only [tpmSystemStep, tpmRegisterPut]
    split_ifs <;> exact ⟨rfl, hs⟩
  | resetRequest c canSleep waitUntilDone wipe =>
    simp only [tpmSystemStep, tpmResetRequest]
    split_ifs <;> exact ⟨rfl, hs⟩
  | caller c => exact ⟨wipeCheck_callerStep c s, (callerStep_frame c s).1.symm ▸ hs⟩
  | deferred =>
    simp only [tpmSystemStep]
    split_ifs <;> exact ⟨rfl, hs⟩
  | get | reinstate => exact ⟨rfl, hs⟩
  | task input =>
    simp only [tpmSystemStep]
    cases hpc : s.pc with
    | waitAp | waitApEvent => simp [hpc, TaskPc.cleared] at hs
    | firstReset step | resetNow w step =>
      rw [hpc] at hs
      cases step <;> simp_all [tpmTask, tpmResetNowStep, wipeCheck, TaskPc.cleared,
        ResetStep.beforeMemset] <;> split_ifs <;> simp [TaskPc.cleared, ResetStep.beforeMemset]
    | command step =>
      simp only [tpmTask, hpc, tpmCommandStep_wipeRequested]
      rcases tpmCommandStep_cases input s step with ⟨⟨st, h₁⟩, h₂⟩ | ⟨h₁, h₂⟩ <;>
        simp [h₁, h₂, wipeCheck, TaskPc.cleared]
    | waitEvent | took evt =>
      simp only [tpmTask, hpc]
      split_ifs <;> simp [wipeCheck, TaskPc.cleared, hpc]

theorem wipeCheck_tpmSystemRun (s : TpmSystem) (acts : List TpmAction) (hs : s.pc.cleared) :
    wipeCheck s.wipeRequested (tpmSystemRun s acts).2 = some (tpmSystemRun s acts).1.wipeRequested := by
  induction acts generalizing s with
  | nil => rfl
  | cons a as ih =>
    obtain ⟨h₁, hs'⟩ := wipeCheck_tpmSystemStep hs a
    rw [tpmSystemRun_cons, wipeCheck_append, h₁]
    exact ih _ hs'

/-- The AP loop: the task waits for the AP before its first reset. -/
def TaskPc.inApLoop : TaskPc → Bool
  | .waitAp | .waitApEvent => true
  | _ => false

/-- In the AP loop a step either stays there with no reset, or calls `tpm_reset_now(0)`. -/
theorem apLoop_tpmSystemStep {s : TpmSystem} (hs : s.pc.inApLoop) (a : TpmAction) :
    (tpmSystemStep s a).1.pc.inApLoop ∧ (∀ b, .reset b ∉ (tpmSystemStep s a).2) ∨
      (tpmSystemStep s a).2 = [.reset false] ∧ (tpmSystemStep s a).1.pc = .firstReset .wipeResult := by
  cases ha : a.isTask
  · obtain ⟨hpc, -, he⟩ := tpmSystemStep_frame ha s
    exact .inl ⟨hpc ▸ hs, TaskEffect.reset_not_mem he⟩
  · cases a with
    | task input =>
      cases hpc : s.pc with
      | waitAp | waitApEvent =>
        simp only [tpmSystemStep, tpmTask, hpc]
        split_ifs <;> simp [TaskPc.inApLoop, hpc]
      | _ => simp [hpc, TaskPc.inApLoop] at hs
    | _ => exact Bool.noConfusion ha

/-- The first reset before its `memset`: a step either stays there with no effect of the task,
or does the `memset`, clearing `wipe_requested`. -/
theorem firstReset_tpmSystemStep {s : TpmSystem} {st : ResetStep} (hpc : s.pc = .firstReset st)
    (hst : st.beforeMemset) (a : TpmAction) :
    (∃ st', (tpmSystemStep s a).1.pc = .firstReset st' ∧ st'.beforeMemset) ∧
        (∀ e ∈ (tpmSystemStep s a).2, e.ofTask = false) ∨
      (tpmSystemStep s a).2 = [.cleared] ∧ (tpmSystemStep s a).1.pc.cleared ∧
        (tpmSystemStep s a).1.wipeRequested = false := by
  cases ha : a.isTask
  · obtain ⟨hpc', -, he⟩ := tpmSystemStep_frame ha s
    exact .inl ⟨⟨st, hpc' ▸ hpc, hst⟩, he⟩
  · cases a with
    | task input =>
      cases st with
      | wipeResult | memset =>
        simp [tpmSystemStep, tpmTask, hpc, tpmResetNowStep, TaskPc.cleared, ResetStep.beforeMemset]
      | _ => simp [ResetStep.beforeMemset] at hst
    | _ => exact Bool.noConfusion ha

/-- From the first reset before its `memset`, a run either does not reach the `memset`, with no
reset, or every later reset matches the wipes requested after it. -/
theorem firstReset_tpmSystemRun {s : TpmSystem} {st : ResetStep} (hpc : s.pc = .firstReset st)
    (hst : st.beforeMemset) (acts : List TpmAction) :
    (∀ b, .reset b ∉ (tpmSystemRun s acts).2) ∧ .cleared ∉ (tpmSystemRun s acts).2 ∨
      ∀ a, wipeCheck a (tpmSystemRun s acts).2 = some (tpmSystemRun s acts).1.wipeRequested := by
  induction acts generalizing s st with
  | nil => exact .inl ⟨fun _ => List.not_mem_nil _, List.not_mem_nil _⟩
  | cons a as ih =>
    rw [tpmSystemRun_cons]
    rcases firstReset_tpmSystemStep hpc hst a with ⟨⟨st', hpc', hst'⟩, he⟩ | ⟨he, hc, hw⟩
    · rcases ih hpc' hst' with ⟨hr, hcl⟩ | hchk
      · refine .inl ⟨fun b hb => ?_, fun hb => ?_⟩ <;> rcases List.mem_append.1 hb with hb | hb
        exacts [TaskEffect.reset_not_mem he b hb, hr b hb, TaskEffect.cleared_not_mem he hb, hcl hb]
      · refine .inr fun x => ?_
        obtain ⟨y, hy⟩ := wipeCheck_of_no_reset x (TaskEffect.reset_not_mem he)
        rw [wipeCheck_append, hy]
        exact hchk y
    · refine .inr fun x => ?_
      have hrun := wipeCheck_tpmSystemRun _ as hc
      rw [hw] at hrun
      rw [he]
      exact hrun

/-- From the AP loop, a run does no reset, or calls `tpm_reset_now(0)` first; after that, every
reset matches the wipes requested after the first `memset`, unless the run stops before it. -/
theorem apLoop_tpmSystemRun {s : TpmSystem} (hs : s.pc.inApLoop) (acts : List TpmAction) :
    (∀ b, .reset b ∉ (tpmSystemRun s acts).2) ∨
      ∃ pre post, (tpmSystemRun s acts).2 = pre ++ .reset false :: post ∧ (∀ b, .reset b ∉ pre) ∧
        (wipeCheck false post = some (tpmSystemRun s acts).1.wipeRequested ∨
          (∀ b, .reset b ∉ post) ∧ .cleared ∉ post) := by
  induction acts generalizing s with
  | nil => exact .inl fun _ => List.not_mem_nil _
  | cons a as ih =>
    rw [tpmSystemRun_cons]
    rcases apLoop_tpmSystemStep hs a with ⟨hs', he⟩ | ⟨he, hpc⟩
    · rcases ih hs' with hr | ⟨pre, post, heq, hpre, hpost⟩
      · exact .inl fun b hb => (List.mem_append.1 hb).elim (he b) (hr b)
      · refine .inr ⟨_ ++ pre, post, by rw [heq, List.append_assoc], fun b hb => ?_, hpost⟩
        exact (List.mem_append.1 hb).elim (he b) (hpre b)
    · refine .inr ⟨[], _, by rw [he]; rfl, fun _ => List.not_mem_nil _, ?_⟩
      rcases firstReset_tpmSystemRun hpc rfl as with h | h
      exacts [.inr h, .inl (h false)]

/-- **A wipe requested before the task's first `memset` is never done.** In every run from boot,
the first `tpm_reset_now` is `tpm_reset_now(0)`; after it each reset wipes exactly when a wipe was
requested since the previous `memset`, unless the run stops inside the first reset before its
`memset`. -/
theorem tpmSystemRun_boot_wipes (resetInProgress : Bool) (wipeResult : EcErrorList)
    (commitsEnabled : Bool) (acts : List TpmAction) :
    (∀ b, .reset b ∉ (tpmSystemRun (.boot resetInProgress wipeResult commitsEnabled) acts).2) ∨
      ∃ pre post,
        (tpmSystemRun (.boot resetInProgress wipeResult commitsEnabled) acts).2 =
          pre ++ .reset false :: post ∧ (∀ b, .reset b ∉ pre) ∧
        (wipeCheck false post =
            some (tpmSystemRun (.boot resetInProgress wipeResult commitsEnabled) acts).1.wipeRequested ∨
          (∀ b, .reset b ∉ post) ∧ .cleared ∉ post) :=
  apLoop_tpmSystemRun (by rfl) acts

/-! ### Notification of a sleeping caller -/

/-- The task is in its command loop and has not taken a reset. -/
def TaskPc.inLoop : TaskPc → Bool
  | .waitEvent | .command _ => true
  | .took evt => !evt.reset
  | _ => false

/-- A caller past the test of `reset_in_progress` and before its `task_set_event`. -/
def CallerPc.inRequest : CallerPc → Bool
  | .requesting .. => true
  | _ => false

/-- Nothing is on its way to wake caller `c`: the task is in its command loop, no reset is in
progress or requested, no caller is on its way to request one, `c` has no `TPM_EVENT_RESET` set
and is not already woken. -/
structure Unnotified (c : Nat) (s : TpmSystem) : Prop where
  loop : s.pc.inLoop
  noReset : s.regs.resetInProgress = false
  noRequest : s.events.reset = false
  idle : ∀ d, (s.callers d).inRequest = false
  noEvent : s.callerReset c = false
  notWoken : s.callers c ≠ .woken

/-- A caller's step, until it is admitted, keeps `c` unnotified and answers `c` only with
`EC_ERROR_TIMEOUT`. -/
theorem unnotified_callerStep {c : Nat} {s : TpmSystem} (h : Unnotified c s) (d : Nat) :
    Unnotified c (callerStep d s).1 ∧
      ∀ res, .returned c res ∈ (callerStep d s).2 → res = .ecErrorTimeout := by
  unfold callerStep
  split
  · exact ⟨h, by simp⟩
  · rename_i hd
    simpa [hd, CallerPc.inRequest] using h.idle d
  · rename_i hd
    refine ⟨⟨h.loop, h.noReset, h.noRequest, fun e => ?_, h.noEvent, ?_⟩, by simp⟩
    · rcases eq_or_ne e d with rfl | he
      · simp [CallerPc.inRequest]
      · simpa [Function.update_noteq he] using h.idle e
    · rcases eq_or_ne c d with rfl | hc
      · simp
      · simpa [Function.update_noteq hc] using h.notWoken
  · rename_i hd
    split
    · rename_i hr
      have hc : c ≠ d := by rintro rfl; simp [h.noEvent] at hr
      refine ⟨⟨h.loop, h.noReset, h.noRequest, fun e => ?_, ?_, ?_⟩, by simp⟩
      · rcases eq_or_ne e d with rfl | he
        · simp [CallerPc.inRequest]
        · simpa [Function.update_noteq he] using h.idle e
      · simpa [Function.update_noteq hc] using h.noEvent
      · simpa [Function.update_noteq hc] using h.notWoken
    · refine ⟨⟨h.loop, h.noReset, h.noRequest, fun e => ?_, h.noEvent, ?_⟩, ?_⟩
      · rcases eq_or_ne e d with rfl | he
        · simp [CallerPc.inRequest]
        · simpa [Function.update_noteq he] using h.idle e
      · rcases eq_or_ne c d with rfl | hc
        · simp
        · simpa [Function.update_noteq hc] using h.notWoken
      · simp only [List.mem_singleton, TaskEffect.returned.injEq]
        exact fun _ h => h.2
  · rename_i hd
    have hc : c ≠ d := by rintro rfl; exact h.notWoken hd
    refine ⟨⟨h.loop, h.noReset, h.noRequest, fun e => ?_, h.noEvent, ?_⟩, ?_⟩
    · rcases eq_or_ne e d with rfl | he
      · simp [CallerPc.inRequest]
      · simpa [Function.update_noteq he] using h.idle e
    · simpa [Function.update_noteq hc] using h.notWoken
    · simp [hc]

/-- A step of the task, with no reset to take, keeps `c` unnotified and answers no caller. -/
theorem unnotified_tpmTask {c : Nat} {s : TpmSystem} (h : Unnotified c s) (input : TaskInput) :
    Unnotified c (tpmTask input s).1 ∧ ∀ res, .returned c res ∉ (tpmTask input s).2 := by
  have hl := h.loop
  cases hpc : s.pc with
  | waitEvent =>
    simp only [tpmTask, hpc]
    split_ifs
    · exact ⟨h, by simp⟩
    · exact ⟨⟨by simp [TaskPc.inLoop, h.noRequest], h.noReset, rfl, h.idle, h.noEvent,
        h.notWoken⟩, by simp⟩
  | took evt =>
    rw [hpc] at hl
    simp only [TaskPc.inLoop, Bool.not_eq_true'] at hl
    simp only [tpmTask, hpc, hl, Bool.false_eq_true, if_false]
    split_ifs <;> exact ⟨⟨rfl, h.noReset, h.noRequest, h.idle, h.noEvent, h.notWoken⟩, by simp⟩
  | command step =>
    simp only [tpmTask, hpc]
    refine ⟨⟨?_, by simpa using h.noReset, by simpa using h.noRequest, by simpa using h.idle,
      by simpa using h.noEvent, by simpa using h.notWoken⟩, ?_⟩ <;>
      rcases tpmCommandStep_cases input s step with ⟨⟨st, h₁⟩, h₂⟩ | ⟨h₁, h₂⟩ <;>
      simp [h₁, h₂, TaskPc.inLoop]
  | _ => simp [hpc, TaskPc.inLoop] at hl

/-- Until a request is admitted, a step keeps `c` unnotified and answers `c` only with
`EC_ERROR_TIMEOUT`. -/
theorem unnotified_tpmSystemStep {c : Nat} {s : TpmSystem} (h : Unnotified c s) (a : TpmAction)
    (hadm : ∀ d, .admitted d ∉ (tpmSystemStep s a).2) :
    Unnotified c (tpmSystemStep s a).1 ∧
      ∀ res, .returned c res ∈ (tpmSystemStep s a).2 → res = .ecErrorTimeout := by
  cases a with
  | put regaddr data =>
    refine ⟨⟨h.loop, by simpa [tpmSystemStep, tpmRegisterPut] using h.noReset, h.noRequest,
      h.idle, h.noEvent, h.notWoken⟩, ?_⟩
    simp only [tpmSystemStep, tpmRegisterPut]
    split_ifs <;> simp
  | get => exact ⟨⟨h.loop, by simpa [tpmSystemStep] using h.noReset, h.noRequest, h.idle,
      h.noEvent, h.notWoken⟩, by simp [tpmSystemStep]⟩
  | resetRequest d canSleep waitUntilDone wipe =>
    simp only [tpmSystemStep] at hadm ⊢
    split_ifs at hadm ⊢
    · simp [tpmResetRequest, h.noReset] at hadm
    · exact ⟨h, by simp⟩
  | caller d => exact unnotified_callerStep h d
  | reinstate =>
    exact ⟨⟨h.loop, h.noReset, h.noRequest, h.idle, h.noEvent, h.notWoken⟩, by simp [tpmSystemStep]⟩
  | deferred =>
    simp only [tpmSystemStep]
    split_ifs
    · exact ⟨⟨h.loop, h.noReset, h.noRequest, h.idle, h.noEvent, h.notWoken⟩, by simp⟩
    · exact ⟨h, by simp⟩
  | task input =>
    obtain ⟨h', hret⟩ := unnotified_tpmTask h input
    exact ⟨h', fun res hres => absurd hres (hret res)⟩

/-- **A caller that records itself after its reset is done is not told of it.** From a state
where nothing is on its way to wake caller `c`, until a reset request is admitted, every value
`tpm_reset_request` returns to `c` is `EC_ERROR_TIMEOUT`. -/
theorem unnotified_caller_times_out (s : TpmSystem) (c : Nat) (acts : List TpmAction)
    (h : Unnotified c s) (hadm : ∀ d, .admitted d ∉ (tpmSystemRun s acts).2) :
    ∀ res, .returned c res ∈ (tpmSystemRun s acts).2 → res = .ecErrorTimeout := by
  induction acts generalizing s with
  | nil => simp
  | cons a as ih =>
    simp only [tpmSystemRun_cons, List.mem_append, not_or] at hadm ⊢
    obtain ⟨h', hret⟩ := unnotified_tpmSystemStep h a fun d => (hadm d).1
    rintro res (hres | hres)
    exacts [hret res hres, ih _ h' (fun d => (hadm d).2) res hres]

/-- The race: the task does its first reset, task `1` calls `tpm_reset_request(1, 0)` and is
preempted before it records itself in `waiting_for_reset`, and the TPM task takes the reset and
does it. -/
def resetBeforeRegister : TpmSystem :=
  (tpmSystemRun (.boot false .ecSuccess false)
    (List.replicate 14 (.task apOnInput) ++ .resetRequest 1 true true false ::
      List.replicate 4 (.caller 1) ++ List.replicate 15 (.task apOnInput))).1

theorem unnotified_caller_times_out_race :
    resetBeforeRegister.callers 1 = .registering ∧ Unnotified 1 resetBeforeRegister ∧
      (∀ d, .admitted d ∉ (tpmSystemRun resetBeforeRegister [.caller 1, .caller 1]).2) ∧
      ∀ res, .returned 1 res ∈ (tpmSystemRun resetBeforeRegister [.caller 1, .caller 1]).2 →
        res = .ecErrorTimeout := by
  have hidle : ∀ d, (resetBeforeRegister.callers d).inRequest = false := fun d => by
    rcases eq_or_ne d 1 with rfl | hd
    · decide
    · rw [resetBeforeRegister, tpmSystemRun_callers_of_ne (by simp [TpmAction.actor, hd.symm])]
      rfl
  have hrun : (tpmSystemRun resetBeforeRegister [.caller 1, .caller 1]).2 =
      [.returned 1 .ecErrorTimeout] := by decide
  have hun : Unnotified 1 resetBeforeRegister :=
    ⟨by decide, by decide, by decide, hidle, by decide, by decide⟩
  have hadm : ∀ d, .admitted d ∉ (tpmSystemRun resetBeforeRegister [.caller 1, .caller 1]).2 := by
    rw [hrun]; simp
  exact ⟨by decide, hun, hadm, unnotified_caller_times_out _ 1 _ hun hadm⟩

/-! ### Commands -/

/-- The wake-ups the task has not acted on: `TASK_EVENT_WAKE` in its mask, and one it has taken
from the mask and not yet tested. -/
def TpmSystem.wakePending (s : TpmSystem) : Nat :=
  (if s.events.wake then 1 else 0) +
    match s.pc with
    | .took evt => if evt.wake then 1 else 0
    | _ => 0

/-- A command the task is running. -/
def TaskPc.running : TaskPc → Bool
  | .command _ => true
  | _ => false

theorem TaskEffect.count_eq_zero {l : List TaskEffect} (h : ∀ e ∈ l, e.ofTask = false)
    {e : TaskEffect} (he : e.ofTask) : l.count e = 0 :=
  List.count_eq_zero.2 fun hm => by simp [h e hm] at he

/-- A step of the task takes a command only with a wake-up it acts on, and finishes only the
command it runs. -/
theorem commands_le_tpmTask (input : TaskInput) (s : TpmSystem) :
    (tpmTask input s).2.count .command + (tpmTask input s).1.wakePending ≤ s.wakePending ∧
      (tpmTask input s).2.count .response + (if (tpmTask input s).1.pc.running then 1 else 0) ≤
        (tpmTask input s).2.count .command + (if s.pc.running then 1 else 0) := by
  cases hpc : s.pc with
  | firstReset step =>
    simp only [tpmTask, hpc, tpmResetNowStep_effects]
    rcases tpmResetNowStep_pc false .firstReset input s step with ⟨st, h⟩ | h <;>
      split_ifs <;> simp_all [TpmSystem.wakePending, TaskPc.running]
  | resetNow w step =>
    simp only [tpmTask, hpc, tpmResetNowStep_effects]
    rcases tpmResetNowStep_pc w (.resetNow w) input s step with ⟨st, h⟩ | h <;>
      split_ifs <;> simp_all [TpmSystem.wakePending, TaskPc.running]
  | command step =>
    simp only [tpmTask, hpc]
    rcases tpmCommandStep_cases input s step with ⟨⟨st, h₁⟩, h₂⟩ | ⟨h₁, h₂⟩ <;>
      simp [TpmSystem.wakePending, TaskPc.running, h₁, h₂, hpc]
  | waitAp | waitApEvent | waitEvent | took evt =>
    simp only [tpmTask, hpc]
    split_ifs <;> simp_all [TpmSystem.wakePending, TaskPc.running, Nat.add_comm]

/-- A step of the system takes a command only with a wake-up, and finishes only a command the
task runs. -/
theorem commands_le_tpmSystemStep (s : TpmSystem) (a : TpmAction) :
    (tpmSystemStep s a).2.count .command + (tpmSystemStep s a).1.wakePending ≤
        (tpmSystemStep s a).2.count .woke + s.wakePending ∧
      (tpmSystemStep s a).2.count .response +
          (if (tpmSystemStep s a).1.pc.running then 1 else 0) ≤
        (tpmSystemStep s a).2.count .command + (if s.pc.running then 1 else 0) := by
  cases ha : a.isTask
  · obtain ⟨hpc, hwake, he⟩ := tpmSystemStep_frame ha s
    have hw : (if (tpmSystemStep s a).1.events.wake then 1 else 0) ≤
        (tpmSystemStep s a).2.count .woke + (if s.events.wake then 1 else 0) := by
      by_cases h : (tpmSystemStep s a).1.events.wake
      · rcases hwake h with h' | h'
        · simp [h, h']
        · have := List.count_pos_iff.2 h'
          simp only [h, if_true]
          omega
      · simp [h]
    simp only [TpmSystem.wakePending, hpc, TaskEffect.count_eq_zero he (e := .command) rfl,
      TaskEffect.count_eq_zero he (e := .response) rfl]
    omega
  · cases a with
    | task input =>
      have := commands_le_tpmTask input s
      simp only [tpmSystemStep]
      omega
    | _ => exact Bool.noConfusion ha

/-- **The task takes at most one command per wake-up, and answers at most the commands it
took.** Over any run, the commands taken and the wake-ups still pending at the end are at most
the `TPM_GO` wake-ups and those pending at the start; the responses and the command still
running at the end are at most the commands taken and the one running at the start. -/
theorem tpmSystemRun_commands_le_wakes (s : TpmSystem) (acts : List TpmAction) :
    (tpmSystemRun s acts).2.count .command + (tpmSystemRun s acts).1.wakePending ≤
        (tpmSystemRun s acts).2.count .woke + s.wakePending ∧
      (tpmSystemRun s acts).2.count .response +
          (if (tpmSystemRun s acts).1.pc.running then 1 else 0) ≤
        (tpmSystemRun s acts).2.count .command + (if s.pc.running then 1 else 0) := by
  induction acts generalizing s with
  | nil => simp
  | cons a as ih =>
    have h₁ := commands_le_tpmSystemStep s a
    have h₂ := ih (tpmSystemStep s a).1
    simp only [tpmSystemRun_cons, List.count_append]
    omega

/-- The actions of the host. -/
def TpmAction.isHost : TpmAction → Bool
  | .put _ _ | .get _ _ => true
  | _ => false

/-- The host's accesses leave the task where it is, add no reset request, and keep a pending
wake-up. -/
theorem host_tpmSystemRun (s : TpmSystem) (acts : List TpmAction) (hacts : ∀ a ∈ acts, a.isHost) :
    (tpmSystemRun s acts).1.pc = s.pc ∧ (tpmSystemRun s acts).1.events.reset = s.events.reset ∧
      (s.events.wake → (tpmSystemRun s acts).1.events.wake) := by
  induction acts generalizing s with
  | nil => exact ⟨rfl, rfl, id⟩
  | cons a as ih =>
    obtain ⟨h₁, h₂, h₃⟩ := ih (tpmSystemStep s a).1 fun a' ha' => hacts a' (List.mem_cons_of_mem _ ha')
    have ha := hacts a (List.mem_cons_self _ _)
    cases a with
    | put regaddr data =>
      simp only [tpmSystemRun_cons, tpmSystemStep, tpmRegisterPut] at h₁ h₂ h₃ ⊢
      exact ⟨h₁, h₂, fun hw => h₃ (by simp [hw])⟩
    | get => exact ⟨h₁, h₂, h₃⟩
    | _ => simp [TpmAction.isHost] at ha

/-- **A wake-up outlives the command it was for.** With the task waiting for an event, a wake-up
pending and no reset requested, whatever the host then does to the register file (aborting the
command with `commandReady` and writing another included), the task's next two steps take a
command from the FIFO. -/
theorem stale_wake_takes_command (s : TpmSystem) (acts : List TpmAction) (input input' : TaskInput)
    (hpc : s.pc = .waitEvent) (hwake : s.events.wake) (hreset : s.events.reset = false)
    (hacts : ∀ a ∈ acts, a.isHost) :
    (tpmSystemRun (tpmSystemRun s acts).1 [.task input, .task input']).2 = [.command] := by
  obtain ⟨h₁, h₂, h₃⟩ := host_tpmSystemRun s acts hacts
  have hw := h₃ hwake
  have hne : (tpmSystemRun s acts).1.events ≠ .empty := fun h => by simp [h] at hw
  simp [tpmSystemStep, tpmTask, h₁, hpc, hne, h₂, hreset, hw]

/-- A command started with `TPM_GO` after the task's first reset, whose wake-up the task has not
taken yet. -/
def goPending : TpmSystem :=
  (tpmSystemRun (.boot false .ecSuccess false)
    (List.replicate 14 (.task apOnInput) ++ [.put TpmRegisters.tpmSts [0x40],
      .put TpmRegisters.tpmDataFifo [0x80, 0x01], .put TpmRegisters.tpmSts [0x20]])).1

/-- The host aborts it with `commandReady`, goes back to `ready`, and writes a byte of another
command, never started; the task takes a command anyway. -/
theorem stale_wake_takes_command_abort :
    goPending.pc = .waitEvent ∧ goPending.events.wake ∧ goPending.events.reset = false ∧
      (tpmSystemRun goPending [.put TpmRegisters.tpmSts [0x40], .put TpmRegisters.tpmSts [0x40],
        .put TpmRegisters.tpmDataFifo [0x80]]).1.regs.state = .receivingCmd ∧
      (tpmSystemRun (tpmSystemRun goPending [.put TpmRegisters.tpmSts [0x40],
        .put TpmRegisters.tpmSts [0x40], .put TpmRegisters.tpmDataFifo [0x80]]).1
        [.task apOnInput, .task apOnInput]).2 = [.command] :=
  ⟨by decide, by decide, by decide, by decide,
    stale_wake_takes_command _ _ _ _ (by decide) (by decide) (by decide) (by decide)⟩

/-! ### NVMEM commits -/

/-- The statements of `tpm_reset_now` after `nvmem_disable_commits`. -/
def ResetStep.afterCommits : ResetStep → Bool
  | .wipeResult | .memset | .commits => false
  | _ => true

/-- The statements of `tpm_reset_now` up to its `hook_call_deferred`. -/
def ResetStep.beforeDeferred : ResetStep → Bool
  | .clearFlag => false
  | _ => true

/-- Whether the task has disabled commits in its first reset. -/
def TaskPc.commitsSet : TaskPc → Bool
  | .waitAp | .waitApEvent => false
  | .firstReset step => step.afterCommits
  | _ => true

/-- Whether the task is on its way to re-enable commits or schedule their re-enabling: it has
taken `TPM_EVENT_COMMIT` or `TPM_EVENT_RESET` and not yet acted on it, or it is in a reset that
has not yet called `hook_call_deferred`. -/
def TaskPc.willReinstate : TaskPc → Bool
  | .took evt => evt.commit || evt.reset
  | .firstReset step | .resetNow _ step => step.beforeDeferred
  | _ => false

/-- Once the task has disabled commits in its first reset, they are disabled only while their
re-enabling is on its way: the deferred `reinstate_nvmem_commits` is scheduled,
`TPM_EVENT_COMMIT` is pending, or the task is on its way to it. -/
def CommitsOk (s : TpmSystem) : Prop :=
  s.pc.commitsSet → s.commitsEnabled = false →
    s.reinstatePending ∨ s.events.commit ∨ s.pc.willReinstate

theorem commitsOk_tpmTask {s : TpmSystem} (h : CommitsOk s) (input : TaskInput) :
    CommitsOk (tpmTask input s).1 := by
  unfold CommitsOk at h ⊢
  cases hpc : s.pc with
  | firstReset step | resetNow w step =>
    rw [hpc] at h
    cases step <;> simp only [tpmTask, hpc, tpmResetNowStep] <;> (try split_ifs) <;>
      simp_all [TaskPc.commitsSet, TaskPc.willReinstate, ResetStep.afterCommits,
        ResetStep.beforeDeferred]
  | command step =>
    rw [hpc] at h
    simp only [tpmTask, hpc, tpmCommandStep_commitsEnabled, tpmCommandStep_reinstatePending,
      tpmCommandStep_events]
    rcases tpmCommandStep_cases input s step with ⟨⟨st, h'⟩, -⟩ | ⟨h', -⟩ <;>
      simpa [h', TaskPc.commitsSet, TaskPc.willReinstate] using h
  | waitEvent =>
    simp only [tpmTask, hpc]
    split_ifs
    · exact h
    · intro _ hc
      rcases h (by simp [hpc, TaskPc.commitsSet]) hc with h | h | h
      · exact .inl h
      · exact .inr (.inr (by simp [TaskPc.willReinstate, h]))
      · simp [hpc, TaskPc.willReinstate] at h
  | took evt =>
    simp only [tpmTask, hpc]
    split_ifs with hr
    · intro _ _
      simp [TaskPc.willReinstate, ResetStep.beforeDeferred]
    all_goals
      intro _ hc
      simp only [Bool.or_eq_false_iff] at hc
      rcases h (by simp [hpc, TaskPc.commitsSet]) hc.1 with h | h | h
      · exact .inl h
      · exact .inr (.inl h)
      · simp [hpc, TaskPc.willReinstate, hr, hc.2] at h
  | waitAp | waitApEvent =>
    simp only [tpmTask, hpc]
    split_ifs <;> simp [hpc, TaskPc.commitsSet, ResetStep.afterCommits]

/-- A caller's step leaves the commits alone. -/
theorem callerStep_commits (c : Nat) (s : TpmSystem) :
    (callerStep c s).1.commitsEnabled = s.commitsEnabled ∧
      (callerStep c s).1.reinstatePending = s.reinstatePending ∧
      (callerStep c s).1.events.commit = s.events.commit := by
  unfold callerStep
  split
  · simp
  · rename_i step _
    cases step <;> simp only [tpmResetRequestStep] <;> (try split_ifs) <;> simp
  all_goals (try split) <;> simp

theorem commitsOk_tpmSystemStep {s : TpmSystem} (h : CommitsOk s) (a : TpmAction) :
    CommitsOk (tpmSystemStep s a).1 := by
  cases a with
  | task input => exact commitsOk_tpmTask h input
  | caller c =>
    obtain ⟨h₁, h₂, h₃⟩ := callerStep_commits c s
    unfold CommitsOk
    simpa only [tpmSystemStep, (callerStep_frame c s).1, h₁, h₂, h₃] using h
  | resetRequest c canSleep waitUntilDone wipe =>
    simp only [tpmSystemStep, tpmResetRequest]
    split_ifs <;> exact h
  | reinstate => exact fun _ _ => .inr (.inl rfl)
  | deferred =>
    simp only [tpmSystemStep]
    split_ifs
    · exact fun _ _ => .inr (.inl rfl)
    · exact h
  | put | get => exact h

/-- **After the first reset, NVMEM commits are never left disabled for good**: in every state
reachable from boot, once the task has disabled commits, disabled commits have the deferred
`reinstate_nvmem_commits` scheduled, a `TPM_EVENT_COMMIT` pending, or the task on its way to
one. -/
theorem tpmSystemRun_commitsOk (resetInProgress : Bool) (wipeResult : EcErrorList)
    (commitsEnabled : Bool) (acts : List TpmAction) :
    CommitsOk (tpmSystemRun (.boot resetInProgress wipeResult commitsEnabled) acts).1 :=
  tpmSystemRun_induction CommitsOk (fun _ a h => commitsOk_tpmSystemStep h a) _ acts
    (fun h => nomatch h)

end Twonkie.TpmTask
