import Twonkie.Tpm.Registers

/-!
# The TPM task of `tpm_registers.c` and the contexts it shares state with

`tpm_task` sleeps in `task_wait_event` until another context sets one of its events. The host's
`TPM_GO` (`sts_reg_write_tg`, in interrupt context) sets `TASK_EVENT_WAKE`, `tpm_reset_request`
sets `TPM_EVENT_RESET`, and `tpm_reinstate_nvmem_commits`, called directly or by the deferred
call that `tpm_reset_now` schedules, sets `TPM_EVENT_COMMIT`. A state of the system is the
register file of `Registers.lean` with the statics the task shares with these contexts
(`wipe_requested`, `wipe_result`, `waiting_for_reset`), where the TPM task and each caller of
`tpm_reset_request` are in their code, and a run is any interleaving of their steps
(`tpmSystemRun`).

A task can be preempted between any two statements, so a step of a task is one statement of
this file that reads or writes a variable another context uses; the statements around it that
touch only the task's own data are taken with it. `set_tpm_state` stores the state and, entering
`idle`, each index, one step each. A call of code outside `src/` (`ExecuteCommand`, the
extension handler, `nvmem_erase_user_data`, each `snprintf`) is one step, and so are the `memset`
of `tpm_reset_now`, whose order over this file's statics is the linker's, and the `memcpy` of a
response. A host access runs in interrupt context and is one step, and so is each call of the
kernel's `task_set_event` and `task_wait_event`. A caller of `tpm_reset_request` in interrupt
context runs its statements back to back; the model lets any context run between them, which
only adds runs.

The EC's task API is not under `src/`; it is modelled as the EC implements it. `task_set_event`
ors an event into the target task's mask; `task_wait_event(-1)` blocks until the mask is not
empty, then returns all of it and clears it; `task_wait_event_mask(TPM_EVENT_RESET, 5 * SECOND)`
returns when `TPM_EVENT_RESET` is set, clearing it, or gives up after a time the model leaves
open.

What the task learns from code outside this file is an input of each of its steps
(`TaskInput`): whether the AP is on, whether a rolling reboot is suspected, what the version
string is made of, what `nvmem_erase_user_data` returns, the response `ExecuteCommand` produces,
and what the extension handler `tpm_extension_route_command` does. Each step also returns what it
did that another context can see (`TaskEffect`).

Run back to back, the steps of `tpm_reset_now` and of a command give `tpmResetNow` and
`tpmRunCommand`, which the register-file model's events are made of.
-/

namespace Twonkie.TpmTask

open TpmRegisters (Tpm TpmStates VersionInfo leValue singleBitSet commandReady tpmGo expect
  tpmAccess tpmSts tpmRegisterGet tpmPostResponse copyToFifo cmdHeaderSize setTpmState
  dataFifoSize tpmRegValidSts burstCountMask burstCountShift dataAvail tpmFwVerSize snprintfAt
  strlenFrom setVersionString)

/-! ### `TASK_EVENT_WAKE` -/

/-- Whether `sts_reg_write_tg()` calls `task_set_event(TASK_ID_TPM, TASK_EVENT_WAKE, 0)`: it does
when it starts the command being received. -/
def stsRegWriteTgWakes (t : Tpm) : Bool :=
  match t.state with
  | .completingCmd | .executingCmd | .idle | .ready => false
  | .receivingCmd => t.state.toUInt32 &&& expect = 0

/-- Whether `sts_reg_write(data, data_size)` sets `TASK_EVENT_WAKE`. -/
def stsRegWriteWakes (data : List UInt8) (t : Tpm) : Bool :=
  let value := leValue data
  if !singleBitSet value then false
  else if value = commandReady then false
  else if value = tpmGo then stsRegWriteTgWakes t
  else false

/-- Whether `tpm_register_put(regaddr, data, data_size)` sets `TASK_EVENT_WAKE`. -/
def tpmRegisterPutWakes (regaddr : UInt32) (data : List UInt8) (t : Tpm) : Bool :=
  if t.resetInProgress then false
  else if regaddr = tpmAccess then false
  else if regaddr = tpmSts then stsRegWriteWakes data t
  else false

/-! ### Where the tasks are -/

/-- A value of `enum ec_error_list`, the EC's (not under `src/`): the three codes this file
names, and any other code `nvmem_erase_user_data` may return. -/
inductive EcErrorList where
  | ecSuccess
  | ecErrorTimeout
  | ecErrorBusy
  | other (code : Nat)
  deriving DecidableEq, Repr

/-- The events of `TASK_ID_TPM` this file uses, as bits of the task's event mask:
`TASK_EVENT_WAKE`, `TPM_EVENT_RESET` and `TPM_EVENT_COMMIT`. -/
structure TaskEvents where
  wake : Bool
  reset : Bool
  commit : Bool
  deriving DecidableEq, Repr

/-- The empty event mask. -/
def TaskEvents.empty : TaskEvents := ⟨false, false, false⟩

/-- The statement of `tpm_reset_now(wipe_first)` the task runs next. -/
inductive ResetStep where
  /-- `wipe_result = nvmem_erase_user_data(NVMEM_TPM)`, or `wipe_result = EC_SUCCESS`. -/
  | wipeResult
  /-- The `memset` of the TPM library's zero-initialised data, this file's with it. -/
  | memset
  /-- `nvmem_enable_commits(); nvmem_disable_commits();`, then the test of
  `system_rolling_reboot_suspected()` in `tpm_init`. -/
  | commits
  /-- `tpm_.state = tpm_state_idle` in `set_tpm_state(tpm_state_idle)`. -/
  | initState
  /-- `tpm_.fifo_read_index = 0` in `set_tpm_state(tpm_state_idle)`. -/
  | initReadIndex
  /-- `tpm_.fifo_write_index = 0` in `set_tpm_state(tpm_state_idle)`. -/
  | initWriteIndex
  /-- `tpm_.regs.access = tpm_reg_valid_sts`. -/
  | initAccess
  /-- `tpm_.regs.sts = ...`, the burst count `63`. -/
  | initSts
  /-- The first `snprintf` of `set_version_string`. -/
  | versionRo
  /-- The `strlen` and the second `snprintf` of `set_version_string`. -/
  | versionRw
  /-- `if (waiting_for_reset != TASK_ID_INVALID)`. -/
  | notifyTest
  /-- `task_set_event(waiting_for_reset, TPM_EVENT_RESET, 0)`. -/
  | notifySet
  /-- `waiting_for_reset = TASK_ID_INVALID`. -/
  | notifyClear
  /-- `hook_call_deferred(&reinstate_nvmem_commits_data, 3 * SECOND)`. -/
  | deferred
  /-- `reset_in_progress = 0`. -/
  | clearFlag
  deriving DecidableEq, Repr

/-- The statement of the command loop of `tpm_task` the task runs next, once it has taken a
command. -/
inductive CommandStep where
  /-- Run the command whose `command_code` it read: for a custom code, `call_extension_command`
  reading the header's `size`; otherwise `ExecuteCommand`. -/
  | execute (commandCode : UInt32)
  /-- `subcommand_code = be16toh(tpmh->subcommand_code)`. -/
  | subcommand (commandSize : UInt32)
  /-- `tpm_extension_route_command(subcommand_code, tpmh + 1, ...)`. -/
  | route (commandSize : UInt32) (subcommandCode : UInt16)
  /-- `tpmh->size = htobe32(*total_size)`. -/
  | writeSize (totalSize rc : UInt32)
  /-- `tpmh->command_code = htobe32(rc)`. -/
  | writeCode (totalSize rc : UInt32)
  /-- `memcpy(tpm_.regs.data_fifo, response, response_size)`. -/
  | copy (response : List UInt8)
  /-- `tpm_.fifo_read_index = 0`. -/
  | readIndex (responseSize : Nat)
  /-- `tpm_.fifo_write_index = response_size`. -/
  | writeIndex (responseSize : Nat)
  /-- `set_tpm_state(tpm_state_completing_cmd)`. -/
  | setState (responseSize : Nat)
  /-- `tpm_sts = tpm_.regs.sts`. -/
  | readSts (responseSize : Nat)
  /-- `tpm_.regs.sts = tpm_sts`, the value it computed from what it read. -/
  | writeSts (sts : UInt32)
  deriving DecidableEq, Repr

/-- Where `tpm_task` is. -/
inductive TaskPc where
  /-- In the loop that waits for the AP before the first reset, at its test of
  `device_get_state(DEVICE_AP)`. -/
  | waitAp
  /-- In that loop, blocked in `task_wait_event(-1)`. -/
  | waitApEvent
  /-- In the first `tpm_reset_now(0)`, the one before the command loop. -/
  | firstReset (step : ResetStep)
  /-- In the command loop, blocked in `task_wait_event(-1)`. -/
  | waitEvent
  /-- In the command loop, with the events `evt` that `task_wait_event` returned. -/
  | took (evt : TaskEvents)
  /-- In the `tpm_reset_now(wipe_requested)` of the command loop, called with `wipeFirst`. -/
  | resetNow (wipeFirst : Bool) (step : ResetStep)
  /-- In the command loop, running a command. -/
  | command (step : CommandStep)
  deriving DecidableEq, Repr

/-- The statement of `tpm_reset_request(wait_until_done, wipe_nvmem_first)` a caller runs next,
once it has found `reset_in_progress` clear. -/
inductive RequestStep where
  /-- `reset_in_progress = 1`. -/
  | setFlag
  /-- `wipe_result = EC_SUCCESS`. -/
  | setResult
  /-- `wipe_requested |= wipe_nvmem_first`. -/
  | orWipe
  /-- `task_set_event(TASK_ID_TPM, TPM_EVENT_RESET, 0)`, and the returns that follow it. -/
  | setEvent
  deriving DecidableEq, Repr

/-- Where another context is in `tpm_reset_request`. -/
inductive CallerPc where
  /-- Not in `tpm_reset_request`. -/
  | running
  /-- In `tpm_reset_request(waitUntilDone, wipeNvmemFirst)`; `canSleep` is false in interrupt
  context and in the TPM task. -/
  | requesting (canSleep waitUntilDone wipeNvmemFirst : Bool) (step : RequestStep)
  /-- At `waiting_for_reset = task_get_current()`. -/
  | registering
  /-- In `task_wait_event_mask(TPM_EVENT_RESET, 5 * SECOND)`. -/
  | waiting
  /-- Woken with `TPM_EVENT_RESET`, at `return wipe_result`. -/
  | woken
  deriving DecidableEq, Repr

/-- The TPM task, the register file, and the statics they share with the other contexts. The
other contexts are numbered; `TASK_ID_INVALID` is `none`. -/
structure TpmSystem where
  /-- Where `tpm_task` is. -/
  pc : TaskPc
  /-- `tpm_`, the version string and `reset_in_progress`. -/
  regs : Tpm
  /-- The event mask of `TASK_ID_TPM`. -/
  events : TaskEvents
  /-- `wipe_requested ≠ 0`. -/
  wipeRequested : Bool
  /-- `wipe_result`. -/
  wipeResult : EcErrorList
  /-- `waiting_for_reset`. -/
  waitingForReset : Option Nat
  /-- Where each other context is in `tpm_reset_request`. -/
  callers : Nat → CallerPc
  /-- Whether `TPM_EVENT_RESET` is set in the event mask of each other context. -/
  callerReset : Nat → Bool
  /-- Whether NVMEM commits are enabled, as `nvmem_enable_commits` and `nvmem_disable_commits`
  leave them. -/
  commitsEnabled : Bool
  /-- Whether the deferred call of `reinstate_nvmem_commits` is scheduled. -/
  reinstatePending : Bool

/-- The state at boot, before any task has run: this file's zero-initialised statics are `0`,
the `__preserved` ones (`reset_in_progress`, `wipe_result`) keep what they held, and
`waiting_for_reset` is `TASK_ID_INVALID`. -/
def TpmSystem.boot (resetInProgress : Bool) (wipeResult : EcErrorList) (commitsEnabled : Bool) :
    TpmSystem where
  regs :=
    { state := .idle, fifoReadIndex := 0, fifoWriteIndex := 0, access := 0, sts := 0,
      dataFifo := fun _ => 0, tpmFwVerIndex := 0, tpmFwVer := fun _ => 0,
      resetInProgress := resetInProgress }
  events := .empty
  pc := .waitAp
  wipeRequested := false
  wipeResult := wipeResult
  waitingForReset := none
  callers := fun _ => .running
  callerReset := fun _ => false
  commitsEnabled := commitsEnabled
  reinstatePending := false

/-- What a step did that another context can see. -/
inductive TaskEffect where
  /-- A `TPM_GO` set `TASK_EVENT_WAKE`. -/
  | woke
  /-- `tpm_reset_request` of `caller` found no reset in progress: its request is accepted. -/
  | admitted (caller : Nat)
  /-- `wipe_requested |= wipe_nvmem_first` in an accepted `tpm_reset_request`. -/
  | accepted (wipe : Bool)
  /-- `tpm_reset_request` returned `result` to `caller`. -/
  | returned (caller : Nat) (result : EcErrorList)
  /-- The TPM task called `tpm_reset_now(wipeFirst)`. -/
  | reset (wipeFirst : Bool)
  /-- The `memset` of `tpm_reset_now` cleared `wipe_requested` with the registers. -/
  | cleared
  /-- The TPM task took a command from the FIFO. -/
  | command
  /-- The TPM task finished a command. -/
  | response
  deriving DecidableEq, Repr

/-! ### Extension commands -/

/-- `sizeof(struct tpm_cmd_header)`: `tag`, `size`, `command_code` and `subcommand_code`, packed
(the header is not under `src/`). -/
def sizeofTpmCmdHeader : Nat := 12

/-- `CONFIG_EXTENSION_COMMAND`, the original extension command code (not under `src/`). -/
def configExtensionCommand : UInt32 := 0xbaccd00a

/-- `TPM_CC_VENDOR_BIT_MASK`, the bit of a vendor-specific command code (not under `src/`). -/
def tpmCcVendorBitMask : UInt32 := 0x20000000

/-- `VENDOR_RC_ERR`, or-ed into the return code of a failed extension command (not under
`src/`). -/
def vendorRcErr : UInt32 := 0x00000500

/-- `be32toh(tpmh->command_code)`: bytes 6 to 9 of the FIFO, big-endian. -/
def commandCode (fifo : Nat → UInt8) : UInt32 :=
  ((fifo 6).toUInt32 <<< 24) ||| ((fifo 7).toUInt32 <<< 16) ||| ((fifo 8).toUInt32 <<< 8) |||
    (fifo 9).toUInt32

/-- `IS_CUSTOM_CODE(code)`: the original extension code, or a vendor-specific one. -/
def isCustomCode (code : UInt32) : Bool :=
  code == configExtensionCommand || code &&& tpmCcVendorBitMask != 0

/-- `be16toh(tpmh->subcommand_code)`: bytes 10 and 11 of the FIFO, big-endian. -/
def subcommandCode (fifo : Nat → UInt8) : UInt16 :=
  ((fifo 10).toUInt16 <<< 8) ||| (fifo 11).toUInt16

/-- The bytes `htobe32(value)` stores, most significant first. -/
def be32Bytes (value : UInt32) : List UInt8 :=
  [(value >>> 24).toUInt8, (value >>> 16).toUInt8, (value >>> 8).toUInt8, value.toUInt8]

/-- What `tpm_extension_route_command` did (it is not under `src/`): its return code, and the
response it wrote after the header, whose length it stored in `*total_size`. -/
structure ExtensionReply where
  rc : UInt32
  body : List UInt8
  deriving DecidableEq, Repr

/-- What the TPM task learns from code outside this file in a step. -/
structure TaskInput where
  /-- `device_get_state(DEVICE_AP) == DEVICE_STATE_ON`. -/
  apOn : Bool
  /-- `system_rolling_reboot_suspected()`. -/
  rollingReboot : Bool
  /-- What `set_version_string` prints. -/
  versionInfo : VersionInfo
  /-- What `nvmem_erase_user_data(NVMEM_TPM)` returns. -/
  eraseResult : EcErrorList
  /-- The response `ExecuteCommand` produces for the command the task runs. -/
  response : List UInt8
  /-- `tpm_extension_route_command(subcommand_code, request, request_size, total_size)` for a
  command with a custom code: what it does given the subcommand, the bytes after the header, the
  size the header announces for them, and the room it has for its response. -/
  extension : UInt16 → (Nat → UInt8) → UInt32 → UInt32 → ExtensionReply

/-! ### The other contexts -/

/-- `tpm_register_put(regaddr, data, data_size)` from the host, with its wake-up of the task. -/
def tpmRegisterPut (regaddr : UInt32) (data : List UInt8) (s : TpmSystem) :
    TpmSystem × List TaskEffect :=
  let woke := tpmRegisterPutWakes regaddr data s.regs
  ({ s with
      regs := TpmRegisters.tpmRegisterPut regaddr data s.regs
      events := { s.events with wake := s.events.wake || woke } },
    if woke then [.woke] else [])

/-- `tpm_reset_request(waitUntilDone, wipeNvmemFirst)` called by `caller`, up to its test of
`reset_in_progress`. -/
def tpmResetRequest (caller : Nat) (canSleep waitUntilDone wipeNvmemFirst : Bool)
    (s : TpmSystem) : TpmSystem × List TaskEffect :=
  if s.regs.resetInProgress then (s, [.returned caller .ecErrorBusy])
  else
    ({ s with
        callers := Function.update s.callers caller
          (.requesting canSleep waitUntilDone wipeNvmemFirst .setFlag) }, [.admitted caller])

/-- A statement of `tpm_reset_request` past the test of `reset_in_progress`. -/
def tpmResetRequestStep (caller : Nat) (canSleep waitUntilDone wipeNvmemFirst : Bool)
    (s : TpmSystem) : RequestStep → TpmSystem × List TaskEffect
  | .setFlag =>
    ({ s with
        regs := { s.regs with resetInProgress := true }
        callers := Function.update s.callers caller
          (.requesting canSleep waitUntilDone wipeNvmemFirst .setResult) }, [])
  | .setResult =>
    ({ s with
        wipeResult := .ecSuccess
        callers := Function.update s.callers caller
          (.requesting canSleep waitUntilDone wipeNvmemFirst .orWipe) }, [])
  | .orWipe =>
    ({ s with
        wipeRequested := s.wipeRequested || wipeNvmemFirst
        callers := Function.update s.callers caller
          (.requesting canSleep waitUntilDone wipeNvmemFirst .setEvent) },
      [.accepted wipeNvmemFirst])
  | .setEvent =>
    let s := { s with events := { s.events with reset := true } }
    if !waitUntilDone then
      ({ s with callers := Function.update s.callers caller .running },
        [.returned caller .ecSuccess])
    else if !canSleep then
      ({ s with callers := Function.update s.callers caller .running },
        [.returned caller .ecErrorBusy])
    else ({ s with callers := Function.update s.callers caller .registering }, [])

/-- The next statement of `caller` in `tpm_reset_request`: past the test, the recording of
itself in `waiting_for_reset`, the end of its wait, or its return of `wipe_result`. -/
def callerStep (caller : Nat) (s : TpmSystem) : TpmSystem × List TaskEffect :=
  match s.callers caller with
  | .running => (s, [])
  | .requesting canSleep waitUntilDone wipeNvmemFirst step =>
    tpmResetRequestStep caller canSleep waitUntilDone wipeNvmemFirst s step
  | .registering =>
    ({ s with
        waitingForReset := some caller
        callers := Function.update s.callers caller .waiting }, [])
  | .waiting =>
    if s.callerReset caller then
      ({ s with
          callers := Function.update s.callers caller .woken
          callerReset := Function.update s.callerReset caller false }, [])
    else
      ({ s with callers := Function.update s.callers caller .running },
        [.returned caller .ecErrorTimeout])
  | .woken =>
    ({ s with callers := Function.update s.callers caller .running },
      [.returned caller s.wipeResult])

/-- `tpm_reinstate_nvmem_commits()`. -/
def tpmReinstateNvmemCommits (s : TpmSystem) : TpmSystem :=
  { s with events := { s.events with commit := true } }

/-- The deferred `reinstate_nvmem_commits()`. -/
def reinstateNvmemCommits (s : TpmSystem) : TpmSystem :=
  tpmReinstateNvmemCommits { s with reinstatePending := false }

/-! ### `tpm_reset_now` -/

/-- The `memset` of `tpm_reset_now` on this file's statics: every zero-initialised one is `0`,
`reset_in_progress` is `__preserved`. -/
def clearBss (t : Tpm) : Tpm :=
  { state := .idle, fifoReadIndex := 0, fifoWriteIndex := 0, access := 0, sts := 0,
    dataFifo := fun _ => 0, tpmFwVerIndex := 0, tpmFwVer := fun _ => 0,
    resetInProgress := t.resetInProgress }

/-- The first `snprintf` of `set_version_string`, on `tpm_fw_ver`. -/
def versionRoStep (v : VersionInfo) (tpmFwVer : Nat → UInt8) : Nat → UInt8 :=
  snprintfAt tpmFwVer 0 tpmFwVerSize (TpmRegisters.versionRo v)

/-- The `strlen` and the second `snprintf` of `set_version_string`. -/
def versionRwStep (v : VersionInfo) (tpmFwVer : Nat → UInt8) : Nat → UInt8 :=
  let offset := strlenFrom tpmFwVer tpmFwVerSize 0
  if offset = tpmFwVerSize - 1 then tpmFwVer
  else snprintfAt tpmFwVer offset (tpmFwVerSize - offset) (TpmRegisters.versionRw v)

/-- A statement of `tpm_reset_now(wipeFirst)`; `next` places the task at a later statement of
the same call (the first reset's or the command loop's), and the last returns to the command
loop. -/
def tpmResetNowStep (wipeFirst : Bool) (next : ResetStep → TaskPc) (input : TaskInput)
    (s : TpmSystem) : ResetStep → TpmSystem × List TaskEffect
  | .wipeResult =>
    ({ s with
        wipeResult := if wipeFirst then input.eraseResult else .ecSuccess
        pc := next .memset }, [])
  | .memset =>
    ({ s with regs := clearBss s.regs, wipeRequested := false, pc := next .commits }, [.cleared])
  | .commits =>
    ({ s with
        commitsEnabled := false
        pc := next (if input.rollingReboot then .notifyTest else .initState) }, [])
  | .initState => ({ s with regs := { s.regs with state := .idle }, pc := next .initReadIndex }, [])
  | .initReadIndex =>
    ({ s with regs := { s.regs with fifoReadIndex := 0 }, pc := next .initWriteIndex }, [])
  | .initWriteIndex =>
    ({ s with regs := { s.regs with fifoWriteIndex := 0 }, pc := next .initAccess }, [])
  | .initAccess =>
    ({ s with regs := { s.regs with access := tpmRegValidSts }, pc := next .initSts }, [])
  | .initSts =>
    ({ s with
        regs := { s.regs with sts := TpmRegisters.tpmStsInit }
        pc := next .versionRo }, [])
  | .versionRo =>
    ({ s with
        regs := { s.regs with tpmFwVer := versionRoStep input.versionInfo s.regs.tpmFwVer }
        pc := next .versionRw }, [])
  | .versionRw =>
    ({ s with
        regs := { s.regs with tpmFwVer := versionRwStep input.versionInfo s.regs.tpmFwVer }
        pc := next .notifyTest }, [])
  | .notifyTest =>
    ({ s with pc := next (if s.waitingForReset.isSome then .notifySet else .deferred) }, [])
  | .notifySet =>
    ({ s with
        callerReset := match s.waitingForReset with
          | some c => Function.update s.callerReset c true
          | none => s.callerReset
        pc := next .notifyClear }, [])
  | .notifyClear => ({ s with waitingForReset := none, pc := next .deferred }, [])
  | .deferred => ({ s with reinstatePending := true, pc := next .clearFlag }, [])
  | .clearFlag =>
    ({ s with regs := { s.regs with resetInProgress := false }, pc := .waitEvent }, [])

/-- `tpm_reset_now(wipeFirst)` run to its end with no other context in between. The `memset`
clears `wipe_requested` with the rest of this file's zero-initialised statics;
`nvmem_enable_commits` then `nvmem_disable_commits` leave commits disabled; `tpm_init` sets the
registers up unless a rolling reboot is suspected; the task in `waiting_for_reset`, if any, is
sent `TPM_EVENT_RESET`; and `reinstate_nvmem_commits` is scheduled. -/
def tpmResetNow (wipeFirst : Bool) (input : TaskInput) (s : TpmSystem) : TpmSystem :=
  { s with
    wipeResult := if wipeFirst then input.eraseResult else .ecSuccess
    regs := TpmRegisters.tpmResetNow input.rollingReboot
      (setVersionString input.versionInfo fun _ => 0) s.regs
    wipeRequested := false
    commitsEnabled := false
    waitingForReset := none
    callerReset := match s.waitingForReset with
      | some c => Function.update s.callerReset c true
      | none => s.callerReset
    reinstatePending := true
    pc := .waitEvent }

/-! ### Commands -/

/-- `call_extension_command(tpmh, &total_size)` on the command at the start of `fifo`, with the
handler `route`, run with no other context in between: the FIFO it leaves and `*total_size`.
With room for the header, the handler is given the header's `size` less the header, writes its
response after the header, and the header's `size` and `command_code` are rewritten in place; a
command too short for the header is left as it is, `*total_size` its `size`. -/
def callExtensionCommand (route : UInt16 → (Nat → UInt8) → UInt32 → UInt32 → ExtensionReply)
    (fifo : Nat → UInt8) (totalSize : UInt32) : (Nat → UInt8) × UInt32 :=
  let commandSize := cmdHeaderSize fifo
  if commandSize.toNat ≥ sizeofTpmCmdHeader then
    let totalSize := totalSize - sizeofTpmCmdHeader.toUInt32
    let reply := route (subcommandCode fifo) (fun i => fifo (sizeofTpmCmdHeader + i))
      (commandSize - sizeofTpmCmdHeader.toUInt32) totalSize
    let fifo := copyToFifo fifo sizeofTpmCmdHeader reply.body
    let totalSize := reply.body.length.toUInt32 + sizeofTpmCmdHeader.toUInt32
    let rc := if reply.rc ≠ 0 then reply.rc ||| vendorRcErr else reply.rc
    (copyToFifo fifo 2 (be32Bytes totalSize ++ be32Bytes rc), totalSize)
  else (fifo, commandSize)

/-- The body of the command loop of `tpm_task` once it has taken a command, run with no other
context in between: run it, through `call_extension_command` for a custom code and
`ExecuteCommand` otherwise, and post its response of `response_size` bytes. An extension
command's response is already in the FIFO; the others are copied there. -/
def tpmRunCommand (input : TaskInput) (t : Tpm) : Tpm :=
  if isCustomCode (commandCode t.dataFifo) then
    let (fifo, responseSize) :=
      callExtensionCommand input.extension t.dataFifo TpmRegisters.dataFifoSize
    tpmPostResponse ((List.range responseSize.toNat).map fifo) { t with dataFifo := fifo }
  else tpmPostResponse input.response t

/-- `if (response_size && (response_size <= sizeof(tpm_.regs.data_fifo)))`: a response of 1 to
2048 bytes is posted from `next` on; any other is dropped, and the command is over. -/
def postIfFits (responseSize : Nat) (next : CommandStep) (s : TpmSystem) :
    TpmSystem × List TaskEffect :=
  if responseSize ≠ 0 ∧ responseSize ≤ dataFifoSize.toNat then ({ s with pc := .command next }, [])
  else ({ s with pc := .waitEvent }, [.response])

/-- A statement of the command loop once the task has taken a command. -/
def tpmCommandStep (input : TaskInput) (s : TpmSystem) : CommandStep → TpmSystem × List TaskEffect
  | .execute code =>
    if isCustomCode code then
      let commandSize := cmdHeaderSize s.regs.dataFifo
      if commandSize.toNat ≥ sizeofTpmCmdHeader then
        ({ s with pc := .command (.subcommand commandSize) }, [])
      else postIfFits commandSize.toNat (.readIndex commandSize.toNat) s
    else postIfFits input.response.length (.copy input.response) s
  | .subcommand commandSize =>
    ({ s with pc := .command (.route commandSize (subcommandCode s.regs.dataFifo)) }, [])
  | .route commandSize subcommand =>
    let reply := input.extension subcommand (fun i => s.regs.dataFifo (sizeofTpmCmdHeader + i))
      (commandSize - sizeofTpmCmdHeader.toUInt32) (dataFifoSize - sizeofTpmCmdHeader.toUInt32)
    let rc := if reply.rc ≠ 0 then reply.rc ||| vendorRcErr else reply.rc
    ({ s with
        regs := { s.regs with
          dataFifo := copyToFifo s.regs.dataFifo sizeofTpmCmdHeader reply.body }
        pc := .command
          (.writeSize (reply.body.length.toUInt32 + sizeofTpmCmdHeader.toUInt32) rc) }, [])
  | .writeSize totalSize rc =>
    ({ s with
        regs := { s.regs with dataFifo := copyToFifo s.regs.dataFifo 2 (be32Bytes totalSize) }
        pc := .command (.writeCode totalSize rc) }, [])
  | .writeCode totalSize rc =>
    postIfFits totalSize.toNat (.readIndex totalSize.toNat)
      { s with regs := { s.regs with dataFifo := copyToFifo s.regs.dataFifo 6 (be32Bytes rc) } }
  | .copy response =>
    ({ s with
        regs := { s.regs with dataFifo := copyToFifo s.regs.dataFifo 0 response }
        pc := .command (.readIndex response.length) }, [])
  | .readIndex n =>
    ({ s with regs := { s.regs with fifoReadIndex := 0 }, pc := .command (.writeIndex n) }, [])
  | .writeIndex n =>
    ({ s with regs := { s.regs with fifoWriteIndex := n.toUInt32 }, pc := .command (.setState n) },
      [])
  | .setState n =>
    ({ s with regs := setTpmState .completingCmd s.regs, pc := .command (.readSts n) }, [])
  | .readSts n =>
    ({ s with
        pc := .command (.writeSts ((s.regs.sts &&& ~~~(burstCountMask <<< burstCountShift)) |||
          (min n.toUInt32 63 <<< burstCountShift) ||| dataAvail)) }, [])
  | .writeSts sts => ({ s with regs := { s.regs with sts := sts }, pc := .waitEvent }, [.response])

/-! ### The TPM task -/

/-- One step of `tpm_task`: a statement from where it is, or nothing while it is blocked with no
event to take. -/
def tpmTask (input : TaskInput) (s : TpmSystem) : TpmSystem × List TaskEffect :=
  match s.pc with
  | .waitAp =>
    if input.apOn then ({ s with pc := .firstReset .wipeResult }, [.reset false])
    else ({ s with pc := .waitApEvent }, [])
  | .waitApEvent =>
    if s.events = .empty then (s, [])
    else if s.events.reset then
      ({ s with events := .empty, pc := .firstReset .wipeResult }, [.reset false])
    else ({ s with events := .empty, pc := .waitAp }, [])
  | .firstReset step => tpmResetNowStep false .firstReset input s step
  | .waitEvent =>
    if s.events = .empty then (s, []) else ({ s with events := .empty, pc := .took s.events }, [])
  | .took evt =>
    if evt.reset then
      ({ s with pc := .resetNow s.wipeRequested .wipeResult }, [.reset s.wipeRequested])
    else
      let s := { s with commitsEnabled := s.commitsEnabled || evt.commit }
      if evt.wake then
        ({ s with pc := .command (.execute (commandCode s.regs.dataFifo)) }, [.command])
      else ({ s with pc := .waitEvent }, [])
  | .resetNow wipeFirst step => tpmResetNowStep wipeFirst (.resetNow wipeFirst) input s step
  | .command step => tpmCommandStep input s step

/-! ### Runs -/

/-- A step of the system: an action of the host, of another context, or of the TPM task. -/
inductive TpmAction where
  /-- The host writes `data` at `regaddr`. -/
  | put (regaddr : UInt32) (data : List UInt8)
  /-- The host reads `dataSize` bytes at `regaddr`. -/
  | get (regaddr : UInt32) (dataSize : UInt32)
  /-- `caller` calls `tpm_reset_request(waitUntilDone, wipeNvmemFirst)`. -/
  | resetRequest (caller : Nat) (canSleep waitUntilDone wipeNvmemFirst : Bool)
  /-- The next statement of `caller` in `tpm_reset_request`. -/
  | caller (caller : Nat)
  /-- Some task calls `tpm_reinstate_nvmem_commits()`. -/
  | reinstate
  /-- The deferred `reinstate_nvmem_commits()` runs. -/
  | deferred
  /-- A step of `tpm_task`. -/
  | task (input : TaskInput)

/-- One step. A context in `tpm_reset_request` does not call it again. -/
def tpmSystemStep (s : TpmSystem) : TpmAction → TpmSystem × List TaskEffect
  | .put regaddr data => tpmRegisterPut regaddr data s
  | .get regaddr dataSize => ({ s with regs := (tpmRegisterGet regaddr dataSize s.regs).2 }, [])
  | .resetRequest caller canSleep waitUntilDone wipeNvmemFirst =>
    if s.callers caller = .running then
      tpmResetRequest caller canSleep waitUntilDone wipeNvmemFirst s
    else (s, [])
  | .caller caller => callerStep caller s
  | .reinstate => (tpmReinstateNvmemCommits s, [])
  | .deferred => if s.reinstatePending then (reinstateNvmemCommits s, []) else (s, [])
  | .task input => tpmTask input s

/-- A run: the last state, and the effects of its steps in order. -/
def tpmSystemRun (s : TpmSystem) : List TpmAction → TpmSystem × List TaskEffect
  | [] => (s, [])
  | a :: as =>
    let r := tpmSystemRun (tpmSystemStep s a).1 as
    (r.1, (tpmSystemStep s a).2 ++ r.2)

end Twonkie.TpmTask
