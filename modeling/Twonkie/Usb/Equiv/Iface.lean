import Twonkie.Usb.Equiv.Setup

/-!
# Interface continuations

An interface handler that returns `1` from `ep0_rx` keeps EP0 for itself: `iface_next` names it
and `ep0_tx` calls it again at every IN completion until it returns `0`. This module proves what
holds of that hand-over over every run (`ep0Run_ifaceNext_descPtr`: while an interface holds
EP0 no descriptor is being streamed) and what does not: a handler that fails at an IN completion
is neither released nor STALLed, since `ep0_tx` jumps to a label that re-arms the transmit
direction and leaves `iface_next` set (`iface_error_keeps_iface_next`).
-/

namespace Twonkie.Usb

/-! ### One step -/

theorem ep0Do_ifaceNext (cfg : UsbConfig) (st : UsbState) (r : Ep0Reply) :
    (ep0Do cfg st r).ifaceNext = st.ifaceNext := by
  cases r with
  | sendDescriptor desc len fixupSize =>
    simp only [ep0Do, ep0SendDescriptor]
    split_ifs <;> rfl
  | _ => rfl

theorem ep0Tx_descPtr_of_none (cfg : UsbConfig) (ret : Int) {st : UsbState}
    (hdesc : st.descPtr = none) : (ep0Tx cfg ret st).descPtr = none := by
  simp only [ep0Tx, apply_ite UsbState.descPtr, apply_ite UsbState.ifaceNext, ite_self, hdesc,
    UsbState.txValid_descPtr]

/-- `ep0_tx` with a descriptor stream under way does not touch `iface_next`. -/
theorem ep0Tx_ifaceNext_of_descPtr (cfg : UsbConfig) (ret : Int) {st : UsbState} {p : BytePtr}
    (hdesc : st.descPtr = some p) : (ep0Tx cfg ret st).ifaceNext = st.ifaceNext := by
  simp only [ep0Tx, apply_ite UsbState.descPtr, apply_ite UsbState.ifaceNext, ite_self, hdesc]

/-- `ep0_tx` while an interface holds EP0: the handler's `0` releases it, an error re-arms the
transmit direction and keeps it. -/
theorem ep0Tx_of_iface (cfg : UsbConfig) (ret : Int) {st : UsbState} (hdesc : st.descPtr = none)
    (hnext : st.ifaceNext < cfg.ifaceCount) :
    (ep0Tx cfg ret st).ifaceNext = (if ret = 0 then cfg.ifaceCount else st.ifaceNext) ∧
      (ret < 0 → (ep0Tx cfg ret st).ep0.tx = .valid) := by
  simp only [ep0Tx, apply_ite UsbState.descPtr, apply_ite UsbState.ifaceNext, apply_ite UsbState.ep0,
    UsbState.txValid_ifaceNext, UsbState.txValid_ep0, ite_self, hdesc, hnext, if_true]
  refine ⟨?_, fun hneg => ?_⟩
  · split_ifs <;> first | rfl | omega
  · rw [if_pos hneg]
    rfl

/-! ### Over every run -/

/-- While an interface holds EP0 (`iface_next < USB_IFACE_COUNT`), `desc_ptr` is `NULL`. -/
def IfaceExclusive (cfg : UsbConfig) (st : UsbState) : Prop :=
  st.ifaceNext < cfg.ifaceCount → st.descPtr = none

theorem ifaceExclusive_usbInit (cfg : UsbConfig) (ram : UsbRam) (serial : UsbStringDesc) :
    IfaceExclusive cfg (usbInit cfg ram serial) :=
  fun h => absurd h (lt_irrefl _)

/-- Every EP0 event keeps `IfaceExclusive`: a SETUP hands EP0 to an interface only after clearing
`desc_ptr`, and starts a stream only after clearing `iface_next`. -/
theorem ifaceExclusive_step {cfg : UsbConfig} {st : UsbState} (h : IfaceExclusive cfg st)
    (e : Ep0Event) : IfaceExclusive cfg (ep0Step cfg st e) := by
  cases e with
  | setup pkt ret =>
    rw [ep0Step, ep0Rx_receiveSetup_eq]
    intro hn
    split_ifs at hn ⊢
    all_goals first
      | rfl
      | exact absurd hn (lt_irrefl _)
      | exact absurd (ep0Do_ifaceNext cfg _ _ ▸ hn) (lt_irrefl _)
  | inDone ret =>
    cases hd : st.descPtr with
    | none => exact fun _ => ep0Tx_descPtr_of_none cfg ret hd
    | some p =>
      intro hn
      rw [ep0Step, ep0Tx_ifaceNext_of_descPtr cfg ret hd] at hn
      exact absurd (h hn) (by simp [hd])
  | busReset => exact h

theorem ifaceExclusive_run {cfg : UsbConfig} {st : UsbState} (h : IfaceExclusive cfg st)
    (evs : List Ep0Event) : IfaceExclusive cfg (ep0Run cfg st evs) := by
  induction evs generalizing st with
  | nil => exact h
  | cons e evs ih => exact ih (ifaceExclusive_step h e)

/-- **While an interface holds EP0 no descriptor is being streamed**, in every state reachable
from `usb_init`. -/
theorem ep0Run_ifaceNext_descPtr (cfg : UsbConfig) (ram : UsbRam) (serial : UsbStringDesc)
    (evs : List Ep0Event) :
    IfaceExclusive cfg (ep0Run cfg (usbInit cfg ram serial) evs) :=
  ifaceExclusive_run (ifaceExclusive_usbInit cfg ram serial) evs

/-! ### A handler that fails at an IN completion -/

/-- A run of IN completions at which the handler of interface `i` fails: it keeps EP0 and the
transmit direction is re-armed each time. -/
theorem ep0Run_iface_errors (cfg : UsbConfig) (i : Nat) (hi : i < cfg.ifaceCount) :
    ∀ (rets : List Int), (∀ r ∈ rets, r < 0) → ∀ (st : UsbState), st.descPtr = none →
      st.ifaceNext = i →
      (ep0Run cfg st (rets.map .inDone)).ifaceNext = i ∧
        (rets ≠ [] → (ep0Run cfg st (rets.map .inDone)).ep0.tx = .valid)
  | [], _, _, _, hnext => ⟨hnext, fun h => absurd rfl h⟩
  | r :: rets, herr, st, hdesc, hnext => by
    have hr : r < 0 := herr r (List.mem_cons_self _ _)
    obtain ⟨hn, htx⟩ := ep0Tx_of_iface cfg r hdesc (hnext ▸ hi)
    rw [if_neg (by omega), hnext] at hn
    obtain ⟨ih1, ih2⟩ := ep0Run_iface_errors cfg i hi rets
      (fun r' h' => herr r' (List.mem_cons_of_mem _ h')) _ (ep0Tx_descPtr_of_none cfg r hdesc) hn
    refine ⟨ih1, fun _ => ?_⟩
    cases rets with
    | nil => exact htx hr
    | cons r' rets => exact ih2 (List.cons_ne_nil _ _)

/-- **A failing interface handler keeps EP0.** After an interface request whose handler returned
`1`, every IN completion at which the handler fails leaves `iface_next` on that interface, so the
next IN calls it again, and re-arms the transmit direction instead of STALLing it. -/
theorem iface_error_keeps_iface_next (cfg : UsbConfig) (st : UsbState) (pkt : SetupPacket)
    (rets : List Int) (hif : pkt.IsIfaceRequest cfg) (herr : ∀ r ∈ rets, r < 0) :
    (ep0Run cfg st (.setup pkt 1 :: rets.map .inDone)).ifaceNext = (pkt.wIndex &&& 0xff).toNat ∧
      (rets ≠ [] → (ep0Run cfg st (.setup pkt 1 :: rets.map .inDone)).ep0.tx = .valid) := by
  rw [ep0Run_cons, ep0Step, ep0Rx_receiveSetup_iface cfg 1 st pkt hif, if_neg (by decide),
    if_pos rfl]
  exact ep0Run_iface_errors cfg _ hif.2 rets herr _ rfl rfl

/-- A class request to interface 0 that its handler accepts, then fails twice. -/
theorem iface_error_keeps_iface_next_sample :
    SetupPacket.IsIfaceRequest sampleConfig ⟨0x81, 6, 0x2200, 0, 64⟩ ∧ (∀ r ∈ [-1, -1], r < (0 : Int)) ∧
      (ep0Run sampleConfig sampleState
          (.setup ⟨0x81, 6, 0x2200, 0, 64⟩ 1 :: [-1, -1].map .inDone)).ifaceNext
        = ((⟨0x81, 6, 0x2200, 0, 64⟩ : SetupPacket).wIndex &&& 0xff).toNat ∧
      ([-1, -1] ≠ ([] : List Int) → (ep0Run sampleConfig sampleState
          (.setup ⟨0x81, 6, 0x2200, 0, 64⟩ 1 :: [-1, -1].map .inDone)).ep0.tx = .valid) :=
  ⟨by decide, by decide, iface_error_keeps_iface_next sampleConfig sampleState
    ⟨0x81, 6, 0x2200, 0, 64⟩ [-1, -1] (by decide) (by decide)⟩

end Twonkie.Usb
