import Mathlib.Data.List.Destutter

/-!
# Tablet mode

`common/tablet_mode.c` keeps one flag, `tablet_mode`, 1 at boot. `tablet_set_mode` stores a new
value and calls `hook_notify(HOOK_TABLET_MODE_CHANGE)` only when it differs from the stored one,
after the store, so the handlers read the new mode with `tablet_get_mode`.

Over every sequence of calls, the modes the handlers read are exactly the changes of the
requested sequence (`List.destutter'` of it): no notification repeats the mode of the one before
it, none is lost, and `tablet_get_mode` ends at the last mode requested
(`tablet_mode_notifies_changes`).
-/

namespace Twonkie.Tablet

/-- The statics of `tablet_mode.c`. -/
structure TabletState where
  /-- `tablet_mode`: 1 in tablet mode, 0 otherwise. -/
  tabletMode : Int
  deriving DecidableEq, Repr

/-- The initial value of `tablet_mode`. -/
def TabletState.boot : TabletState := ⟨1⟩

/-- `tablet_get_mode()`. -/
def tabletGetMode (s : TabletState) : Int := s.tabletMode

/-- `tablet_set_mode(mode)`: the new state, and one entry per
`hook_notify(HOOK_TABLET_MODE_CHANGE)`, what `tablet_get_mode()` returns to its handlers. -/
def tabletSetMode (mode : Int) (s : TabletState) : TabletState × List Int :=
  if s.tabletMode ≠ mode then
    let s := { s with tabletMode := mode }
    (s, [tabletGetMode s])
  else (s, [])

/-- A sequence of calls of `tablet_set_mode`: the last state, and the notifications in order. -/
def tabletRun (s : TabletState) : List Int → TabletState × List Int
  | [] => (s, [])
  | mode :: modes =>
    let r := tabletRun (tabletSetMode mode s).1 modes
    (r.1, (tabletSetMode mode s).2 ++ r.2)

theorem tabletSetMode_of_ne {mode : Int} {s : TabletState} (h : s.tabletMode ≠ mode) :
    tabletSetMode mode s = (⟨mode⟩, [mode]) := if_pos h

theorem tabletSetMode_self (s : TabletState) : tabletSetMode s.tabletMode s = (s, []) :=
  if_neg (not_not.mpr rfl)

/-- **`HOOK_TABLET_MODE_CHANGE` follows the changes of the mode.** For every starting state and
every sequence of `tablet_set_mode` calls, the starting mode followed by the modes the handlers
read is the requested sequence with its repeats removed (`List.destutter'`): each notification
reads a mode other than the one before it, every change is notified, and `tablet_get_mode` ends
at the last mode requested. -/
theorem tablet_mode_notifies_changes (s : TabletState) (modes : List Int) :
    s.tabletMode :: (tabletRun s modes).2 = modes.destutter' (· ≠ ·) s.tabletMode ∧
      (s.tabletMode :: (tabletRun s modes).2).Chain' (· ≠ ·) ∧
      tabletGetMode (tabletRun s modes).1 =
        (s.tabletMode :: modes).getLast (List.cons_ne_nil _ _) := by
  suffices h : s.tabletMode :: (tabletRun s modes).2 = modes.destutter' (· ≠ ·) s.tabletMode ∧
      tabletGetMode (tabletRun s modes).1 =
        (s.tabletMode :: modes).getLast (List.cons_ne_nil _ _) from
    ⟨h.1, h.1 ▸ List.destutter'_is_chain' modes _ s.tabletMode, h.2⟩
  induction modes generalizing s with
  | nil => exact ⟨(List.destutter'_nil _).symm, rfl⟩
  | cons mode modes ih =>
    by_cases hne : s.tabletMode = mode
    · -- the same mode again: nothing is stored or notified
      obtain ⟨h₁, h₂⟩ := ih s
      subst hne
      simp only [tabletRun, tabletSetMode_self, List.nil_append,
        List.destutter'_cons_neg (R := (· ≠ ·)) modes (not_not.mpr rfl), List.getLast_cons_cons]
      exact ⟨h₁, h₂⟩
    · -- a new mode: stored, then notified
      obtain ⟨h₁, h₂⟩ := ih ⟨mode⟩
      simp only [tabletRun, tabletSetMode_of_ne hne, List.singleton_append,
        List.destutter'_cons_pos (R := (· ≠ ·)) modes hne, List.getLast_cons_cons]
      exact ⟨congrArg (List.cons s.tabletMode) h₁, h₂⟩

/-- From boot, setting tablet mode again is silent; leaving it and coming back notifies twice. -/
example : (tabletRun .boot [1, 0, 0, 1]).2 = [0, 1] := by decide

end Twonkie.Tablet
