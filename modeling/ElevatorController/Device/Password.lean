import ElevatorController.Model.Callbacks

/-!
# Device/Password — only the exact password opens device management

    diff |= password[i] ^ required[i];        diff == 0

The comparison looks at every octet, and what it accumulates is zero when each pair is equal.  Both
services ask it before anything else.
-/

namespace Controller

/-- What a loop of `|=` accumulates is zero when every term is. -/
theorem foldl_or_eq_zero_iff : ∀ (xs : List UInt8) (acc : UInt8),
    xs.foldl (· ||| ·) acc = 0 ↔ acc = 0 ∧ ∀ x ∈ xs, x = 0
  | [], acc => by simp
  | x :: xs, acc => by
    rw [List.foldl_cons, foldl_or_eq_zero_iff xs, UInt8.or_eq_zero_iff]
    simp [and_assoc]

/-- Octets of equal strings differ nowhere. -/
theorem zipWith_xor_eq_zero_iff : ∀ {xs ys : List UInt8}, xs.length = ys.length →
    ((∀ x ∈ List.zipWith (· ^^^ ·) xs ys, x = 0) ↔ xs = ys)
  | [], [], _ => by simp
  | x :: xs, y :: ys, h => by
    have ih := zipWith_xor_eq_zero_iff (Nat.succ.inj h)
    simp only [List.zipWith_cons_cons, List.forall_mem_cons, UInt8.xor_eq_zero_iff, ih,
      List.cons.injEq]

/-- **The comparison is equality**, and no password at all lets everyone in. -/
theorem passwordAccepted_iff (required : List UInt8) (password : Option (List UInt8)) :
    passwordAccepted required password = true ↔ required = [] ∨ password = some required := by
  rw [passwordAccepted.eq_def]
  split
  · rename_i hempty
    exact iff_of_true rfl (Or.inl (List.length_eq_zero_iff.mp hempty))
  rename_i hne
  rw [or_iff_right fun h => hne (by rw [h]; rfl)]
  cases password with
  | none => exact iff_of_false (by simp) nofun
  | some given =>
    dsimp only
    split
    · rename_i hlength
      refine iff_of_false (by simp) fun h => hlength ?_
      rw [Option.some.inj h]
    · rename_i hlength
      rw [beq_iff_eq, foldl_or_eq_zero_iff, zipWith_xor_eq_zero_iff (not_not.mp hlength),
        Option.some.injEq]
      exact and_iff_right rfl

/-- What a state a ReinitializeDevice names does to the application. -/
def State.reinitialize (nowMs reinitializedState : ℕ) (s : State) : State :=
  if reinitializedState = 0 then
    { s with restart := s.restart.request nowMs .cold restartDelayMs }
  else if reinitializedState = 1 then
    { s with restart := s.restart.request nowMs .warm restartDelayMs }
  else s

/-- A ReinitializeDevice with the right password. -/
theorem reinitializeDevice_opened {cfg : Config} {password : Option (List UInt8)}
    (h : passwordAccepted cfg.dccPassword password = true) (nowMs reinitializedState : ℕ)
    (s : State) :
    let r := reinitializeDevice cfg nowMs cfg.deviceInstance reinitializedState password s
    (r.1.accepted = true ↔ reinitializedState ≤ 6)
      ∧ r.2 = s.reinitialize nowMs reinitializedState := by
  intro r
  have hr : r = reinitializeDevice cfg nowMs cfg.deviceInstance reinitializedState password s := rfl
  rw [reinitializeDevice, if_neg (not_not.mpr rfl), if_neg (not_not.mpr h)] at hr
  rw [hr]
  match reinitializedState with
  | 0 => exact ⟨iff_of_true rfl (Nat.zero_le _), rfl⟩
  | 1 => exact ⟨iff_of_true rfl (by omega), rfl⟩
  | n + 2 =>
    have hnone : s.reinitialize nowMs (n + 2) = s := by
      rw [State.reinitialize, if_neg (by omega), if_neg (by omega)]
    rw [hnone, reinitializeStateColdstart, reinitializeStateWarmstart, reinitializeStateStartBackup,
      reinitializeStateAbortRestore, if_neg (by omega), if_neg (by omega)]
    split
    · exact ⟨iff_of_true rfl (by omega), rfl⟩
    · exact ⟨iff_of_false (by simp) (by omega), rfl⟩

/-- **Only the exact password opens device management.**  A password is accepted exactly if none is
configured or it is the configured one, octet for octet.  With any other, either service answers
PASSWORD_FAILURE and changes nothing, whatever state it names; with it a ReinitializeDevice succeeds
exactly for the states 0 to 6, and arms a Cold restart for 0, a Warm one for 1 and none for the
others. -/
theorem only_password_opens (cfg : Config) (password : Option (List UInt8)) (s : State) :
    (passwordAccepted cfg.dccPassword password = true
      ↔ cfg.dccPassword = [] ∨ password = some cfg.dccPassword)
    ∧ (cfg.dccPassword ≠ [] → password ≠ some cfg.dccPassword →
      deviceCommunicationControl cfg cfg.deviceInstance password s
        = (.declineWith errorCodePasswordFailure, s)
      ∧ ∀ nowMs reinitializedState,
        reinitializeDevice cfg nowMs cfg.deviceInstance reinitializedState password s
          = (.declineWith errorCodePasswordFailure, s))
    ∧ (cfg.dccPassword = [] ∨ password = some cfg.dccPassword →
      deviceCommunicationControl cfg cfg.deviceInstance password s = (.accept, s)
      ∧ ∀ nowMs reinitializedState,
        let r := reinitializeDevice cfg nowMs cfg.deviceInstance reinitializedState password s
        (r.1.accepted = true ↔ reinitializedState ≤ 6)
          ∧ r.2 = s.reinitialize nowMs reinitializedState) := by
  have hiff := passwordAccepted_iff cfg.dccPassword password
  refine ⟨hiff, fun hconfigured hother => ?_, fun hright => ?_⟩
  · have hrefused : ¬ passwordAccepted cfg.dccPassword password = true :=
      fun h => (hiff.mp h).elim hconfigured hother
    constructor
    · rw [deviceCommunicationControl, if_neg (not_not.mpr rfl), if_pos hrefused]
    · intro nowMs reinitializedState
      rw [reinitializeDevice, if_neg (not_not.mpr rfl), if_pos hrefused]
  · have haccepted := hiff.mpr hright
    constructor
    · rw [deviceCommunicationControl, if_neg (not_not.mpr rfl), if_neg (not_not.mpr haccepted)]
    · exact fun nowMs reinitializedState =>
        reinitializeDevice_opened haccepted nowMs reinitializedState s

end Controller
