import MuPlatform.SdMmc.WaitForTran

/-!
# Line resets that fail

`SdhcRecoverFromErrors` resets the CMD line, for a command with data the DAT line, and the whole
controller where that did not do.  It has one status variable for all of it, so that of two line
resets the second one decides.

`EscalatesRight` says what the recovery should do for every outcome of the resets, of SEND_STATUS
and of STOP_TRANSMISSION, and `escalatesRight_iff` that it does so except where the reset of the
CMD line fails and that of the DAT line succeeds.
-/

namespace MuPlatform
namespace SdMmc

open Prog

variable {H B : Type}

/-! ## The line resets -/

/-- `Cmd` moves data. -/
def SdCommand.HasData (cmd : SdCommand) : Prop :=
  cmd.transferType ≠ .none ∧ cmd.transferType ≠ .undefined

instance (cmd : SdCommand) : Decidable cmd.HasData := inferInstanceAs (Decidable (_ ∧ _))

section Lines

variable (host : SdhcHost H) (cmd : SdCommand) (w : World H B)

/-- The recovery is below the threshold, so that it resets lines at all. -/
def ResetsLines : Prop :=
  (w.inst.errorRecoveryAttemptCount + 1).toNat ≤ sdmmcErrorRecoveryAttemptThreshold

/-- The reset of the CMD line, and of the DAT line behind it. -/
def cmdLineReset : EfiStatus × H := host.softwareReset .cmd w.host

def datLineReset : EfiStatus × H := host.softwareReset .data (cmdLineReset host w).2

/-- The reset of a line that the command uses fails. -/
def LineResetFails : Prop :=
  ResetsLines w ∧ ((cmdLineReset host w).1.isError = true ∨
    cmd.HasData ∧ (datLineReset host w).1.isError = true)

/-- The reset of the CMD line fails, and that of the DAT line, which the command uses as well,
does not. -/
def MaskedReset : Prop :=
  ResetsLines w ∧ cmd.HasData ∧ (cmdLineReset host w).1.isError = true ∧
    (datLineReset host w).1.isError = false

/-- The world behind the line resets. -/
def World.linesReset : World H B :=
  if cmd.HasData then
    { w.enterRecovery cmd with
      host := (datLineReset host w).2
      trace := w.trace ++ [.recovery cmd] ++ [.lineReset .cmd !(cmdLineReset host w).1.isError] ++
        [.lineReset .data !(datLineReset host w).1.isError] }
  else
    { w.enterRecovery cmd with
      host := (cmdLineReset host w).2
      trace := w.trace ++ [.recovery cmd] ++ [.lineReset .cmd !(cmdLineReset host w).1.isError] }

/-- The status the line resets come to. -/
def lineStatus : EfiStatus :=
  if cmd.HasData then (datLineReset host w).1 else (cmdLineReset host w).1

lemma resetLines_eq : resetLines host cmd (w.enterRecovery cmd) =
    some (lineStatus host cmd w, w.linesReset host cmd) := by
  unfold resetLines lineStatus World.linesReset
  by_cases hdata : cmd.HasData
  · rw [if_pos hdata, if_pos hdata]
    simp only [if_pos (show cmd.transferType ≠ .none ∧ cmd.transferType ≠ .undefined from hdata)]
    rfl
  · rw [if_neg hdata, if_neg hdata]
    simp only [if_neg (show ¬ (cmd.transferType ≠ .none ∧ cmd.transferType ≠ .undefined) from hdata)]
    rfl

variable {host cmd w}

lemma lineStatus_isError_iff (hlines : ResetsLines w) (hmasked : ¬ MaskedReset host cmd w) :
    (lineStatus host cmd w).isError = true ↔ LineResetFails host cmd w := by
  unfold lineStatus LineResetFails
  by_cases hdata : cmd.HasData
  · rw [if_pos hdata]
    refine ⟨fun hdat => ⟨hlines, .inr ⟨hdata, hdat⟩⟩, ?_⟩
    rintro ⟨-, hcmd | ⟨-, hdat⟩⟩
    · by_contra hdat
      exact hmasked ⟨hlines, hdata, hcmd, by simpa using hdat⟩
    · exact hdat
  · rw [if_neg hdata]
    refine ⟨fun hcmd => ⟨hlines, .inl hcmd⟩, ?_⟩
    rintro ⟨-, hcmd | ⟨hdata', -⟩⟩
    · exact hcmd
    · exact absurd hdata' hdata

lemma MaskedReset.lineStatus (h : MaskedReset host cmd w) :
    (SdMmc.lineStatus host cmd w).isError = false := by
  obtain ⟨-, hdata, -, hdat⟩ := h
  rw [SdMmc.lineStatus, if_pos hdata]
  exact hdat

end Lines

/-! ## The end of a multi-block transfer -/

section Stop

variable {host : SdhcHost H} {recover : SdCommand → Prog (World H B) EfiStatus}
  {w w' : World H B} {status : EfiStatus}

/-- The card was seen in the transfer state at the end of `v`, or brought there by a
STOP_TRANSMISSION that was accepted. -/
def BackInTran (host : SdhcHost H) (recover : SdCommand → Prog (World H B) EfiStatus)
    (w w' : World H B) : Prop :=
  ∃ s v, sdhcSendStatus host recover w = some (.ok s, v) ∧
    (s.currentState = cardStateTran ∧ w' = v ∨
      s.currentState ≠ cardStateTran ∧ sdhcStopTransmission host recover v = some (.success, w'))

lemma stopInterrupted_success
    (h : stopInterrupted host recover w = some (.success, w')) : BackInTran host recover w w' := by
  obtain ⟨result, v, hsend, hrest⟩ := bind_eq_some.mp h
  cases result with
  | error e =>
      obtain ⟨rfl, -⟩ : e = .success ∧ v = w' := by simpa using hrest
      exact absurd (sdhcSendStatus_error hsend) Bool.false_ne_true
  | ok s =>
      refine ⟨s, v, hsend, ?_⟩
      by_cases hstate : s.currentState = cardStateTran
      · simp only [hstate, ne_eq, not_true_eq_false, if_false] at hrest
        obtain rfl : v = w' := by simpa using hrest
        exact .inl ⟨hstate, rfl⟩
      · simp only [hstate, ne_eq, not_false_eq_true, if_true] at hrest
        exact .inr ⟨hstate, hrest⟩

/-- The status was asked for right after `w`. -/
def StatusAsked (w v : World H B) : Prop :=
  ∃ arg ok, w.trace ++ [.command cmdSendStatus arg none ok] <+: v.trace

lemma StatusAsked.later {w v v' : World H B} (h : StatusAsked w v) (hlater : v.Later v') :
    StatusAsked w v' := by
  obtain ⟨arg, ok, hprefix⟩ := h
  exact ⟨arg, ok, hprefix.trans hlater.trace⟩

lemma sendOrRecover_asks (hlater : ∀ cmd, Within World.Later (recover cmd)) (arg : BitVec 32)
    (w : World H B) :
    Triple (· = w) (sendOrRecover host recover cmdSendStatus arg) fun _ => StatusAsked w := by
  refine Triple.bind (Q := fun _ => StatusAsked w) (.step ?_) fun status => ?_
  · rintro v rfl
    exact ⟨arg, _, List.prefix_rfl⟩
  · have hrest : BusProg (B := B) host fun recover : SdCommand → Prog (World H B) EfiStatus =>
        if status.isError then recover cmdSendStatus >>= fun _ => pure status
        else pure .success :=
      .ite (.bind (.call _) fun _ => .pure _) (.pure _)
    exact hrest.preserves (fun _ _ hstep h => h.later hstep.later)
      fun cmd => (hlater cmd).triple fun _ _ hstep h => h.later hstep

lemma sdhcSendStatus_asks (hlater : ∀ cmd, Within World.Later (recover cmd)) (w : World H B) :
    Triple (· = w) (sdhcSendStatus host recover) fun _ => StatusAsked w := by
  refine Triple.bind (Q := fun _ => (· = w)) (.read fun _ h => h) fun rca => ?_
  refine Triple.bind (sendOrRecover_asks hlater _ w) fun status => ?_
  split
  · exact .pure fun _ h => h
  · exact .bind (.read fun _ h => h) fun _ => .pure fun _ h => h

/-- The first thing it does is to ask for the status. -/
lemma stopInterrupted_asks (hlater : ∀ cmd, Within World.Later (recover cmd)) (w : World H B) :
    Triple (· = w) (stopInterrupted host recover) fun _ => StatusAsked w := by
  refine Triple.bind (sdhcSendStatus_asks hlater w) fun result => ?_
  have hstop : Preserves (StatusAsked w) (sdhcStopTransmission host recover) :=
    stopTransmission_steps.preserves
      (fun v v' (hstep : BusStep host v v') h => h.later hstep.later)
      fun cmd => (hlater cmd).triple fun _ _ hstep h => h.later hstep
  cases result with
  | error e => exact .pure fun _ h => h
  | ok s =>
      dsimp only
      split
      · exact hstop
      · exact .pure fun _ h => h

end Stop

/-! ## The whole recovery -/

/-- The recovery of the commands that a recovery sends. -/
def nestedRecovery (host : SdhcHost H) (boot : BootServices B) :
    SdCommand → Prog (World H B) EfiStatus :=
  sdhcRecoverFromErrors host boot (sdmmcErrorRecoveryAttemptThreshold + 1)

lemma nestedRecovery_later {host : SdhcHost H} {boot : BootServices B} (cmd : SdCommand) :
    Within World.Later (nestedRecovery host boot cmd) :=
  sdhcRecoverFromErrors_later _ cmd

/-- What a recovery should do: `SoftReset` is attempted, and is the next thing, where a line reset
failed.  The recovery succeeds only where both line resets or that `SoftReset` did, and for a
multi-block command only with the card in the transfer state. -/
structure EscalatesRight (host : SdhcHost H) (boot : BootServices B)
    (recover : SdCommand → Prog (World H B) EfiStatus) (cmd : SdCommand) (w : World H B)
    (run : EfiStatus × World H B) : Prop where
  escalates : LineResetFails host cmd w →
    (w.linesReset host cmd).trace ++ [.softReset] <+: run.2.trace
  resets : run.1 = .success → LineResetFails host cmd w → ∃ status u,
    softReset host boot recover (w.linesReset host cmd) = some (status, u) ∧ status.isError = false
  transfer : run.1 = .success → cmd.IsMultiBlock → ∃ u v, BackInTran host recover u v ∧
    run.2 = v.leaveRecovery ∧ (u = w.linesReset host cmd ∨ ∃ status,
      softReset host boot recover (w.linesReset host cmd) = some (status, u))

section Recovery

variable {host : SdhcHost H} {boot : BootServices B}
  {recover : SdCommand → Prog (World H B) EfiStatus} {cmd : SdCommand} {w u v : World H B}
  {status : EfiStatus}

/-- `SdhcRecoverFromErrors` behind the attempt at a `SoftReset`. -/
def afterEscalation (host : SdhcHost H) (recover : SdCommand → Prog (World H B) EfiStatus)
    (cmd : SdCommand) (status : EfiStatus) : Prog (World H B) EfiStatus :=
  if status.isError then return status
  else if cmd.IsMultiBlock then stopInterrupted host recover
  else return status

lemma recoverySteps_eq : recoverySteps host boot recover cmd (w.enterRecovery cmd) =
    (escalate host boot recover (lineStatus host cmd w) >>= afterEscalation host recover cmd)
      (w.linesReset host cmd) :=
  bind_of_eq_some (resetLines_eq host cmd w)

lemma afterEscalation_success {status' : EfiStatus}
    (h : afterEscalation host recover cmd status u = some (status', v))
    (hsuccess : status' = .success) :
    status.isError = false ∧ (cmd.IsMultiBlock → BackInTran host recover u v) := by
  unfold afterEscalation at h
  split at h
  case isTrue herr =>
    obtain ⟨rfl, -⟩ : status = status' ∧ u = v := by simpa using h
    rw [hsuccess] at herr
    cases herr
  case isFalse hok =>
    refine ⟨by simpa using hok, fun hmulti => ?_⟩
    rw [if_pos hmulti, hsuccess] at h
    exact stopInterrupted_success h

lemma afterEscalation_later (hlater : ∀ cmd, Within World.Later (recover cmd))
    {run : EfiStatus × World H B} (h : afterEscalation host recover cmd status u = some run) :
    run.2 = u ∨ StatusAsked u run.2 := by
  unfold afterEscalation at h
  split at h
  case isTrue => exact .inl (congrArg Prod.snd (Option.some.inj h)).symm
  case isFalse =>
    split at h
    case isTrue => exact .inr (stopInterrupted_asks hlater u u rfl _ _ h)
    case isFalse => exact .inl (congrArg Prod.snd (Option.some.inj h)).symm

/-- After line resets that report an error, the controller is reset. -/
lemma escalatesRight_of_error (hlater : ∀ cmd, Within World.Later (recover cmd))
    (herr : (lineStatus host cmd w).isError = true)
    (h : recoverySteps host boot recover cmd (w.enterRecovery cmd) = some (status, v)) :
    EscalatesRight host boot recover cmd w (status, v.leaveRecovery) := by
  rw [recoverySteps_eq] at h
  obtain ⟨resetStatus, u, hreset, hrest⟩ := bind_eq_some.mp h
  rw [escalate, if_pos herr] at hreset
  refine ⟨fun _ => ?_, fun hsuccess _ => ?_, fun hsuccess hmulti => ?_⟩
  · refine (softReset_trace hlater hreset).trans ?_
    rcases afterEscalation_later hlater hrest with hv | ⟨arg, ok, hv⟩
    · exact (congrArg (·.trace) hv).symm ▸ List.prefix_rfl
    · exact (List.prefix_append _ _).trans hv
  · exact ⟨resetStatus, u, hreset, (afterEscalation_success hrest hsuccess).1⟩
  · exact ⟨u, v, (afterEscalation_success hrest hsuccess).2 hmulti, rfl, .inr ⟨resetStatus, hreset⟩⟩

/-- After line resets that succeed, there is nothing to escalate. -/
lemma escalatesRight_of_success (hnone : ¬ LineResetFails host cmd w)
    (hok : (lineStatus host cmd w).isError = false)
    (h : recoverySteps host boot recover cmd (w.enterRecovery cmd) = some (status, v)) :
    EscalatesRight host boot recover cmd w (status, v.leaveRecovery) := by
  rw [recoverySteps_eq] at h
  obtain ⟨lineStatus', u, hnoReset, hrest⟩ := bind_eq_some.mp h
  rw [escalate, if_neg (by simp [hok])] at hnoReset
  obtain ⟨-, rfl⟩ : _ ∧ w.linesReset host cmd = u := by
    simpa only [pure_apply, Option.some.injEq, Prod.mk.injEq] using hnoReset
  refine ⟨fun hfails => absurd hfails hnone, fun _ hfails => absurd hfails hnone,
    fun hsuccess hmulti => ?_⟩
  exact ⟨_, v, (afterEscalation_success hrest hsuccess).2 hmulti, rfl, .inl rfl⟩

/-- The status of a failed reset of the CMD line is lost. -/
lemma not_escalatesRight_of_masked (hlater : ∀ cmd, Within World.Later (recover cmd))
    (hmasked : MaskedReset host cmd w)
    (h : recoverySteps host boot recover cmd (w.enterRecovery cmd) = some (status, v)) :
    ¬ EscalatesRight host boot recover cmd w (status, v.leaveRecovery) := by
  rw [recoverySteps_eq] at h
  obtain ⟨lineStatus', u, hnoReset, hrest⟩ := bind_eq_some.mp h
  rw [escalate, if_neg (by simp [hmasked.lineStatus])] at hnoReset
  obtain ⟨-, rfl⟩ : _ ∧ w.linesReset host cmd = u := by
    simpa only [pure_apply, Option.some.injEq, Prod.mk.injEq] using hnoReset
  intro hright
  have hreset : (w.linesReset host cmd).trace ++ [.softReset] <+: v.trace :=
    hright.escalates ⟨hmasked.1, .inl hmasked.2.2.1⟩
  rcases afterEscalation_later hlater hrest with hv | ⟨arg, ok, hv⟩
  · -- nothing happened after the line resets
    have hlength := hreset.length_le
    rw [show v = w.linesReset host cmd from hv, List.length_append] at hlength
    exact absurd hlength (by simp)
  · -- what happened next was SEND_STATUS
    have heq := List.prefix_of_prefix_length_le hreset hv (by simp)
    have hevent := List.append_cancel_left (heq.eq_of_length (by simp))
    cases hevent

end Recovery

/-- The recovery escalates right unless the reset of the CMD line fails and that of the DAT line
succeeds. -/
theorem escalatesRight_iff (host : SdhcHost H) (boot : BootServices B) (cmd : SdCommand)
    (w : World H B) : ∃ run, recovery host boot cmd w = some run ∧
      (EscalatesRight host boot (nestedRecovery host boot) cmd w run ↔
        ¬ MaskedReset host cmd w) := by
  obtain ⟨status, w', hrun, -, -⟩ := @recover_agree H B host boot _ _ _
    (recoveriesLeft_le w.inst.errorRecoveryAttemptCount) (recoveriesLeft_le _) cmd w rfl
  refine ⟨(status, w'), hrun, ?_⟩
  rw [sdhcRecoverFromErrors_succ, Option.map_eq_some_iff] at hrun
  obtain ⟨⟨status', v⟩, hbounded, hleave⟩ := hrun
  obtain ⟨rfl, rfl⟩ : status' = status ∧ v.leaveRecovery = w' := by simpa using hleave
  unfold boundedRecovery at hbounded
  split at hbounded
  case isTrue hover =>
    have hnone : ¬ ResetsLines w := not_le.mpr hover
    obtain ⟨rfl, -⟩ : EfiStatus.protocolError = status' ∧ _ = v := by simpa using hbounded
    exact iff_of_true ⟨fun hfails => absurd hfails.1 hnone, fun h => (by cases h),
      fun h => (by cases h)⟩ fun hmasked => hnone hmasked.1
  case isFalse hlines =>
    have hlines : ResetsLines w := not_lt.mp hlines
    by_cases hmasked : MaskedReset host cmd w
    · exact iff_of_false (not_escalatesRight_of_masked nestedRecovery_later hmasked hbounded)
        (not_not.mpr hmasked)
    · refine iff_of_true ?_ hmasked
      have hstatus := lineStatus_isError_iff hlines hmasked
      by_cases herr : (lineStatus host cmd w).isError = true
      · exact escalatesRight_of_error nestedRecovery_later herr hbounded
      · exact escalatesRight_of_success (hstatus.not.mp herr) (by simpa using herr) hbounded

/-! ## A CMD line that does not come back -/

/-- A host controller that fails every command and the reset of the CMD line; the reset of the DAT
line succeeds. -/
def stuckHost : SdhcHost Unit where
  capabilities := ⟨512, 8⟩
  cleanup h := h
  sendCommand _ _ _ h := (.timeout, h)
  receiveResponse _ _ h := (.timeout, fun _ => 0, h)
  softwareReset type h := (if type = .cmd then .timeout else .success, h)
  setClock _ h := (.success, h)
  setBusWidth _ h := (.success, h)
  isCardPresent h := (true, h)
  isReadOnly h := (false, h)
  readBlockData _ h := (.timeout, fun _ => 0, h)
  writeBlockData _ _ h := (.timeout, h)

/-- The instance of a new card. -/
def stuckWorld : World Unit (ℕ × List Published) where
  address := 1
  inst := createSdhcInstance 0 stuckHost.capabilities
  trace := []
  resultRequest := fun _ => 0
  callerMemory := fun _ => 0
  host := ()
  boot := (0, [])

/-- The recovery from a read of one block comes back without a `SoftReset`. -/
theorem not_escalatesRight_stuckCommandLine :
    ∃ run, recovery stuckHost (scriptedBoot (.quiet false)) cmdReadSingleBlock stuckWorld =
        some run ∧ run.1 = .success ∧
      ¬ EscalatesRight stuckHost (scriptedBoot (.quiet false))
        (nestedRecovery stuckHost (scriptedBoot (.quiet false))) cmdReadSingleBlock stuckWorld run := by
  have hsteps : recoverySteps stuckHost (scriptedBoot (.quiet false))
      (nestedRecovery stuckHost (scriptedBoot (.quiet false))) cmdReadSingleBlock
        (stuckWorld.enterRecovery cmdReadSingleBlock) =
      some (.success, stuckWorld.linesReset stuckHost cmdReadSingleBlock) := rfl
  refine ⟨(.success, _), ?_, rfl,
    not_escalatesRight_of_masked nestedRecovery_later
      ⟨show (1 : ℕ) ≤ 3 by decide, by decide, rfl, rfl⟩ hsteps⟩
  unfold recovery
  rw [sdhcRecoverFromErrors_succ, boundedRecovery, if_neg (by decide)]
  exact congrArg (Option.map _) hsteps

end SdMmc
end MuPlatform
