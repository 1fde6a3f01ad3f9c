import MuPlatform.SdMmc.Steps

/-!
# Calls that succeed

A command is recovered from only where it failed, and the functions of the command layer pass a
failure on.  So where such a function returns success it has sent its commands and nothing else
(`SucceedsAlone`): no recovery, and no reset.  `SdhcQueryCardType` is not among them, it takes the
failure of a probe for an answer.

On a host that is `AlwaysReady` every command and every data phase does succeed.
-/

namespace MuPlatform
namespace SdMmc

open Prog

variable {H B : Type} {host : SdhcHost H}

/-! ## Sending commands -/

lemma sendOrRecover_alone (cmd : SdCommand) (arg : BitVec 32) :
    SucceedsAlone fun recover => sendOrRecover (B := B) host recover cmd arg := by
  unfold sendOrRecover
  refine Alone.const_bind _ fun status => ?_
  cases hs : status.isError with
  | true =>
      intro recover w status' w' hrun hok
      obtain ⟨_, _, -, hw'⟩ := bind_eq_some.mp hrun
      obtain ⟨rfl, -⟩ : status = status' ∧ _ := by simpa using hw'
      rw [hs] at hok
      cases hok
  | false => exact Alone.const _ _

/-- SEND_STATUS did not fail. -/
def StatusSent (result : Except EfiStatus CardStatus) : Prop :=
  ∀ status, result = .error status → status.isError = false

lemma sdhcSendStatus_alone : Alone (sdhcSendStatus (B := B) host) StatusSent := by
  unfold sdhcSendStatus
  refine Alone.const_bind _ fun rca => ?_
  refine Alone.bind (sendOrRecover_alone _ _) (fun status hok => ?_)
    fun status hnot recover w result w' hrun => ?_
  · rw [if_neg (by simp [hok])]
    exact Alone.const _ _
  · rw [if_pos (by simpa using hnot)] at hrun
    obtain ⟨rfl, -⟩ : Except.error status = result ∧ w = w' := by simpa using hrun
    exact fun hsent => hnot (hsent status rfl)

/-- What is done with the answer to SEND_STATUS where its failure is passed on. -/
lemma afterStatus_alone {k : (SdCommand → Prog (World H B) EfiStatus) →
      Except EfiStatus CardStatus → Prog (World H B) EfiStatus}
    (herr : ∀ recover status, k recover (.error status) = pure status)
    (hok : ∀ cardStatus, SucceedsAlone fun recover => k recover (.ok cardStatus)) :
    SucceedsAlone fun recover => sdhcSendStatus host recover >>= k recover := by
  refine Alone.bind sdhcSendStatus_alone (fun result hsent => ?_)
    fun result hnot recover w status w' hrun hstatus => hnot ?_
  · cases result with
    | error status =>
        simp only [herr]
        exact Alone.const _ _
    | ok cardStatus => exact hok cardStatus
  · rintro status' rfl
    rw [herr] at hrun
    obtain ⟨rfl, -⟩ : status' = status ∧ w = w' := by simpa using hrun
    exact hstatus

lemma pollTranState_alone (retry : ℕ) (cardStatus : CardStatus) :
    SucceedsAlone fun recover => pollTranState (B := B) host recover retry cardStatus := by
  induction retry generalizing cardStatus with
  | zero => exact Alone.const _ _
  | succ retry ih =>
      unfold pollTranState
      exact Alone.ite (afterStatus_alone (fun _ _ => rfl) ih) (Alone.const _ _)

lemma sdhcWaitForTranStateAndReadyForData_alone :
    SucceedsAlone (sdhcWaitForTranStateAndReadyForData (B := B) host) := by
  unfold sdhcWaitForTranStateAndReadyForData
  exact afterStatus_alone (fun _ _ => rfl) (pollTranState_alone _)

lemma sdhcSendCommand_alone (cmd : SdCommand) (arg : BitVec 32) :
    SucceedsAlone fun recover => sdhcSendCommand (B := B) host recover cmd arg := by
  unfold sdhcSendCommand
  exact .orReturn (sendOrRecover_alone cmd arg)
    (.ite (.orReturn sdhcWaitForTranStateAndReadyForData_alone (.const _ _)) (.const _ _))

lemma sdhcStopTransmission_alone : SucceedsAlone (sdhcStopTransmission (B := B) host) := by
  unfold sdhcStopTransmission
  exact .const_bind _ fun rca => sdhcSendCommand_alone _ _

lemma stopOpenEnded_alone (cmd : SdCommand) :
    SucceedsAlone fun recover => stopOpenEnded (B := B) host recover cmd := by
  unfold stopOpenEnded
  refine .ite (.const_bind _ fun last => .const_bind _ fun preLast => ?_) (.const _ _)
  exact .ite sdhcStopTransmission_alone
    (.ite (.const_bind _ fun _ => sdhcStopTransmission_alone)
      (.ite (.const _ _) sdhcStopTransmission_alone))

lemma sdhcSendDataCommand_alone (cmd : SdCommand) (arg : BitVec 32) (size : ℕ)
    (buffer : Buffer) :
    SucceedsAlone fun recover => sdhcSendDataCommand (B := B) host recover cmd arg size buffer := by
  unfold sdhcSendDataCommand
  refine Alone.bind (.orReturn (.const _ _) (.orReturn (.const _ _)
    (.orReturn (stopOpenEnded_alone cmd) sdhcWaitForTranStateAndReadyForData_alone)))
    (fun status hok => ?_) fun status hnot recover w status' w' hrun hok => hnot ?_
  · simp only [hok, Bool.false_eq_true, if_false]
    exact Alone.const _ _
  · rw [if_pos (by simpa using hnot)] at hrun
    obtain ⟨_, _, -, hw'⟩ := bind_eq_some.mp hrun
    obtain ⟨rfl, -⟩ : status = status' ∧ _ := by simpa using hw'
    exact hok

/-! ## Setting a card up -/

/-- A value of the instance is read, and nothing is called. -/
lemma alone_inspect {α β : Type} (f : HostInst → α)
    {k : (SdCommand → Prog (World H B) EfiStatus) → α → Prog (World H B) β} {ok : β → Prop}
    (hk : ∀ a, Alone (fun recover => k recover a) ok) :
    Alone (fun recover => inspect f >>= k recover) ok :=
  .const_bind _ hk

lemma sdhcSelectDevice_alone : SucceedsAlone (sdhcSelectDevice (B := B) host) := by
  unfold sdhcSelectDevice
  exact alone_inspect _ fun rca => sdhcSendCommand_alone _ _

lemma sdhcSwitchBusWidthSd_alone : SucceedsAlone (sdhcSwitchBusWidthSd (B := B) host) := by
  unfold sdhcSwitchBusWidthSd
  exact .orReturn (sdhcSendCommand_alone _ _) (.const _ _)

lemma sdhcSendExtCsdMmc_alone : SucceedsAlone (sdhcSendExtCsdMmc (B := B) host) := by
  unfold sdhcSendExtCsdMmc
  exact alone_inspect _ fun rca => .orReturn (sdhcSendDataCommand_alone _ _ _ _) (.const _ _)

lemma switchPowerClass_alone (powerClass : UInt8) :
    SucceedsAlone fun recover => switchPowerClass (B := B) host recover powerClass := by
  unfold switchPowerClass
  exact .orReturn (sdhcSendCommand_alone _ _) (.orReturn sdhcSendExtCsdMmc_alone (.const _ _))

lemma sdhcSwitchBusWidthMmc_alone : SucceedsAlone (sdhcSwitchBusWidthMmc (B := B) host) := by
  unfold sdhcSwitchBusWidthMmc
  refine .orReturn sdhcSendExtCsdMmc_alone (.orReturn ?_
    (.orReturn (sdhcSendCommand_alone _ _) (.const _ _)))
  exact alone_inspect _ fun needed => alone_inspect _ fun current =>
    .ite (switchPowerClass_alone _) (.const _ _)

lemma sdhcSwitchSpeedModeMmc_alone : SucceedsAlone (sdhcSwitchSpeedModeMmc (B := B) host) := by
  unfold sdhcSwitchSpeedModeMmc
  exact .orReturn (sdhcSendCommand_alone _ _)
    (.orReturn (.const_bind _ fun _ => sdhcSendExtCsdMmc_alone) (.const _ _))

/-- What `InitializeSdDevice` does behind SEND_CSD. -/
lemma setUpSd_alone : SucceedsAlone fun recover => untilError [
    sdhcSelectDevice (B := B) host recover,
    sdhcSwitchBusWidthSd host recover,
    sdhcSwitchSpeedModeSd,
    sdhcSetMaxClockFrequency host] :=
  .orReturn sdhcSelectDevice_alone (.orReturn sdhcSwitchBusWidthSd_alone (.const _ _))

/-- What `InitializeMmcDevice` does behind SEND_CSD. -/
lemma setUpMmc_alone : SucceedsAlone fun recover => untilError [
    checkSpecVers (B := B),
    sdhcSelectDevice host recover,
    sdhcSendExtCsdMmc host recover,
    sdhcSwitchSpeedModeMmc host recover,
    sdhcSwitchBusWidthMmc host recover,
    sdhcSetMaxClockFrequency host] :=
  .orReturn (.const _ _) (.orReturn sdhcSelectDevice_alone (.orReturn sdhcSendExtCsdMmc_alone
    (.orReturn sdhcSwitchSpeedModeMmc_alone (.orReturn sdhcSwitchBusWidthMmc_alone (.const _ _)))))

/-! ## A host that is always ready -/

/-- Every command succeeds with the answer of a card that is ready in the transfer state, and every
data phase succeeds. -/
structure AlwaysReady (host : SdhcHost H) : Prop where
  command_ok : ∀ cmd arg xfrInfo h, (host.sendCommand cmd arg xfrInfo h).1 = .success
  response_eq : ∀ cmd response h, (host.receiveResponse cmd response h).1 = .success ∧
    (host.receiveResponse cmd response h).2.1 = fun _ => 0x900
  read_ok : ∀ size h, (host.readBlockData size h).1 = .success
  write_ok : ∀ size bytes h, (host.writeBlockData size bytes h).1 = .success

namespace AlwaysReady

variable (hready : AlwaysReady host) {recover : SdCommand → Prog (World H B) EfiStatus}
include hready

lemma hostExchange_eq (cmd : SdCommand) (arg : BitVec 32) (xfrInfo : Option SdCommandXfrInfo)
    (inst : SdhcInstance) (h : H) : ∃ h',
      hostExchange host.toSdhcProtocol cmd arg xfrInfo inst h = (.success, fun _ => 0x900, h') := by
  have hreceive (h₁ : H) : host.receiveResponse cmd inst.cmdResponse h₁ =
      (.success, fun _ => 0x900, (host.receiveResponse cmd inst.cmdResponse h₁).2.2) :=
    Prod.ext (hready.response_eq _ _ h₁).1 (Prod.ext (hready.response_eq _ _ h₁).2 rfl)
  unfold hostExchange
  split_ifs
  · simp only [hready.command_ok, EfiStatus.isError_success, Bool.false_eq_true, if_false]
    exact ⟨_, hreceive _⟩
  · simp only [hready.command_ok, EfiStatus.isError_success, Bool.false_eq_true, if_false]
    exact ⟨_, hreceive _⟩

lemma command (cmd : SdCommand) (arg : BitVec 32) (xfrInfo : Option SdCommandXfrInfo)
    (w : World H B) : (afterCommand host cmd arg xfrInfo w).1 = .success ∧
      (afterCommand host cmd arg xfrInfo w).2.inst.cmdResponse = fun _ => 0x900 := by
  have hsilent : ∀ f, isCardStatusError f 0x900 = false := by
    intro f
    cases f <;> decide
  obtain ⟨h', hx⟩ := hready.hostExchange_eq cmd arg xfrInfo w.inst.toSdhcInstance w.host
  unfold afterCommand sdhcSendCommandHelper
  simp only [hx, hsilent, Bool.and_false, Bool.false_eq_true, if_false,
    EfiStatus.isError_success, and_self]

lemma sendCommandHelper (cmd : SdCommand) (arg : BitVec 32) (xfrInfo : Option SdCommandXfrInfo)
    (w : World H B) : SdMmc.sendCommandHelper host cmd arg xfrInfo w =
      some (.success, (afterCommand host cmd arg xfrInfo w).2) := by
  rw [SdMmc.sendCommandHelper, step_apply, ← (hready.command cmd arg xfrInfo w).1]

/-- A command without data succeeds. -/
lemma sendOrRecover (cmd : SdCommand) (arg : BitVec 32) (w : World H B) :
    SdMmc.sendOrRecover host recover cmd arg w =
      some (.success, (afterCommand host cmd arg none w).2) := by
  unfold SdMmc.sendOrRecover
  rw [bind_of_eq_some (hready.sendCommandHelper cmd arg none w)]
  rfl

lemma wait (w : World H B) :
    ∃ w', sdhcWaitForTranStateAndReadyForData host recover w = some (.success, w') := by
  let w' := (afterCommand host cmdSendStatus (w.inst.rca <<< 16) none w).2
  have hstatus : sdhcSendStatus host recover w = some (.ok (w'.inst.cmdResponse 0), w') := by
    unfold sdhcSendStatus
    rw [bind_of_eq_some (show inspect (·.rca) w = some (w.inst.rca, w) from rfl),
      bind_of_eq_some (hready.sendOrRecover _ _ w)]
    rfl
  refine ⟨w', ?_⟩
  unfold sdhcWaitForTranStateAndReadyForData
  rw [bind_of_eq_some hstatus, (hready.command _ _ none w).2]
  rfl

lemma sendCommand (cmd : SdCommand) (arg : BitVec 32) (w : World H B) :
    ∃ w', sdhcSendCommand host recover cmd arg w = some (.success, w') := by
  unfold sdhcSendCommand
  rw [orReturn_of_ok (hready.sendOrRecover cmd arg w) rfl]
  split
  · obtain ⟨w', hwait⟩ : ∃ w', sdhcWaitForTranStateAndReadyForData host recover
        (afterCommand host cmd arg none w).2 = some (.success, w') := hready.wait _
    exact ⟨w', orReturn_of_ok hwait rfl⟩
  · exact ⟨_, rfl⟩

lemma stopTransmission (w : World H B) :
    ∃ w', sdhcStopTransmission host recover w = some (.success, w') := by
  unfold sdhcStopTransmission
  rw [bind_of_eq_some (show inspect (·.rca) w = some (w.inst.rca, w) from rfl)]
  exact hready.sendCommand _ _ w

lemma stopOpenEnded (cmd : SdCommand) (w : World H B) :
    ∃ w', SdMmc.stopOpenEnded host recover cmd w = some (.success, w') := by
  unfold SdMmc.stopOpenEnded
  split
  · rw [bind_of_eq_some (show inspect (·.lastSuccessfulCmd) w = some (w.inst.lastSuccessfulCmd, w)
      from rfl), bind_of_eq_some (show inspect (·.preLastSuccessfulCmd) w =
        some (w.inst.preLastSuccessfulCmd, w) from rfl)]
    split_ifs
    · exact hready.stopTransmission w
    · exact hready.stopTransmission { w with trace := w.trace ++ [.nullCommand] }
    · exact ⟨w, rfl⟩
    · exact hready.stopTransmission w
  · exact ⟨w, rfl⟩

/-- Every data command succeeds. -/
lemma sendDataCommand (cmd : SdCommand) (arg : BitVec 32) (size : ℕ) (buffer : Buffer)
    (w : World H B) :
    ∃ w', sdhcSendDataCommand host recover cmd arg size buffer w = some (.success, w') := by
  let xfrInfo : SdCommandXfrInfo :=
    ⟨.ofNat sdBlockLengthBytes, .ofNat (size / sdBlockLengthBytes), buffer.address⟩
  let w₁ := (afterCommand host cmd arg (some xfrInfo) w).2
  obtain ⟨w₂, hdata⟩ : ∃ w₂, transferData host cmd size buffer w₁ = some (.success, w₂) := by
    unfold transferData
    split
    · refine ⟨_, congrArg some (Prod.ext ?_ rfl)⟩
      exact hready.read_ok size w₁.host
    · refine ⟨_, congrArg some (Prod.ext ?_ rfl)⟩
      exact hready.write_ok size (w₁.load buffer) w₁.host
  obtain ⟨w₃, hstop⟩ : ∃ w₃, SdMmc.stopOpenEnded host recover cmd w₂ = some (.success, w₃) :=
    hready.stopOpenEnded cmd w₂
  obtain ⟨w₄, hwait⟩ : ∃ w₄, sdhcWaitForTranStateAndReadyForData host recover w₃ =
      some (.success, w₄) := hready.wait w₃
  refine ⟨w₄, ?_⟩
  have hchain : ((SdMmc.sendCommandHelper host cmd arg (some xfrInfo)).orReturn <|
      (transferData host cmd size buffer).orReturn <|
      (SdMmc.stopOpenEnded host recover cmd).orReturn <|
      sdhcWaitForTranStateAndReadyForData host recover) w = some (.success, w₄) := by
    rw [orReturn_of_ok (hready.sendCommandHelper cmd arg _ w) rfl, orReturn_of_ok hdata rfl,
      orReturn_of_ok hstop rfl, hwait]
  unfold sdhcSendDataCommand
  rw [bind_of_eq_some hchain]
  rfl

end AlwaysReady

end SdMmc
end MuPlatform
