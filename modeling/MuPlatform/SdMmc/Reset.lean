import MuPlatform.SdMmc.Commands

/-!
# Initialisation, reset and error recovery

`InitializeDevice` and `SdhcRecoverFromErrors` (`Protocol.c`), `SoftReset` and
`UninstallAllProtocols` (`SdMmc.c`).  A failing command is recovered from, the recovery may
reset the controller, the reset initialises the card, and that sends commands: the functions
call each other in a circle.  All but `sdhcRecoverFromErrors` take the recovery as an argument;
`sdhcRecoverFromErrors n` closes the circle with at most `n` recoveries nested.
-/

namespace MuPlatform
namespace SdMmc

open Prog

/-! ## The instance -/

/-- The `CardInfo` with which `InitializeDevice` starts. -/
def HostInst.zeroCardInfo (inst : HostInst) : HostInst :=
  { inst with
    rca := 0
    cardFunction := .unknown
    hasExtendedOcr := false
    highCapacity := false
    byteCapacity := 0
    currentSpeedMode := .normalSpeed
    registers := ⟨0, 0, 0, fun _ => 0⟩ }

/-- The end of `InitializeDevice`: the media is removable for an SD card, and its number is
the serial number of the card. -/
def HostInst.initialized (inst : HostInst) : HostInst :=
  { inst with
    slotInitialized := true
    media := { inst.media with
      removableMedia := inst.cardFunction == .sd
      mediaId := productSerialNumber inst.cardFunction inst.registers.cid } }

/-- What `SoftReset` clears before it looks at the card. -/
def HostInst.cleared (inst : HostInst) : HostInst :=
  { inst with
    slotInitialized := false
    media := inst.media.cleared
    reliableSectorCount := 0
    rpmbSizeMult := 0
    rpmbCid := fun _ => 0 }

def HostInst.setMediaPresent (present : Bool) (inst : HostInst) : HostInst :=
  { inst with media := { inst.media with mediaPresent := present } }

def HostInst.setReadOnly (readOnly : Bool) (inst : HostInst) : HostInst :=
  { inst with media := { inst.media with readOnly := readOnly } }

/-- The partition `SoftReset` reads off the `EXT_CSD`. -/
def HostInst.readPartition (inst : HostInst) : HostInst :=
  { inst with currentMmcPartition := partitionAccess inst.registers.partitionConfig }

/-- `SD_IDENT_MODE_CLOCK_FREQ_HZ`. -/
def sdIdentModeClockFreqHz : ℕ := 400000

/-- `MMC_MIN_SUPPORTED_SPEC_VERS`. -/
def mmcMinSupportedSpecVers : ℕ := 4

/-- `SDMMC_ERROR_RECOVERY_ATTEMPT_THRESHOLD`. -/
def sdmmcErrorRecoveryAttemptThreshold : ℕ := 3

section Reset

variable {H B : Type} (host : SdhcHost H) (boot : BootServices B)
  (recover : SdCommand → Prog (World H B) EfiStatus)

/-! ## Initialisation -/

/-- `InitializeSdDevice`. -/
def initializeSdDevice : Prog (World H B) EfiStatus :=
  untilError [
    sdhcSendOpCondSd host recover,
    sdhcSendCidAll host recover,
    sdhcSendRelativeAddr host recover,
    sdhcSendCid host recover,
    sdhcSendCsd host recover,
    sdhcSelectDevice host recover,
    sdhcSwitchBusWidthSd host recover,
    sdhcSwitchSpeedModeSd,
    sdhcSetMaxClockFrequency host]

/-- The specification check of `InitializeMmcDevice`. -/
def checkSpecVers : Prog (World H B) EfiStatus := do
  let csd ← inspect (·.registers.csd)
  if csdField csd 114 4 < mmcMinSupportedSpecVers then return .unsupported else return .success

/-- `InitializeMmcDevice`. -/
def initializeMmcDevice : Prog (World H B) EfiStatus :=
  untilError [
    sdhcSendCidAll host recover,
    sdhcSendRelativeAddr host recover,
    sdhcSendCid host recover,
    sdhcSendCsd host recover,
    checkSpecVers,
    sdhcSelectDevice host recover,
    sdhcSendExtCsdMmc host recover,
    sdhcSwitchSpeedModeMmc host recover,
    sdhcSwitchBusWidthMmc host recover,
    sdhcSetMaxClockFrequency host]

/-- The switch on the card function in `InitializeDevice`. -/
def initializeCard : Prog (World H B) EfiStatus := do
  match ← inspect (·.cardFunction) with
  | .sd => initializeSdDevice host recover
  | .mmc => initializeMmcDevice host recover
  | .comboSdSdio => return .unsupported
  | .sdio => return .unsupported
  | .unknown => return .unsupported

/-- `InitializeDevice` up to `SdhcSetBlockLength`. -/
def identifyDevice : Prog (World H B) EfiStatus :=
  untilError [
    do
      update HostInst.zeroCardInfo
      softwareReset host .all,
    callHost (host.setClock sdIdentModeClockFreqHz),
    sdhcQueryCardType host recover,
    initializeCard host recover,
    sdhcSetBlockLength host recover (.ofNat 32 sdBlockLengthBytes)]

/-- `InitializeDevice`. -/
def initializeDevice : Prog (World H B) EfiStatus :=
  (identifyDevice host recover).orReturn do
    update HostInst.initialized
    return .success

/-! ## Reset -/

/-- One block of `UninstallAllProtocols`. -/
def uninstallInstalled (p : Interface) : Prog (World H B) EfiStatus := do
  if ← inspect (·.installed p) then uninstallInterface boot p else return .success

/-- `UninstallAllProtocols`. -/
def uninstallAllProtocols : Prog (World H B) EfiStatus :=
  untilError [
    uninstallInstalled boot .blockIo,
    uninstallInstalled boot .rpmbIo,
    uninstallInstalled boot .devicePath]

/-- The call of `ConvertDevicePathToText`. -/
def convertDevicePath : Prog (World H B) EfiStatus :=
  step fun w => match boot.convertDevicePathToText w.boot with
    | (text, b) => (if text then .success else .outOfResources, { w with boot := b })

/-- `IsRpmbInstalledOnTheSystem`. -/
def isRpmbInstalledOnTheSystem : Prog (World H B) Bool :=
  read fun w => !(boot.locateProtocol .rpmbIo w.boot).isError

/-- The installation of the RPMB protocol in `SoftReset`, for the first MMC card only. -/
def publishRpmb : Prog (World H B) EfiStatus := do
  let function ← inspect (·.cardFunction)
  let installed ← isRpmbInstalledOnTheSystem boot
  if function = .mmc ∧ installed = false then
    let status ← installInterface boot .rpmbIo
    update fun inst => if status.isError then inst else inst.readPartition
    return status
  else return .success

/-- `SoftReset` after `InitializeDevice`. -/
def publishCard : Prog (World H B) EfiStatus :=
  (convertDevicePath boot).orReturn <|
    (installInterface boot .blockIo).orReturn <|
    (installInterface boot .devicePath).orReturn <|
    publishRpmb boot

/-- `SoftReset` between `UninstallAllProtocols` and the label `Exit`. -/
def detectCard : Prog (World H B) EfiStatus := do
  update HostInst.cleared
  let present ← callHost host.isCardPresent
  update (HostInst.setMediaPresent present)
  if present then
    let readOnly ← callHost host.isReadOnly
    update (HostInst.setReadOnly readOnly)
    (initializeDevice host recover).orReturn (publishCard boot)
  else installInterface boot .blockIo

/-- `SoftReset` up to the label `Exit`. -/
def resetSteps : Prog (World H B) EfiStatus :=
  (uninstallAllProtocols boot).orReturn (detectCard host boot recover)

/-- One block behind the label `Exit`; its status replaces the one that led there. -/
def rollbackInterface (p : Interface) (status : EfiStatus) : Prog (World H B) EfiStatus := do
  if ← inspect (·.installed p) then uninstallInterface boot p else return status

/-- `SoftReset` from the label `Exit` on. -/
def rollback (status : EfiStatus) : Prog (World H B) EfiStatus :=
  if status.isError then do
    let status ← rollbackInterface boot .rpmbIo status
    rollbackInterface boot .devicePath status
  else return status

/-- `SoftReset`. -/
def softReset : Prog (World H B) EfiStatus := do
  record .softReset
  let status ← resetSteps host boot recover
  rollback boot status

/-! ## Error recovery -/

/-- The resets of the CMD line and, for a command with data, of the DAT line. -/
def resetLines (cmd : SdCommand) : Prog (World H B) EfiStatus := do
  let status ← softwareReset host .cmd
  if cmd.transferType ≠ .none ∧ cmd.transferType ≠ .undefined then softwareReset host .data
  else return status

/-- The end of an interrupted multi-block transfer in `SdhcRecoverFromErrors`. -/
def stopInterrupted : Prog (World H B) EfiStatus := do
  match ← sdhcSendStatus host recover with
  | .error status => return status
  | .ok cardStatus =>
      if cardStatus.currentState ≠ cardStateTran then sdhcStopTransmission host recover
      else return .success

/-- The soft reset `SdhcRecoverFromErrors` tries where the line resets failed. -/
def escalate (status : EfiStatus) : Prog (World H B) EfiStatus :=
  if status.isError then softReset host boot recover else return status

/-- `SdhcRecoverFromErrors` below the threshold. -/
def recoverySteps (cmd : SdCommand) : Prog (World H B) EfiStatus := do
  let status ← resetLines host cmd
  let status ← escalate host boot recover status
  if status.isError then return status
  else if cmd.IsMultiBlock then stopInterrupted host recover
  else return status

/-- The test of `SdhcRecoverFromErrors` for the threshold. -/
def boundedRecovery (cmd : SdCommand) (attempts : UInt32) : Prog (World H B) EfiStatus :=
  if sdmmcErrorRecoveryAttemptThreshold < attempts.toNat then return .protocolError
  else recoverySteps host boot recover cmd

/-- `SdhcRecoverFromErrors`, with the recovery its commands call as an argument. -/
def recoverFromErrors (cmd : SdCommand) : Prog (World H B) EfiStatus := do
  record (.recovery cmd)
  update fun inst =>
    { inst with errorRecoveryAttemptCount := inst.errorRecoveryAttemptCount + 1 }
  let attempts ← inspect (·.errorRecoveryAttemptCount)
  let status ← boundedRecovery host boot recover cmd attempts
  update fun inst =>
    { inst with errorRecoveryAttemptCount := inst.errorRecoveryAttemptCount - 1 }
  return status

/-- `SdhcRecoverFromErrors`, with at most `n` recoveries nested, this one included. -/
def sdhcRecoverFromErrors : ℕ → SdCommand → Prog (World H B) EfiStatus :=
  Prog.fix (recoverFromErrors host boot)

end Reset

end SdMmc
end MuPlatform
