import MuPlatform.SdMmc.Instance

/-!
# Commands and the functions made of them

`SdhcSendCommand` and `SdhcSendDataCommand` (`Protocol.c`), and the functions that identify a
card and set it up with them.  A command that fails is recovered from by
`SdhcRecoverFromErrors`, which itself sends commands and may reset the controller; the functions
here take it as the argument `recover`, and `SdMmc.Reset` ties the knot.

The bit positions in the `CSD` and `CID` registers and in `EXT_CSD` are those of the packed
structures of `SdMmcHw.h`.
-/

namespace MuPlatform
namespace SdMmc

open Prog

/-! ## Registers -/

/-- A response word with `PowerUp` set; the bit is the same for SD and MMC. -/
def powerUp (ocr : BitVec 32) : Bool := ocr.getLsbD 31

/-- `SD_OCR_HIGH_VOLTAGE_WINDOW`. -/
def sdOcrHighVoltageWindow : BitVec 32 := 0x00FF8000

/-- The first 15 bytes of a response, in little-endian order. -/
def CmdResponse.register (r : CmdResponse) : BitVec 120 :=
  (r 3 ++ r 2 ++ r 1 ++ r 0).setWidth 120

/-- A bit field of `CSD`. -/
def csdField (csd : BitVec 120) (start len : ℕ) : ℕ := (csd.extractLsb' start len).toNat

/-- The capacity of a card of standard capacity; the product is computed in 32 bits. -/
def standardCapacity (csd : BitVec 120) : ℕ :=
  let deviceSize := csdField csd 56 10 * 4 + csdField csd 54 2
  let blockNr := (deviceSize + 1) * 2 ^ (csdField csd 39 3 + 2)
  let maxBlockLen := 2 ^ csdField csd 72 4
  blockNr * maxBlockLen % 2 ^ 32

/-- The capacity of an SD card with a version 2 `CSD`. -/
def extendedCapacity (csd : BitVec 120) : ℕ := (csdField csd 40 22 + 1) * 512 * 1024

/-- `ByteCapacity` as `SdhcSendCsd` computes it. -/
def csdByteCapacity (f : CardFunction) (highCapacity : Bool) (csd : BitVec 120) : ℕ :=
  if f = .sd then
    if csdField csd 118 2 = 0 then standardCapacity csd else extendedCapacity csd
  else if f = .mmc then
    if highCapacity then 0 else standardCapacity csd
  else 0

lemma csdField_lt (csd : BitVec 120) (start len : ℕ) : csdField csd start len < 2 ^ len :=
  (csd.extractLsb' start len).isLt

/-- What a card can report fits 32-bit block numbers. -/
lemma csdByteCapacity_le (f : CardFunction) (highCapacity : Bool) (csd : BitVec 120) :
    csdByteCapacity f highCapacity csd / sdBlockLengthBytes ≤ 2 ^ 32 := by
  have hstd : standardCapacity csd < 2 ^ 32 := Nat.mod_lt _ (by norm_num)
  have hext : csdField csd 40 22 < 2 ^ 22 := csdField_lt csd 40 22
  have hbound : csdByteCapacity f highCapacity csd ≤ 2 ^ 32 * sdBlockLengthBytes := by
    unfold csdByteCapacity extendedCapacity sdBlockLengthBytes
    split_ifs <;> omega
  exact Nat.div_le_of_le_mul (by rw [Nat.mul_comm]; exact hbound)

/-- The transfer rate unit of `CalculateCardMaxFreq`. -/
def transferRate : ℕ → Option ℕ
  | 0 => some (100 * 1000)
  | 1 => some (1 * 1000 * 1000)
  | 2 => some (10 * 1000 * 1000)
  | 3 => some (100 * 1000 * 1000)
  | _ => none

/-- The time value of `CalculateCardMaxFreq`. -/
def timeValue (f : CardFunction) : ℕ → Option ℕ
  | 0x1 => some 10
  | 0x2 => some 12
  | 0x3 => some 13
  | 0x4 => some 15
  | 0x5 => some 20
  | 0x6 => some (if f = .sd then 25 else 26)
  | 0x7 => some 30
  | 0x8 => some 35
  | 0x9 => some 40
  | 0xA => some 45
  | 0xB => some (if f = .sd then 50 else 52)
  | 0xC => some 55
  | 0xD => some 60
  | 0xE => some 70
  | 0xF => some 80
  | _ => none

/-- `CalculateCardMaxFreq`; the product is computed in 32 bits. -/
def calculateCardMaxFreq (f : CardFunction) (csd : BitVec 120) : Option ℕ :=
  let tranSpeed := csdField csd 88 8
  match transferRate (tranSpeed % 8), timeValue f (tranSpeed / 8 % 16) with
  | some rate, some time => some (rate * time % 2 ^ 32 / 10)
  | _, _ => none

/-- `PSN` of `SD_CID` and of `MMC_CID`. -/
def productSerialNumber (f : CardFunction) (cid : BitVec 120) : UInt32 :=
  .ofBitVec (cid.extractLsb' (if f = .sd then 16 else 8) 32)

/-- `MMC_EXT_CSD_PARTITION_CONFIG.Fields.PARTITION_ACCESS`. -/
def partitionAccess (config : UInt8) : PartitionAccess := config.toBitVec.setWidth 3

/-- The configuration byte with another `PARTITION_ACCESS`. -/
def withPartitionAccess (config : UInt8) (p : PartitionAccess) : UInt8 :=
  .ofBitVec (config.toBitVec.extractLsb' 3 5 ++ p)

/-- An `MMC_SWITCH_CMD_ARG` that writes a byte of `EXT_CSD`. -/
def switchArg (index value : UInt8) : BitVec 32 :=
  (3 : BitVec 8) ++ index.toBitVec ++ value.toBitVec ++ (0 : BitVec 8)

/-- A SWITCH command that writes `PARTITION_CONFIG`. -/
def SetsPartition (cmd : SdCommand) (arg : BitVec 32) : Prop :=
  cmd = cmdSwitchMmc ∧ arg.extractLsb' 16 8 = 179

instance (cmd : SdCommand) (arg : BitVec 32) : Decidable (SetsPartition cmd arg) :=
  inferInstanceAs (Decidable (_ ∧ _))

lemma not_setsPartition {cmd : SdCommand} (h : cmd ≠ cmdSwitchMmc) (arg : BitVec 32) :
    ¬ SetsPartition cmd arg :=
  fun hset => h hset.1

/-- The argument with which `SdhcSwitchBusWidthMmc` writes `POWER_CLASS`. -/
def powerClassArg (powerClass : UInt8) : BitVec 32 :=
  powerClass.toBitVec.setWidth 32 <<< 8 ||| 0x03BB0000

lemma not_setsPartition_powerClass (powerClass : UInt8) :
    ¬ SetsPartition cmdSwitchMmc (powerClassArg powerClass) := by
  rintro ⟨-, hindex⟩
  -- the indices `187` and `179` differ in bit 3
  have hbit := congrArg (fun v : BitVec 8 => v.getLsbD 3) hindex
  simp [powerClassArg] at hbit

namespace CardRegisters

variable (r : CardRegisters)

/-- `EXT_CSD.PartitionConfig`. -/
def partitionConfig : UInt8 := r.extCsd 179

/-- `EXT_CSD.HighSpeedTiming`. -/
def highSpeedTiming : UInt8 := r.extCsd 185

/-- `EXT_CSD.PowerClass`. -/
def powerClass : UInt8 := r.extCsd 187

/-- The power class an 8-bit bus needs, from `EXT_CSD.PowerClass52Mhz36V` at high speed and
from `PowerClass26Mhz36V` otherwise. -/
def powerClass8Bit (mode : CardSpeedMode) : UInt8 :=
  (if mode = .highSpeed then r.extCsd 202 else r.extCsd 203) >>> 4

/-- `EXT_CSD.SectorCount`. -/
def sectorCount : UInt32 := r.extCsd.load32 212

end CardRegisters

/-! ## Sending commands -/

/-- `SDMMC_POLL_WAIT_COUNT`. -/
def sdmmcPollWaitCount : ℕ := 200

section Commands

variable {H B : Type} (host : SdhcHost H) (recover : SdCommand → Prog (World H B) EfiStatus)

/-- `SdhcSendCommand` up to the test for a SWITCH command. -/
def sendOrRecover (cmd : SdCommand) (arg : BitVec 32) : Prog (World H B) EfiStatus := do
  let status ← sendCommandHelper host cmd arg none
  if status.isError then
    let _ ← recover cmd
    return status
  else
    return .success

/-- `SdhcSendStatus`.  Its `SdhcSendCommand` stops at `sendOrRecover`, see
`sdhcSendCommand_sendStatus`. -/
def sdhcSendStatus : Prog (World H B) (Except EfiStatus CardStatus) := do
  let rca ← inspect (·.rca)
  let status ← sendOrRecover host recover cmdSendStatus (rca <<< 16)
  if status.isError then
    return .error status
  else
    let cardStatus ← inspect (·.cmdResponse 0)
    return .ok cardStatus

/-- The polling loop of `SdhcWaitForTranStateAndReadyForData`; the number is `Retry`. -/
def pollTranState : ℕ → CardStatus → Prog (World H B) EfiStatus
  | 0, _ => return .timeout
  | retry + 1, cardStatus =>
      if cardStatus.readyForData = false ∨ cardStatus.currentState ≠ cardStateTran then do
        match ← sdhcSendStatus host recover with
        | .error status => return status
        | .ok cardStatus => pollTranState retry cardStatus
      else return .success

/-- `SdhcWaitForTranStateAndReadyForData`. -/
def sdhcWaitForTranStateAndReadyForData : Prog (World H B) EfiStatus := do
  match ← sdhcSendStatus host recover with
  | .error status => return status
  | .ok cardStatus => pollTranState host recover sdmmcPollWaitCount cardStatus

/-- `SdhcSendCommand`. -/
def sdhcSendCommand (cmd : SdCommand) (arg : BitVec 32) : Prog (World H B) EfiStatus :=
  (sendOrRecover host recover cmd arg).orReturn <|
    if cmd = cmdSwitchMmc ∨ cmd = cmdSwitchSd then
      (sdhcWaitForTranStateAndReadyForData host recover).orReturn (pure .success)
    else return .success

/-- `SdhcStopTransmission`. -/
def sdhcStopTransmission : Prog (World H B) EfiStatus := do
  let rca ← inspect (·.rca)
  sdhcSendCommand host recover cmdStopTransmission (rca <<< 16)

/-- The data phase of `SdhcSendDataCommand`. -/
def transferData (cmd : SdCommand) (size : ℕ) (buffer : Buffer) : Prog (World H B) EfiStatus :=
  if cmd.transferDirection = .read then readBlockData host size buffer
  else writeBlockData host size buffer

/-- `Cmd` is one of the two multi-block commands. -/
def SdCommand.IsMultiBlock (cmd : SdCommand) : Prop :=
  cmd = cmdWriteMultiBlock ∨ cmd = cmdReadMultiBlock

instance (cmd : SdCommand) : Decidable cmd.IsMultiBlock :=
  inferInstanceAs (Decidable (_ ∨ _))

/-- The decision of `SdhcSendDataCommand` to stop an open-ended transfer, and the
STOP_TRANSMISSION.  A `NULL` descriptor is taken for one that differs from every command. -/
def stopOpenEnded (cmd : SdCommand) : Prog (World H B) EfiStatus :=
  if cmd.IsMultiBlock then do
    let last ← inspect (·.lastSuccessfulCmd)
    let preLast ← inspect (·.preLastSuccessfulCmd)
    if last = none then sdhcStopTransmission host recover
    else if preLast = none then do
      record .nullCommand
      sdhcStopTransmission host recover
    else if preLast = some cmdSetBlockCount then return .success
    else sdhcStopTransmission host recover
  else return .success

/-- `SdhcSendDataCommand`. -/
def sdhcSendDataCommand (cmd : SdCommand) (arg : BitVec 32) (size : ℕ) (buffer : Buffer) :
    Prog (World H B) EfiStatus := do
  let xfrInfo : SdCommandXfrInfo :=
    ⟨.ofNat sdBlockLengthBytes, .ofNat (size / sdBlockLengthBytes), buffer.address⟩
  let status ← (sendCommandHelper host cmd arg (some xfrInfo)).orReturn <|
    (transferData host cmd size buffer).orReturn <|
    (stopOpenEnded host recover cmd).orReturn <|
    sdhcWaitForTranStateAndReadyForData host recover
  if status.isError then
    let _ ← recover cmd
    return status
  else
    return status

/-! ## Identifying a card -/

/-- `SdhcGoIdleState`. -/
def sdhcGoIdleState : Prog (World H B) EfiStatus :=
  sdhcSendCommand host recover cmdGoIdleState 0

/-- `SdhcSendIfCondSd`; the argument has the check pattern `0xAA` and the voltage
`SD_CMD8_VOLTAGE_27_36`, and the response must repeat both. -/
def sdhcSendIfCondSd : Prog (World H B) EfiStatus :=
  (sdhcSendCommand host recover cmdSendIfCondSd 0x1AA).orReturn do
    let response ← inspect (·.cmdResponse 0)
    if response.setWidth 12 ≠ 0x1AA then return .unsupported
    else
      update fun inst => { inst with hasExtendedOcr := true }
      return .success

/-- `SdhcSendOpCondSdio`. -/
def sdhcSendOpCondSdio : Prog (World H B) EfiStatus :=
  sdhcSendCommand host recover cmdSendOpCondSdio 0

/-- The loop of `SdhcSendOpCondMmc`; the argument asks for the high voltage window and for
sector mode. -/
def pollOpCondMmc : ℕ → Prog (World H B) EfiStatus
  | 0 => return .timeout
  | retry + 1 =>
      (sdhcSendCommand host recover cmdSendOpCondMmc (0x40000000 ||| sdOcrHighVoltageWindow)).orReturn
        do
        let ocr ← inspect (·.cmdResponse 0)
        update fun inst => { inst with registers := { inst.registers with ocr := ocr } }
        if powerUp ocr then
          update fun inst => { inst with highCapacity := ocr.extractLsb' 29 2 == 2 }
          if ocr &&& sdOcrHighVoltageWindow ≠ sdOcrHighVoltageWindow then return .unsupported
          else return .success
        else pollOpCondMmc retry

/-- `SdhcSendOpCondMmc`. -/
def sdhcSendOpCondMmc : Prog (World H B) EfiStatus := pollOpCondMmc host recover sdmmcPollWaitCount

/-- The loop of `SdhcSendOpCondSd`. -/
def pollOpCondSd (arg : BitVec 32) : ℕ → Prog (World H B) EfiStatus
  | 0 => return .timeout
  | retry + 1 => (sdhcSendCommand host recover cmdAppSendOpCondSd arg).orReturn do
      let ocr ← inspect (·.cmdResponse 0)
      if powerUp ocr then
        update fun inst =>
          if inst.hasExtendedOcr then { inst with highCapacity := ocr.getLsbD 30 } else inst
        return .success
      else pollOpCondSd arg retry

/-- `SdhcSendOpCondSd`: the first command reads the voltage window, the others repeat it with
the request for high capacity. -/
def sdhcSendOpCondSd : Prog (World H B) EfiStatus :=
  (sdhcSendCommand host recover cmdAppSendOpCondSd 0).orReturn do
    let ocr ← inspect (·.cmdResponse 0)
    update fun inst => { inst with registers := { inst.registers with ocr := ocr } }
    pollOpCondSd host recover (0x40000000 ||| ocr &&& 0x00FFFFFF) sdmmcPollWaitCount

/-- `SdhcQueryCardType` from the second GO_IDLE_STATE on. -/
def identifyMmc : Prog (World H B) EfiStatus :=
  (sdhcGoIdleState host recover).orReturn do
    let status ← sdhcSendOpCondMmc host recover
    update fun inst => if status.isError then inst else { inst with cardFunction := .mmc }
    return .success

/-- `SdhcQueryCardType` behind the first GO_IDLE_STATE.  A failing probe says what the card is not;
its status is dropped. -/
def probeCardFunction : Prog (World H B) EfiStatus := do
  update fun inst => { inst with cardFunction := .unknown }
  let status ← sdhcSendIfCondSd host recover
  update fun inst => if status.isError then inst else { inst with cardFunction := .sd }
  let status ← sdhcSendOpCondSdio host recover
  update fun inst =>
    if status.isError then inst
    else if inst.cardFunction = .sd then { inst with cardFunction := .comboSdSdio }
    else { inst with cardFunction := .sdio }
  let function ← inspect (·.cardFunction)
  Prog.orReturn
    (if function ≠ .sd ∧ function ≠ .sdio ∧ function ≠ .comboSdSdio then
      identifyMmc host recover else pure .success)
    do
      let function ← inspect (·.cardFunction)
      if function = .unknown then return .noMedia else return .success

/-- `SdhcQueryCardType`. -/
def sdhcQueryCardType : Prog (World H B) EfiStatus :=
  (sdhcGoIdleState host recover).orReturn (probeCardFunction host recover)

/-! ## Setting a card up -/

/-- `SdhcSendCidAll`. -/
def sdhcSendCidAll : Prog (World H B) EfiStatus :=
  sdhcSendCommand host recover cmdSendCidAll 0

/-- `SdhcSendRelativeAddr`: an MMC card is given its address, an SD card publishes it. -/
def sdhcSendRelativeAddr : Prog (World H B) EfiStatus := do
  update fun inst => if inst.cardFunction = .mmc then { inst with rca := 0xCCCC } else inst
  let arg ← inspect fun inst => if inst.cardFunction = .mmc then inst.rca <<< 16 else 0
  (sdhcSendCommand host recover cmdSendRelativeAddr arg).orReturn do
    update fun inst =>
      if inst.cardFunction ≠ .mmc then { inst with rca := inst.cmdResponse 0 >>> 16 } else inst
    return .success

/-- `SdhcSendCid`. -/
def sdhcSendCid : Prog (World H B) EfiStatus := do
  let rca ← inspect (·.rca)
  (sdhcSendCommand host recover cmdSendCid (rca <<< 16)).orReturn do
    update fun inst =>
      if inst.cardFunction = .sd then
        { inst with registers := { inst.registers with cid := inst.cmdResponse.register } }
      else if inst.cardFunction = .mmc then
        { inst with
          registers := { inst.registers with cid := inst.cmdResponse.register }
          rpmbCid := inst.cmdResponse }
      else inst
    return .success

/-- The geometry `SdhcSendCsd` derives from the `CSD` register. -/
def HostInst.withCsdCapacity (inst : HostInst) : HostInst :=
  { inst with
    byteCapacity := csdByteCapacity inst.cardFunction inst.highCapacity inst.registers.csd
    media := inst.media.withCapacity
      (csdByteCapacity inst.cardFunction inst.highCapacity inst.registers.csd)
      (csdByteCapacity_le _ _ _) }

/-- `SdhcSendCsd`. -/
def sdhcSendCsd : Prog (World H B) EfiStatus := do
  let rca ← inspect (·.rca)
  (sdhcSendCommand host recover cmdSendCsd (rca <<< 16)).orReturn do
    update fun inst =>
      if inst.cardFunction = .sd ∨ inst.cardFunction = .mmc then
        { inst with registers := { inst.registers with csd := inst.cmdResponse.register } }
      else inst
    update HostInst.withCsdCapacity
    return .success

/-- `SdhcSelectDevice`. -/
def sdhcSelectDevice : Prog (World H B) EfiStatus := do
  let rca ← inspect (·.rca)
  sdhcSendCommand host recover cmdSelect (rca <<< 16)

/-- `SdhcSetBlockLength`. -/
def sdhcSetBlockLength (blockByteLength : BitVec 32) : Prog (World H B) EfiStatus :=
  sdhcSendCommand host recover cmdSetBlockLength blockByteLength

/-- `SdhcSetBlockCount`; bit 31 asks for a reliable write. -/
def sdhcSetBlockCount (blockCount : BitVec 32) (reliableWrite : Bool) :
    Prog (World H B) EfiStatus :=
  sdhcSendCommand host recover cmdSetBlockCount
    (if reliableWrite then blockCount ||| 0x80000000 else blockCount)

/-- `SdhcSendScrSd`.  Nothing in the driver calls it, and nothing reads the `SCR` register it
copies out of `BlockBuffer`. -/
def sdhcSendScrSd : Prog (World H B) EfiStatus := do
  let rca ← inspect (·.rca)
  (sdhcSendDataCommand host recover cmdAppSendScrSd (rca <<< 16) sdBlockLengthBytes
    .blockBuffer).orReturn (pure .success)

/-- The frequency `SdhcSetMaxClockFrequency` sets; `none` where `CalculateCardMaxFreq` rejects
the `CSD`. -/
def HostInst.maxClockFrequency (inst : HostInst) : Option ℕ :=
  if inst.cardFunction = .sd ∨ inst.currentSpeedMode = .normalSpeed then
    calculateCardMaxFreq inst.cardFunction inst.registers.csd
  else if inst.currentSpeedMode = .highSpeed then some 52000000
  else some 0

/-- `SdhcSetMaxClockFrequency`. -/
def sdhcSetMaxClockFrequency : Prog (World H B) EfiStatus := do
  match ← inspect HostInst.maxClockFrequency with
  | none => return .invalidParameter
  | some freq => (callHost (host.setClock freq)).orReturn (pure .success)

/-- `SdhcSwitchBusWidthSd`. -/
def sdhcSwitchBusWidthSd : Prog (World H B) EfiStatus :=
  (sdhcSendCommand host recover cmdAppSetBusWidthSd 2).orReturn <|
    (callHost (host.setBusWidth .width4Bit)).orReturn (pure .success)

/-- `SdhcSwitchSpeedModeSd`. -/
def sdhcSwitchSpeedModeSd : Prog (World H B) EfiStatus := return .success

/-- What `SdhcSendExtCsdMmc` takes from the `EXT_CSD` in `BlockBuffer`. -/
def HostInst.withExtCsd (inst : HostInst) : HostInst :=
  let registers := { inst.registers with extCsd := inst.blockBuffer }
  { inst with
    registers := registers
    byteCapacity := registers.sectorCount.toNat * 512
    media := inst.media.withSectorCount registers.sectorCount
    reliableSectorCount := registers.extCsd 222
    rpmbSizeMult := registers.extCsd 168 }

/-- The end of `SdhcSendExtCsdMmc`. -/
def loadExtCsd : Prog (World H B) Unit :=
  modify fun w => { w with
    inst := w.inst.withExtCsd
    trace := w.trace ++ [.extCsd (w.inst.blockBuffer 179)] }

/-- `SdhcSendExtCsdMmc`. -/
def sdhcSendExtCsdMmc : Prog (World H B) EfiStatus := do
  let rca ← inspect (·.rca)
  (sdhcSendDataCommand host recover cmdSendExtCsdMmc (rca <<< 16) sdBlockLengthBytes
    .blockBuffer).orReturn do
    loadExtCsd
    return .success

/-- The power class switch of `SdhcSwitchBusWidthMmc`. -/
def switchPowerClass (powerClass : UInt8) : Prog (World H B) EfiStatus :=
  untilError [
    sdhcSendCommand host recover cmdSwitchMmc (powerClassArg powerClass),
    sdhcSendExtCsdMmc host recover,
    do
      let actual ← inspect (·.registers.powerClass)
      if actual ≠ powerClass then return .protocolError else return .success]

/-- `SdhcSwitchBusWidthMmc`, for the 8-bit bus it always asks for. -/
def sdhcSwitchBusWidthMmc : Prog (World H B) EfiStatus :=
  untilError [
    sdhcSendExtCsdMmc host recover,
    do
      let needed ← inspect fun inst => inst.registers.powerClass8Bit inst.currentSpeedMode
      let current ← inspect (·.registers.powerClass)
      if current < needed then switchPowerClass host recover needed else return .success,
    sdhcSendCommand host recover cmdSwitchMmc (switchArg 183 2),
    callHost (host.setBusWidth .width8Bit)]

/-- `SdhcSwitchSpeedModeMmc`. -/
def sdhcSwitchSpeedModeMmc : Prog (World H B) EfiStatus :=
  untilError [
    sdhcSendCommand host recover cmdSwitchMmc (switchArg 185 1),
    do
      update fun inst => { inst with currentSpeedMode := .highSpeed }
      sdhcSendExtCsdMmc host recover,
    do
      let timing ← inspect (·.registers.highSpeedTiming)
      if timing = 0 then return .protocolError else return .success]

/-- The SWITCH command of `SdhcSwitchPartitionMmc` and the `EXT_CSD` read that verifies it. -/
def switchAndVerifyPartition (partition : PartitionAccess) : Prog (World H B) EfiStatus := do
  let config ← inspect (·.registers.partitionConfig)
  untilError [
    sdhcSendCommand host recover cmdSwitchMmc
      (switchArg 179 (withPartitionAccess config partition)),
    sdhcSendExtCsdMmc host recover,
    do
      let config ← inspect (·.registers.partitionConfig)
      if partitionAccess config ≠ partition then return .deviceError else return .success]

/-- `SdhcSwitchPartitionMmc`. -/
def sdhcSwitchPartitionMmc (partition : PartitionAccess) : Prog (World H B) EfiStatus :=
  (switchAndVerifyPartition host recover partition).orReturn do
    update fun inst => { inst with currentMmcPartition := partition }
    return .success

end Commands

/-- `SdhcSendCommand` of SEND_STATUS does not wait for the card, so `SdhcSendStatus` and the
waiting loop are not recursive. -/
lemma sdhcSendCommand_sendStatus {H B : Type} (host : SdhcHost H)
    (recover : SdCommand → Prog (World H B) EfiStatus) (arg : BitVec 32) :
    sdhcSendCommand host recover cmdSendStatus arg =
      (sendOrRecover host recover cmdSendStatus arg).orReturn (pure .success) := by
  unfold sdhcSendCommand
  rw [if_neg (by decide)]

end SdMmc
end MuPlatform
