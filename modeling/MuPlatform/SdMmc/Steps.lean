import MuPlatform.SdMmc.Reset

/-!
# The steps the driver is made of

`DeviceStep` lists what a function of the command layer does by itself, apart from the
recoveries its commands call: it sends a command or data, calls the host, and writes what the
card reported (`HostInst.SameControl` says what it leaves alone).  Each function is `Built` from
such steps, one lemma a function.  What the steps and a recovery preserve is preserved by every
function then, and `sdhcRecoverFromErrors_preserves` closes the circle through `SoftReset`.
-/

namespace MuPlatform
namespace SdMmc

open Prog

variable {H B : Type}

/-! ## Steps -/

/-- The instance up to what a card reports: the control state of the driver is the same, and
the media record keeps its number and the presence flag, and a block size once it has one. -/
structure HostInst.SameControl (inst inst' : HostInst) : Prop where
  mmcHandle : inst'.mmcHandle = inst.mmcHandle
  hostCapabilities : inst'.hostCapabilities = inst.hostCapabilities
  slotInitialized : inst'.slotInitialized = inst.slotInitialized
  mediaPresent : inst'.media.mediaPresent = inst.media.mediaPresent
  mediaId : inst'.media.mediaId = inst.media.mediaId
  blockSize : inst'.media.blockSize = inst.media.blockSize ∨
    inst'.media.blockSize = sdBlockLengthBytes
  installed : ∀ p, inst'.installed p = inst.installed p
  currentMmcPartition : inst'.currentMmcPartition = inst.currentMmcPartition
  errorRecoveryAttemptCount : inst'.errorRecoveryAttemptCount = inst.errorRecoveryAttemptCount
  preLastSuccessfulCmd : inst'.preLastSuccessfulCmd = inst.preLastSuccessfulCmd
  lastSuccessfulCmd : inst'.lastSuccessfulCmd = inst.lastSuccessfulCmd

lemma HostInst.SameControl.refl (inst : HostInst) : inst.SameControl inst where
  mmcHandle := rfl
  hostCapabilities := rfl
  slotInitialized := rfl
  mediaPresent := rfl
  mediaId := rfl
  blockSize := .inl rfl
  installed _ := rfl
  currentMmcPartition := rfl
  errorRecoveryAttemptCount := rfl
  preLastSuccessfulCmd := rfl
  lastSuccessfulCmd := rfl

lemma HostInst.SameControl.ite {inst inst₁ inst₂ : HostInst} {p : Prop} [Decidable p]
    (h₁ : inst.SameControl inst₁) (h₂ : inst.SameControl inst₂) :
    inst.SameControl (if p then inst₁ else inst₂) := by
  split
  · exact h₁
  · exact h₂

/-- The steps of sending commands and data, other than a change of the partition and a transfer of
several blocks. -/
inductive BusStep (host : SdhcHost H) : World H B → World H B → Prop
  | stay (w : World H B) : BusStep host w w
  | command (cmd : SdCommand) (arg : BitVec 32) (xfrInfo : Option SdCommandXfrInfo)
      (h : ¬ SetsPartition cmd arg) (hx : xfrInfo = none ∨ ¬ cmd.IsMultiBlock) (w : World H B) :
      BusStep host w (afterCommand host cmd arg xfrInfo w).2
  | hostCall (w : World H B) (h : H) : BusStep host w { w with host := h }
  | lineReset (w : World H B) (type : SdhcResetType) (ok : Bool) :
      BusStep host w { w with trace := w.trace ++ [.lineReset type ok] }
  | read (w : World H B) (size : ℕ) (buffer : Buffer) (bytes : ByteStore) (h : H) (ok : Bool) :
      BusStep host w { w.store buffer size bytes with
        host := h, trace := w.trace ++ [.data .read size buffer ok] }
  | write (w : World H B) (size : ℕ) (buffer : Buffer) (h : H) (ok : Bool) :
      BusStep host w { w with
        host := h, trace := w.trace ++ [.data .write size buffer ok] }

/-- The steps of waiting for the card: its status is asked for. -/
inductive PollStep (host : SdhcHost H) : World H B → World H B → Prop
  | stay (w : World H B) : PollStep host w w
  | status (arg : BitVec 32) (w : World H B) :
      PollStep host w (afterCommand host cmdSendStatus arg none w).2

lemma PollStep.bus {host : SdhcHost H} {w w' : World H B} (h : PollStep host w w') :
    BusStep host w w' := by
  cases h with
  | stay => exact .stay w
  | status arg => exact .command _ arg none (not_setsPartition (by decide) arg) (.inl rfl) w

/-- The steps of a transfer of blocks: those, the commands for several blocks, and the decision to
stop taken with a `NULL` descriptor. -/
inductive TransferStep (host : SdhcHost H) : World H B → World H B → Prop
  | bus {w w' : World H B} (h : BusStep host w w') : TransferStep host w w'
  | command (cmd : SdCommand) (arg : BitVec 32) (xfrInfo : Option SdCommandXfrInfo)
      (h : ¬ SetsPartition cmd arg) (w : World H B) :
      TransferStep host w (afterCommand host cmd arg xfrInfo w).2
  | nullCommand (w : World H B) :
      TransferStep host w { w with trace := w.trace ++ [.nullCommand] }

/-- The steps of the command layer: the bus, and the updates with what the card reported. -/
inductive DeviceStep (host : SdhcHost H) : World H B → World H B → Prop
  | bus {w w' : World H B} (h : BusStep host w w') : DeviceStep host w w'
  | card (w : World H B) (inst : HostInst) (h : w.inst.SameControl inst) :
      DeviceStep host w { w with inst := inst }
  | extCsd (w : World H B) : DeviceStep host w { w with
      inst := w.inst.withExtCsd
      trace := w.trace ++ [.extCsd (w.inst.blockBuffer 179)] }

/-! ## The functions are built from steps -/

/-- An open program whose steps are in `R`. -/
abbrev StepProg (R : World H B → World H B → Prop) {α : Type}
    (f : (SdCommand → Prog (World H B) EfiStatus) → Prog (World H B) α) : Prop :=
  Built R f

/-- `R` has the steps of sending a command without data.  The commands that steer what comes after
them, a switch of the partition and SET_BLOCK_COUNT, are not among them. -/
class BusSteps (host : outParam (SdhcHost H)) (R : World H B → World H B → Prop) : Prop where
  stay : ∀ w, R w w
  command : ∀ {cmd : SdCommand} {arg : BitVec 32}, ¬ SetsPartition cmd arg →
    cmd ≠ cmdSetBlockCount → ∀ w, R w (afterCommand host cmd arg none w).2
  hostCall : ∀ (w : World H B) (h : H), R w { w with host := h }
  lineReset : ∀ (w : World H B) (type : SdhcResetType) (ok : Bool),
    R w { w with trace := w.trace ++ [.lineReset type ok] }

/-- `R` has the steps of the command layer as well; the read of the `EXT_CSD` is a function built
from it. -/
class DeviceSteps (host : outParam (SdhcHost H)) (R : World H B → World H B → Prop) : Prop
    extends BusSteps host R where
  card : ∀ (w : World H B) (inst : HostInst), w.inst.SameControl inst → R w { w with inst := inst }
  extCsd : ∀ w : World H B, R w { w with
    inst := w.inst.withExtCsd
    trace := w.trace ++ [.extCsd (w.inst.blockBuffer 179)] }
  extCsdData : ∀ arg : BitVec 32, StepProg R fun recover =>
    sdhcSendDataCommand host recover cmdSendExtCsdMmc arg sdBlockLengthBytes .blockBuffer

section Built

variable {host : SdhcHost H}

/-- An open program that sends commands and data. -/
abbrev BusProg (host : SdhcHost H) {α : Type}
    (f : (SdCommand → Prog (World H B) EfiStatus) → Prog (World H B) α) : Prop :=
  Built (BusStep host) f

/-- An open program that transfers blocks. -/
abbrev TransferProg (host : SdhcHost H) {α : Type}
    (f : (SdCommand → Prog (World H B) EfiStatus) → Prog (World H B) α) : Prop :=
  Built (TransferStep host) f

/-- An open program of the command layer. -/
abbrev DeviceProg (host : SdhcHost H) {α : Type}
    (f : (SdCommand → Prog (World H B) EfiStatus) → Prog (World H B) α) : Prop :=
  Built (DeviceStep host) f

lemma BusProg.transfer {α : Type}
    {f : (SdCommand → Prog (World H B) EfiStatus) → Prog (World H B) α} (hf : BusProg host f) :
    TransferProg host f :=
  hf.mono fun _ _ => .bus

lemma BusProg.device {α : Type}
    {f : (SdCommand → Prog (World H B) EfiStatus) → Prog (World H B) α} (hf : BusProg host f) :
    DeviceProg host f :=
  hf.mono fun _ _ => .bus

instance : BusSteps host (BusStep (B := B) host) where
  stay := .stay
  command h _ w := .command _ _ none h (.inl rfl) w
  hostCall := .hostCall
  lineReset := .lineReset

instance : BusSteps host (TransferStep (B := B) host) where
  stay w := .bus (.stay w)
  command h _ w := .bus (.command _ _ none h (.inl rfl) w)
  hostCall w h := .bus (.hostCall w h)
  lineReset w type ok := .bus (.lineReset w type ok)

section Bus

variable {R : World H B → World H B → Prop} [steps : BusSteps host R]

include steps in
lemma inspect_steps {α : Type} (f : HostInst → α) : StepProg R fun _ => inspect f :=
  .read BusSteps.stay

include steps in
lemma callHost_steps {α : Type} (f : H → α × H) : StepProg R fun _ => callHost f :=
  .step fun w => BusSteps.hostCall w _

include steps in
/-- A test of a register is built from steps. -/
lemma check_steps {α : Type} (f : HostInst → α) (p : α → Prop) [DecidablePred p]
    (status status' : EfiStatus) :
    StepProg R fun _ => (do
      let a ← inspect f
      if p a then return status else return status') :=
  .bind (inspect_steps f) fun _ => .ite (.pure _) (.pure _)

lemma softwareReset_steps (type : SdhcResetType) : StepProg R fun _ => softwareReset host type := by
  unfold softwareReset
  exact .bind (callHost_steps _) fun status =>
    .bind (.modify fun w => BusSteps.lineReset w type _) fun _ => .pure status

/-! ### Waiting for the card -/

omit steps in
lemma sdhcSendStatus_polls : Built (PollStep (B := B) host) (sdhcSendStatus host) := by
  unfold sdhcSendStatus sendOrRecover
  refine .bind (.read fun w => .stay w) fun rca => .bind ?_ fun status =>
    .ite (.pure _) (.bind (.read fun w => .stay w) fun cardStatus => .pure _)
  exact .bind (.step fun w => .status _ w) fun status =>
    .ite (.bind (.call _) fun _ => .pure status) (.pure _)

omit steps in
lemma pollTranState_polls (retry : ℕ) (cardStatus : CardStatus) :
    Built (PollStep (B := B) host) fun recover => pollTranState host recover retry cardStatus := by
  induction retry generalizing cardStatus with
  | zero => exact .pure _
  | succ retry ih =>
      unfold pollTranState
      refine .ite (.bind sdhcSendStatus_polls fun result => ?_) (.pure _)
      cases result with
      | error status => exact .pure _
      | ok cardStatus => exact ih cardStatus

omit steps in
lemma sdhcWaitForTranStateAndReadyForData_polls :
    Built (PollStep (B := B) host) (sdhcWaitForTranStateAndReadyForData host) := by
  unfold sdhcWaitForTranStateAndReadyForData
  refine .bind sdhcSendStatus_polls fun result => ?_
  cases result with
  | error status => exact .pure _
  | ok cardStatus => exact pollTranState_polls _ cardStatus

lemma polls_steps {α : Type} {f : (SdCommand → Prog (World H B) EfiStatus) → Prog (World H B) α}
    (hf : Built (PollStep host) f) : StepProg R f := by
  refine hf.mono fun w w' h => ?_
  cases h with
  | stay => exact BusSteps.stay w
  | status arg => exact BusSteps.command (not_setsPartition (by decide) arg) (by decide) w

lemma wait_steps : StepProg R (sdhcWaitForTranStateAndReadyForData host) :=
  polls_steps sdhcWaitForTranStateAndReadyForData_polls

/-- `SdhcSendCommand` from the test for a SWITCH command on. -/
lemma waitAfterSwitch_steps (cmd : SdCommand) :
    StepProg R fun recover =>
      if cmd = cmdSwitchMmc ∨ cmd = cmdSwitchSd then
        (sdhcWaitForTranStateAndReadyForData host recover).orReturn (pure .success)
      else pure .success :=
  .ite (.orReturn wait_steps (.pure _)) (.pure _)

/-! ### Sending commands -/

/-- `SdhcSendCommand` is built from the command and the steps of waiting. -/
lemma sendCommand_of_step {cmd : SdCommand} {arg : BitVec 32}
    (h : ∀ w, R w (afterCommand host cmd arg none w).2) :
    StepProg R fun recover => sdhcSendCommand host recover cmd arg := by
  unfold sdhcSendCommand sendOrRecover
  exact .orReturn (.bind (.step h) fun status =>
    .ite (.bind (.call cmd) fun _ => .pure status) (.pure _)) (waitAfterSwitch_steps cmd)

lemma sendCommand_steps {cmd : SdCommand} {arg : BitVec 32} (h : ¬ SetsPartition cmd arg)
    (hcount : cmd ≠ cmdSetBlockCount) :
    StepProg R fun recover => sdhcSendCommand host recover cmd arg :=
  sendCommand_of_step (BusSteps.command h hcount)

omit steps in
lemma sdhcSendCommand_built {cmd : SdCommand} {arg : BitVec 32} (h : ¬ SetsPartition cmd arg) :
    BusProg (B := B) host fun recover => sdhcSendCommand host recover cmd arg :=
  sendCommand_of_step fun w => .command cmd arg none h (.inl rfl) w

/-- A command that steers nothing of what comes after it. -/
lemma plainCommand_steps {cmd : SdCommand} (h : cmd ≠ cmdSwitchMmc ∧ cmd ≠ cmdSetBlockCount)
    (arg : BitVec 32) : StepProg R fun recover => sdhcSendCommand host recover cmd arg :=
  sendCommand_steps (not_setsPartition h.1 arg) h.2

lemma stopTransmission_steps : StepProg R (sdhcStopTransmission host) := by
  unfold sdhcStopTransmission
  exact .bind (inspect_steps _) fun rca =>
    sendCommand_steps (not_setsPartition (by decide) _) (by decide)

lemma stopOpenEnded_steps
    (hnull : ∀ w : World H B, R w { w with trace := w.trace ++ [.nullCommand] }) (cmd : SdCommand) :
    StepProg R fun recover => stopOpenEnded host recover cmd := by
  unfold stopOpenEnded
  refine .ite (.bind (inspect_steps _) fun last => .bind (inspect_steps _) fun preLast => ?_)
    (.pure _)
  exact .ite stopTransmission_steps (.ite (.bind (.modify hnull) fun _ => stopTransmission_steps)
    (.ite (.pure _) stopTransmission_steps))

/-! ### Sending data -/

omit steps in
lemma transferData_built (cmd : SdCommand) (size : ℕ) (buffer : Buffer) :
    BusProg (B := B) host fun _ => transferData host cmd size buffer := by
  unfold transferData
  exact .ite (.step fun w => .read w size buffer _ _ _) (.step fun w => .write w size buffer _ _)

omit steps in
lemma sdhcSendDataCommand_built {cmd : SdCommand} {arg : BitVec 32} (h : ¬ SetsPartition cmd arg)
    (size : ℕ) (buffer : Buffer) :
    TransferProg (B := B) host fun recover =>
      sdhcSendDataCommand host recover cmd arg size buffer := by
  unfold sdhcSendDataCommand
  refine .bind ?_ fun status => .ite (.bind (.call cmd) fun _ => .pure status) (.pure status)
  exact .orReturn (.step fun w => .command cmd arg _ h w)
    (.orReturn (transferData_built _ _ _).transfer
    (.orReturn (stopOpenEnded_steps .nullCommand _) wait_steps))

omit steps in
/-- A command that is not one of the two multi-block commands is not stopped. -/
lemma stopOpenEnded_of_not_isMultiBlock {cmd : SdCommand} (h : ¬ cmd.IsMultiBlock)
    (recover : SdCommand → Prog (World H B) EfiStatus) :
    stopOpenEnded host recover cmd = pure .success := by
  unfold stopOpenEnded
  rw [if_neg h]

omit steps in
lemma sdhcSendDataCommand_built_single {cmd : SdCommand} {arg : BitVec 32}
    (h : ¬ SetsPartition cmd arg) (hcmd : ¬ cmd.IsMultiBlock) (size : ℕ) (buffer : Buffer) :
    BusProg (B := B) host fun recover => sdhcSendDataCommand host recover cmd arg size buffer := by
  unfold sdhcSendDataCommand
  simp only [stopOpenEnded_of_not_isMultiBlock hcmd]
  refine .bind ?_ fun status => .ite (.bind (.call cmd) fun _ => .pure status) (.pure status)
  exact .orReturn (.step fun w => .command cmd arg _ h (.inr hcmd) w)
    (.orReturn (transferData_built _ _ _) (.orReturn (.pure _) wait_steps))

/-! ### Selecting a card -/

lemma sdhcSelectDevice_built : StepProg R (sdhcSelectDevice host) := by
  unfold sdhcSelectDevice
  exact .bind (inspect_steps _) fun rca => plainCommand_steps (by decide) _

lemma sdhcSetMaxClockFrequency_built :
    StepProg R fun _ => sdhcSetMaxClockFrequency host := by
  unfold sdhcSetMaxClockFrequency
  refine .bind (inspect_steps _) fun freq => ?_
  cases freq with
  | none => exact .pure _
  | some freq => exact .orReturn (callHost_steps _) (.pure _)

lemma sdhcSwitchBusWidthSd_built : StepProg R (sdhcSwitchBusWidthSd host) := by
  unfold sdhcSwitchBusWidthSd
  exact .orReturn (plainCommand_steps (by decide) _) (.orReturn (callHost_steps _) (.pure _))

/-! ### Resetting the lines -/

lemma stopInterrupted_built : StepProg R (stopInterrupted host) := by
  unfold stopInterrupted
  refine .bind (polls_steps sdhcSendStatus_polls) fun result => ?_
  cases result with
  | error status => exact .pure _
  | ok cardStatus => exact .ite stopTransmission_steps (.pure _)

lemma resetLines_built (cmd : SdCommand) :
    StepProg R fun _ => resetLines host cmd := by
  unfold resetLines
  exact .bind (softwareReset_steps _) fun status => .ite (softwareReset_steps _) (.pure _)

end Bus

instance : DeviceSteps host (DeviceStep (B := B) host) where
  stay w := .bus (.stay w)
  command h _ w := .bus (.command _ _ none h (.inl rfl) w)
  hostCall w h := .bus (.hostCall w h)
  lineReset w type ok := .bus (.lineReset w type ok)
  card := .card
  extCsd := .extCsd
  extCsdData _ := (sdhcSendDataCommand_built_single (not_setsPartition (by decide) _) (by decide) _
    _).device

section Device

variable {R : World H B → World H B → Prop} [steps : DeviceSteps host R]

/-! ### Identifying a card -/

include steps in
lemma built_update {f : HostInst → HostInst} (hf : ∀ inst : HostInst, inst.SameControl (f inst)) :
    StepProg R fun _ => update f :=
  .modify fun w => DeviceSteps.card w _ (hf w.inst)

lemma sdhcSendIfCondSd_built : StepProg R (sdhcSendIfCondSd host) := by
  unfold sdhcSendIfCondSd
  refine .orReturn (plainCommand_steps (by decide) _) (.bind (inspect_steps _) fun response => ?_)
  exact .ite (.pure _) (.bind (built_update fun inst => { HostInst.SameControl.refl inst with })
    fun _ => .pure _)

lemma pollOpCondMmc_built (retry : ℕ) :
    StepProg R fun recover => pollOpCondMmc host recover retry := by
  induction retry with
  | zero => exact .pure _
  | succ retry ih =>
      unfold pollOpCondMmc
      refine .orReturn (plainCommand_steps (by decide) _) (.bind (inspect_steps _) fun ocr => ?_)
      refine .bind (built_update fun inst => { HostInst.SameControl.refl inst with }) fun _ => ?_
      refine .ite (.bind (built_update fun inst => ?_) fun _ => .ite (.pure _) (.pure _)) ih
      exact { HostInst.SameControl.refl inst with }

lemma sdhcSendOpCondMmc_built : StepProg R (sdhcSendOpCondMmc host) :=
  pollOpCondMmc_built _

lemma pollOpCondSd_built (arg : BitVec 32) (retry : ℕ) :
    StepProg R fun recover => pollOpCondSd host recover arg retry := by
  induction retry with
  | zero => exact .pure _
  | succ retry ih =>
      unfold pollOpCondSd
      refine .orReturn (plainCommand_steps (by decide) _) (.bind (inspect_steps _) fun ocr => ?_)
      refine .ite (.bind (built_update fun inst => ?_) fun _ => .pure _) ih
      exact .ite { HostInst.SameControl.refl inst with } (.refl inst)

lemma sdhcSendOpCondSd_built : StepProg R (sdhcSendOpCondSd host) := by
  unfold sdhcSendOpCondSd
  refine .orReturn (plainCommand_steps (by decide) _) (.bind (inspect_steps _) fun ocr => ?_)
  exact .bind (built_update fun inst => { HostInst.SameControl.refl inst with }) fun _ =>
    pollOpCondSd_built _ _

lemma identifyMmc_built : StepProg R (identifyMmc host) := by
  unfold identifyMmc
  refine .orReturn (plainCommand_steps (by decide) _)
    (.bind sdhcSendOpCondMmc_built fun status => ?_)
  exact .bind (built_update fun inst => .ite (.refl inst) { HostInst.SameControl.refl inst with })
    fun _ => .pure _

lemma probeCardFunction_built : StepProg R (probeCardFunction host) := by
  unfold probeCardFunction
  refine .bind (built_update fun inst => { HostInst.SameControl.refl inst with }) fun _ => ?_
  refine .bind sdhcSendIfCondSd_built fun status => ?_
  refine .bind (built_update fun inst => ?_) fun _ => ?_
  · exact .ite (.refl inst) { HostInst.SameControl.refl inst with }
  refine .bind (plainCommand_steps (by decide) _) fun status => ?_
  refine .bind (built_update fun inst => ?_) fun _ => ?_
  · exact .ite (.refl inst)
      (.ite { HostInst.SameControl.refl inst with } { HostInst.SameControl.refl inst with })
  refine .bind (inspect_steps _) fun function => ?_
  exact .orReturn (.ite identifyMmc_built (.pure _))
    (.bind (inspect_steps _) fun function => .ite (.pure _) (.pure _))

lemma sdhcQueryCardType_built : StepProg R (sdhcQueryCardType host) := by
  unfold sdhcQueryCardType
  exact .orReturn (plainCommand_steps (by decide) _) probeCardFunction_built

/-! ### Setting a card up -/

lemma sdhcSendRelativeAddr_built : StepProg R (sdhcSendRelativeAddr host) := by
  unfold sdhcSendRelativeAddr
  refine .bind (built_update fun inst => ?_) fun _ => .bind (inspect_steps _) fun arg => ?_
  · exact .ite { HostInst.SameControl.refl inst with } (.refl inst)
  refine .orReturn (plainCommand_steps (by decide) _)
    (.bind (built_update fun inst => ?_) fun _ => .pure _)
  exact .ite { HostInst.SameControl.refl inst with } (.refl inst)

lemma sdhcSendCid_built : StepProg R (sdhcSendCid host) := by
  unfold sdhcSendCid
  refine .bind (inspect_steps _) fun rca => .orReturn (plainCommand_steps (by decide) _) ?_
  refine .bind (built_update fun inst => ?_) fun _ => .pure _
  exact .ite { HostInst.SameControl.refl inst with }
    (.ite { HostInst.SameControl.refl inst with } (.refl inst))

lemma HostInst.sameControl_withCsdCapacity (inst : HostInst) :
    inst.SameControl inst.withCsdCapacity :=
  { HostInst.SameControl.refl inst with blockSize := .inr rfl }

lemma sdhcSendCsd_built : StepProg R (sdhcSendCsd host) := by
  unfold sdhcSendCsd
  refine .bind (inspect_steps _) fun rca => .orReturn (plainCommand_steps (by decide) _) ?_
  refine .bind (built_update fun inst => ?_) fun _ =>
    .bind (built_update HostInst.sameControl_withCsdCapacity) fun _ => .pure _
  exact .ite { HostInst.SameControl.refl inst with } (.refl inst)

lemma sdhcSendExtCsdMmc_built : StepProg R (sdhcSendExtCsdMmc host) := by
  unfold sdhcSendExtCsdMmc
  exact .bind (inspect_steps _) fun rca => .orReturn (DeviceSteps.extCsdData _)
    (.bind (.modify fun w => DeviceSteps.extCsd w) fun _ => .pure _)

lemma switchPowerClass_built (powerClass : UInt8) :
    StepProg R fun recover => switchPowerClass host recover powerClass := by
  unfold switchPowerClass
  exact .orReturn (sendCommand_steps (not_setsPartition_powerClass _) (by decide))
    (.orReturn sdhcSendExtCsdMmc_built
    (.orReturn (check_steps _ _ _ _) (.pure _)))

lemma sdhcSwitchBusWidthMmc_built : StepProg R (sdhcSwitchBusWidthMmc host) := by
  unfold sdhcSwitchBusWidthMmc
  refine .orReturn sdhcSendExtCsdMmc_built (.orReturn ?_
    (.orReturn (sendCommand_steps (by decide) (by decide))
      (.orReturn (callHost_steps _) (.pure _))))
  exact .bind (inspect_steps _) fun needed => .bind (inspect_steps _) fun current =>
    .ite (switchPowerClass_built _) (.pure _)

lemma sdhcSwitchSpeedModeMmc_built : StepProg R (sdhcSwitchSpeedModeMmc host) := by
  unfold sdhcSwitchSpeedModeMmc
  refine .orReturn (sendCommand_steps (by decide) (by decide)) (.orReturn ?_
    (.orReturn (check_steps _ _ _ _) (.pure _)))
  exact .bind (built_update fun inst => { HostInst.SameControl.refl inst with }) fun _ =>
    sdhcSendExtCsdMmc_built

/-! ### Initialising the device -/

lemma initializeSdDevice_built : StepProg R (initializeSdDevice host) := by
  unfold initializeSdDevice
  exact .orReturn sdhcSendOpCondSd_built (.orReturn (plainCommand_steps (by decide) _)
    (.orReturn sdhcSendRelativeAddr_built (.orReturn sdhcSendCid_built
    (.orReturn sdhcSendCsd_built (.orReturn sdhcSelectDevice_built
    (.orReturn sdhcSwitchBusWidthSd_built (.orReturn (.pure _)
    (.orReturn sdhcSetMaxClockFrequency_built (.pure _)))))))))

lemma initializeMmcDevice_built : StepProg R (initializeMmcDevice host) := by
  unfold initializeMmcDevice
  exact .orReturn (plainCommand_steps (by decide) _) (.orReturn sdhcSendRelativeAddr_built
    (.orReturn sdhcSendCid_built (.orReturn sdhcSendCsd_built
    (.orReturn (check_steps _ _ _ _) (.orReturn sdhcSelectDevice_built
    (.orReturn sdhcSendExtCsdMmc_built (.orReturn sdhcSwitchSpeedModeMmc_built
    (.orReturn sdhcSwitchBusWidthMmc_built
    (.orReturn sdhcSetMaxClockFrequency_built (.pure _))))))))))

lemma initializeCard_built : StepProg R (initializeCard host) := by
  unfold initializeCard
  refine .bind (inspect_steps _) fun function => ?_
  cases function with
  | sd => exact initializeSdDevice_built
  | mmc => exact initializeMmcDevice_built
  | comboSdSdio => exact .pure _
  | sdio => exact .pure _
  | unknown => exact .pure _

lemma HostInst.sameControl_zeroCardInfo (inst : HostInst) : inst.SameControl inst.zeroCardInfo :=
  { HostInst.SameControl.refl inst with }

lemma identifyDevice_built : StepProg R (identifyDevice host) := by
  unfold identifyDevice
  refine .orReturn (.bind (built_update HostInst.sameControl_zeroCardInfo) fun _ =>
    softwareReset_steps _) (.orReturn (callHost_steps _) ?_)
  exact .orReturn sdhcQueryCardType_built (.orReturn initializeCard_built
    (.orReturn (plainCommand_steps (by decide) _) (.pure _)))

end Device

end Built

/-! ## The circle -/

/-- The steps of a request for blocks or RPMB packets: those of the command layer and of a
transfer, any command, and the note of a partition. -/
inductive RequestStep (host : SdhcHost H) : World H B → World H B → Prop
  | device {w w' : World H B} (h : DeviceStep host w w') : RequestStep host w w'
  | nullCommand (w : World H B) :
      RequestStep host w { w with trace := w.trace ++ [.nullCommand] }
  | command (cmd : SdCommand) (arg : BitVec 32) (xfrInfo : Option SdCommandXfrInfo)
      (w : World H B) : RequestStep host w (afterCommand host cmd arg xfrInfo w).2
  | partition (w : World H B) (p : PartitionAccess) :
      RequestStep host w { w with inst := { w.inst with currentMmcPartition := p } }

/-- The steps of the whole driver: those, the changes `SoftReset` makes to the instance, and the
calls of the boot services. -/
inductive DriverStep (host : SdhcHost H) (boot : BootServices B) : World H B → World H B → Prop
  | request {w w' : World H B} (h : RequestStep host w w') : DriverStep host boot w w'
  | initialized (w : World H B) : DriverStep host boot w { w with inst := w.inst.initialized }
  | cleared (w : World H B) : DriverStep host boot w { w with inst := w.inst.cleared }
  | mediaPresent (w : World H B) (present : Bool) :
      DriverStep host boot w { w with inst := w.inst.setMediaPresent present }
  | readOnly (w : World H B) (readOnly : Bool) :
      DriverStep host boot w { w with inst := w.inst.setReadOnly readOnly }
  | install (w : World H B) (p : Interface) : DriverStep host boot w (afterInstall boot p w).2
  | uninstall (w : World H B) (p : Interface) :
      DriverStep host boot w (afterUninstall boot p w).2
  | convert (w : World H B) :
      DriverStep host boot w { w with boot := (boot.convertDevicePathToText w.boot).2 }
  | softReset (w : World H B) : DriverStep host boot w { w with trace := w.trace ++ [.softReset] }

/-- `R` has the steps of `SoftReset` and of the recovery as well. -/
class DriverSteps (host : outParam (SdhcHost H)) (boot : outParam (BootServices B))
    (R : World H B → World H B → Prop) : Prop extends DeviceSteps host R where
  partition : ∀ (w : World H B) (p : PartitionAccess),
    R w { w with inst := { w.inst with currentMmcPartition := p } }
  initialized : ∀ w : World H B, R w { w with inst := w.inst.initialized }
  cleared : ∀ w : World H B, R w { w with inst := w.inst.cleared }
  mediaPresent : ∀ (w : World H B) (present : Bool),
    R w { w with inst := w.inst.setMediaPresent present }
  readOnly : ∀ (w : World H B) (readOnly : Bool), R w { w with inst := w.inst.setReadOnly readOnly }
  install : ∀ (w : World H B) (p : Interface), R w (afterInstall boot p w).2
  uninstall : ∀ (w : World H B) (p : Interface), R w (afterUninstall boot p w).2
  convert : ∀ w : World H B, R w { w with boot := (boot.convertDevicePathToText w.boot).2 }
  softReset : ∀ w : World H B, R w { w with trace := w.trace ++ [.softReset] }

section Built

variable {host : SdhcHost H} {boot : BootServices B}

/-- An open program of a request. -/
abbrev RequestProg (host : SdhcHost H) {α : Type}
    (f : (SdCommand → Prog (World H B) EfiStatus) → Prog (World H B) α) : Prop :=
  Built (RequestStep host) f

/-- An open program of the driver. -/
abbrev DriverProg (host : SdhcHost H) (boot : BootServices B) {α : Type}
    (f : (SdCommand → Prog (World H B) EfiStatus) → Prog (World H B) α) : Prop :=
  Built (DriverStep host boot) f

lemma RequestProg.driver {α : Type}
    {f : (SdCommand → Prog (World H B) EfiStatus) → Prog (World H B) α} (hf : RequestProg host f) :
    DriverProg host boot f :=
  hf.mono fun _ _ => .request

lemma DeviceProg.request {α : Type}
    {f : (SdCommand → Prog (World H B) EfiStatus) → Prog (World H B) α} (hf : DeviceProg host f) :
    RequestProg host f :=
  hf.mono fun _ _ => .device

lemma DeviceProg.driver {α : Type}
    {f : (SdCommand → Prog (World H B) EfiStatus) → Prog (World H B) α} (hf : DeviceProg host f) :
    DriverProg host boot f :=
  hf.request.driver

lemma TransferProg.request {α : Type}
    {f : (SdCommand → Prog (World H B) EfiStatus) → Prog (World H B) α}
    (hf : TransferProg host f) : RequestProg host f := by
  refine hf.mono fun w w' h => ?_
  cases h with
  | bus h => exact .device (.bus h)
  | command cmd arg xfrInfo => exact .command cmd arg xfrInfo w
  | nullCommand => exact .nullCommand w

instance : BusSteps host (RequestStep (B := B) host) where
  stay w := .device (.bus (.stay w))
  command h _ w := .device (.bus (.command _ _ none h (.inl rfl) w))
  hostCall w h := .device (.bus (.hostCall w h))
  lineReset w type ok := .device (.bus (.lineReset w type ok))

/-- Any command, also one that changes the partition. -/
lemma sendCommandHelper_request (cmd : SdCommand) (arg : BitVec 32)
    (xfrInfo : Option SdCommandXfrInfo) :
    RequestProg (B := B) host fun _ => sendCommandHelper host cmd arg xfrInfo :=
  .step fun w => .command cmd arg xfrInfo w

lemma sdhcSendCommand_request (cmd : SdCommand) (arg : BitVec 32) :
    RequestProg (B := B) host fun recover => sdhcSendCommand host recover cmd arg := by
  unfold sdhcSendCommand sendOrRecover
  exact .orReturn (.bind (sendCommandHelper_request _ _ _) fun status =>
    .ite (.bind (.call _) fun _ => .pure status) (.pure _)) (waitAfterSwitch_steps cmd)

lemma sdhcSendDataCommand_request (cmd : SdCommand) (arg : BitVec 32) (size : ℕ)
    (buffer : Buffer) :
    RequestProg (B := B) host fun recover =>
      sdhcSendDataCommand host recover cmd arg size buffer := by
  unfold sdhcSendDataCommand
  refine .bind ?_ fun status => .ite (.bind (.call cmd) fun _ => .pure status) (.pure status)
  exact .orReturn (sendCommandHelper_request _ _ _)
    (.orReturn (transferData_built _ _ _).transfer.request
      (.orReturn (stopOpenEnded_steps .nullCommand _) wait_steps))

lemma switchAndVerifyPartition_built (partition : PartitionAccess) :
    RequestProg (B := B) host fun recover =>
      switchAndVerifyPartition host recover partition := by
  unfold switchAndVerifyPartition
  exact .bind (inspect_steps _) fun config => .orReturn (sdhcSendCommand_request _ _)
    (.orReturn (DeviceProg.request sdhcSendExtCsdMmc_built)
      (.orReturn (check_steps _ _ _ _) (.pure _)))

instance : DriverSteps host boot (DriverStep host boot) where
  stay w := .request (.device (.bus (.stay w)))
  command h _ w := .request (.device (.bus (.command _ _ none h (.inl rfl) w)))
  hostCall w h := .request (.device (.bus (.hostCall w h)))
  lineReset w type ok := .request (.device (.bus (.lineReset w type ok)))
  card w inst h := .request (.device (.card w inst h))
  extCsd w := .request (.device (.extCsd w))
  extCsdData arg := DeviceProg.driver (DeviceSteps.extCsdData arg)
  partition w p := .request (.partition w p)
  initialized := .initialized
  cleared := .cleared
  mediaPresent := .mediaPresent
  readOnly := .readOnly
  install := .install
  uninstall := .uninstall
  convert := .convert
  softReset := .softReset

/-! ### Resetting the controller -/

section Driver

variable {R : World H B → World H B → Prop} [steps : DriverSteps host boot R]
include steps

lemma installInterface_built (p : Interface) :
    StepProg R fun _ => installInterface boot p :=
  .step fun w => DriverSteps.install w p

lemma uninstallInterface_built (p : Interface) :
    StepProg R fun _ => uninstallInterface boot p :=
  .step fun w => DriverSteps.uninstall w p

lemma initializeDevice_built : StepProg R (initializeDevice host) := by
  unfold initializeDevice
  exact .orReturn identifyDevice_built
    (.bind (.modify fun w => DriverSteps.initialized w) fun _ => .pure _)

lemma uninstallAllProtocols_built :
    StepProg R fun _ => uninstallAllProtocols boot := by
  have hone (p : Interface) : StepProg R fun _ => uninstallInstalled boot p := by
    unfold uninstallInstalled
    exact .bind (inspect_steps _) fun _ => .ite (uninstallInterface_built p) (.pure _)
  unfold uninstallAllProtocols
  exact .orReturn (hone _) (.orReturn (hone _) (.orReturn (hone _) (.pure _)))

lemma publishRpmb_built : StepProg R fun _ => publishRpmb boot := by
  unfold publishRpmb
  refine .bind (inspect_steps _) fun function => ?_
  refine .bind (.read BusSteps.stay) fun installed => .ite ?_ (.pure _)
  refine .bind (installInterface_built _) fun status => .bind (.modify fun w => ?_) fun _ => .pure _
  split
  · exact BusSteps.stay w
  · exact DriverSteps.partition w _

lemma publishCard_built : StepProg R fun _ => publishCard boot := by
  unfold publishCard
  exact .orReturn (.step fun w => DriverSteps.convert w) (.orReturn (installInterface_built _)
    (.orReturn (installInterface_built _) publishRpmb_built))

lemma detectCard_built : StepProg R (detectCard host boot) := by
  unfold detectCard
  refine .bind (.modify fun w => DriverSteps.cleared w) fun _ => ?_
  refine .bind (callHost_steps _) fun present => ?_
  refine .bind (.modify fun w => DriverSteps.mediaPresent w present) fun _ =>
    .ite ?_ (installInterface_built _)
  refine .bind (callHost_steps _) fun readOnly => ?_
  exact .bind (.modify fun w => DriverSteps.readOnly w readOnly) fun _ =>
    .orReturn initializeDevice_built publishCard_built

lemma rollback_built (status : EfiStatus) :
    StepProg R fun _ => rollback boot status := by
  have hone (p : Interface) (status : EfiStatus) :
      StepProg R fun _ => rollbackInterface boot p status := by
    unfold rollbackInterface
    exact .bind (inspect_steps _) fun _ => .ite (uninstallInterface_built p) (.pure _)
  unfold rollback
  exact .ite (.bind (hone _ _) fun _ => hone _ _) (.pure _)

lemma softReset_built : StepProg R (softReset host boot) := by
  unfold softReset resetSteps
  exact .bind (.modify fun w => DriverSteps.softReset w) fun _ =>
    .bind (.orReturn uninstallAllProtocols_built detectCard_built)
      fun status => rollback_built status

lemma escalate_built (status : EfiStatus) :
    StepProg R fun recover => escalate host boot recover status := by
  unfold escalate
  exact .ite softReset_built (.pure _)

lemma recoverySteps_built (cmd : SdCommand) :
    StepProg R fun recover => recoverySteps host boot recover cmd := by
  unfold recoverySteps
  refine .bind (resetLines_built cmd) fun status => ?_
  refine .bind (escalate_built status) fun status => .ite (.pure _) ?_
  exact .ite stopInterrupted_built (.pure _)

end Driver

end Built

/-! ## The recursion -/

section Recursion

variable {host : SdhcHost H} {boot : BootServices B}

/-- The world in which `SdhcRecoverFromErrors` tests the counter. -/
def World.enterRecovery (cmd : SdCommand) (w : World H B) : World H B :=
  { w with
    inst := { w.inst with errorRecoveryAttemptCount := w.inst.errorRecoveryAttemptCount + 1 }
    trace := w.trace ++ [.recovery cmd] }

/-- The world after `SdhcRecoverFromErrors` gave its attempt back. -/
def World.leaveRecovery (w : World H B) : World H B :=
  { w with
    inst := { w.inst with errorRecoveryAttemptCount := w.inst.errorRecoveryAttemptCount - 1 } }

lemma sdhcRecoverFromErrors_succ (n : ℕ) (cmd : SdCommand) (w : World H B) :
    sdhcRecoverFromErrors host boot (n + 1) cmd w =
      (boundedRecovery host boot (sdhcRecoverFromErrors host boot n) cmd
        (w.inst.errorRecoveryAttemptCount + 1) (w.enterRecovery cmd)).map
          fun r => (r.1, r.2.leaveRecovery) := by
  rw [Option.map_eq_bind]
  rfl

/-- What the steps on the bus preserve, and `SoftReset` if the recoveries nested in it do, every
recovery preserves. -/
theorem sdhcRecoverFromErrors_preserves {R : World H B → World H B → Prop} [BusSteps host R]
    {P : World H B → Prop} (hbus : ∀ w w', R w w' → P w → P w')
    (henter : ∀ cmd w, P w → P (w.enterRecovery cmd)) (hleave : ∀ w, P w → P w.leaveRecovery)
    (hreset : ∀ n, (∀ cmd, Preserves P (sdhcRecoverFromErrors host boot n cmd)) →
      Preserves P (softReset host boot (sdhcRecoverFromErrors host boot n)))
    (n : ℕ) (cmd : SdCommand) : Preserves P (sdhcRecoverFromErrors host boot n cmd) := by
  induction n generalizing cmd with
  | zero =>
      intro w _ a t hrun
      cases hrun
  | succ n ih =>
      have hsteps : Preserves P (recoverySteps host boot (sdhcRecoverFromErrors host boot n) cmd) := by
        unfold recoverySteps escalate
        refine Triple.bind ((resetLines_built cmd).preserves hbus ih) fun status => ?_
        refine Triple.bind (Q := fun _ => P) ?_ fun status => ?_
        · split
          · exact hreset _ ih
          · exact Triple.pure fun _ hw => hw
        · split
          · exact Triple.pure fun _ hw => hw
          · split
            · exact stopInterrupted_built.preserves hbus ih
            · exact Triple.pure fun _ hw => hw
      intro w hw status w' hrun
      rw [sdhcRecoverFromErrors_succ, Option.map_eq_some_iff] at hrun
      obtain ⟨⟨status', u⟩, hbounded, heq⟩ := hrun
      obtain ⟨rfl, rfl⟩ : status' = status ∧ u.leaveRecovery = w' := by simpa using heq
      refine hleave u ?_
      unfold boundedRecovery at hbounded
      split at hbounded
      · obtain ⟨-, rfl⟩ : _ ∧ w.enterRecovery cmd = u := by simpa using hbounded
        exact henter cmd w hw
      · exact hsteps _ (henter cmd w hw) _ _ hbounded

end Recursion

end SdMmc
end MuPlatform
