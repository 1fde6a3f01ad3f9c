import MuPlatform.SdMmc.Hw
import Mathlib.Data.BitVec

/-!
# The SD/MMC command layer

`SdhcSendCommandHelper` (`Protocol.c`) is the one place where the driver talks to the host
controller about a command and looks at the card status word of the response.  The host
controller driver is a parameter, `SdhcProtocol`, so every result holds for whatever statuses
and response words it produces.

The status word is tested by `IsCardStatusError`, which returns the masked 32-bit word through
an 8-bit `BOOLEAN`.  `isCardStatusError_eq_true_iff` says what is left of the test after that
conversion: one bit of the sixteen in the SD mask, one bit of the eighteen in the MMC mask.
-/

namespace MuPlatform
namespace SdMmc

/-! ## The host controller and the instance -/

/-- `HostInst->CmdResponse`. -/
abbrev CmdResponse := Fin 4 → BitVec 32

instance neZero_cmdResponse : NeZero 4 := ⟨by decide⟩

/-- The members of `EFI_SDHC_PROTOCOL` that exchange a command with the card, over the host
controller's own state. -/
structure SdhcProtocol (H : Type*) where
  sendCommand : SdCommand → BitVec 32 → Option SdCommandXfrInfo → H → EfiStatus × H
  receiveResponse : SdCommand → CmdResponse → H → EfiStatus × CmdResponse × H

/-- The fields of `SDHC_INSTANCE` the command layer reads and writes.  `rca` and
`cardFunction` are those of `CardInfo`; a command pointer that may be `NULL` is an option. -/
structure SdhcInstance where
  rca : BitVec 32
  cardFunction : CardFunction
  cmdResponse : CmdResponse
  preLastSuccessfulCmd : Option SdCommand
  lastSuccessfulCmd : Option SdCommand

/-! ## The card status test -/

/-- A 32-bit value returned as an EDK2 `BOOLEAN`, an unsigned 8-bit type. -/
def toBoolean (w : BitVec 32) : BitVec 8 := w.setWidth 8

/-- The error mask `IsCardStatusError` selects; `ASSERT (FALSE)` for the other functions. -/
def cardStatusErrorMask : CardFunction → BitVec 32
  | .sd => sdCardStatusErrorMask
  | .mmc => mmcCardStatusErrorMask
  | _ => 0

/-- `IsCardStatusError`, as the caller's `if` sees it. -/
def isCardStatusError (f : CardFunction) (status : CardStatus) : Bool :=
  toBoolean (status &&& cardStatusErrorMask f) != 0

/-- The bit of the error mask that lies in the low byte: `AKE_SEQ_ERROR` for SD,
`SWITCH_ERROR` for MMC. -/
def lowErrorBit : CardFunction → ℕ
  | .sd => 3
  | _ => 7

lemma setWidth_mask_eq_zero_iff (w m : BitVec 32) (k : Fin 8)
    (hm : m.setWidth 8 = BitVec.twoPow 8 k) :
    (w &&& m).setWidth 8 = 0 ↔ w.getLsbD k = false := by
  have hbit : ∀ i : ℕ, i < 8 → m.getLsbD i = decide (i = k) := by
    intro i hi
    have := congrArg (fun v : BitVec 8 => v.getLsbD i) hm
    simpa [hi, BitVec.getLsbD_twoPow, eq_comm] using this
  constructor
  · intro h
    have := congrArg (fun v : BitVec 8 => v.getLsbD k) h
    simpa [hbit k k.isLt] using this
  · intro h
    apply BitVec.eq_of_getLsbD_eq
    intro i hi
    by_cases hik : i = k
    · simp [hik, h]
    · simp [hbit i hi, hik]

/-- Only the error bit of the low byte survives the conversion to `BOOLEAN`. -/
lemma isCardStatusError_eq_true_iff {f : CardFunction} (hf : f = .sd ∨ f = .mmc)
    (w : CardStatus) : isCardStatusError f w = true ↔ w.getLsbD (lowErrorBit f) = true := by
  rcases hf with rfl | rfl
  · have := setWidth_mask_eq_zero_iff w sdCardStatusErrorMask 3 (by decide)
    simp_all [isCardStatusError, toBoolean, cardStatusErrorMask, lowErrorBit]
  · have := setWidth_mask_eq_zero_iff w mmcCardStatusErrorMask 7 (by decide)
    simp_all [isCardStatusError, toBoolean, cardStatusErrorMask, lowErrorBit]

/-! ## Sending a command -/

section SendCommand

variable {H : Type*} (host : SdhcProtocol H) (cmd : SdCommand) (arg : BitVec 32)
  (xfrInfo : Option SdCommandXfrInfo) (inst : SdhcInstance) (h : H)

/-- The host calls of `SdhcSendCommandHelper`: `CMD55` first for an application command, then
the command itself, then the response into `CmdResponse`.  A failing call ends the exchange
with its status. -/
def hostExchange : EfiStatus × CmdResponse × H :=
  match (if cmd.cmdClass = .app then host.sendCommand cmdAppSd (inst.rca <<< 16) none h
    else (.success, h)) with
  | (status, h) =>
    if status.isError then (status, inst.cmdResponse, h)
    else match host.sendCommand cmd arg xfrInfo h with
      | (status, h) =>
        if status.isError then (status, inst.cmdResponse, h)
        else host.receiveResponse cmd inst.cmdResponse h

/-- `Cmd->ResponseType` is one of the two that carry a card status word. -/
def carriesCardStatus : Bool :=
  cmd.responseType = .r1 || cmd.responseType = .r1b

/-- `SdhcSendCommandHelper`. -/
def sdhcSendCommandHelper : EfiStatus × SdhcInstance × H :=
  match hostExchange host cmd arg xfrInfo inst h with
  | (status, response, h) =>
    if status.isError then (status, { inst with cmdResponse := response }, h)
    else if carriesCardStatus cmd && isCardStatusError inst.cardFunction (response 0) then
      (.deviceError, { inst with cmdResponse := response }, h)
    else
      (.success, { inst with
        cmdResponse := response
        preLastSuccessfulCmd := inst.lastSuccessfulCmd
        lastSuccessfulCmd := some cmd }, h)

variable {host cmd arg xfrInfo inst h}

/-- The two command pointers are those of `inst`. -/
def SdhcInstance.SameLastCmds (inst' inst : SdhcInstance) : Prop :=
  inst'.lastSuccessfulCmd = inst.lastSuccessfulCmd ∧
    inst'.preLastSuccessfulCmd = inst.preLastSuccessfulCmd

/-- A failed host call is reported, and no command is recorded as successful. -/
lemma sdhcSendCommandHelper_of_exchange_error
    (hx : (hostExchange host cmd arg xfrInfo inst h).1.isError = true) :
    (sdhcSendCommandHelper host cmd arg xfrInfo inst h).1.isError = true ∧
      (sdhcSendCommandHelper host cmd arg xfrInfo inst h).2.1.SameLastCmds inst := by
  unfold sdhcSendCommandHelper
  simp [hx, SdhcInstance.SameLastCmds]

/-- After the host calls succeeded, the outcome is the outcome of `IsCardStatusError`. -/
lemma sdhcSendCommandHelper_of_exchange {response : CmdResponse} {h' : H} {status : EfiStatus}
    (hr : carriesCardStatus cmd = true)
    (hx : hostExchange host cmd arg xfrInfo inst h = (status, response, h'))
    (hs : status.isError = false) :
    sdhcSendCommandHelper host cmd arg xfrInfo inst h =
      if isCardStatusError inst.cardFunction (response 0) then
        (.deviceError, { inst with cmdResponse := response }, h')
      else
        (.success, { inst with
          cmdResponse := response
          preLastSuccessfulCmd := inst.lastSuccessfulCmd
          lastSuccessfulCmd := some cmd }, h') := by
  unfold sdhcSendCommandHelper
  simp [hx, hs, hr]

/-- Card errors are detected for one command: with `status` the word the host returned, an
error bit makes the call fail and leaves the command pointers alone, and without one the call
succeeds. -/
def DetectsCardError (host : SdhcProtocol H) (cmd : SdCommand) (arg : BitVec 32)
    (xfrInfo : Option SdCommandXfrInfo) (inst : SdhcInstance) (h : H) (status : CardStatus) :
    Prop :=
  (status &&& cardStatusErrorMask inst.cardFunction ≠ 0 →
    (sdhcSendCommandHelper host cmd arg xfrInfo inst h).1.isError = true ∧
      (sdhcSendCommandHelper host cmd arg xfrInfo inst h).2.1.SameLastCmds inst) ∧
  (status &&& cardStatusErrorMask inst.cardFunction = 0 →
    (sdhcSendCommandHelper host cmd arg xfrInfo inst h).1 = .success)

/-- Card errors are detected exactly for the status words with no error bit at all and for
those whose error bit in the low byte is set. -/
theorem detectsCardError_iff {response : CmdResponse} {h' : H} {status : EfiStatus}
    (hr : cmd.responseType = .r1 ∨ cmd.responseType = .r1b)
    (hf : inst.cardFunction = .sd ∨ inst.cardFunction = .mmc)
    (hx : hostExchange host cmd arg xfrInfo inst h = (status, response, h'))
    (hs : status.isError = false) :
    DetectsCardError host cmd arg xfrInfo inst h (response 0) ↔
      response 0 &&& cardStatusErrorMask inst.cardFunction = 0 ∨
        (response 0).getLsbD (lowErrorBit inst.cardFunction) = true := by
  have hcarries : carriesCardStatus cmd = true := by
    rcases hr with hr | hr <;> simp [carriesCardStatus, hr]
  have hrun := sdhcSendCommandHelper_of_exchange hcarries hx hs
  have htest := isCardStatusError_eq_true_iff hf (response 0)
  rw [← htest]
  unfold DetectsCardError
  rw [hrun]
  by_cases herr : isCardStatusError inst.cardFunction (response 0) = true
  · -- the test fires, so some masked bit is set
    have hmask : response 0 &&& cardStatusErrorMask inst.cardFunction ≠ 0 := by
      intro hzero
      simp [isCardStatusError, hzero, toBoolean] at herr
    simpa [herr, SdhcInstance.SameLastCmds, EfiStatus.isError] using hmask
  · -- the test is silent, so the call succeeds whatever the masked bits are
    simp [herr]

end SendCommand

/-- A host whose card answers every command with the status word `w`. -/
def statusHost (w : CardStatus) : SdhcProtocol Unit where
  sendCommand _ _ _ h := (.success, h)
  receiveResponse _ _ h := (.success, fun _ => w, h)

/-- An SD card after initialisation. -/
def sdInstance : SdhcInstance where
  rca := 1
  cardFunction := .sd
  cmdResponse := fun _ => 0
  preLastSuccessfulCmd := none
  lastSuccessfulCmd := none

theorem detectsCardError_iff_akeSeqError :
    DetectsCardError (statusHost (1 <<< 3)) cmdReadSingleBlock 0 none sdInstance () (1 <<< 3) ↔
      (1 <<< 3 : CardStatus) &&& sdCardStatusErrorMask = 0 ∨
        (1 <<< 3 : CardStatus).getLsbD 3 = true :=
  @detectsCardError_iff Unit (statusHost (1 <<< 3)) cmdReadSingleBlock 0 none sdInstance ()
    (fun _ => 1 <<< 3) () .success (.inl rfl) (.inl rfl) rfl rfl

/-- A card that reports `ILLEGAL_COMMAND` to `READ_SINGLE_BLOCK` goes unnoticed. -/
theorem not_detectsCardError_illegalCommand :
    ¬ DetectsCardError (statusHost (1 <<< 22)) cmdReadSingleBlock 0 none sdInstance ()
      (1 <<< 22) := by
  rintro ⟨herr, -⟩
  have hfail := (herr (by decide)).1
  exact absurd hfail (by decide)

end SdMmc
end MuPlatform
