import MuPlatform.SdMmc.Recovery

/-!
# RPMB requests

`RpmbIo.c`: a request switches the card to the RPMB partition, exchanges packets of one block
each with it, and switches back.  The packets lie in the caller's memory; the request that asks
for a result is the global packet `ResultRequest`.
-/

namespace MuPlatform
namespace SdMmc

open Prog

/-- `sizeof (EFI_RPMB_DATA_PACKET)`. -/
def rpmbPacketSize : ℕ := 512

/-- `EFI_RPMB_DATA_BUFFER`; the packets are given by their address. -/
structure RpmbDataBuffer where
  packets : ℕ
  packetCount : ℕ
  deriving DecidableEq, Repr

/-- The request types of `RpmbIo.h`, in their order from `1` on. -/
inductive RpmbRequestType
  | programKey | counterValue | authWrite | authRead
  deriving DecidableEq, Repr

/-- `EFI_RPMB_REQUEST_PROGRAM_KEY` to `EFI_RPMB_REQUEST_AUTH_READ`. -/
def RpmbRequestType.ofCode : ℕ → Option RpmbRequestType
  | 1 => some .programKey
  | 2 => some .counterValue
  | 3 => some .authWrite
  | 4 => some .authRead
  | _ => none

section Requests

variable {H B : Type}

/-- `RpmbBytesToUint16` of `RequestOrResponseType`, the last two bytes of a packet. -/
def World.rpmbMessageType (w : World H B) (packet : ℕ) : ℕ :=
  (w.load (.caller packet) 510).toNat * 256 + (w.load (.caller packet) 511).toNat

variable (host : SdhcHost H) (recover : SdCommand → Prog (World H B) EfiStatus)

/-- The size of `count` packets as the 32-bit argument of `SdhcSendDataCommand`. -/
def rpmbTransferSize (count : ℕ) : ℕ := count * rpmbPacketSize % 2 ^ 32

/-- `RpmbRead`. -/
def rpmbRead (request : Buffer) (response : RpmbDataBuffer) : Prog (World H B) EfiStatus :=
  untilError [
    sdhcSetBlockCount host recover 1 false,
    sdhcSendDataCommand host recover cmdWriteMultiBlock 0 rpmbPacketSize request,
    sdhcSetBlockCount host recover (.ofNat 32 response.packetCount) false,
    sdhcSendDataCommand host recover cmdReadMultiBlock 0 (rpmbTransferSize response.packetCount)
      (.caller response.packets)]

/-- `RpmbWrite`. -/
def rpmbWrite (request : RpmbDataBuffer) : Prog (World H B) EfiStatus :=
  untilError [
    sdhcSetBlockCount host recover (.ofNat 32 request.packetCount) true,
    sdhcSendDataCommand host recover cmdWriteMultiBlock 0 (rpmbTransferSize request.packetCount)
      (.caller request.packets)]

/-- `RpmbQueryResult`. -/
def rpmbQueryResult (response : ℕ) : Prog (World H B) EfiStatus :=
  rpmbRead host recover .resultRequest ⟨response, 1⟩

/-- `RpmbProgramKeyRequest`. -/
def rpmbProgramKeyRequest (request response : ℕ) : Prog (World H B) EfiStatus :=
  untilError [rpmbWrite host recover ⟨request, 1⟩, rpmbQueryResult host recover response]

/-- `RpmbReadCounterRequest`. -/
def rpmbReadCounterRequest (request response : ℕ) : Prog (World H B) EfiStatus :=
  rpmbRead host recover (.caller request) ⟨response, 1⟩

/-- `RpmbAuthenticatedWriteRequest`. -/
def rpmbAuthenticatedWriteRequest (request : RpmbDataBuffer) (response : ℕ) :
    Prog (World H B) EfiStatus :=
  untilError [rpmbWrite host recover request, rpmbQueryResult host recover response]

/-- `RpmbAuthenticatedReadRequest`. -/
def rpmbAuthenticatedReadRequest (request : ℕ) (response : RpmbDataBuffer) :
    Prog (World H B) EfiStatus :=
  rpmbRead host recover (.caller request) response

/-- The switch on the request type in `RpmbRequest`; `ASSERT (FALSE)` for other types. -/
def rpmbDispatch (type : Option RpmbRequestType) (request response : RpmbDataBuffer) :
    Prog (World H B) EfiStatus :=
  match type with
  | some .programKey => rpmbProgramKeyRequest host recover request.packets response.packets
  | some .counterValue => rpmbReadCounterRequest host recover request.packets response.packets
  | some .authRead => rpmbAuthenticatedReadRequest host recover request.packets response
  | some .authWrite => rpmbAuthenticatedWriteRequest host recover request response.packets
  | none => return .success

/-- `RpmbRequest`. -/
def rpmbRequest (request response : RpmbDataBuffer) : Prog (World H B) EfiStatus := do
  let currentPartition ← inspect (·.currentMmcPartition)
  (sdhcSwitchPartitionMmc host recover partitionRpmb).orReturn do
    let type ← read fun w => RpmbRequestType.ofCode (w.rpmbMessageType request.packets)
    let status ← rpmbDispatch host recover type request response
    let switchStatus ← sdhcSwitchPartitionMmc host recover currentPartition
    if status.isError then return status else return switchStatus

/-! ## The protocol -/

/-- The calls of `EFI_RPMB_IO_PROTOCOL`. -/
inductive RpmbCall
  | programKey (request response : ℕ)
  | readCounter (request response : ℕ)
  | authenticatedWrite (request : RpmbDataBuffer) (response : ℕ)
  | authenticatedRead (request : ℕ) (response : RpmbDataBuffer)
  deriving DecidableEq, Repr

namespace RpmbCall

/-- The request type a call must carry. -/
def type : RpmbCall → RpmbRequestType
  | programKey _ _ => .programKey
  | readCounter _ _ => .counterValue
  | authenticatedWrite _ _ => .authWrite
  | authenticatedRead _ _ => .authRead

/-- The buffers a call passes to `RpmbRequest`. -/
def request : RpmbCall → RpmbDataBuffer
  | programKey request _ => ⟨request, 1⟩
  | readCounter request _ => ⟨request, 1⟩
  | authenticatedWrite request _ => request
  | authenticatedRead request _ => ⟨request, 1⟩

def response : RpmbCall → RpmbDataBuffer
  | programKey _ response => ⟨response, 1⟩
  | readCounter _ response => ⟨response, 1⟩
  | authenticatedWrite _ response => ⟨response, 1⟩
  | authenticatedRead _ response => response

/-- The checks of `RpmbIoProgramKey`, `RpmbIoReadCounter`, `RpmbIoAuthenticatedWrite` and
`RpmbIoAuthenticatedRead`: no pointer is `NULL`, no packet count `0`, and the request is of the
type the function is for. -/
def Valid (call : RpmbCall) (w : World H B) : Prop :=
  call.request.packets ≠ 0 ∧ call.response.packets ≠ 0 ∧
    call.request.packetCount ≠ 0 ∧ call.response.packetCount ≠ 0 ∧
    RpmbRequestType.ofCode (w.rpmbMessageType call.request.packets) = some call.type

instance (call : RpmbCall) (w : World H B) : Decidable (call.Valid w) :=
  inferInstanceAs (Decidable (_ ∧ _))

end RpmbCall

/-- A call of `EFI_RPMB_IO_PROTOCOL`. -/
def rpmbIo (call : RpmbCall) : Prog (World H B) EfiStatus := do
  let valid ← read fun w => decide (call.Valid w)
  if valid then rpmbRequest host recover call.request call.response
  else return .invalidParameter

end Requests

/-! ## The functions are built from steps -/

section Built

variable {H B : Type} {host : SdhcHost H}

lemma sdhcSwitchPartitionMmc_built (partition : PartitionAccess) :
    RequestProg (B := B) host fun recover => sdhcSwitchPartitionMmc host recover partition := by
  unfold sdhcSwitchPartitionMmc
  exact .orReturn (switchAndVerifyPartition_built partition)
    (.bind (.modify fun w => .partition w partition) fun _ => .pure _)

lemma sdhcSetBlockCount_built (blockCount : BitVec 32) (reliableWrite : Bool) :
    TransferProg (B := B) host fun recover =>
      sdhcSetBlockCount host recover blockCount reliableWrite :=
  (sdhcSendCommand_built (not_setsPartition (by decide) _)).transfer

lemma rpmbRead_built (request : Buffer) (response : RpmbDataBuffer) :
    TransferProg (B := B) host fun recover => rpmbRead host recover request response := by
  unfold rpmbRead
  exact .orReturn (sdhcSetBlockCount_built _ _)
    (.orReturn (sdhcSendDataCommand_built (not_setsPartition (by decide) _) _ _)
    (.orReturn (sdhcSetBlockCount_built _ _)
    (.orReturn (sdhcSendDataCommand_built (not_setsPartition (by decide) _) _ _) (.pure _))))

lemma rpmbWrite_built (request : RpmbDataBuffer) :
    TransferProg (B := B) host fun recover => rpmbWrite host recover request := by
  unfold rpmbWrite
  exact .orReturn (sdhcSetBlockCount_built _ _)
    (.orReturn (sdhcSendDataCommand_built (not_setsPartition (by decide) _) _ _) (.pure _))

lemma rpmbDispatch_built (type : Option RpmbRequestType) (request response : RpmbDataBuffer) :
    TransferProg (B := B) host fun recover => rpmbDispatch host recover type request response := by
  unfold rpmbDispatch
  match type with
  | some .programKey =>
      exact .orReturn (rpmbWrite_built _) (.orReturn (rpmbRead_built _ _) (.pure _))
  | some .counterValue => exact rpmbRead_built _ _
  | some .authRead => exact rpmbRead_built _ _
  | some .authWrite =>
      exact .orReturn (rpmbWrite_built _) (.orReturn (rpmbRead_built _ _) (.pure _))
  | none => exact .pure _

lemma rpmbRequest_built (request response : RpmbDataBuffer) :
    RequestProg (B := B) host fun recover => rpmbRequest host recover request response := by
  unfold rpmbRequest
  refine .bind (inspect_steps _) fun currentPartition => ?_
  refine .orReturn (sdhcSwitchPartitionMmc_built _) ?_
  refine .bind (.read fun w => .device (.bus (.stay w))) fun type => ?_
  refine .bind (rpmbDispatch_built _ _ _).request fun status => ?_
  exact .bind (sdhcSwitchPartitionMmc_built _) fun switchStatus => .ite (.pure _) (.pure _)

lemma rpmbIo_built (call : RpmbCall) :
    RequestProg (B := B) host fun recover => rpmbIo host recover call := by
  unfold rpmbIo
  exact .bind (.read fun w => .device (.bus (.stay w))) fun valid =>
    .ite (rpmbRequest_built _ _) (.pure _)

end Built

end SdMmc
end MuPlatform
