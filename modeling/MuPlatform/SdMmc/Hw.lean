import MuPlatform.Efi.Status
import Mathlib.Tactic.NormNum

/-!
# SD/MMC hardware definitions

The data the SD/MMC driver exchanges with the host controller and the card: command
descriptors (`Sdhc.h`, and the command table at the end of `Protocol.c`), the card status
word with the two error masks (`SdMmcHw.h`), and the block I/O media record the driver
publishes.

`MediaRecord` is the media record as `IoBlocks` reads it.  `EfiBlockIoMedia` carries two facts
about every such record the driver can build as fields.
The three functions that build one are `EfiBlockIoMedia.template`, `.cleared` and
`.withCapacity`, for `gSdhcMediaTemplate`, `SoftReset` and `SdhcSendCsd`, and
`.withSectorCount` for `SdhcSendExtCsdMmc`: the block size is `0` or `512`, and the last
block number fits 32 bits because it comes from a 22-bit `C_SIZE` or a 32-bit `SectorCount`.
-/

namespace MuPlatform
namespace SdMmc

/-! ## Commands -/

inductive SdCommandType
  | undefined | suspend | resume | abort
  deriving DecidableEq, Repr

inductive SdCommandClass
  | undefined | standard | app
  deriving DecidableEq, Repr

inductive SdResponseType
  | undefined | none | r1 | r1b | r2 | r3 | r4 | r5 | r5b | r6
  deriving DecidableEq, Repr

inductive SdTransferType
  | undefined | none | singleBlock | multiBlock | multiBlockNoStop
  deriving DecidableEq, Repr

inductive SdTransferDirection
  | undefined | read | write
  deriving DecidableEq, Repr

/-- `SD_COMMAND`.  The driver compares descriptors by value (`CmdsAreEqual`), so a
descriptor stands for the pointer to it. -/
structure SdCommand where
  index : UInt16
  type : SdCommandType
  cmdClass : SdCommandClass
  responseType : SdResponseType
  transferType : SdTransferType
  transferDirection : SdTransferDirection
  deriving DecidableEq, Repr

def cmdGoIdleState : SdCommand :=
  ⟨0, .undefined, .standard, .none, .none, .undefined⟩

def cmdSendOpCondMmc : SdCommand :=
  ⟨1, .undefined, .standard, .r3, .none, .undefined⟩

def cmdSendCidAll : SdCommand :=
  ⟨2, .undefined, .standard, .r2, .none, .undefined⟩

def cmdSendRelativeAddr : SdCommand :=
  ⟨3, .undefined, .standard, .r6, .none, .undefined⟩

def cmdSendOpCondSdio : SdCommand :=
  ⟨5, .undefined, .standard, .r4, .none, .undefined⟩

def cmdAppSetBusWidthSd : SdCommand :=
  ⟨6, .undefined, .app, .r1, .none, .undefined⟩

def cmdSelect : SdCommand :=
  ⟨7, .undefined, .standard, .r1b, .none, .undefined⟩

def cmdSendIfCondSd : SdCommand :=
  ⟨8, .undefined, .standard, .r6, .none, .undefined⟩

def cmdSendExtCsdMmc : SdCommand :=
  ⟨8, .undefined, .standard, .r1, .singleBlock, .read⟩

def cmdSendCsd : SdCommand :=
  ⟨9, .undefined, .standard, .r2, .none, .undefined⟩

def cmdSendCid : SdCommand :=
  ⟨10, .undefined, .standard, .r2, .none, .undefined⟩

def cmdSetBlockLength : SdCommand :=
  ⟨16, .undefined, .standard, .r1, .none, .undefined⟩

def cmdAppSendOpCondSd : SdCommand :=
  ⟨41, .undefined, .app, .r3, .none, .undefined⟩

def cmdStopTransmission : SdCommand :=
  ⟨12, .abort, .standard, .r1b, .none, .undefined⟩

def cmdSendStatus : SdCommand :=
  ⟨13, .undefined, .standard, .r1, .none, .undefined⟩

def cmdReadSingleBlock : SdCommand :=
  ⟨17, .undefined, .standard, .r1, .singleBlock, .read⟩

def cmdReadMultiBlock : SdCommand :=
  ⟨18, .undefined, .standard, .r1, .multiBlock, .read⟩

def cmdSetBlockCount : SdCommand :=
  ⟨23, .undefined, .standard, .r1, .none, .undefined⟩

def cmdWriteSingleBlock : SdCommand :=
  ⟨24, .undefined, .standard, .r1, .singleBlock, .write⟩

def cmdWriteMultiBlock : SdCommand :=
  ⟨25, .undefined, .standard, .r1, .multiBlock, .write⟩

def cmdSwitchSd : SdCommand :=
  ⟨6, .undefined, .standard, .r1, .singleBlock, .read⟩

def cmdSwitchMmc : SdCommand :=
  ⟨6, .undefined, .standard, .r1b, .none, .undefined⟩

def cmdAppSendScrSd : SdCommand :=
  ⟨51, .undefined, .app, .r1, .singleBlock, .read⟩

def cmdAppSd : SdCommand :=
  ⟨55, .undefined, .app, .r1, .none, .undefined⟩

/-- `SD_COMMAND_XFR_INFO`; the buffer is an offset into the caller's buffer. -/
structure SdCommandXfrInfo where
  blockSize : UInt32
  blockCount : UInt32
  buffer : ℕ
  deriving DecidableEq, Repr

/-! ## Card status -/

inductive CardFunction
  | unknown | sd | sdio | comboSdSdio | mmc
  deriving DecidableEq, Repr

/-- `SD_CARD_STATUS_ERROR_MASK`. -/
def sdCardStatusErrorMask : BitVec 32 :=
  1 <<< 3 ||| 1 <<< 13 ||| 1 <<< 15 ||| 1 <<< 16 ||| 1 <<< 19 ||| 1 <<< 20 |||
  1 <<< 21 ||| 1 <<< 22 ||| 1 <<< 23 ||| 1 <<< 24 ||| 1 <<< 26 ||| 1 <<< 27 ||| 1 <<< 28 |||
  1 <<< 29 ||| 1 <<< 30 ||| 1 <<< 31

/-- `MMC_CARD_STATUS_ERROR_MASK`. -/
def mmcCardStatusErrorMask : BitVec 32 :=
  1 <<< 7 ||| 1 <<< 13 ||| 1 <<< 15 ||| 1 <<< 16 ||| 1 <<< 17 ||| 1 <<< 18 ||| 1 <<< 19 |||
  1 <<< 20 ||| 1 <<< 21 ||| 1 <<< 22 ||| 1 <<< 23 ||| 1 <<< 24 ||| 1 <<< 26 ||| 1 <<< 27 |||
  1 <<< 28 ||| 1 <<< 29 ||| 1 <<< 30 ||| 1 <<< 31

/-- `CARD_STATUS`, seen through `AsUint32`. -/
abbrev CardStatus := BitVec 32

/-- `CARD_STATUS.Fields.READY_FOR_DATA`. -/
def CardStatus.readyForData (s : CardStatus) : Bool := s.getLsbD 8

/-- `CARD_STATUS.Fields.CURRENT_STATE`. -/
def CardStatus.currentState (s : CardStatus) : BitVec 4 := s.extractLsb' 9 4

/-- `CardStateTran`. -/
def cardStateTran : BitVec 4 := 4

/-! ## Media -/

/-- `SD_BLOCK_LENGTH_BYTES`. -/
def sdBlockLengthBytes : ℕ := 512

/-- The members of `EFI_BLOCK_IO_MEDIA`. -/
structure MediaRecord where
  mediaId : UInt32
  removableMedia : Bool
  mediaPresent : Bool
  logicalPartition : Bool
  readOnly : Bool
  writeCaching : Bool
  blockSize : ℕ
  ioAlign : ℕ
  lastBlock : ℕ

/-- `EFI_BLOCK_IO_MEDIA`, with the two facts every writer of the record maintains. -/
structure EfiBlockIoMedia extends MediaRecord where
  blockSize_eq : blockSize = 0 ∨ blockSize = sdBlockLengthBytes
  lastBlock_lt : lastBlock < 2 ^ 32

instance : Coe EfiBlockIoMedia MediaRecord := ⟨EfiBlockIoMedia.toMediaRecord⟩

namespace EfiBlockIoMedia

/-- `gSdhcMediaTemplate`. -/
def template : EfiBlockIoMedia where
  mediaId := 0
  removableMedia := true
  mediaPresent := false
  logicalPartition := false
  readOnly := false
  writeCaching := false
  blockSize := sdBlockLengthBytes
  ioAlign := 4
  lastBlock := 0
  blockSize_eq := .inr rfl
  lastBlock_lt := by norm_num

/-- The media settings `SoftReset` clears before it probes the card; `MediaPresent` and
`ReadOnly` are set again from the host right after. -/
def cleared (_ : EfiBlockIoMedia) : EfiBlockIoMedia where
  mediaId := 0
  removableMedia := false
  mediaPresent := false
  logicalPartition := false
  readOnly := false
  writeCaching := false
  blockSize := 0
  ioAlign := 4
  lastBlock := 0
  blockSize_eq := .inl rfl
  lastBlock_lt := by norm_num

/-- The geometry `SdhcSendCsd` derives from a byte capacity of at most `2 ^ 32` blocks. -/
def withCapacity (m : EfiBlockIoMedia) (byteCapacity : ℕ)
    (h : byteCapacity / sdBlockLengthBytes ≤ 2 ^ 32) : EfiBlockIoMedia :=
  { m with
    blockSize := sdBlockLengthBytes
    blockSize_eq := .inr rfl
    lastBlock :=
      if 0 < byteCapacity / sdBlockLengthBytes then byteCapacity / sdBlockLengthBytes - 1 else 0
    lastBlock_lt := by
      split
      · omega
      · norm_num }

/-- The last block `SdhcSendExtCsdMmc` takes from `EXT_CSD.SectorCount`, in 32-bit
arithmetic. -/
def withSectorCount (m : EfiBlockIoMedia) (sectorCount : UInt32) : EfiBlockIoMedia :=
  { m with
    lastBlock := (sectorCount - 1).toNat
    lastBlock_lt := (sectorCount - 1).toNat_lt }

end EfiBlockIoMedia

/-- `SDHC_CAPABILITIES`. -/
structure SdhcCapabilities where
  maximumBlockSize : UInt32
  maximumBlockCount : UInt32
  deriving DecidableEq, Repr

end SdMmc
end MuPlatform
