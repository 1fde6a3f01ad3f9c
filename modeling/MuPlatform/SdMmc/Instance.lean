import MuPlatform.Base.ByteStore
import MuPlatform.Efi.Sequence
import MuPlatform.SdMmc.Protocol

/-!
# The SDHC instance and what it talks to

The whole `SDHC_INSTANCE` (`SdMmc.h`) and the two things its functions call: the host
controller driver (`EFI_SDHC_PROTOCOL`, `Sdhc.h`) and the boot services that install and
uninstall protocol interfaces.  Both are parameters, so every result holds for whatever
statuses, response words and data they produce.

`SdhcHost` is any host controller.  `BootServices` has a handle database and the documented
effect of each service on it as fields: an installation that succeeds adds an interface the
handle did not carry, an uninstallation that succeeds removes it, and a service that fails
changes nothing.

A `World` is what one call on one controller reads and writes.  Its `trace` is not part of the
driver: it records what goes over the bus and which of the driver's functions are entered, for
the statements about what the driver sends.
-/

namespace MuPlatform
namespace SdMmc

open Prog

/-! ## The host controller -/

/-- `SDHC_RESET_TYPE`. -/
inductive SdhcResetType
  | all | cmd | data
  deriving DecidableEq, Repr

/-- `SD_BUS_WIDTH`. -/
inductive SdBusWidth
  | width1Bit | width4Bit | width8Bit
  deriving DecidableEq, Repr

/-- The members of `EFI_SDHC_PROTOCOL` the driver calls.  A block read returns the bytes it
stores, also where it fails. -/
structure SdhcHost (H : Type) extends SdhcProtocol H where
  capabilities : SdhcCapabilities
  cleanup : H → H
  softwareReset : SdhcResetType → H → EfiStatus × H
  setClock : ℕ → H → EfiStatus × H
  setBusWidth : SdBusWidth → H → EfiStatus × H
  isCardPresent : H → Bool × H
  isReadOnly : H → Bool × H
  readBlockData : ℕ → H → EfiStatus × ByteStore × H
  writeBlockData : ℕ → ByteStore → H → EfiStatus × H

/-! ## The boot services -/

/-- The protocol interfaces the driver publishes. -/
inductive Interface
  | blockIo | devicePath | rpmbIo
  deriving DecidableEq, Repr

/-- An entry of the handle database: the protocol, the handle that carries it, and the instance
the interface is a member of, by its address. -/
structure Published where
  protocol : Interface
  handle : ℕ
  address : ℕ
  deriving DecidableEq, Repr

/-- Two entries do not clash: they are not the same protocol on one handle, and not both the RPMB
protocol. -/
def Published.Apart (e e' : Published) : Prop :=
  e.protocol = e'.protocol → e.handle ≠ e'.handle ∧ e.protocol ≠ .rpmbIo

/-- The boot services the driver calls, over a state with a handle database, and what the UEFI
specification says of them.  `convertDevicePathToText` stands for the library function; `false`
is `NULL`. -/
structure BootServices (B : Type) where
  installProtocol : Published → B → EfiStatus × B
  uninstallProtocol : Published → B → EfiStatus × B
  locateProtocol : Interface → B → EfiStatus
  convertDevicePathToText : B → Bool × B
  handleDatabase : B → List Published
  /-- A handle carries a protocol once: a second installation is refused. -/
  install_success : ∀ e b, (installProtocol e b).1.isError = false →
    (∀ e' ∈ handleDatabase b, e'.protocol = e.protocol → e'.handle ≠ e.handle) ∧
      handleDatabase (installProtocol e b).2 = e :: handleDatabase b
  install_error : ∀ e b, (installProtocol e b).1.isError = true →
    handleDatabase (installProtocol e b).2 = handleDatabase b
  uninstall_success : ∀ e b, (uninstallProtocol e b).1.isError = false →
    handleDatabase (uninstallProtocol e b).2 = (handleDatabase b).erase e
  uninstall_error : ∀ e b, (uninstallProtocol e b).1.isError = true →
    handleDatabase (uninstallProtocol e b).2 = handleDatabase b
  locate_iff : ∀ p b, (locateProtocol p b).isError = false ↔
    ∃ e ∈ handleDatabase b, e.protocol = p
  convert_database : ∀ b, handleDatabase (convertDevicePathToText b).2 = handleDatabase b

/-! ## The instance -/

/-- `CARD_SPEED_MODE`. -/
inductive CardSpeedMode
  | undefined | normalSpeed | highSpeed
  deriving DecidableEq, Repr

/-- `MMC_EXT_CSD_PARTITION_ACCESS`; all eight values of the three bits are in use. -/
abbrev PartitionAccess := BitVec 3

/-- `MmcExtCsdPartitionAccessUserArea`. -/
def partitionUserArea : PartitionAccess := 0

/-- `MmcExtCsdPartitionAccessRpmb`. -/
def partitionRpmb : PartitionAccess := 3

/-- `CARD_INFO.Registers`.  The members of the union for SD and for MMC cards lie at the same
offsets, so one record stands for both; `SD_CID`, `MMC_CID` and the `CSD` structures have 15
bytes. -/
structure CardRegisters where
  ocr : BitVec 32
  cid : BitVec 120
  csd : BitVec 120
  extCsd : ByteStore

/-- `SDHC_INSTANCE`.  The members of `CardInfo`, `BlockIo` and `RpmbIo` the driver reads or
writes are fields of their own. -/
structure HostInst extends SdhcInstance where
  mmcHandle : ℕ
  slotInitialized : Bool
  media : EfiBlockIoMedia
  rpmbCid : CmdResponse
  reliableSectorCount : UInt8
  rpmbSizeMult : UInt8
  hostCapabilities : SdhcCapabilities
  devicePathProtocolInstalled : Bool
  blockIoProtocolInstalled : Bool
  rpmbIoProtocolInstalled : Bool
  currentMmcPartition : PartitionAccess
  hasExtendedOcr : Bool
  highCapacity : Bool
  byteCapacity : ℕ
  currentSpeedMode : CardSpeedMode
  registers : CardRegisters
  blockBuffer : ByteStore
  errorRecoveryAttemptCount : UInt32

/-- The flag of the instance for an interface. -/
def HostInst.installed (inst : HostInst) : Interface → Bool
  | .blockIo => inst.blockIoProtocolInstalled
  | .devicePath => inst.devicePathProtocolInstalled
  | .rpmbIo => inst.rpmbIoProtocolInstalled

/-- The instance with one of the three flags set to `b`. -/
def HostInst.setInstalled (inst : HostInst) (b : Bool) : Interface → HostInst
  | .blockIo => { inst with blockIoProtocolInstalled := b }
  | .devicePath => { inst with devicePathProtocolInstalled := b }
  | .rpmbIo => { inst with rpmbIoProtocolInstalled := b }

/-- `CreateSdhcInstance`, where the allocations succeed and the host takes blocks of 512
bytes. -/
def createSdhcInstance (mmcHandle : ℕ) (caps : SdhcCapabilities) : HostInst where
  rca := 0
  cardFunction := .unknown
  cmdResponse := fun _ => 0
  preLastSuccessfulCmd := none
  lastSuccessfulCmd := none
  mmcHandle := mmcHandle
  slotInitialized := false
  media := .template
  rpmbCid := fun _ => 0
  reliableSectorCount := 0
  rpmbSizeMult := 0
  hostCapabilities := caps
  devicePathProtocolInstalled := false
  blockIoProtocolInstalled := false
  rpmbIoProtocolInstalled := false
  currentMmcPartition := partitionUserArea
  hasExtendedOcr := false
  highCapacity := false
  byteCapacity := 0
  currentSpeedMode := .undefined
  registers := ⟨0, 0, 0, fun _ => 0⟩
  blockBuffer := fun _ => 0
  errorRecoveryAttemptCount := 0

/-! ## The world of a call -/

/-- The buffers of the data commands: `BlockBuffer` of the instance, the global packet
`ResultRequest`, and the caller's memory. -/
inductive Buffer
  | blockBuffer
  | resultRequest
  | caller (address : ℕ)
  deriving DecidableEq, Repr

/-- What happens during a call.  A command is on the bus once `SendCommand` was called for it;
`ok` says whether it succeeded. -/
inductive Event
  | appCommand (arg : BitVec 32) (ok : Bool)
  | command (cmd : SdCommand) (arg : BitVec 32) (xfrInfo : Option SdCommandXfrInfo) (ok : Bool)
  | data (direction : SdTransferDirection) (size : ℕ) (buffer : Buffer) (ok : Bool)
  /-- The card reported an `EXT_CSD` with this `PARTITION_CONFIG`. -/
  | extCsd (partitionConfig : UInt8)
  /-- `CmdsAreEqual` got a `NULL` descriptor. -/
  | nullCommand
  | lineReset (type : SdhcResetType) (ok : Bool)
  | recovery (cmd : SdCommand)
  | softReset
  | install (p : Interface) (ok : Bool)
  | uninstall (p : Interface) (ok : Bool)
  deriving DecidableEq, Repr

/-- One controller: the address of its instance, the instance, and what happened to it so
far. -/
structure Controller where
  address : ℕ
  inst : HostInst
  trace : List Event

/-- The entry of the handle database for an interface of the instance on `MmcHandle`. -/
def Controller.published (c : Controller) (p : Interface) : Published :=
  ⟨p, c.inst.mmcHandle, c.address⟩

/-- What the controllers share: the memory outside the instances, the host controllers and the
boot services. -/
structure Platform (H B : Type) where
  resultRequest : ByteStore
  callerMemory : ByteStore
  host : H
  boot : B

/-- What a call on one controller reads and writes. -/
structure World (H B : Type) extends Controller, Platform H B

variable {H B : Type}

/-- The bytes of a buffer. -/
def World.load (w : World H B) : Buffer → ByteStore
  | .blockBuffer => w.inst.blockBuffer
  | .resultRequest => w.resultRequest
  | .caller address => fun i => w.callerMemory (address + i)

/-- `size` bytes stored in a buffer. -/
def World.store (w : World H B) (buffer : Buffer) (size : ℕ) (bytes : ByteStore) : World H B :=
  match buffer with
  | .blockBuffer => { w with
      inst := { w.inst with
        blockBuffer := fun i => if i < size then bytes i else w.inst.blockBuffer i } }
  | .resultRequest => { w with
      resultRequest := fun i => if i < size then bytes i else w.resultRequest i }
  | .caller address => { w with
      callerMemory := fun x =>
        if address ≤ x ∧ x < address + size then bytes (x - address) else w.callerMemory x }

/-- The address of a buffer for `SD_COMMAND_XFR_INFO`; `0` stands for the driver's own. -/
def Buffer.address : Buffer → ℕ
  | .caller address => address
  | _ => 0

/-! ## Primitive steps -/

/-- A value of the instance. -/
def inspect {α : Type} (f : HostInst → α) : Prog (World H B) α := read fun w => f w.inst

/-- A change of the instance. -/
def update (f : HostInst → HostInst) : Prog (World H B) Unit :=
  modify fun w => { w with inst := f w.inst }

/-- An entry of the trace. -/
def record (e : Event) : Prog (World H B) Unit :=
  modify fun w => { w with trace := w.trace ++ [e] }

/-- A call of a host function that returns a value. -/
def callHost {α : Type} (f : H → α × H) : Prog (World H B) α :=
  step fun w => match f w.host with | (a, h) => (a, { w with host := h })

/-- `HostExt->SoftwareReset`. -/
def softwareReset (host : SdhcHost H) (type : SdhcResetType) : Prog (World H B) EfiStatus := do
  let status ← callHost (host.softwareReset type)
  record (.lineReset type !status.isError)
  return status

/-- What `SdhcSendCommandHelper` puts on the bus; `ok` is its outcome. -/
def helperEvents (host : SdhcHost H) (cmd : SdCommand) (arg : BitVec 32)
    (xfrInfo : Option SdCommandXfrInfo) (w : World H B) (ok : Bool) : List Event :=
  if cmd.cmdClass = .app then
    if (host.sendCommand cmdAppSd (w.inst.rca <<< 16) none w.host).1.isError then
      [.appCommand (w.inst.rca <<< 16) false]
    else [.appCommand (w.inst.rca <<< 16) true, .command cmd arg xfrInfo ok]
  else [.command cmd arg xfrInfo ok]

/-- `SdhcSendCommandHelper` on a world: its status, and the world after it. -/
def afterCommand (host : SdhcHost H) (cmd : SdCommand) (arg : BitVec 32)
    (xfrInfo : Option SdCommandXfrInfo) (w : World H B) : EfiStatus × World H B :=
  match sdhcSendCommandHelper host.toSdhcProtocol cmd arg xfrInfo w.inst.toSdhcInstance w.host with
  | (status, inst, h) =>
    (status, { w with
      inst := { w.inst with toSdhcInstance := inst }
      host := h
      trace := w.trace ++ helperEvents host cmd arg xfrInfo w !status.isError })

/-- `SdhcSendCommandHelper`. -/
def sendCommandHelper (host : SdhcHost H) (cmd : SdCommand) (arg : BitVec 32)
    (xfrInfo : Option SdCommandXfrInfo) : Prog (World H B) EfiStatus :=
  step (afterCommand host cmd arg xfrInfo)

/-- `HostExt->ReadBlockData`, into a buffer. -/
def readBlockData (host : SdhcHost H) (size : ℕ) (buffer : Buffer) :
    Prog (World H B) EfiStatus :=
  step fun w => match host.readBlockData size w.host with
    | (status, bytes, h) =>
      (status, { w.store buffer size bytes with
        host := h, trace := w.trace ++ [.data .read size buffer !status.isError] })

/-- `HostExt->WriteBlockData`, from a buffer. -/
def writeBlockData (host : SdhcHost H) (size : ℕ) (buffer : Buffer) :
    Prog (World H B) EfiStatus :=
  step fun w => match host.writeBlockData size (w.load buffer) w.host with
    | (status, h) =>
      (status, { w with
        host := h, trace := w.trace ++ [.data .write size buffer !status.isError] })

/-- `InstallMultipleProtocolInterfaces` for one interface, and the flag that records it. -/
def afterInstall (boot : BootServices B) (p : Interface) (w : World H B) :
    EfiStatus × World H B :=
  match boot.installProtocol (w.published p) w.boot with
  | (status, b) =>
    (status, { w with
      inst := if status.isError then w.inst else w.inst.setInstalled true p
      boot := b
      trace := w.trace ++ [.install p !status.isError] })

/-- `UninstallMultipleProtocolInterfaces` for one interface, and the flag that records it. -/
def afterUninstall (boot : BootServices B) (p : Interface) (w : World H B) :
    EfiStatus × World H B :=
  match boot.uninstallProtocol (w.published p) w.boot with
  | (status, b) =>
    (status, { w with
      inst := if status.isError then w.inst else w.inst.setInstalled false p
      boot := b
      trace := w.trace ++ [.uninstall p !status.isError] })

def installInterface (boot : BootServices B) (p : Interface) : Prog (World H B) EfiStatus :=
  step (afterInstall boot p)

def uninstallInterface (boot : BootServices B) (p : Interface) : Prog (World H B) EfiStatus :=
  step (afterUninstall boot p)

end SdMmc
end MuPlatform
