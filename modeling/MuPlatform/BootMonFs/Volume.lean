import MuPlatform.BootMonFs.Hw
import MuPlatform.Efi.Arch
import MuPlatform.Efi.Status

/-!
# Volumes

The data the BootMonFs driver works on (`BootMonFsInternal.h`): a media with its bytes, the
files of the volume in the order of the `RootFile` list, and for an open file its information,
position and the regions that wait to be flushed.

The firmware around the driver is an `Environment`: for each request of a call it says whether
an allocation succeeds and how a disk request ends.  A disk write that fails may have written a
first part of its bytes.  Every write is noted in a log.

A file is known by its handle, which stands for the address of its `BOOTMON_FS_FILE`.
Assertions are off.
-/

namespace MuPlatform
namespace BootMonFs

/-! ## The firmware -/

/-- What the build fixes: the architecture and `PcdMaximumUnicodeStringLength`, where `0` means
no limit. -/
structure BuildConfig where
  arch : Arch
  maximumUnicodeStringLength : ℕ

/-- `EFI_BLOCK_IO_MEDIA`: a description fits in a block. -/
structure Media where
  blockSize : ℕ
  lastBlock : ℕ
  lowestAlignedLba : ℕ
  description_lt : sizeofHwImageDescription < blockSize
  blockSize_lt : blockSize < 2 ^ 32

/-- How the firmware answers the requests of a call, by their number in the call.  `torn` is
how many bytes of a write that fails reach the media. -/
structure Environment where
  allocate : ℕ → Bool
  readDisk : ℕ → EfiStatus
  writeDisk : ℕ → EfiStatus
  torn : ℕ → ℕ

/-- An environment in which every request succeeds. -/
def Environment.good : Environment where
  allocate _ := true
  readDisk _ := .success
  writeDisk _ := .success
  torn _ := 0

/-- What a write to the media carries. -/
inductive WriteKind
  | data | description
  deriving DecidableEq, Repr

/-- A `WriteDisk` request. -/
structure DiskWrite where
  kind : WriteKind
  address : ℕ
  bytes : List UInt8
  deriving DecidableEq

/-- The media's bytes, the writes so far, and the environment of the call with the number of
its requests so far. -/
structure Services where
  content : ByteStore
  log : List DiskWrite
  env : Environment
  requests : ℕ

namespace Services

/-- `AllocatePool` and its variants. -/
def allocatePool (s : Services) : Bool × Services :=
  (s.env.allocate s.requests, { s with requests := s.requests + 1 })

/-- `DiskIo->WriteDisk`. -/
def writeDisk (kind : WriteKind) (address : ℕ) (bytes : List UInt8) (s : Services) :
    EfiStatus × Services :=
  let status := s.env.writeDisk s.requests
  let written := if status.isError then bytes.take (s.env.torn s.requests) else bytes
  (status, { s with
    content := s.content.write address written
    log := s.log ++ [⟨kind, address, bytes⟩]
    requests := s.requests + 1 })

/-- What an allocation comes to. -/
lemma allocatePool_eq {s : Services} {ok : Bool} (h : s.env.allocate s.requests = ok) :
    s.allocatePool = (ok, { s with requests := s.requests + 1 }) := Prod.ext h rfl

/-- The status of `DiskIo->ReadDisk`; on success the bytes are those of the media. -/
def readDisk (s : Services) : EfiStatus × Services :=
  (s.env.readDisk s.requests, { s with requests := s.requests + 1 })

end Services

/-! ## Files -/

/-- `BOOTMON_FS_FILE_REGION`; `Size` is the length of the buffer. -/
structure FileRegion where
  offset : ℕ
  buffer : List UInt8
  deriving DecidableEq

def FileRegion.size (region : FileRegion) : ℕ := region.buffer.length

/-- The offset behind the region. -/
def FileRegion.ending (region : FileRegion) : ℕ := region.offset + region.size

/-- The three open modes `BootMonFsOpenFile` accepts. -/
inductive OpenMode
  | read | readWrite | readWriteCreate
  deriving DecidableEq, Repr

/-- `SIZE_OF_EFI_FILE_INFO`. -/
def sizeOfEfiFileInfo : ℕ := 80

/-- `EFI_FILE_DIRECTORY` in an `Attribute`. -/
def isDirectory (attributes : ℕ) : Bool := attributes.testBit 4

/-- `EFI_FILE_INFO` of an open file; `times` are the three `EFI_TIME`s. -/
structure FileInfo where
  size : ℕ
  fileSize : ℕ
  physicalSize : ℕ
  times : List UInt8
  attributes : ℕ
  fileName : FileName

/-- `BOOTMON_FS_FILE`. -/
structure File where
  handle : ℕ
  hwDescAddress : ℕ
  hwDescription : HwImageDescription
  info : Option FileInfo
  position : ℕ
  regionToFlush : List FileRegion
  openMode : OpenMode

namespace File

/-- The file `BootMonFsCreateFile` allocates. -/
def created (handle : ℕ) : File where
  handle := handle
  hwDescAddress := 0
  hwDescription := .zero
  info := none
  position := 0
  regionToFlush := []
  openMode := .read

/-- The file has been flushed to the media, `RegionCount > 0`. -/
def onDisk (f : File) : Bool := f.hwDescription.regionCount ≠ 0

def blockStart (f : File) : ℕ := f.hwDescription.blockStart.toNat
def blockEnd (f : File) : ℕ := f.hwDescription.blockEnd.toNat

/-- `HwDescription.Region[0].Size`. -/
def dataSize (f : File) : ℕ := (f.hwDescription.region 0).size.toNat

/-- The name `BootMonGetFileFromAsciiFileName` compares: that of `Info` while the file is open,
that of the description else. -/
def asciiName (f : File) : List UInt8 :=
  match f.info with
  | some info => info.fileName.chars
  | none => f.hwDescription.footer.name

/-- The sum of the sizes of the four regions, in a `UINT32`. -/
def regionSizes (f : File) : UInt32 :=
  (f.hwDescription.region 0).size + (f.hwDescription.region 1).size +
    (f.hwDescription.region 2).size + (f.hwDescription.region 3).size

/-- The loop of `BootMonFsGetImageLength` over the regions that wait to be flushed. -/
def addRegions : List FileRegion → UInt32 → UInt32
  | [], fileSize => fileSize
  | region :: regions, fileSize =>
      addRegions regions
        (if uint64 region.ending > fileSize.toNat then
          fileSize + UInt32.ofNat (uint64 region.ending) else fileSize)

/-- `BootMonFsGetImageLength`. -/
def imageLength (f : File) : UInt32 := addRegions f.regionToFlush f.regionSizes

/-- `BootMonFsGetPhysicalSize`; the product is one of `UINT32`s. -/
def physicalSize (media : Media) (f : File) : ℕ :=
  if f.onDisk then
    ((f.hwDescription.blockEnd - f.hwDescription.blockStart + 1) *
      UInt32.ofNat media.blockSize).toNat
  else 0

end File

/-! ## Volumes -/

/-- `BOOTMON_FS_INSTANCE`; `files` is the list linked to `RootFile`. -/
structure Volume where
  cfg : BuildConfig
  media : Media
  services : Services
  files : List File
  initialized : Bool
  nextHandle : ℕ

/-- The file behind a handle. -/
def lookup (handle : ℕ) (files : List File) : Option File :=
  files.find? fun f => f.handle = handle

/-- The list with the file `f` in place of the one it was. -/
def update (f : File) (files : List File) : List File :=
  files.map fun g => if g.handle = f.handle then f else g

/-- `GetNextNode` from the file with the given handle. -/
def nextFile (handle : ℕ) : List File → Option File
  | [] => none
  | f :: files => if f.handle = handle then files.head? else nextFile handle files

/-- `BootMonGetFileFromAsciiFileName`. -/
def fileFromAsciiFileName (name : FileName) (files : List File) : Option File :=
  files.find? fun f => f.asciiName = name.chars

/-- The volume with the outcome of work on one of its files. -/
def Volume.put (v : Volume) (f : File) (s : Services) : Volume :=
  { v with files := update f v.files, services := s }

/-- `BootMonFsCreateFile`. -/
def bootMonFsCreateFile (v : Volume) : Option File × Volume :=
  match v.services.allocatePool with
  | (true, s) =>
      (some (.created v.nextHandle), { v with services := s, nextHandle := v.nextHandle + 1 })
  | (false, s) => (none, { v with services := s })

end BootMonFs

end MuPlatform
