import MuPlatform.BdsLib.DevicePath
import MuPlatform.BdsLib.Tftp
import MuPlatform.Efi.Arch
import MuPlatform.FdtPlatform.Install

/-!
# Loading an image

`BdsLoadImageAndUpdateDevicePath` (`BdsFilePath.c`) behind the connection of the device path: the
first loader that supports what is left of the path loads the file into pages, from a file system,
a firmware volume, memory, a PXE server or a TFTP server.

An answer type for each loader says how the firmware responds.  What `InstallFdt` takes for granted
of a load is `LoadReported`: the pages of the file where it succeeds, no memory where it fails.  A
download never frees the pools in `unfreed`; but for these, `loadReported_iff` says that all loaders
keep to it unless they go one of the ways in `Strands`.
-/

namespace MuPlatform
namespace BdsLib

open FdtPlatform (FdtResource pagesOf grantPages freePages leaves_grantPages leaves_freePages)

/-! ## What a call holds -/

/-- What a loader opens. -/
inductive FileHandle
  | protocol
  | rootDirectory
  | file
  deriving DecidableEq, Repr

/-- `*Image`, `*ImageSize` where it has been set, what the source has delivered, memory, the memory
that was allocated and freed, and what was opened and closed. -/
structure LoadState where
  image : ℕ
  imageSize : Option ℕ
  received : Option (List UInt8)
  mem : ByteStore
  ledger : List (Entry FdtResource)
  handles : List (Entry FileHandle)

namespace LoadState

def log (s : LoadState) (entries : List (Entry FdtResource)) : LoadState :=
  { s with ledger := s.ledger ++ entries }

def opens (s : LoadState) (entries : List (Entry FileHandle)) : LoadState :=
  { s with handles := s.handles ++ entries }

/-- The state with `*ImageSize` set. -/
def sized (s : LoadState) (size : ℕ) : LoadState :=
  { s with imageSize := some size }

/-- The state with an image in pages that were allocated for it. -/
def place (s : LoadState) (image pages : ℕ) (bytes : List UInt8) : LoadState :=
  { s with image := image, received := some bytes, mem := s.mem.write image bytes }.log
    (grantPages ⟨image, pages⟩)

/-- The state a call starts in. -/
def start (image : ℕ) (mem : ByteStore) : LoadState := ⟨image, none, none, mem, [], []⟩

end LoadState

/-- `AllocatePages` by the number of the request, with its type, the number of pages and the
address in `*Image`. -/
abbrev PageAnswers := ℕ → AllocateType → ℕ → ℕ → Except EfiError ℕ

/-- `AllocatePages`, and again anywhere where there is no memory at the address. -/
def allocateImage (answers : PageAnswers) (type : AllocateType) (pages image : ℕ) :
    Except EfiError ℕ :=
  match answers 0 type pages image with
  | .error status =>
      if status.val = .outOfResources ∧ type ≠ .anyPages then answers 1 .anyPages pages image
      else .error status
  | .ok base => .ok base

/-- What a read into a buffer of `size` bytes does: it delivers bytes and returns a status. -/
structure ReadAnswer (size : ℕ) where
  status : Except EfiError Unit
  bytes : List UInt8
  fits : bytes.length ≤ size

def statusOf : Except EfiError Unit → EfiStatus
  | .ok () => .success
  | .error status => status.val

/-! ## The loaders -/

/-- How a file system answers. -/
structure FileSystemAnswers where
  openProtocol : Except EfiError Unit
  openVolume : Except EfiError Unit
  openFile : Except EfiError Unit
  /-- The pool for `FileInfo`. -/
  allocatePool : Option ℕ
  /-- The second `GetInfo` into the pool, with `FileSize`. -/
  getInfo : Option ℕ → Except EfiError ℕ
  allocatePages : PageAnswers
  read : (size : ℕ) → ReadAnswer size

/-- The part of `BdsFileSystemLoadImage` behind the size of the file, without the exit. -/
def readWholeFile (a : FileSystemAnswers) (type : AllocateType) (size : ℕ) (s : LoadState) :
    EfiStatus × LoadState :=
  let s := s.sized size
  match allocateImage a.allocatePages type (efiSizeToPages size) s.image with
  | .error status => (status.val, s)
  | .ok image =>
      (statusOf (a.read size).status, s.place image (efiSizeToPages size) (a.read size).bytes)

/-- `BdsFileSystemLoadImage`; `none` where it reads `FileInfo` at `NULL`. -/
def bdsFileSystemLoadImage (arch : Arch) (a : FileSystemAnswers) (type : AllocateType)
    (s : LoadState) : Option (EfiStatus × LoadState) :=
  match a.openProtocol with
  | .error status => some (status.val, s)
  | .ok () =>
    let s := s.opens [.granted .protocol]
    match a.openVolume with
    | .error status => some (status.val, s.opens [.released .protocol])
    | .ok () =>
      let s := s.opens [.granted .rootDirectory]
      match a.openFile with
      | .error status => some (status.val, s.opens [.released .protocol])
      | .ok () =>
        let s := s.opens [.granted .file]
        match a.allocatePool, a.getInfo a.allocatePool with
        | none, .error status => some (status.val, s.opens [.released .file, .released .protocol])
        | none, .ok _ => none
        | some fileInfo, .error status =>
            some (status.val, (s.log [.granted (.pool fileInfo)]).opens
              [.released .file, .released .protocol])
        | some fileInfo, .ok fileSize =>
          match readWholeFile a type (arch.uintn fileSize)
              (s.log [.granted (.pool fileInfo), .released (.pool fileInfo)]) with
          | (status, s) => some (status, s.opens [.released .file, .released .protocol])

/-- How a firmware volume answers. -/
structure FirmwareVolumeAnswers where
  handleProtocol : Except EfiError Unit
  /-- The PE32 section in a pool. -/
  readSection : Except EfiError (ℕ × List UInt8)
  /-- The size of the raw file. -/
  readFileSize : Except EfiError ℕ
  allocatePages : PageAnswers
  readFile : (size : ℕ) → ReadAnswer size

/-- `BdsFirmwareVolumeLoadImage`. -/
def bdsFirmwareVolumeLoadImage (a : FirmwareVolumeAnswers) (type : AllocateType) (s : LoadState) :
    EfiStatus × LoadState :=
  match a.handleProtocol with
  | .error status => (status.val, s)
  | .ok () =>
    match a.readSection with
    | .ok (imageBuffer, bytes) =>
      let s := (s.sized bytes.length).log [.granted (.pool imageBuffer)]
      match allocateImage a.allocatePages type (efiSizeToPages bytes.length) s.image with
      | .error status => (status.val, s)
      | .ok image =>
          (.success, (s.place image (efiSizeToPages bytes.length) bytes).log
            [.released (.pool imageBuffer)])
    | .error _ =>
      -- a raw file, since there is no such section
      match a.readFileSize with
      | .error status => (status.val, s)
      | .ok size =>
        let s := s.sized size
        match allocateImage a.allocatePages type (efiSizeToPages size) s.image with
        | .error status => (status.val, s)
        | .ok image =>
          (statusOf (a.readFile size).status,
            (s.place image (efiSizeToPages size) (a.readFile size).bytes).sized
              (a.readFile size).bytes.length)

/-- `BdsMemoryMapLoadImage`, on the memory between the addresses of its node. -/
def bdsMemoryMapLoadImage (arch : Arch) (startingAddress endingAddress : UInt64)
    (answers : PageAnswers) (type : AllocateType) (s : LoadState) : EfiStatus × LoadState :=
  let size := arch.uintn (endingAddress - startingAddress).toNat
  if size = 0 then (.invalidParameter, s)
  else
    match allocateImage answers type (efiSizeToPages size) s.image with
    | .error status => (status.val, s)
    | .ok image =>
        (.success, (s.place image (efiSizeToPages size)
          (s.mem.read (arch.uintn startingAddress.toNat) size)).sized size)

/-- How a PXE server answers an attempt. -/
structure PxeAttempt where
  handleProtocol : Except EfiError Unit
  /-- `LoadFile` without a buffer, with the size. -/
  loadFileSize : Except EfiError Unit × ℕ
  allocatePages : Except EfiError ℕ
  /-- `LoadFile` into the pages. -/
  loadFile : (size : ℕ) → ReadAnswer size
  /-- The `LocateProtocol` for the protocol that is stopped. -/
  locateProtocol : Except EfiError Unit

/-- `LoadFile` into the pages at `image`. -/
def pxeLoadFile (a : PxeAttempt) (image size : ℕ) (s : LoadState) : EfiStatus × LoadState :=
  let s := s.place image (efiSizeToPages size) (a.loadFile size).bytes
  match (a.loadFile size).status with
  | .error status => (status.val, s)
  | .ok () => (.success, s.sized (a.loadFile size).bytes.length)

/-- The exit of `BdsPxeLoadImage`, which goes on with `again` where PXE was already started. -/
def pxeExit (a : PxeAttempt) (again : LoadState → Option (EfiStatus × LoadState)) :
    EfiStatus × LoadState → Option (EfiStatus × LoadState)
  | (status, s) =>
    if status = .alreadyStarted then
      match a.locateProtocol with
      | .error status => some (status.val, s)
      | .ok () => again s
    else some (status, s)

/-- `BdsPxeLoadImage`; `none` where it starts again after the last attempt. -/
def bdsPxeLoadImage : List PxeAttempt → LoadState → Option (EfiStatus × LoadState)
  | [], _ => none
  | a :: attempts, s =>
    match a.handleProtocol with
    | .error status => some (status.val, s)
    | .ok () =>
      if statusOf a.loadFileSize.1 = .bufferTooSmall then
        match a.allocatePages with
        | .error status => some (status.val, s)
        | .ok image =>
            pxeExit a (bdsPxeLoadImage attempts) (pxeLoadFile a image a.loadFileSize.2 s)
      else pxeExit a (bdsPxeLoadImage attempts) (statusOf a.loadFileSize.1, s)

/-- What the ledger of a download says about memory. -/
def pageEntries : Entry PageRun → List (Entry FdtResource)
  | .granted run => grantPages run
  | .withheld _ => []
  | .released run => freePages run

/-- The state of a download in terms of the state of the load that it is part of. -/
def LoadState.downloaded (s : LoadState) (t : TftpState) : LoadState where
  image := t.image
  imageSize := t.imageSize
  received := t.received
  mem := t.mem
  ledger := s.ledger ++ t.ledger.flatMap pageEntries
  handles := s.handles

/-- How the firmware answers a download, with the pools: the text of the path, its ASCII form, the
reply that `GetInfo` hands out, the options that `ParseOptions` does, and the context. -/
structure TftpAnswers where
  env : TftpEnvironment
  convertDevicePathToText : Option ℕ
  asciiFilePath : Option ℕ
  packet : Option ℕ
  tableOfOptions : ℕ
  tftpContext : ℕ

namespace TftpAnswers

variable (a : TftpAnswers)

/-- The pools that are freed behind the label `Error`, and those that no one frees. -/
def freed : List ℕ :=
  a.asciiFilePath.toList ++ if a.env.allocateContext then [a.tftpContext] else []

def forgotten : List ℕ := a.convertDevicePathToText.toList ++ a.packet.toList

/-- What is allocated between the configuration and the loop. -/
def taken : List (Entry FdtResource) :=
  (a.forgotten ++ a.freed).map (fun p => .granted (.pool p)) ++
    match a.env.getInfo, a.env.parseOptions with
    | .ok (), .ok _ => [.granted (.pool a.tableOfOptions), .released (.pool a.tableOfOptions)]
    | _, _ => []

/-- What a call never frees. -/
def unfreed (staticIpAddress : Bool) : Multiset ℕ :=
  match configureTftp a.env staticIpAddress with
  | .error _ => 0
  | .ok () => a.forgotten

end TftpAnswers

/-- The entries for pools that are freed. -/
def freePools (addresses : List ℕ) : List (Entry FdtResource) :=
  addresses.map fun p => .released (.pool p)

/-- `BdsTftpLoadImage` in terms of the state of a load; `none` where it reads the text of the path
at `NULL`.  Three rounds are enough for its loop. -/
def tftpLoad (a : TftpAnswers) (staticIpAddress : Bool) (type : AllocateType) (s : LoadState) :
    Option (EfiStatus × LoadState) :=
  match configureTftp a.env staticIpAddress, a.convertDevicePathToText with
  | .ok (), none => none
  | .ok (), some _ =>
      (bdsTftpLoadImage a.env staticIpAddress type s.image s.mem 3).map fun (status, t) =>
        (status, ((s.log a.taken).downloaded t).log (freePools a.freed))
  | .error _, _ =>
      (bdsTftpLoadImage a.env staticIpAddress type s.image s.mem 3).map fun (status, t) =>
        (status, s.downloaded t)

/-! ## The choice of a loader -/

/-- The nodes that the loaders look for, by type and subtype. -/
def mediaFilePathNode : UInt8 × UInt8 := (0x04, 0x04)
def mediaFwFileNode : UInt8 × UInt8 := (0x04, 0x06)
def hwMemMapNode : UInt8 × UInt8 := (0x01, 0x03)
def msgIPv4Node : UInt8 × UInt8 := (0x03, 0x0C)
def msgIPv6Node : UInt8 × UInt8 := (0x03, 0x0D)

/-- `IS_DEVICE_PATH_NODE` of the first node of a path. -/
def startsWith (path : List DevicePathNode) (kind : UInt8 × UInt8) : Bool :=
  match path with
  | [] => false
  | node :: _ => node.type = kind.1 ∧ node.subType = kind.2

/-- A device path that has been connected: its nodes, those that remain, and the protocols that the
handle has. -/
structure ConnectedPath where
  devicePath : List DevicePathNode
  remaining : List DevicePathNode
  simpleFileSystem : Bool
  pxeBaseCode : Bool
  devicePathProtocol : Bool
  mtftp4ServiceBinding : Bool

/-- The entries of `FileLoaders`. -/
inductive FileLoader
  | fileSystem
  | firmwareVolume
  | memoryMap
  | pxe
  | tftp
  deriving DecidableEq, Repr

/-- `FileLoaders`, in their order. -/
def fileLoaders : List FileLoader := [.fileSystem, .firmwareVolume, .memoryMap, .pxe, .tftp]

/-- `Support`. -/
def FileLoader.support (path : ConnectedPath) : FileLoader → Bool
  | fileSystem => path.simpleFileSystem && startsWith path.remaining mediaFilePathNode
  | firmwareVolume => startsWith path.remaining mediaFwFileNode
  | memoryMap => startsWith path.devicePath hwMemMapNode || startsWith path.remaining hwMemMapNode
  | pxe => path.remaining.isEmpty && path.pxeBaseCode
  | tftp =>
      (startsWith path.remaining msgIPv4Node || startsWith path.remaining msgIPv6Node) &&
        startsWith path.remaining.tail mediaFilePathNode && path.devicePathProtocol &&
        path.mtftp4ServiceBinding

/-- How the firmware and the server answer whichever loader is chosen. -/
structure LoadAnswers where
  fileSystem : FileSystemAnswers
  firmwareVolume : FirmwareVolumeAnswers
  memoryMap : PageAnswers
  pxe : List PxeAttempt
  tftp : TftpAnswers

/-- A number in the data of a node, at an offset behind its header. -/
def DevicePathNode.field (node : DevicePathNode) (offset size : ℕ) : ℕ :=
  ByteStore.leNat ((node.data.drop offset).take size)

/-- The node `BdsMemoryMapLoadImage` takes: the first that remains, or else that of the path. -/
def memMapNode (path : ConnectedPath) : Option DevicePathNode :=
  if startsWith path.remaining hwMemMapNode then path.remaining.head? else path.devicePath.head?

/-- `LoadImage` of a loader.  `StartingAddress` and `EndingAddress` lie behind the memory type in a
`MEMMAP_DEVICE_PATH`, and `StaticIpAddress` behind addresses, ports and protocol in an
`IPv4_DEVICE_PATH`. -/
def FileLoader.loadImage (arch : Arch) (path : ConnectedPath) (a : LoadAnswers)
    (type : AllocateType) (s : LoadState) : FileLoader → Option (EfiStatus × LoadState)
  | fileSystem => bdsFileSystemLoadImage arch a.fileSystem type s
  | firmwareVolume => some (bdsFirmwareVolumeLoadImage a.firmwareVolume type s)
  | memoryMap => (memMapNode path).map fun node =>
      bdsMemoryMapLoadImage arch (.ofNat (node.field 4 8)) (.ofNat (node.field 12 8)) a.memoryMap
        type s
  | pxe => bdsPxeLoadImage a.pxe s
  | tftp => path.remaining.head?.bind fun node =>
      tftpLoad a.tftp (node.field 14 1 ≠ 0) type s

/-- `BdsLoadImageAndUpdateDevicePath` behind `BdsConnectAndUpdateDevicePath`. -/
def bdsLoadImage (arch : Arch) (path : ConnectedPath) (a : LoadAnswers) (type : AllocateType)
    (s : LoadState) : Option (EfiStatus × LoadState) :=
  match fileLoaders.find? (·.support path) with
  | none => some (.unsupported, s)
  | some loader => loader.loadImage arch path a type s

/-! ## What is taken for granted -/

/-- The pools at some addresses. -/
def poolsOf (addresses : Multiset ℕ) : Multiset FdtResource := addresses.map .pool

/-- The outcome of a load says what happened: a success has put what was received, with its size,
into pages of its own; anything else is an error, and no memory is left allocated.  Some pools may
never be freed. -/
structure LoadReported (unfreed : Multiset ℕ) (status : EfiStatus) (t : LoadState) : Prop where
  success : status = .success → ∃ file, t.received = some file ∧ t.imageSize = some file.length ∧
    t.mem.read t.image file.length = file ∧
    Ledger.Leaves 0 t.ledger (poolsOf unfreed + pagesOf ⟨t.image, efiSizeToPages file.length⟩)
  otherwise : status ≠ .success →
    status.isError = true ∧ Ledger.Leaves 0 t.ledger (poolsOf unfreed)

/-- The pool of `FileInfo` or the pages of a file that cannot be read are not freed, or a file is
shorter than its information says. -/
def FileSystemAnswers.Strands (arch : Arch) (a : FileSystemAnswers) (type : AllocateType)
    (image : ℕ) : Prop :=
  a.openProtocol = .ok () ∧ a.openVolume = .ok () ∧ a.openFile = .ok () ∧
    ∃ fileInfo, a.allocatePool = some fileInfo ∧
      match a.getInfo (some fileInfo) with
      | .error _ => True
      | .ok fileSize =>
        let size := arch.uintn fileSize
        (allocateImage a.allocatePages type (efiSizeToPages size) image).toBool = true ∧
          match (a.read size).status with
          | .error _ => size ≠ 0
          | .ok () => (a.read size).bytes.length ≠ size

/-- The section is not freed where there are no pages for it, nor are the pages of a raw file that
cannot be read, or that turns out shorter by pages. -/
def FirmwareVolumeAnswers.Strands (a : FirmwareVolumeAnswers) (type : AllocateType) (image : ℕ) :
    Prop :=
  a.handleProtocol = .ok () ∧
    match a.readSection, a.readFileSize with
    | .ok (_, bytes), _ =>
        (allocateImage a.allocatePages type (efiSizeToPages bytes.length) image).toBool = false
    | .error _, .error _ => False
    | .error _, .ok size =>
        (allocateImage a.allocatePages type (efiSizeToPages size) image).toBool = true ∧
          match (a.readFile size).status with
          | .error _ => size ≠ 0
          | .ok () => efiSizeToPages (a.readFile size).bytes.length ≠ efiSizeToPages size

/-- PXE is stopped, and the load starts again. -/
def PxeAttempt.StartsAgain (a : PxeAttempt) (status : EfiStatus) : Prop :=
  status = .alreadyStarted ∧ a.locateProtocol = .ok ()

/-- The first `LoadFile` of some attempt succeeds, or its second one fails with pages allocated or
loads a file that is shorter by pages. -/
def PxeStrands : List PxeAttempt → Prop
  | [] => False
  | a :: attempts =>
    a.handleProtocol = .ok () ∧
      match a.loadFileSize with
      | (.ok (), _) => True
      | (.error status, size) =>
        if status.val = .bufferTooSmall then
          a.allocatePages.toBool = true ∧
            match (a.loadFile size).status with
            | .ok () => efiSizeToPages (a.loadFile size).bytes.length ≠ efiSizeToPages size
            | .error status => size ≠ 0 ∨ (a.StartsAgain status.val ∧ PxeStrands attempts)
        else a.StartsAgain status.val ∧ PxeStrands attempts

/-- A round of the loop of `BdsTftpLoadImage` receives a file that is shorter by pages than its
buffer. -/
def RoundStrands (env : TftpEnvironment) (type : AllocateType) : ℕ → ℕ → ℕ → ℕ → Prop
  | 0, _, _, _ => False
  | rounds + 1, round, tftpBufferSize, image =>
    tftpBufferSize ≤ maxTftpFileSize ∧
      match env.allocatePages round type (efiSizeToPages tftpBufferSize) image with
      | .error _ => False
      | .ok image =>
        match env.readFile round tftpBufferSize with
        | .received file _ => efiSizeToPages file.length ≠ efiSizeToPages tftpBufferSize
        | .failed status _ _ => status.val = .bufferTooSmall ∧
            RoundStrands env type rounds (round + 1) (nextBufferSize tftpBufferSize) image

/-- The server reports a size that leaves the loop no round, or sends a file that is shorter by
pages than the buffer for it. -/
def TftpStrands (env : TftpEnvironment) (staticIpAddress : Bool) (type : AllocateType)
    (image : ℕ) : Prop :=
  ReportedTooLarge env staticIpAddress ∨
    (configureTftp env staticIpAddress = .ok () ∧ env.allocateContext = true ∧
      RoundStrands env type 3 0 (firstBufferSize env) image)

/-- The ways in which a loader does not keep to `LoadReported`. -/
def FileLoader.Strands (arch : Arch) (path : ConnectedPath) (a : LoadAnswers) (type : AllocateType)
    (image : ℕ) : FileLoader → Prop
  | fileSystem => a.fileSystem.Strands arch type image
  | firmwareVolume => a.firmwareVolume.Strands type image
  | memoryMap => False
  | pxe => PxeStrands a.pxe
  | tftp => ∃ node, path.remaining.head? = some node ∧
      TftpStrands a.tftp.env (node.field 14 1 ≠ 0) type image

/-- The loader that is chosen does not keep to `LoadReported`. -/
def Strands (arch : Arch) (path : ConnectedPath) (a : LoadAnswers) (type : AllocateType)
    (image : ℕ) : Prop :=
  ∃ loader, fileLoaders.find? (·.support path) = some loader ∧
    loader.Strands arch path a type image

/-- The pools that the loader that is chosen never frees, those of a download. -/
def unfreed (path : ConnectedPath) (a : LoadAnswers) : Multiset ℕ :=
  match fileLoaders.find? (·.support path), path.remaining.head? with
  | some .tftp, some node => a.tftp.unfreed (node.field 14 1 ≠ 0)
  | _, _ => 0

section Reported

variable {status : EfiStatus} {s t : LoadState} {held : Multiset FdtResource} {file : List UInt8}
  {image pages size : ℕ} {unfreed : Multiset ℕ}

lemma efiSizeToPages_mono {m n : ℕ} (h : m ≤ n) : efiSizeToPages m ≤ efiSizeToPages n := by
  unfold efiSizeToPages pageBytes
  split <;> split <;> omega

@[simp] lemma poolsOf_zero : poolsOf 0 = 0 := rfl

@[simp] lemma poolsOf_cons (p : ℕ) : poolsOf (p ::ₘ unfreed) = .pool p ::ₘ poolsOf unfreed :=
  Multiset.map_cons _ _ _

lemma LoadReported.failed (herror : status.isError = true)
    (hleaves : Ledger.Leaves 0 t.ledger (poolsOf unfreed)) : LoadReported unfreed status t :=
  ⟨fun h => absurd h (EfiStatus.ne_success_of_isError herror), fun _ => ⟨herror, hleaves⟩⟩

/-- An error is reported if nothing is left. -/
lemma loadReported_error_iff (herror : status.isError = true)
    (hleaves : Ledger.Leaves 0 t.ledger held) :
    LoadReported unfreed status t ↔ held = poolsOf unfreed := by
  constructor
  · intro h
    exact hleaves.unique (h.otherwise (EfiStatus.ne_success_of_isError herror)).2
  · rintro rfl
    exact .failed herror hleaves

/-- Pages beside pools are those of one run. -/
lemma add_pagesOf_cancel {base n : ℕ} (hle : n ≤ pages)
    (h : held + pagesOf ⟨base, pages⟩ = poolsOf unfreed + pagesOf ⟨base, n⟩) :
    pages = n ∧ held = poolsOf unfreed := by
  have hpages : pages = n := by
    by_contra hne
    have hmem : FdtResource.pages ⟨base, pages⟩ ∈ poolsOf unfreed + pagesOf ⟨base, n⟩ := by
      rw [← h]
      refine Multiset.mem_add.mpr (.inr ?_)
      unfold FdtPlatform.pagesOf
      rw [if_neg (show pages ≠ 0 by omega)]
      exact Multiset.mem_singleton_self _
    rcases Multiset.mem_add.mp hmem with hpool | hrun
    · obtain ⟨p, -, hp⟩ := Multiset.mem_map.mp hpool
      cases hp
    · unfold FdtPlatform.pagesOf at hrun
      split at hrun
      · cases hrun
      · injection Multiset.mem_singleton.mp hrun with hrun
        injection hrun with _ hrun
        exact hne hrun
  subst hpages
  exact ⟨rfl, add_right_cancel h⟩

/-- A success is reported if its pages are those of the file and nothing else is left. -/
lemma loadReported_success_iff (hreceived : t.received = some file)
    (himage : t.mem.read t.image file.length = file) (hsize : t.imageSize = some size)
    (hfits : efiSizeToPages file.length ≤ pages)
    (hleaves : Ledger.Leaves 0 t.ledger (held + pagesOf ⟨t.image, pages⟩)) :
    LoadReported unfreed .success t ↔
      held = poolsOf unfreed ∧ size = file.length ∧ pages = efiSizeToPages file.length := by
  constructor
  · intro h
    obtain ⟨file', hreceived', hsize', -, hleaves'⟩ := h.success rfl
    rw [hreceived] at hreceived'
    obtain rfl := Option.some.inj hreceived'
    rw [hsize] at hsize'
    obtain ⟨hpages, hheld⟩ := add_pagesOf_cancel hfits (hleaves.unique hleaves')
    exact ⟨hheld, Option.some.inj hsize', hpages⟩
  · rintro ⟨rfl, rfl, rfl⟩
    exact ⟨fun _ => ⟨file, hreceived, hsize, himage, hleaves⟩, fun h => absurd rfl h⟩

/-- Freeing pools at the end. -/
lemma loadReported_freePools (freed : List ℕ) :
    LoadReported unfreed status (t.log (freePools freed)) ↔
      LoadReported (↑freed + unfreed) status t := by
  induction freed generalizing t with
  | nil =>
      have hsame : t.log (freePools []) = t := by
        cases t
        simp [LoadState.log, freePools]
      rw [hsame, Multiset.coe_nil, zero_add]
  | cons p freed ih =>
      have hsplit : t.log (freePools (p :: freed)) =
          (t.log [.released (.pool p)]).log (freePools freed) := by
        simp [LoadState.log, freePools]
      have hstep : ∀ pools : Multiset ℕ, LoadReported pools status (t.log [.released (.pool p)]) ↔
          LoadReported (p ::ₘ pools) status t := by
        intro pools
        have hledger : ∀ held, Ledger.Leaves 0 (t.log [.released (.pool p)]).ledger held ↔
            Ledger.Leaves 0 t.ledger (.pool p ::ₘ held) := fun held =>
          Ledger.Leaves.append_release_iff
        constructor <;> intro h
        · refine ⟨fun hsuccess => ?_, fun hne => ?_⟩
          · obtain ⟨file, hreceived, hsize, himage, hleaves⟩ := h.success hsuccess
            rw [hledger, ← Multiset.cons_add, ← poolsOf_cons] at hleaves
            exact ⟨file, hreceived, hsize, himage, hleaves⟩
          · obtain ⟨herror, hleaves⟩ := h.otherwise hne
            rw [hledger, ← poolsOf_cons] at hleaves
            exact ⟨herror, hleaves⟩
        · refine ⟨fun hsuccess => ?_, fun hne => ?_⟩
          · obtain ⟨file, hreceived, hsize, himage, hleaves⟩ := h.success hsuccess
            rw [poolsOf_cons, Multiset.cons_add, ← hledger] at hleaves
            exact ⟨file, hreceived, hsize, himage, hleaves⟩
          · obtain ⟨herror, hleaves⟩ := h.otherwise hne
            rw [poolsOf_cons, ← hledger] at hleaves
            exact ⟨herror, hleaves⟩
      rw [hsplit, ih, hstep, ← Multiset.cons_coe, Multiset.cons_add]

/-- An image in pages of its own. -/
lemma leaves_place (h : Ledger.Leaves 0 s.ledger held) (image pages : ℕ) (bytes : List UInt8) :
    Ledger.Leaves 0 (s.place image pages bytes).ledger (held + pagesOf ⟨image, pages⟩) :=
  h.append leaves_grantPages

lemma read_place (s : LoadState) (image pages : ℕ) (bytes : List UInt8) :
    (s.place image pages bytes).mem.read image bytes.length = bytes :=
  ByteStore.read_write_same

lemma toBool_ok {α β : Type} (a : α) : (Except.ok a : Except β α).toBool = true := rfl

lemma toBool_error {α β : Type} (b : β) : (Except.error b : Except β α).toBool = false := rfl

lemma efiSizeToPages_eq_zero : efiSizeToPages size = 0 ↔ size = 0 := by
  constructor
  · intro hzero
    by_contra hne
    have hpos := efiSizeToPages_pos (Nat.pos_of_ne_zero hne)
    omega
  · rintro rfl
    rfl

lemma held_add_pagesOf {run : PageRun} : held + pagesOf run = 0 ↔ held = 0 ∧ run.pages = 0 := by
  rw [← FdtPlatform.pagesOf_eq_zero, ← Multiset.card_eq_zero, Multiset.card_add,
    Nat.add_eq_zero_iff, Multiset.card_eq_zero, Multiset.card_eq_zero]

/-- What is opened and closed does not matter here. -/
lemma loadReported_opens (entries : List (Entry FileHandle)) :
    LoadReported unfreed status (t.opens entries) ↔ LoadReported unfreed status t :=
  ⟨fun h => ⟨h.success, h.otherwise⟩, fun h => ⟨h.success, h.otherwise⟩⟩

/-- A load that could not read its source is reported if its pages are none. -/
lemma loadReported_place_error (hleaves : Ledger.Leaves 0 s.ledger 0) (error : EfiError)
    (image size : ℕ) (bytes : List UInt8) :
    LoadReported 0 error.val (s.place image (efiSizeToPages size) bytes) ↔ size = 0 := by
  rw [loadReported_error_iff error.property (leaves_place hleaves image _ bytes), zero_add,
    poolsOf_zero, FdtPlatform.pagesOf_eq_zero]
  exact efiSizeToPages_eq_zero

/-- A load with pages for `size` bytes, that reads fewer and sets `*ImageSize` to `n`. -/
lemma loadReported_place_success (hleaves : Ledger.Leaves 0 s.ledger held) (image : ℕ)
    {bytes : List UInt8} (hfits : bytes.length ≤ size) (n : ℕ) :
    LoadReported 0 .success ((s.place image (efiSizeToPages size) bytes).sized n) ↔
      held = 0 ∧ n = bytes.length ∧ efiSizeToPages size = efiSizeToPages bytes.length :=
  loadReported_success_iff rfl (read_place s image (efiSizeToPages size) bytes) rfl
    (efiSizeToPages_mono hfits) (leaves_place hleaves image (efiSizeToPages size) bytes)

end Reported

/-! ## Each loader -/

section Loaders

variable {status : EfiStatus} {s t : LoadState} {held : Multiset FdtResource}
  {arch : Arch} {type : AllocateType} {image size : ℕ} {mem : ByteStore} {unfreed : Multiset ℕ}

lemma readWholeFile_reported (a : FileSystemAnswers) (hleaves : Ledger.Leaves 0 s.ledger 0) :
    LoadReported 0 (readWholeFile a type size s).1 (readWholeFile a type size s).2 ↔
      ¬ ((allocateImage a.allocatePages type (efiSizeToPages size) s.image).toBool = true ∧
        match (a.read size).status with
        | .error _ => size ≠ 0
        | .ok () => (a.read size).bytes.length ≠ size) := by
  have hrun : readWholeFile a type size s =
      match allocateImage a.allocatePages type (efiSizeToPages size) s.image with
      | .error status => (status.val, s.sized size)
      | .ok image => (statusOf (a.read size).status,
          (s.sized size).place image (efiSizeToPages size) (a.read size).bytes) := rfl
  have hsized : Ledger.Leaves 0 (s.sized size).ledger 0 := hleaves
  rw [hrun]
  cases hpages : allocateImage a.allocatePages type (efiSizeToPages size) s.image with
  | error error =>
      rw [loadReported_error_iff error.property hsized]
      simp [toBool_error]
  | ok base =>
      rw [toBool_ok]
      cases hread : (a.read size).status with
      | error error =>
          rw [statusOf, loadReported_place_error hsized]
          simp
      | ok =>
          have h := loadReported_place_success hsized base (a.read size).fits size
          refine h.trans ⟨?_, fun hnot => ?_⟩
          · rintro ⟨-, heq, -⟩ ⟨-, hne⟩
            exact hne heq.symm
          · have heq : (a.read size).bytes.length = size := by
              by_contra hne
              exact hnot ⟨rfl, hne⟩
            exact ⟨rfl, heq.symm, by rw [heq]⟩

/-- A file system keeps to `LoadReported` but for the pool and the pages that it strands. -/
lemma fileSystem_reported {a : FileSystemAnswers}
    (hrun : bdsFileSystemLoadImage arch a type (.start image mem) = some (status, t)) :
    LoadReported 0 status t ↔ ¬ a.Strands arch type image := by
  have hstart : Ledger.Leaves (0 : Multiset FdtResource) [] 0 := rfl
  have failed : ∀ (error : EfiError) (u : LoadState), u.ledger = [] →
      LoadReported 0 error.val u := by
    intro error u hu
    exact .failed error.property (hu ▸ hstart)
  unfold bdsFileSystemLoadImage at hrun
  unfold FileSystemAnswers.Strands
  cases hprotocol : a.openProtocol with
  | error error =>
      simp only [hprotocol, Option.some.injEq, Prod.mk.injEq] at hrun
      obtain ⟨rfl, rfl⟩ := hrun
      simpa using failed error _ rfl
  | ok =>
  cases hvolume : a.openVolume with
  | error error =>
      simp only [hprotocol, hvolume, Option.some.injEq, Prod.mk.injEq] at hrun
      obtain ⟨rfl, rfl⟩ := hrun
      simpa using failed error _ rfl
  | ok =>
  cases hfile : a.openFile with
  | error error =>
      simp only [hprotocol, hvolume, hfile, Option.some.injEq, Prod.mk.injEq] at hrun
      obtain ⟨rfl, rfl⟩ := hrun
      simpa using failed error _ rfl
  | ok =>
  cases hpool : a.allocatePool with
  | none =>
      cases hinfo : a.getInfo none with
      | error error =>
          simp only [hprotocol, hvolume, hfile, hpool, hinfo, Option.some.injEq,
            Prod.mk.injEq] at hrun
          obtain ⟨rfl, rfl⟩ := hrun
          simpa using failed error _ rfl
      | ok size => simp [hprotocol, hvolume, hfile, hpool, hinfo] at hrun
  | some fileInfo =>
      cases hinfo : a.getInfo (some fileInfo) with
      | error error =>
          simp only [hprotocol, hvolume, hfile, hpool, hinfo, Option.some.injEq,
            Prod.mk.injEq] at hrun
          obtain ⟨rfl, rfl⟩ := hrun
          have hleaves : Ledger.Leaves (0 : Multiset FdtResource)
              [.granted (.pool fileInfo)] (.pool fileInfo ::ₘ 0) := Ledger.Leaves.grant
          rw [loadReported_opens, loadReported_error_iff error.property hleaves]
          simp [hinfo]
      | ok size =>
          simp only [hprotocol, hvolume, hfile, hpool, hinfo, Option.some.injEq,
            Prod.mk.injEq] at hrun
          obtain ⟨rfl, rfl⟩ := hrun
          have hleaves : Ledger.Leaves (0 : Multiset FdtResource)
              [.granted (.pool fileInfo), .released (.pool fileInfo)] 0 :=
            Ledger.Leaves.grant.append Ledger.Leaves.release
          rw [loadReported_opens, readWholeFile_reported a hleaves]
          simp [hinfo, LoadState.start, LoadState.log, LoadState.opens]

/-- What a file system loader opens it closes, but for the root directory. -/
theorem fileSystem_handles {a : FileSystemAnswers}
    (hrun : bdsFileSystemLoadImage arch a type (.start image mem) = some (status, t)) :
    Ledger.Leaves 0 t.handles
      (if a.openProtocol = .ok () ∧ a.openVolume = .ok () then {.rootDirectory} else 0) := by
  have hread : ∀ size s, (readWholeFile a type size s).2.handles = s.handles := by
    intro size s
    unfold readWholeFile
    dsimp only
    split <;> rfl
  unfold bdsFileSystemLoadImage at hrun
  dsimp only at hrun
  split at hrun
  · next error hprotocol =>
    obtain ⟨rfl, rfl⟩ := Prod.mk.inj (Option.some.inj hrun)
    simp [hprotocol, LoadState.start, Ledger.Leaves]
  · next hprotocol =>
  split at hrun
  · next error hvolume =>
    obtain ⟨rfl, rfl⟩ := Prod.mk.inj (Option.some.inj hrun)
    simp [hvolume, LoadState.start, LoadState.opens, Ledger.Leaves]
  · next hvolume =>
  rw [if_pos ⟨hprotocol, hvolume⟩]
  have hopen : Ledger.Leaves (0 : Multiset FileHandle) [.granted .protocol, .granted .rootDirectory]
      {.rootDirectory, .protocol} := rfl
  have hclosed : Ledger.Leaves {FileHandle.rootDirectory, .protocol} [.released .protocol]
      {.rootDirectory} := by
    simp [Ledger.Leaves]
  have hfile : Ledger.Leaves {FileHandle.rootDirectory, .protocol}
      [.granted .file, .released .file, .released .protocol] {.rootDirectory} := by
    simp [Ledger.Leaves]
  split at hrun
  · obtain ⟨rfl, rfl⟩ := Prod.mk.inj (Option.some.inj hrun)
    exact hopen.append hclosed
  · have hall := hopen.append hfile
    split at hrun
    · obtain ⟨rfl, rfl⟩ := Prod.mk.inj (Option.some.inj hrun)
      exact hall
    · cases hrun
    · obtain ⟨rfl, rfl⟩ := Prod.mk.inj (Option.some.inj hrun)
      exact hall
    · obtain ⟨rfl, rfl⟩ := Prod.mk.inj (Option.some.inj hrun)
      rw [LoadState.opens, hread]
      exact hall

/-- A firmware volume keeps to `LoadReported` but for the section and the pages that it strands. -/
lemma firmwareVolume_reported (a : FirmwareVolumeAnswers) :
    LoadReported 0 (bdsFirmwareVolumeLoadImage a type (.start image mem)).1
        (bdsFirmwareVolumeLoadImage a type (.start image mem)).2 ↔ ¬ a.Strands type image := by
  have hstart : Ledger.Leaves (0 : Multiset FdtResource) [] 0 := rfl
  have failed : ∀ (error : EfiError) (u : LoadState), u.ledger = [] →
      LoadReported 0 error.val u := by
    intro error u hu
    exact .failed error.property (hu ▸ hstart)
  unfold bdsFirmwareVolumeLoadImage FirmwareVolumeAnswers.Strands
  cases hprotocol : a.handleProtocol with
  | error error => simpa using failed error _ rfl
  | ok =>
  cases hsection : a.readSection with
  | ok found =>
      obtain ⟨imageBuffer, bytes⟩ := found
      have hgranted : Ledger.Leaves (0 : Multiset FdtResource)
          [.granted (.pool imageBuffer)] (.pool imageBuffer ::ₘ 0) := Ledger.Leaves.grant
      dsimp only
      have himage : (((LoadState.start image mem).sized bytes.length).log
          [.granted (.pool imageBuffer)]).image = image := rfl
      rw [himage]
      cases hpages : allocateImage a.allocatePages type (efiSizeToPages bytes.length) image with
      | error error =>
          rw [loadReported_error_iff error.property hgranted]
          simp [toBool_error]
      | ok base =>
          rw [toBool_ok]
          have hplaced := leaves_place (s := ((LoadState.start image mem).sized bytes.length).log
            [.granted (.pool imageBuffer)]) hgranted base (efiSizeToPages bytes.length) bytes
          rw [Multiset.cons_add] at hplaced
          have hreported : LoadReported 0 .success _ := (loadReported_success_iff
            (t := ((((LoadState.start image mem).sized bytes.length).log
              [.granted (.pool imageBuffer)]).place base (efiSizeToPages bytes.length) bytes).log
                [.released (.pool imageBuffer)])
            rfl (read_place _ base (efiSizeToPages bytes.length) bytes) rfl le_rfl
            (hplaced.append Ledger.Leaves.release)).mpr ⟨rfl, rfl, rfl⟩
          simpa using hreported
  | error _ =>
  cases hsize : a.readFileSize with
  | error error => simpa using failed error _ rfl
  | ok size =>
      dsimp only
      have himage : ((LoadState.start image mem).sized size).image = image := rfl
      rw [himage]
      cases hpages : allocateImage a.allocatePages type (efiSizeToPages size) image with
      | error error => simpa [toBool_error] using failed error _ rfl
      | ok base =>
          rw [toBool_ok]
          cases hread : (a.readFile size).status with
          | error error =>
              have hplaced := leaves_place (s := (LoadState.start image mem).sized size) hstart
                base (efiSizeToPages size) (a.readFile size).bytes
              have hreported : LoadReported 0 error.val _ ↔ _ :=
                loadReported_error_iff error.property (t := (((LoadState.start image mem).sized size).place base (efiSizeToPages size)
                  (a.readFile size).bytes).sized (a.readFile size).bytes.length) hplaced
              rw [zero_add, poolsOf_zero, FdtPlatform.pagesOf_eq_zero,
                efiSizeToPages_eq_zero] at hreported
              simpa [statusOf] using hreported
          | ok =>
              have h := loadReported_place_success
                (s := (LoadState.start image mem).sized size) hstart base (a.readFile size).fits
                (a.readFile size).bytes.length
              simp [statusOf, h, eq_comm]

/-- A copy of memory keeps to `LoadReported`. -/
lemma memoryMap_reported (startingAddress endingAddress : UInt64) (answers : PageAnswers) :
    LoadReported 0
      (bdsMemoryMapLoadImage arch startingAddress endingAddress answers type
        (.start image mem)).1
      (bdsMemoryMapLoadImage arch startingAddress endingAddress answers type
        (.start image mem)).2 := by
  have hstart : Ledger.Leaves (0 : Multiset FdtResource) [] 0 := rfl
  unfold bdsMemoryMapLoadImage
  dsimp only
  split
  · exact .failed rfl hstart
  · split
    · next error _ => exact .failed error.property hstart
    · next base _ =>
      have hlength := ByteStore.length_read (m := mem) (a := arch.uintn startingAddress.toNat)
        (n := arch.uintn (endingAddress - startingAddress).toNat)
      refine (loadReported_place_success hstart base hlength.le _).mpr ⟨rfl, hlength.symm, ?_⟩
      rw [hlength]

/-- PXE with `held` stranded before keeps to `LoadReported` if that is nothing, and nothing is
stranded later. -/
lemma pxe_reported {attempts : List PxeAttempt} (hleaves : Ledger.Leaves 0 s.ledger held)
    (hsize : s.imageSize = none) (hrun : bdsPxeLoadImage attempts s = some (status, t)) :
    LoadReported 0 status t ↔ held = 0 ∧ ¬ PxeStrands attempts := by
  induction attempts generalizing s held with
  | nil => cases hrun
  | cons a attempts ih =>
      have exit : ∀ (error : EfiError) (u : LoadState) (held' : Multiset FdtResource),
          Ledger.Leaves 0 u.ledger held' → u.imageSize = none →
          pxeExit a (bdsPxeLoadImage attempts) (error.val, u) = some (status, t) →
          (LoadReported 0 status t ↔
            held' = 0 ∧ ¬ (a.StartsAgain error.val ∧ PxeStrands attempts)) := by
        intro error u held' hu hnone hexit
        unfold pxeExit at hexit
        unfold PxeAttempt.StartsAgain
        dsimp only at hexit
        split at hexit
        · next hstarted =>
          split at hexit
          · next error' hlocate =>
            obtain ⟨rfl, rfl⟩ := Prod.mk.inj (Option.some.inj hexit)
            rw [loadReported_error_iff error'.property hu, hlocate]
            simp
          · next hlocate =>
            rw [ih hu hnone hexit, hlocate]
            simp [hstarted]
        · next hother =>
          obtain ⟨rfl, rfl⟩ := Prod.mk.inj (Option.some.inj hexit)
          rw [loadReported_error_iff error.property hu]
          simp [hother]
      rw [bdsPxeLoadImage] at hrun
      rw [PxeStrands]
      cases hprotocol : a.handleProtocol with
      | error error =>
          rw [hprotocol] at hrun
          obtain ⟨rfl, rfl⟩ := Prod.mk.inj (Option.some.inj hrun)
          rw [loadReported_error_iff error.property hleaves]
          simp
      | ok =>
      rcases hfirst : a.loadFileSize with ⟨first, size⟩
      rw [hprotocol, hfirst] at hrun
      dsimp only at hrun
      cases first with
      | ok =>
          -- the size without an image counts as a success
          obtain ⟨rfl, rfl⟩ := Prod.mk.inj (Option.some.inj hrun)
          refine iff_of_false (fun h => ?_) (fun h => h.2 ⟨rfl, trivial⟩)
          obtain ⟨file, -, hfile, -⟩ := h.success rfl
          rw [hsize] at hfile
          cases hfile
      | error error =>
          rw [statusOf] at hrun
          dsimp only
          by_cases hsmall : error.val = .bufferTooSmall
          · rw [if_pos hsmall] at hrun ⊢
            cases hpages : a.allocatePages with
            | error error' =>
                rw [hpages] at hrun
                obtain ⟨rfl, rfl⟩ := Prod.mk.inj (Option.some.inj hrun)
                rw [loadReported_error_iff error'.property hleaves]
                simp [toBool_error]
            | ok base =>
                rw [hpages] at hrun
                dsimp only at hrun
                have hplaced := leaves_place hleaves base (efiSizeToPages size)
                  (a.loadFile size).bytes
                rw [toBool_ok]
                cases hload : (a.loadFile size).status with
                | error error' =>
                    simp only [pxeLoadFile, hload] at hrun
                    rw [exit error' _ _ hplaced hsize hrun, held_add_pagesOf,
                      efiSizeToPages_eq_zero]
                    simp [and_assoc, not_or]
                | ok =>
                    simp only [pxeLoadFile, hload, pxeExit] at hrun
                    obtain ⟨rfl, rfl⟩ := Prod.mk.inj (Option.some.inj hrun)
                    rw [loadReported_place_success hleaves base (a.loadFile size).fits]
                    simp [eq_comm]
          · rw [if_neg hsmall] at hrun ⊢
            rw [exit error s held hleaves hsize hrun]
            simp

/-- The rounds of a download keep to `LoadReported` but for the pages that they strand. -/
lemma download_reported {env : TftpEnvironment} {s : LoadState} {u v : TftpState}
    {rounds round tftpBufferSize : ℕ} {entered : EfiStatus}
    (hleaves : Ledger.Leaves 0 (s.downloaded u).ledger (poolsOf unfreed))
    (henter : tftpBufferSize ≤ maxTftpFileSize ∨ entered.isError = true)
    (hrun : download env type rounds round entered tftpBufferSize u = some (status, v)) :
    LoadReported unfreed status (s.downloaded v) ↔
      ¬ RoundStrands env type rounds round tftpBufferSize u.image := by
  induction rounds generalizing round entered tftpBufferSize u with
  | zero => cases hrun
  | succ rounds ih =>
      rw [download] at hrun
      rw [RoundStrands]
      split at hrun
      · next hlarge =>
        obtain ⟨rfl, rfl⟩ := Prod.mk.inj (Option.some.inj hrun)
        have herror := henter.resolve_left (Nat.not_le.mpr hlarge)
        rw [loadReported_error_iff herror hleaves]
        simp [Nat.not_le.mpr hlarge]
      · next hsmall =>
        have hfits := Nat.not_lt.mp hsmall
        dsimp only at hrun
        cases hpages : env.allocatePages round type (efiSizeToPages tftpBufferSize) u.image with
        | error error =>
            rw [hpages] at hrun
            obtain ⟨rfl, rfl⟩ := Prod.mk.inj (Option.some.inj hrun)
            rw [loadReported_error_iff error.property hleaves]
            simp
        | ok base =>
            rw [hpages] at hrun
            dsimp only at hrun
            have hgranted : Ledger.Leaves 0 ((s.downloaded u).ledger ++
                grantPages ⟨base, efiSizeToPages tftpBufferSize⟩)
                (poolsOf unfreed + pagesOf ⟨base, efiSizeToPages tftpBufferSize⟩) :=
              hleaves.append leaves_grantPages
            cases hread : env.readFile round tftpBufferSize with
            | received file hfile =>
                rw [hread] at hrun
                obtain ⟨rfl, rfl⟩ := Prod.mk.inj (Option.some.inj hrun)
                have hplaced : Ledger.Leaves 0 (s.ledger ++ (u.ledger ++
                    [Entry.granted (PageRun.mk base (efiSizeToPages tftpBufferSize))]).flatMap
                      pageEntries)
                    (poolsOf unfreed + pagesOf ⟨base, efiSizeToPages tftpBufferSize⟩) := by
                  simpa [LoadState.downloaded, pageEntries] using hgranted
                refine (loadReported_success_iff rfl ByteStore.read_write_same rfl
                  (efiSizeToPages_mono hfile) hplaced).trans ?_
                simp [hfits, eq_comm]
            | failed error leftover hleft =>
                rw [hread] at hrun
                dsimp only at hrun
                have hreleased := hgranted.append leaves_freePages
                split at hrun
                · next htoo =>
                  rw [ih _ (.inr error.property) hrun]
                  · simp [hfits, htoo]
                  · simpa [LoadState.downloaded, pageEntries] using hreleased
                · next hother =>
                  obtain ⟨rfl, rfl⟩ := Prod.mk.inj (Option.some.inj hrun)
                  refine iff_of_true (.failed error.property ?_) (by simp [hother])
                  simpa [LoadState.downloaded, pageEntries] using hreleased

/-- That an error takes the image back does not matter here. -/
lemma loadReported_finishTftp {u v : TftpState} {entered : EfiStatus} (s : LoadState)
    (hfinish : finishTftp (entered, u) = (status, v)) :
    LoadReported unfreed status (s.downloaded v) ↔
      LoadReported unfreed entered (s.downloaded u) := by
  obtain ⟨rfl, rfl⟩ := Prod.mk.inj hfinish
  by_cases herror : entered.isError = true
  · have hne := EfiStatus.ne_success_of_isError herror
    rw [if_pos herror]
    constructor <;> intro h <;> exact ⟨fun heq => absurd heq hne, h.otherwise⟩
  · rw [if_neg herror]

/-- A call keeps to `LoadReported` but for the sizes that the server reports wrongly. -/
lemma bdsTftpLoadImage_reported {env : TftpEnvironment} {staticIpAddress : Bool} {v : TftpState}
    (hleaves : Ledger.Leaves 0 s.ledger (poolsOf unfreed))
    (hload : bdsTftpLoadImage env staticIpAddress type image mem 3 = some (status, v)) :
    LoadReported unfreed status (s.downloaded v) ↔
      ¬ TftpStrands env staticIpAddress type image := by
  have hempty : Ledger.Leaves 0 (s.downloaded ⟨image, none, none, mem, []⟩).ledger
      (poolsOf unfreed) := by
    simpa [LoadState.downloaded] using hleaves
  unfold TftpStrands
  cases hconfigured : configureTftp env staticIpAddress with
  | error error =>
      rw [bdsTftpLoadImage, hconfigured] at hload
      rw [loadReported_finishTftp _ (Option.some.inj hload)]
      exact iff_of_true (.failed error.property hempty) (by simp [ReportedTooLarge, hconfigured])
  | ok =>
  by_cases hcontext : env.allocateContext = true
  · by_cases hlarge : ReportedTooLarge env staticIpAddress
    · rw [hlarge.run] at hload
      obtain ⟨rfl, rfl⟩ := Prod.mk.inj (Option.some.inj hload)
      refine iff_of_false (fun h => ?_) (fun h => h (.inl hlarge))
      obtain ⟨file, hfile, -⟩ := h.success rfl
      cases hfile
    · rw [bdsTftpLoadImage_loop hconfigured hcontext] at hload
      obtain ⟨⟨entered, u⟩, hloop, hfinish⟩ := Option.map_eq_some_iff.mp hload
      rw [loadReported_finishTftp _ hfinish,
        download_reported hempty (.inl (firstBufferSize_le hconfigured hcontext hlarge)) hloop]
      simp [hlarge, hcontext]
  · rw [bdsTftpLoadImage, hconfigured] at hload
    simp only [hcontext, Bool.false_eq_true, if_false] at hload
    rw [loadReported_finishTftp _ (Option.some.inj hload)]
    exact iff_of_true (.failed rfl hempty) (by simp [ReportedTooLarge, hcontext])

/-- What is allocated for a download, beside what is held. -/
lemma leaves_grantPools (addresses : List ℕ) :
    Ledger.Leaves held (addresses.map fun p => .granted (.pool p)) (poolsOf ↑addresses + held) := by
  induction addresses generalizing held with
  | nil => exact zero_add held
  | cons p addresses ih =>
      have hrest := @ih (.pool p ::ₘ held)
      rw [Multiset.add_cons, ← Multiset.cons_add, ← poolsOf_cons, Multiset.cons_coe] at hrest
      exact hrest

/-- The options are freed at once. -/
lemma TftpAnswers.leaves_taken (a : TftpAnswers) :
    Ledger.Leaves 0 a.taken (poolsOf (a.freed + a.forgotten)) := by
  have hgranted := @leaves_grantPools 0 (a.forgotten ++ a.freed)
  rw [add_zero, ← Multiset.coe_add, add_comm] at hgranted
  refine hgranted.append ?_
  split
  · exact Ledger.Leaves.grant.append Ledger.Leaves.release
  · rfl

/-- A download keeps to `LoadReported` but for the sizes that the server reports wrongly, and for
the pools that it never frees. -/
lemma tftp_reported {a : TftpAnswers} {staticIpAddress : Bool}
    (hrun : tftpLoad a staticIpAddress type (.start image mem) = some (status, t)) :
    LoadReported (a.unfreed staticIpAddress) status t ↔
      ¬ TftpStrands a.env staticIpAddress type image := by
  unfold tftpLoad at hrun
  unfold TftpAnswers.unfreed
  cases hconfigured : configureTftp a.env staticIpAddress with
  | error error =>
      simp only [hconfigured] at hrun
      obtain ⟨⟨status', v⟩, hload, hout⟩ := Option.map_eq_some_iff.mp hrun
      obtain ⟨rfl, rfl⟩ := Prod.mk.inj hout
      exact bdsTftpLoadImage_reported rfl hload
  | ok =>
  cases htext : a.convertDevicePathToText with
  | none => simp [hconfigured, htext] at hrun
  | some pathName =>
      simp only [hconfigured, htext] at hrun
      obtain ⟨⟨status', v⟩, hload, hout⟩ := Option.map_eq_some_iff.mp hrun
      obtain ⟨rfl, rfl⟩ := Prod.mk.inj hout
      rw [loadReported_freePools]
      exact bdsTftpLoadImage_reported a.leaves_taken hload

end Loaders

/-! ## All loaders -/

section Load

variable {arch : Arch} {path : ConnectedPath} {a : LoadAnswers} {type : AllocateType} {image : ℕ}
  {mem : ByteStore} {status : EfiStatus} {t : LoadState}

/-- A loader that returns keeps to `LoadReported` but for what it strands. -/
lemma FileLoader.reported {loader : FileLoader}
    (hloader : fileLoaders.find? (·.support path) = some loader)
    (hrun : loader.loadImage arch path a type (.start image mem) = some (status, t)) :
    LoadReported (unfreed path a) status t ↔ ¬ loader.Strands arch path a type image := by
  cases loader with
  | fileSystem =>
      rw [show unfreed path a = 0 by simp [unfreed, hloader]]
      exact fileSystem_reported hrun
  | firmwareVolume =>
      obtain ⟨rfl, rfl⟩ := Prod.mk.inj (Option.some.inj hrun)
      rw [show unfreed path a = 0 by simp [unfreed, hloader]]
      exact firmwareVolume_reported a.firmwareVolume
  | memoryMap =>
      obtain ⟨node, -, hload⟩ := Option.map_eq_some_iff.mp hrun
      obtain ⟨rfl, rfl⟩ := Prod.mk.inj hload
      rw [show unfreed path a = 0 by simp [unfreed, hloader]]
      exact iff_of_true (memoryMap_reported _ _ _) not_false
  | pxe =>
      have hstart : Ledger.Leaves (0 : Multiset FdtResource) [] 0 := rfl
      rw [show unfreed path a = 0 by simp [unfreed, hloader], pxe_reported hstart rfl hrun]
      simp [FileLoader.Strands]
  | tftp =>
      obtain ⟨node, hnode, hload⟩ := Option.bind_eq_some_iff.mp hrun
      rw [show unfreed path a = a.tftp.unfreed (node.field 14 1 ≠ 0) by
        simp [unfreed, hloader, hnode], tftp_reported hload]
      simp [FileLoader.Strands, hnode]

/-- A load that returns has put the file into pages of its own, or fails and leaves no memory
allocated, but for the pools that a download never frees, exactly when the loader that was chosen
strands nothing. -/
theorem loadReported_iff
    (hrun : bdsLoadImage arch path a type (.start image mem) = some (status, t)) :
    LoadReported (unfreed path a) status t ↔ ¬ Strands arch path a type image := by
  unfold bdsLoadImage at hrun
  unfold Strands
  cases hloader : fileLoaders.find? (·.support path) with
  | none =>
      rw [hloader] at hrun
      obtain ⟨rfl, rfl⟩ := Prod.mk.inj (Option.some.inj hrun)
      have hstart : Ledger.Leaves (0 : Multiset FdtResource) [] 0 := rfl
      have hreported : LoadReported 0 .unsupported (.start image mem) :=
        .failed rfl hstart
      simpa [unfreed, hloader] using hreported
  | some loader =>
      rw [hloader] at hrun
      rw [FileLoader.reported hloader hrun]
      simp

lemma notFound_isError : EfiStatus.notFound.isError = true := rfl

lemma bufferTooSmall_isError : EfiStatus.bufferTooSmall.isError = true := rfl

/-- A file of three bytes. -/
def threeBytes : List UInt8 := [0x4D, 0x5A, 0x90]

/-- A server that has it, and reports its size. -/
def threeByteServer : TftpEnvironment :=
  { largeFileServer with
    parseOptions := .ok [⟨tsize, [0x33]⟩]
    allocatePages := fun _ _ _ _ => .ok 0x8000
    readFile := fun _ size =>
      if hfits : threeBytes.length ≤ size then .received threeBytes hfits
      else .failed ⟨.bufferTooSmall, bufferTooSmall_isError⟩ [] (Nat.zero_le _) }

/-- The file in a file system and on a server, and nothing else to load from. -/
def oneFile : LoadAnswers :=
  let notFound : EfiError := ⟨.notFound, notFound_isError⟩
  { fileSystem :=
      { openProtocol := .ok (), openVolume := .ok (), openFile := .ok ()
        allocatePool := some 0x100
        getInfo := fun _ => .ok 3
        allocatePages := fun _ _ _ _ => .ok 0x4000
        read := fun size => ⟨.ok (), threeBytes.take size, List.length_take_le _ _⟩ }
    firmwareVolume :=
      { handleProtocol := .error notFound, readSection := .error notFound
        readFileSize := .error notFound
        allocatePages := fun _ _ _ _ => .error notFound
        readFile := fun _ => ⟨.error notFound, [], Nat.zero_le _⟩ }
    memoryMap := fun _ _ _ _ => .error notFound
    pxe := []
    tftp := ⟨threeByteServer, some 0x200, some 0x300, some 0x400, 0x500, 0x600⟩ }

/-- The node of a file with an empty name. -/
def fileNode : DevicePathNode := ⟨0x04, 0x04, [0x00, 0x00], by decide⟩

/-- The node of a static IPv4 address. -/
def ipv4Node : DevicePathNode := ⟨0x03, 0x0C, List.replicate 23 0x01, by decide⟩

/-- The path of a file on a handle with a file system. -/
def pathOfFile : ConnectedPath where
  devicePath := []
  remaining := [fileNode]
  simpleFileSystem := true
  pxeBaseCode := false
  devicePathProtocol := true
  mtftp4ServiceBinding := false

/-- The path of a file on a server. -/
def pathOfServer : ConnectedPath where
  devicePath := []
  remaining := [ipv4Node, fileNode]
  simpleFileSystem := false
  pxeBaseCode := false
  devicePathProtocol := true
  mtftp4ServiceBinding := true

theorem loadReported_iff_oneFile :
    (∃ t, bdsLoadImage .arm pathOfFile oneFile .anyPages (.start 0 fun _ => 0) =
        some (.success, t) ∧ (LoadReported (unfreed pathOfFile oneFile) .success t ↔
          ¬ Strands .arm pathOfFile oneFile .anyPages 0)) ∧
      ∃ t, bdsLoadImage .arm pathOfServer oneFile .anyPages (.start 0 fun _ => 0) =
        some (.success, t) ∧ (LoadReported (unfreed pathOfServer oneFile) .success t ↔
          ¬ Strands .arm pathOfServer oneFile .anyPages 0) :=
  ⟨⟨_, rfl, loadReported_iff rfl⟩, ⟨_, rfl, loadReported_iff rfl⟩⟩

end Load

end BdsLib
end MuPlatform
