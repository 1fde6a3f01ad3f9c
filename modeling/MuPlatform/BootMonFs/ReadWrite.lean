import MuPlatform.BootMonFs.OpenClose

/-!
# Reading, writing and resizing open files

The calls of `BootMonFsReadWrite.c` and the part of `BootMonFsDir.c` that changes a file's
information.  A write queues a region at the position of the file; a read flushes the file
first and then reads from the media.
-/

namespace MuPlatform
namespace BootMonFs

/-! ## Read and write -/

/-- `BootMonFsReadFile`: the status and the bytes returned.  The status of the flush is not
looked at. -/
def bootMonFsReadFile (handle bufferSize : ℕ) (v : Volume) :
    EfiStatus × List UInt8 × Volume :=
  match (lookup handle v.files).bind (·.info) with
  | none => (.invalidParameter, [], v)
  | some _ =>
    let flushed := (bootMonFsFlushFile handle v).2
    match lookup handle flushed.files with
    | none => (.invalidParameter, [], flushed)
    | some f =>
      match f.info with
      | none => (.invalidParameter, [], flushed)
      | some info =>
        let fileStart :=
          uint64 ((flushed.media.lowestAlignedLba + f.blockStart) * flushed.media.blockSize)
        if info.fileSize ≤ f.position then
          (if info.fileSize < f.position then .deviceError else .success, [], flushed)
        else
          let size := min bufferSize (flushed.cfg.arch.uintn (info.fileSize - f.position))
          match flushed.services.readDisk with
          | (status, s) =>
            if status.isError then (status, [], flushed.put f s)
            else
              (status, s.content.read (uint64 (fileStart + f.position)) size,
                flushed.put { f with position := uint64 (f.position + size) } s)

/-- The file with a region queued at its position. -/
def File.queue (f : File) (info : FileInfo) (buffer : List UInt8) : File :=
  let position := uint64 (f.position + buffer.length)
  { f with
    regionToFlush := f.regionToFlush ++ [⟨f.position, buffer⟩]
    position := position
    info := some
      { info with fileSize := if position > info.fileSize then position else info.fileSize } }

/-- `BootMonFsWriteFile` on an open file. -/
def writeFile (buffer : List UInt8) (f : File) (info : FileInfo) (s : Services) :
    EfiStatus × File × Services :=
  if f.openMode = .read then (.accessDenied, f, s)
  else
    match s.allocatePool with
    | (false, s) => (.outOfResources, f, s)
    | (true, s) =>
      match s.allocatePool with
      | (false, s) => (.outOfResources, f, s)
      | (true, s) => (.success, f.queue info buffer, s)

/-- `BootMonFsWriteFile`. -/
def bootMonFsWriteFile (handle : ℕ) (buffer : List UInt8) (v : Volume) : EfiStatus × Volume :=
  match lookup handle v.files with
  | none => (.invalidParameter, v)
  | some f =>
    match f.info with
    | none => (.invalidParameter, v)
    | some info =>
      match writeFile buffer f info v.services with
      | (status, f', s) => (status, v.put f' s)

/-- The position that asks for the end of the file. -/
def endOfFile : ℕ := 2 ^ 64 - 1

/-- `BootMonFsSetPosition` on an open file. -/
def File.setPosition (position : ℕ) (f : File) (info : FileInfo) : File :=
  { f with position := if position = endOfFile then info.fileSize else position }

/-- `BootMonFsSetPosition`. -/
def bootMonFsSetPosition (handle position : ℕ) (v : Volume) : EfiStatus × Volume :=
  match lookup handle v.files with
  | none => (.invalidParameter, v)
  | some f =>
    match f.info with
    | none => (.invalidParameter, v)
    | some info => (.success, v.put (f.setPosition position info) v.services)

/-- `BootMonFsGetPosition`. -/
def bootMonFsGetPosition (handle : ℕ) (v : Volume) : EfiStatus × Option ℕ :=
  match lookup handle v.files with
  | none => (.invalidParameter, none)
  | some f => if f.info.isNone then (.invalidParameter, none) else (.success, some f.position)

/-! ## BootMonFsSetInfo -/

/-- `AsciiStrToUnicodeStrS`: a copy that the destination bound does not allow leaves the
destination as it is. -/
def asciiStrToUnicodeStrS (cfg : BuildConfig) (source destination : FileName) (destMax : ℕ) :
    FileName :=
  if destMax = 0 then destination
  else if cfg.maximumUnicodeStringLength ≠ 0 ∧ cfg.maximumUnicodeStringLength < destMax then
    destination
  else if destMax ≤ source.chars.length then destination
  else source

/-- `UnicodeStrToAsciiStrS` into a buffer of `MAX_NAME_LENGTH`, which stays empty where the
string does not fit. -/
def unicodeStrToAsciiStrS (source : List UInt8) : FileName :=
  if h : 0 ∉ source ∧ source.length < maxNameLength then ⟨source, h.1, h.2⟩ else .empty

/-- `SetFileName`. -/
def setFileName (cfg : BuildConfig) (files : List File) (fileName : List UInt8) (f : File)
    (info : FileInfo) : EfiStatus × File :=
  let stripped := if fileName.head? = some 0x5C then fileName.tail else fileName
  let asciiFileName := unicodeStrToAsciiStrS stripped
  match fileFromAsciiFileName asciiFileName files with
  | some _ => (.accessDenied, f)
  | none =>
      let destMax := cfg.arch.uintn (uint64Sub info.size sizeOfEfiFileInfo / 2)
      (.success, { f with
        info := some
          { info with fileName :=
              asciiStrToUnicodeStrS cfg asciiFileName info.fileName destMax } })

/-- The loop of `SetFileSize` that keeps the waiting regions inside the new size. -/
def truncateRegions (newSize : ℕ) (regions : List FileRegion) : List FileRegion :=
  (regions.filter fun region => region.offset ≤ newSize).map fun region =>
    { region with buffer := region.buffer.take (newSize - region.offset) }

/-- `Info->FileSize := NewSize`. -/
def File.setSize (f : File) (newSize : ℕ) : File :=
  { f with info := f.info.map fun info => { info with fileSize := newSize } }

/-- `SetFileSize`; `OldSize` is a `UINT32`. -/
def setFileSize (newSize : ℕ) (f : File) (info : FileInfo) (s : Services) :
    EfiStatus × File × Services :=
  let oldSize := info.fileSize % 2 ^ 32
  if newSize < oldSize then
    (.success,
      ({ f with regionToFlush := truncateRegions newSize f.regionToFlush } : File).setSize newSize,
      s)
  else if newSize > oldSize then
    let seeked := f.setPosition oldSize info
    match s.allocatePool with
    | (false, s) => (.outOfResources, seeked, s)
    | (true, s) =>
      match writeFile (List.replicate (newSize - oldSize) 0) seeked info s with
      | (status, f', s) =>
        if status.isError then (status, f', s)
        else
          match f'.info with
          | none => (.invalidParameter, f', s)
          | some info' => (.success, (f'.setPosition f.position info').setSize newSize, s)
  else (.success, f.setSize newSize, s)

/-- The `EFI_FILE_INFO` a caller of `SetInfo` passes, with the size of its buffer. -/
structure SetInfoArgs where
  bufferSize : ℕ
  size : ℕ
  fileSize : ℕ
  times : List UInt8
  attributes : ℕ
  fileName : List UInt8

/-- `SetFileInfo` behind its checks. -/
def applyFileInfo (cfg : BuildConfig) (files : List File) (args : SetInfoArgs) (f : File)
    (info : FileInfo) (s : Services) : EfiStatus × File × Services :=
  let resized :=
    if args.fileSize ≠ info.fileSize then setFileSize (cfg.arch.uintn args.fileSize) f info s
    else (.success, f, s)
  if resized.1.isError then resized
  else
    match resized.2.1.info with
    | none => (.invalidParameter, resized.2)
    | some resizedInfo =>
      let noted := { resizedInfo with attributes := args.attributes }
      let f' := { resized.2.1 with info := some noted }
      if args.fileName.take (maxNameLength - 1) ≠ info.fileName.chars then
        match setFileName cfg files args.fileName f' noted with
        | (status, f'') => (status, f'', resized.2.2)
      else (.success, f', resized.2.2)

/-- `SetFileInfo`. -/
def setFileInfo (cfg : BuildConfig) (files : List File) (args : SetInfoArgs) (f : File)
    (info : FileInfo) (s : Services) : EfiStatus × File × Services :=
  let sizeDiffers := args.fileSize ≠ info.fileSize
  let nameDiffers := args.fileName.take (maxNameLength - 1) ≠ info.fileName.chars
  let timeDiffers := args.times ≠ info.times
  if isDirectory args.attributes ≠ isDirectory info.attributes then (.accessDenied, f, s)
  else if f.openMode = .read ∧ (sizeDiffers ∨ nameDiffers ∨ timeDiffers) then
    (.accessDenied, f, s)
  else if timeDiffers then (.writeProtected, f, s)
  else applyFileInfo cfg files args f info s

/-- `BootMonFsSetInfo` with `gEfiFileInfoGuid`. -/
def bootMonFsSetInfo (handle : ℕ) (args : SetInfoArgs) (v : Volume) : EfiStatus × Volume :=
  match lookup handle v.files with
  | none => (.invalidParameter, v)
  | some f =>
    match f.info with
    | none => (.invalidParameter, v)
    | some info =>
      if args.size < sizeOfEfiFileInfo + 2 * (args.fileName.length + 1) then
        (.invalidParameter, v)
      else if args.bufferSize < args.size then (.badBufferSize, v)
      else
        match setFileInfo v.cfg v.files args f info v.services with
        | (status, f', s) => (status, v.put f' s)

end BootMonFs

end MuPlatform
