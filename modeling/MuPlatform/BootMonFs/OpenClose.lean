import MuPlatform.BootMonFs.Images

/-!
# Opening, flushing, closing and deleting files

The calls of `BootMonFsOpenClose.c`.  Writes wait in `regionToFlush` until a flush; a flush
places a new file in the first gap that is large enough, writes the regions one by one, and
writes a description behind the data whenever the end of the data moves.

`placeFile`, `flushRegion` and `describe` are the parts of a flush that decide where bytes go;
the statements about layout and content are about them.
-/

namespace MuPlatform
namespace BootMonFs

/-! ## Descriptions -/

/-- `InvalidateImageDescription`. -/
def invalidateImageDescription (f : File) (s : Services) : EfiStatus × Services :=
  match s.allocatePool with
  | (true, s') =>
      s'.writeDisk .description f.hwDescAddress (List.replicate sizeofHwImageDescription 0)
  | (false, s') => (.outOfResources, s')

/-- The block of the description of a file of `dataSize` bytes, counted from its first one.
The sum is one of `UINT32`s. -/
def descriptionBlock (media : Media) (dataSize : UInt32) : ℕ :=
  (dataSize + UInt32.ofNat sizeofHwImageDescription).toNat / media.blockSize

/-- The description `WriteFileDescription` constructs, without its checksum. -/
def layout (cfg : BuildConfig) (media : Media) (d : HwImageDescription) (fileName : FileName)
    (dataSize : UInt32) (fileStart : ℕ) : HwImageDescription :=
  let blockStart := UInt32.ofNat (fileStart / media.blockSize)
  { d with
    attributes := 1
    blockStart := blockStart
    blockEnd := UInt32.ofNat (blockStart.toNat + descriptionBlock media dataSize)
    footer :=
      { d.footer.setName fileName with
        offset :=
          match cfg.arch with
          | .arm => hwImageFooterOffset
          | .aarch64 => hwImageFooterOffset2
        version :=
          match cfg.arch with
          | .arm => hwImageFooterVersion
          | .aarch64 => hwImageFooterVersion2
        footerSignature1 := hwImageFooterSignature1
        footerSignature2 := hwImageFooterSignature2 }
    regionCount := 1
    region := Function.update d.region 0
      { d.region 0 with
        checksum := 0
        offset := UInt32.ofNat (cfg.arch.uintn (blockStart.toNat * media.blockSize))
        size := dataSize } }

/-- `HwDescAddress` of a description in block `blockEnd`. -/
def hwDescAddressOf (cfg : BuildConfig) (media : Media) (blockEnd : UInt32) : ℕ :=
  cfg.arch.uintnSub (cfg.arch.uintn ((blockEnd + 1).toNat * media.blockSize))
    sizeofHwImageDescription

/-- What `WriteFileDescription` makes of the file in memory. -/
def describe (cfg : BuildConfig) (media : Media) (f : File) (fileName : FileName)
    (dataSize : UInt32) (fileStart : ℕ) : File :=
  let d := (layout cfg media f.hwDescription fileName dataSize fileStart).checksummed
  { f with hwDescription := d, hwDescAddress := hwDescAddressOf cfg media d.blockEnd }

/-- `WriteFileDescription`. -/
def writeFileDescription (cfg : BuildConfig) (media : Media) (f : File) (fileName : FileName)
    (dataSize : UInt32) (fileStart : ℕ) (s : Services) : EfiStatus × File × Services :=
  match s.allocatePool with
  | (true, s') =>
      let f' := describe cfg media f fileName dataSize fileStart
      let written := s'.writeDisk .description f'.hwDescAddress f'.hwDescription.bytes
      (written.1, f', written.2)
  | (false, s') =>
      (.outOfResources,
        { f with hwDescription := layout cfg media f.hwDescription fileName dataSize fileStart },
        s')

/-! ## Space for a new file -/

/-- The loop of `BootMonFsFindSpaceForNewFile` over the rest of the list: where the file
starts, and the file whose gap it is in; `none` there means behind the last file. -/
def findSpace (cfg : BuildConfig) (media : Media) (fileSize : ℕ) :
    List File → ℕ → Option (ℕ × Option ℕ)
  | [], fileStart =>
      if uint64Sub (uint64 ((media.lastBlock + 1) * media.blockSize)) fileStart ≥ fileSize then
        some (fileStart, none)
      else none
  | entry :: files, fileStart =>
      if entry.onDisk then
        if uint64Sub (cfg.arch.uintn (entry.blockStart * media.blockSize)) fileStart ≥ fileSize
        then some (fileStart, some entry.handle)
        else findSpace cfg media fileSize files
          (cfg.arch.uintn ((entry.hwDescription.blockEnd + 1).toNat * media.blockSize))
      else findSpace cfg media fileSize files fileStart

/-- The list with `f` put in front of the file with the given handle. -/
def insertBefore (f : File) (handle : ℕ) : List File → List File
  | [] => []
  | g :: files => if g.handle = handle then f :: g :: files else g :: insertBefore f handle files

/-- The list with `f` moved in front of the file with the given handle. -/
def relink (f : File) (handle : ℕ) (files : List File) : List File :=
  insertBefore f handle (files.filter fun g => g.handle ≠ f.handle)

/-- `BootMonFsFindSpaceForNewFile`: the start of the file and the list it leaves. -/
def findSpaceForNewFile (cfg : BuildConfig) (media : Media) (f : File) (fileSize : ℕ)
    (files : List File) : Option (ℕ × List File) :=
  match findSpace cfg media fileSize files 0 with
  | some (fileStart, some handle) => some (fileStart, relink f handle files)
  | some (fileStart, none) => some (fileStart, files)
  | none => none

/-! ## BootMonFsFlushFile -/

/-- `FileStart` of a flush and the list it goes on with; `none` is `EFI_VOLUME_FULL`. -/
def placeFile (cfg : BuildConfig) (media : Media) (f : File) (fileSize : ℕ)
    (files : List File) : Option (ℕ × List File) :=
  if f.onDisk then some (cfg.arch.uintn (f.blockStart * media.blockSize), files)
  else findSpaceForNewFile cfg media f (uint64 (fileSize + sizeofHwImageDescription)) files

/-- What a flush keeps while it goes through the regions. -/
structure FlushContext where
  cfg : BuildConfig
  media : Media
  /-- The file behind the flushed one in the list. -/
  nextFile : Option File
  asciiFileName : FileName
  fileStart : ℕ
  fileEnd : ℕ

namespace FlushContext

variable (ctx : FlushContext)

def regionStart (region : FileRegion) : ℕ := uint64 (ctx.fileStart + region.offset)
def regionEnd (region : FileRegion) : ℕ := uint64 (ctx.regionStart region + region.size)
def newDataSize (region : FileRegion) : ℕ := uint64Sub (ctx.regionEnd region) ctx.fileStart
def newFileSize (region : FileRegion) : ℕ :=
  uint64 (ctx.newDataSize region + sizeofHwImageDescription)

/-- `EndOfAppendSpace`. -/
def endOfAppendSpace : ℕ :=
  match ctx.nextFile with
  | some next => ctx.cfg.arch.uintn (next.blockStart * ctx.media.blockSize)
  | none => uint64 ((ctx.media.lastBlock + 1) * ctx.media.blockSize)

/-- `HasSpace`. -/
def hasSpace (f : File) (region : FileRegion) : Bool :=
  ctx.newFileSize region ≤ f.physicalSize ctx.media ||
    ctx.newFileSize region ≤ uint64Sub ctx.endOfAppendSpace ctx.fileStart

end FlushContext

/-- The branch of the region loop that moves the end of the data. -/
def appendRegion (ctx : FlushContext) (region : FileRegion) (f : File) (s : Services) :
    EfiStatus × File × Services :=
  let cleared := if f.hwDescAddress = 0 then (.success, s) else invalidateImageDescription f s
  if cleared.1.isError then (cleared.1, f, cleared.2)
  else
    let written := cleared.2.writeDisk .data (ctx.regionStart region) region.buffer
    if written.1.isError then (written.1, f, written.2)
    else writeFileDescription ctx.cfg ctx.media f ctx.asciiFileName
      (UInt32.ofNat (ctx.newDataSize region)) ctx.fileStart written.2

/-- The body of the region loop. -/
def flushRegion (ctx : FlushContext) (region : FileRegion) (f : File) (s : Services) :
    EfiStatus × File × Services :=
  if region.size = 0 then (.success, f, s)
  else if ctx.regionEnd region < ctx.fileEnd then
    let written := s.writeDisk .data (ctx.regionStart region) region.buffer
    (written.1, f, written.2)
  else if ctx.hasSpace f region then appendRegion ctx region f s
  else (.volumeFull, f, s)

/-- The region loop. -/
def flushRegions (ctx : FlushContext) : List FileRegion → File → Services →
    EfiStatus × File × Services
  | [], f, s => (.success, f, s)
  | region :: regions, f, s =>
      match flushRegion ctx region f s with
      | (status, f', s') =>
          if status.isError then (status, f', s') else flushRegions ctx regions f' s'

/-- The description has to be written for a change of the name or of the size. -/
def needsDescription (f : File) (info : FileInfo) : Bool :=
  f.hwDescription.footer.name ≠ info.fileName.chars || info.fileSize ≠ f.dataSize

/-- `FreeFileRegions`, and the update of `Info->PhysicalSize` behind it. -/
def freeFileRegions (media : Media) (f : File) (info : FileInfo) : File :=
  { f with
    regionToFlush := []
    info := some { info with physicalSize := f.physicalSize media } }

/-- A flush from the region loop on. -/
def flushPlaced (ctx : FlushContext) (info : FileInfo) (f : File) (s : Services) :
    EfiStatus × File × Services :=
  match flushRegions ctx f.regionToFlush f s with
  | (status, f', s') =>
      if status.isError then (status, f', s')
      else
        let freed := freeFileRegions ctx.media f' info
        if needsDescription freed info then
          match writeFileDescription ctx.cfg ctx.media freed info.fileName
            (UInt32.ofNat info.fileSize) ctx.fileStart s' with
          | (status, f'', s'') => (if status.isError then status else .success, f'', s'')
        else (.success, freed, s')

/-- The context of the flush of `f` that is placed at `fileStart` in the list `files`. -/
def flushContext (v : Volume) (f : File) (info : FileInfo) (fileStart : ℕ)
    (files : List File) : FlushContext where
  cfg := v.cfg
  media := v.media
  nextFile := nextFile f.handle files
  asciiFileName := info.fileName
  fileStart := fileStart
  fileEnd := uint64 (fileStart + f.dataSize)

/-- `BootMonFsFlushFile`. -/
def bootMonFsFlushFile (handle : ℕ) (v : Volume) : EfiStatus × Volume :=
  match lookup handle v.files with
  | none => (.invalidParameter, v)
  | some f =>
    match f.info with
    | none => (.invalidParameter, v)
    | some info =>
      if f.openMode = .read then (.accessDenied, v)
      else
        match placeFile v.cfg v.media f info.fileSize v.files with
        | none => (.volumeFull, v)
        | some (fileStart, files) =>
          match flushPlaced (flushContext v f info fileStart files) info f v.services with
          | (status, f', s) => (status, { v with files := update f' files, services := s })

/-! ## Close, open, delete -/

/-- The file without its `Info`. -/
def File.close (f : File) : File := { f with info := none }

/-- `BootMonFsCloseFile`; the status of the flush is not looked at. -/
def bootMonFsCloseFile (handle : ℕ) (v : Volume) : EfiStatus × Volume :=
  match (lookup handle v.files).bind (·.info) with
  | none => (.invalidParameter, v)
  | some _ =>
    let flushed := (bootMonFsFlushFile handle v).2
    (.success, { flushed with
      files := flushed.files.map fun f => if f.handle = handle then f.close else f })

/-- A file at the moment it is opened. -/
def File.opened (media : Media) (f : File) (name : FileName) (mode : OpenMode)
    (attributes : ℕ) : File :=
  { f with
    info := some
      { size := 0
        fileSize := f.imageLength.toNat
        physicalSize := f.physicalSize media
        times := List.replicate 48 0
        attributes := attributes
        fileName := name }
    position := 0
    openMode := mode }

/-- `BootMonFsOpenFile` from the look-up of the name on, for a name that is not that of the root
directory: the handle, if any, and the volume. -/
def openInRoot (name : FileName) (mode : OpenMode) (attributes : ℕ) (v : Volume) :
    EfiStatus × Option ℕ × Volume :=
  if mode = .readWriteCreate && isDirectory attributes then (.writeProtected, none, v)
  else
    match v.services.allocatePool with
    | (false, s) => (.outOfResources, none, { v with services := s })
    | (true, s) =>
      match fileFromAsciiFileName name v.files with
      | some f =>
          if f.info.isSome then (.unsupported, none, { v with services := s })
          else (.success, some f.handle, v.put (f.opened v.media name mode 0) s)
      | none =>
          if mode = .readWriteCreate then
            match bootMonFsCreateFile { v with services := s } with
            | (none, v') => (.outOfResources, none, v')
            | (some f, v') =>
                (.success, some f.handle,
                  { v' with files := f.opened v.media name mode attributes :: v'.files })
          else (.notFound, none, { v with services := s })

/-- `BootMonFsOpenFile` for a name in the root directory. -/
def bootMonFsOpenFile (name : FileName) (mode : OpenMode) (attributes : ℕ) (v : Volume) :
    EfiStatus × Option ℕ × Volume :=
  if v.initialized then openInRoot name mode attributes v
  else
    match bootMonFsInitialize v with
    | (status, v') =>
        if status.isError then (status, none, v') else openInRoot name mode attributes v'

/-- `BootMonFsDelete`. -/
def bootMonFsDelete (handle : ℕ) (v : Volume) : EfiStatus × Volume :=
  match lookup handle v.files with
  | none => (.invalidParameter, v)
  | some f =>
    if f.info.isNone then (.invalidParameter, v)
    else
      let freed := { f with regionToFlush := [] }
      let cleared :=
        if freed.onDisk then invalidateImageDescription freed v.services
        else (.success, v.services)
      if cleared.1.isError then (.warnDeleteFailure, v.put freed cleared.2)
      else (.success,
        { v with files := v.files.filter fun g => g.handle ≠ handle, services := cleared.2 })

/-! ## What a flush keeps -/

section Keeps

variable {P : File → Services → Prop} {ctx : FlushContext} {f : File} {s : Services}

/-- What the writes of the region loop keep, the loop keeps. -/
lemma flushRegions_keeps
    (hclear : ∀ f s, P f s → P f (invalidateImageDescription f s).2)
    (hdata : ∀ f s address buffer, P f s → P f (s.writeDisk .data address buffer).2)
    (hdescribe : ∀ f s dataSize, P f s →
      P (writeFileDescription ctx.cfg ctx.media f ctx.asciiFileName dataSize ctx.fileStart s).2.1
        (writeFileDescription ctx.cfg ctx.media f ctx.asciiFileName dataSize
          ctx.fileStart s).2.2)
    (regions : List FileRegion) (h : P f s) :
    P (flushRegions ctx regions f s).2.1 (flushRegions ctx regions f s).2.2 := by
  have happend : ∀ region f s, P f s →
      P (appendRegion ctx region f s).2.1 (appendRegion ctx region f s).2.2 := by
    intro region f s h
    have hcleared : P f
        (if f.hwDescAddress = 0 then (.success, s) else invalidateImageDescription f s).2 := by
      split
      · exact h
      · exact hclear f s h
    unfold appendRegion
    generalize (if f.hwDescAddress = 0 then (.success, s) else invalidateImageDescription f s) =
      cleared at hcleared
    dsimp only
    have hwritten := hdata f cleared.2 (ctx.regionStart region) region.buffer hcleared
    split
    · exact hcleared
    split
    · exact hwritten
    · exact hdescribe f _ _ hwritten
  have hregion : ∀ region f s, P f s →
      P (flushRegion ctx region f s).2.1 (flushRegion ctx region f s).2.2 := by
    intro region f s h
    unfold flushRegion
    split
    · exact h
    split
    · exact hdata f s _ _ h
    split
    · exact happend region f s h
    · exact h
  induction regions generalizing f s with
  | nil => exact h
  | cons region regions ih =>
      have hfirst := hregion region f s h
      rw [flushRegions]
      generalize flushRegion ctx region f s = flushed at hfirst
      obtain ⟨status, f', s'⟩ := flushed
      dsimp only
      split
      · exact hfirst
      · exact ih hfirst

/-- What a flush keeps from the region loop on. -/
lemma flushPlaced_keeps {info : FileInfo}
    (hclear : ∀ f s, P f s → P f (invalidateImageDescription f s).2)
    (hdata : ∀ f s address buffer, P f s → P f (s.writeDisk .data address buffer).2)
    (hdescribe : ∀ f s name dataSize, P f s →
      P (writeFileDescription ctx.cfg ctx.media f name dataSize ctx.fileStart s).2.1
        (writeFileDescription ctx.cfg ctx.media f name dataSize ctx.fileStart s).2.2)
    (hfree : ∀ f s, P f s → P (freeFileRegions ctx.media f info) s) (h : P f s) :
    P (flushPlaced ctx info f s).2.1 (flushPlaced ctx info f s).2.2 := by
  have hregions := flushRegions_keeps hclear hdata
    (fun f s dataSize => hdescribe f s ctx.asciiFileName dataSize) f.regionToFlush h
  unfold flushPlaced
  generalize flushRegions ctx f.regionToFlush f s = flushed at hregions
  obtain ⟨status, f', s'⟩ := flushed
  dsimp only at hregions ⊢
  split
  · exact hregions
  split
  · exact hdescribe _ s' _ _ (hfree f' s' hregions)
  · exact hfree f' s' hregions

end Keeps

/-- A flush is refused with an error, or it works on the file in the list it is placed in. -/
lemma flushFile_cases (handle : ℕ) (v : Volume) :
    (∃ status, status.isError = true ∧ bootMonFsFlushFile handle v = (status, v)) ∨
    ∃ f info fileStart files, lookup handle v.files = some f ∧ f.info = some info ∧
      f.openMode ≠ .read ∧
      placeFile v.cfg v.media f info.fileSize v.files = some (fileStart, files) ∧
      bootMonFsFlushFile handle v =
        ((flushPlaced (flushContext v f info fileStart files) info f v.services).1,
          { v with
            files := update
              (flushPlaced (flushContext v f info fileStart files) info f v.services).2.1 files
            services :=
              (flushPlaced (flushContext v f info fileStart files) info f v.services).2.2 }) := by
  unfold bootMonFsFlushFile
  cases lookup handle v.files with
  | none => exact .inl ⟨.invalidParameter, rfl, rfl⟩
  | some f =>
    dsimp only
    cases hinfo : f.info with
    | none => exact .inl ⟨.invalidParameter, rfl, rfl⟩
    | some info =>
      dsimp only
      by_cases hmode : f.openMode = .read
      · rw [if_pos hmode]
        exact .inl ⟨.accessDenied, rfl, rfl⟩
      rw [if_neg hmode]
      cases hplace : placeFile v.cfg v.media f info.fileSize v.files with
      | none => exact .inl ⟨.volumeFull, rfl, rfl⟩
      | some place =>
          exact .inr ⟨f, info, place.1, place.2, rfl, hinfo, hmode, hplace, rfl⟩

end BootMonFs

end MuPlatform
