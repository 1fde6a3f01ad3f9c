import MuPlatform.BootMonFs.Overlap

/-!
# The image loader

How `runaxf` loads a file of a BootMonFs volume (`BootMonFsLoader.c`): it reads the file into a
buffer and asks the driver for the description of the file, and each region of the description
becomes a node of the load list, a range of the buffer that is to be copied to memory.

The loader takes the `Offset` of a region as a place in the file.  The driver fills it in as a
place on the media, so that the two agree on a file the driver has described only where the
file starts at the start of the media, up to what a 32-bit field can tell (`loadsStored_iff`).
-/

namespace MuPlatform
namespace BootMonFs

/-! ## BootMonFsGetInfo -/

/-- `SIZE_OF_BOOTMON_FS_FILE_INFO`, which ends before the last `Checksum`. -/
def sizeOfBootMonFsFileInfo : ℕ := 76

/-- `sizeof (BOOTMON_FS_FILE_INFO)`. -/
def sizeofBootMonFsFileInfo : ℕ := 80

/-- `BOOTMON_FS_FILE_INFO`. -/
structure BootMonFsFileInfo where
  size : ℕ
  entryPoint : UInt32
  regionCount : UInt32
  region : Fin hwImageDescriptionRegionMax → HwRegion

/-- What `GetInfo` answers: the status, `*BufferSize` and what is in the buffer. -/
structure GetInfoReply where
  status : EfiStatus
  bufferSize : ℕ
  info : Option BootMonFsFileInfo

/-- What `GetBootMonFsFileInfo` fills in. -/
def HwImageDescription.fileInfo (d : HwImageDescription) : BootMonFsFileInfo where
  size := sizeOfBootMonFsFileInfo
  entryPoint := d.entryPoint
  regionCount := d.regionCount
  region := fun i => if i < d.regionCount.toNat then d.region i else .blank

/-- `GetBootMonFsFileInfo` for a file of the volume. -/
def getBootMonFsFileInfo (f : File) (bufferSize : ℕ) : GetInfoReply :=
  if bufferSize < sizeOfBootMonFsFileInfo then
    ⟨.bufferTooSmall, sizeOfBootMonFsFileInfo, none⟩
  else ⟨.success, sizeOfBootMonFsFileInfo, some f.hwDescription.fileInfo⟩

/-- `BootMonFsGetInfo` with `gArmBootMonFsFileInfoGuid`. -/
def bootMonFsGetInfo (handle bufferSize : ℕ) (v : Volume) : GetInfoReply × Volume :=
  match lookup handle v.files with
  | none => (⟨.invalidParameter, bufferSize, none⟩, v)
  | some f =>
    if f.info.isNone then (⟨.invalidParameter, bufferSize, none⟩, v)
    else if v.initialized then (getBootMonFsFileInfo f bufferSize, v)
    else
      match bootMonFsInitialize v with
      | (status, v') =>
        if status.isError then (⟨status, bufferSize, none⟩, v')
        else (getBootMonFsFileInfo f bufferSize, v')

/-! ## The loader -/

namespace BootMonFsFileInfo

/-- The regions the loops of the loader go through. -/
def regions (info : BootMonFsFileInfo) : List HwRegion :=
  (List.ofFn info.region).take info.regionCount.toNat

/-- The test of `BootMonFsCheckFile` on the information of a file. -/
def isSupported (info : BootMonFsFileInfo) : Bool :=
  !(info.size = 0 || info.entryPoint = 0 || info.regionCount = 0 ||
    info.regionCount.toNat > hwImageDescriptionRegionMax) &&
  info.regions.all fun region => region.loadAddress ≠ 0 && region.size ≠ 0

end BootMonFsFileInfo

/-- `BootMonFsCheckFile`. -/
def bootMonFsCheckFile (handle : ℕ) (v : Volume) : EfiStatus × Volume :=
  match bootMonFsGetInfo handle sizeofBootMonFsFileInfo v with
  | (⟨status, _, none⟩, v') => (status, v')
  | (⟨status, _, some info⟩, v') =>
      (if status.isError then status else if info.isSupported then status else .unsupported, v')

/-- `RUNAXF_LOAD_LIST`; the loader leaves `Zeroes` at `FALSE`. -/
structure LoadNode where
  memOffset : ℕ
  fileOffset : ℕ
  length : ℕ
  deriving DecidableEq

/-- The node of a region of a file whose data is in a buffer at `fileData`. -/
def loadNode (arch : Arch) (fileData : ℕ) (region : HwRegion) : LoadNode where
  memOffset := region.loadAddress.toNat
  fileOffset := arch.uintn (fileData + region.offset.toNat)
  length := region.size.toNat

/-- The loop of `BootMonFsLoadFile`.  `allocate` says which of its allocations succeed. -/
def loadRegions (arch : Arch) (fileData : ℕ) (allocate : ℕ → Bool) :
    List HwRegion → ℕ → EfiStatus × List LoadNode
  | [], _ => (.success, [])
  | region :: regions, index =>
      if allocate index then
        match loadRegions arch fileData allocate regions (index + 1) with
        | (status, nodes) => (status, loadNode arch fileData region :: nodes)
      else (.outOfResources, [])

/-- `ImageSize`. -/
def imageSize (arch : Arch) (nodes : List LoadNode) : ℕ :=
  nodes.foldl (fun size node => arch.uintn (size + node.length)) 0

/-- What `BootMonFsLoadFile` leaves its caller with. -/
structure Loaded where
  status : EfiStatus
  entryPoint : Option ℕ
  loadList : List LoadNode

/-- `BootMonFsLoadFile` on an empty load list. -/
def bootMonFsLoadFile (handle fileData : ℕ) (allocate : ℕ → Bool) (v : Volume) :
    Loaded × Volume :=
  match bootMonFsGetInfo handle sizeofBootMonFsFileInfo v with
  | (⟨status, _, none⟩, v') => (⟨status, none, []⟩, v')
  | (⟨_, _, some info⟩, v') =>
      match loadRegions v.cfg.arch fileData allocate info.regions 0 with
      | (status, nodes) =>
        (⟨if !status.isError && imageSize v.cfg.arch nodes = 0 then .invalidParameter else status,
          some info.entryPoint.toNat, nodes⟩, v')

/-! ## The statement -/

/-- `FileStart` of a flush of a file that has been flushed before. -/
def File.fileStart (cfg : BuildConfig) (media : Media) (f : File) : ℕ :=
  cfg.arch.uintn (f.blockStart * media.blockSize)

/-- The source of a node lies in the buffer and holds the first bytes of the file from
`fileStart` on, which are those of the only region of a file the driver has described. -/
structure HoldsRegion (content : ByteStore) (fileStart fileData : ℕ) (data : List UInt8)
    (node : LoadNode) (region : HwRegion) : Prop where
  start : fileData ≤ node.fileOffset
  inside : node.fileOffset + node.length ≤ fileData + data.length
  bytes : (data.drop (node.fileOffset - fileData)).take node.length =
    content.read fileStart region.size.toNat

/-- Whatever the firmware answers: a load list built for the whole file, read into a buffer at
`fileData`, has the bytes of each region as they are on the media. -/
def LoadsStored (handle : ℕ) (v : Volume) : Prop :=
  ∀ env fileData allocate f info status data v' f', lookup handle v.files = some f →
    f.info = some info →
    bootMonFsReadFile handle (v.cfg.arch.uintn info.fileSize) (v.enter env) =
      (status, data, v') →
    status.isError = false →
    fileData + data.length ≤ 2 ^ v.cfg.arch.uintnBits →
    lookup handle v'.files = some f' →
    (bootMonFsCheckFile handle v').1 = .success →
    (bootMonFsLoadFile handle fileData allocate v').1.status = .success →
    List.Forall₂ (HoldsRegion v'.services.content (f'.fileStart v.cfg v.media) fileData data)
      (bootMonFsLoadFile handle fileData allocate v').1.loadList
      ((List.ofFn f'.hwDescription.region).take f'.hwDescription.regionCount.toNat)

/-- The volume on a media with other bytes. -/
def Volume.withContent (v : Volume) (content : ByteStore) : Volume :=
  { v with services := { v.services with content := content } }

lemma Volume.withContent_self (v : Volume) : v.withContent v.services.content = v := rfl

/-- A flush has nothing to do for the file. -/
def File.Settled (f : File) (info : FileInfo) : Prop :=
  f.openMode = .read ∨
    f.onDisk = true ∧ f.regionToFlush = [] ∧ needsDescription f info = false

/-- The offset of the region of a file the driver has described: the low half of its address on
the media. -/
def File.regionOffset (cfg : BuildConfig) (media : Media) (f : File) : ℕ :=
  f.fileStart cfg media % 2 ^ 32

/-- The place in a buffer of `fileSize` bytes that the offset of the region names is in the
buffer, and is where `BootMonFsReadFile` puts the bytes of the region. -/
structure File.LoadsInPlace (cfg : BuildConfig) (media : Media) (f : File) (fileSize : ℕ) :
    Prop where
  inside : f.regionOffset cfg media + f.dataSize ≤ cfg.arch.uintn fileSize
  place : uint64 ((media.lowestAlignedLba + f.blockStart) * media.blockSize) +
    f.regionOffset cfg media = f.fileStart cfg media

/-! ## Descriptions the driver writes -/

namespace HwImageDescription

/-- A description as `WriteFileDescription` fills it in: one region, at the address on the media
where the file starts. -/
structure Rewritten (cfg : BuildConfig) (media : Media) (d : HwImageDescription) : Prop where
  regionCount : d.regionCount = 1
  offset : (d.region 0).offset =
    UInt32.ofNat (cfg.arch.uintn (d.blockStart.toNat * media.blockSize))

lemma bytes_injective {d d' : HwImageDescription} (h : d.bytes = d'.bytes) : d = d' := by
  rw [← ofStore_write_bytes (fun _ => 0) 0 d, h, ofStore_write_bytes]

lemma zero_bytes : zero.bytes = List.replicate sizeofHwImageDescription 0 := by decide

end HwImageDescription

/-- The descriptions among these writes are blank or filled in by `WriteFileDescription`. -/
def Describing (cfg : BuildConfig) (media : Media) (writes : List DiskWrite) : Prop :=
  ∀ write ∈ writes, write.kind = .description →
    write.bytes = HwImageDescription.zero.bytes ∨
      ∃ d : HwImageDescription, d.Rewritten cfg media ∧ write.bytes = d.bytes

section Describing

variable {cfg : BuildConfig} {media : Media} {ws ws' : List DiskWrite}

lemma describing_nil : Describing cfg media [] := fun _ h => absurd h List.not_mem_nil

lemma Describing.append (h : Describing cfg media ws) (h' : Describing cfg media ws') :
    Describing cfg media (ws ++ ws') := by
  intro write hwrite
  rcases List.mem_append.mp hwrite with hwrite | hwrite
  · exact h write hwrite
  · exact h' write hwrite

/-- The services after some writes, successful or not, among them the given descriptions. -/
def Services.Described (cfg : BuildConfig) (media : Media) (s s' : Services) : Prop :=
  ∃ ws, s'.log = s.log ++ ws ∧ Describing cfg media ws

namespace Services.Described

variable {s s' s'' : Services}

lemma of_log (h : s'.log = s.log) : s.Described cfg media s' :=
  ⟨[], by rw [h, List.append_nil], describing_nil⟩

lemma refl (s : Services) : s.Described cfg media s := of_log rfl

lemma trans (h : s.Described cfg media s') (h' : s'.Described cfg media s'') :
    s.Described cfg media s'' := by
  obtain ⟨ws, hlog, hws⟩ := h
  obtain ⟨ws', hlog', hws'⟩ := h'
  exact ⟨ws ++ ws', by rw [hlog', hlog, List.append_assoc], hws.append hws'⟩

lemma writeDisk_data (address : ℕ) (bytes : List UInt8) :
    s.Described cfg media (s.writeDisk .data address bytes).2 := by
  refine ⟨[⟨.data, address, bytes⟩], rfl, fun write hwrite hkind => ?_⟩
  rw [List.mem_singleton.mp hwrite] at hkind
  cases hkind

lemma writeDisk_description (address : ℕ) {bytes : List UInt8}
    (h : bytes = HwImageDescription.zero.bytes ∨
      ∃ d : HwImageDescription, d.Rewritten cfg media ∧ bytes = d.bytes) :
    s.Described cfg media (s.writeDisk .description address bytes).2 := by
  refine ⟨[⟨.description, address, bytes⟩], rfl, fun write hwrite _ => ?_⟩
  rw [List.mem_singleton.mp hwrite]
  exact h

end Services.Described

end Describing

lemma allocatePool_log {s s' : Services} {ok : Bool} (h : s.allocatePool = (ok, s')) :
    s'.log = s.log :=
  congrArg (·.2.log) h.symm

section Flush

variable {cfg : BuildConfig} {media : Media} {f : File} {s : Services}

lemma layout_rewritten (d : HwImageDescription) (name : FileName) (dataSize : UInt32)
    (fileStart : ℕ) :
    (layout cfg media d name dataSize fileStart).checksummed.Rewritten cfg media where
  regionCount := rfl
  offset := by
    simp only [HwImageDescription.checksummed_region, HwImageDescription.checksummed_blockStart,
      layout, Function.update_self]

lemma invalidateImageDescription_described :
    s.Described cfg media (invalidateImageDescription f s).2 := by
  unfold invalidateImageDescription
  cases hallocate : s.allocatePool with
  | mk ok s' =>
    have hlog := allocatePool_log hallocate
    cases ok with
    | false => exact .of_log hlog
    | true =>
        exact (Services.Described.of_log hlog).trans
          (.writeDisk_description _ (.inl HwImageDescription.zero_bytes.symm))

lemma writeFileDescription_described (name : FileName) (dataSize : UInt32) (fileStart : ℕ) :
    s.Described cfg media (writeFileDescription cfg media f name dataSize fileStart s).2.2 := by
  unfold writeFileDescription
  cases hallocate : s.allocatePool with
  | mk ok s' =>
    have hlog := allocatePool_log hallocate
    cases ok with
    | false => exact .of_log hlog
    | true =>
        exact (Services.Described.of_log hlog).trans
          (.writeDisk_description _ (.inr ⟨_, layout_rewritten .., rfl⟩))

lemma flushPlaced_described (ctx : FlushContext) (info : FileInfo) :
    s.Described ctx.cfg ctx.media (flushPlaced ctx info f s).2.2 :=
  flushPlaced_keeps (P := fun _ s' => s.Described ctx.cfg ctx.media s')
    (fun _ _ h => h.trans invalidateImageDescription_described)
    (fun _ _ address buffer h => h.trans (.writeDisk_data address buffer))
    (fun _ _ name dataSize h => h.trans (writeFileDescription_described name dataSize _))
    (fun _ _ h => h) (.refl s)

end Flush

/-! ## Runs -/

/-- What every call keeps of an initialised volume, and the descriptions it may write. -/
structure Follows (v v' : Volume) : Prop where
  cfg : v'.cfg = v.cfg
  media : v'.media = v.media
  initialized : v'.initialized = v.initialized
  described : v.services.Described v.cfg v.media v'.services

section Follows

variable {v v' v'' : Volume} {handle : ℕ}

lemma Follows.of_log {s : Services} (hlog : s.log = v.services.log) {files : List File}
    {nextHandle : ℕ} :
    Follows v { v with services := s, files := files, nextHandle := nextHandle } :=
  ⟨rfl, rfl, rfl, .of_log hlog⟩

lemma Follows.refl (v : Volume) : Follows v v := ⟨rfl, rfl, rfl, .refl _⟩

lemma Follows.trans (h : Follows v v') (h' : Follows v' v'') : Follows v v'' where
  cfg := h'.cfg.trans h.cfg
  media := h'.media.trans h.media
  initialized := h'.initialized.trans h.initialized
  described := h.described.trans (by
    have := h'.described
    rwa [h.cfg, h.media] at this)

lemma Follows.put {s : Services} (hlog : s.log = v.services.log) (f : File) :
    Follows v (v.put f s) :=
  ⟨rfl, rfl, rfl, .of_log hlog⟩

lemma flushFile_follows : Follows v (bootMonFsFlushFile handle v).2 := by
  rcases flushFile_cases handle v with ⟨status, -, heq⟩ |
    ⟨f, info, fileStart, files, -, -, -, -, heq⟩
  · rw [heq]
    exact .refl v
  · rw [heq]
    exact ⟨rfl, rfl, rfl, flushPlaced_described (flushContext v f info fileStart files) info⟩

lemma closeFile_follows : Follows v (bootMonFsCloseFile handle v).2 := by
  unfold bootMonFsCloseFile
  split
  · exact .refl v
  · exact (@flushFile_follows v handle).trans (.of_log rfl)

lemma readFile_follows (bufferSize : ℕ) :
    Follows v (bootMonFsReadFile handle bufferSize v).2.2 := by
  unfold bootMonFsReadFile
  split
  · exact .refl v
  have hflush := @flushFile_follows v handle
  generalize (bootMonFsFlushFile handle v).2 = flushed at hflush
  dsimp only
  split
  · exact hflush
  split
  · exact hflush
  split
  · exact hflush
  split
  · exact hflush.trans (Follows.put (s := flushed.services.readDisk.2) rfl _)
  · exact hflush.trans (Follows.put (s := flushed.services.readDisk.2) rfl _)

lemma delete_follows : Follows v (bootMonFsDelete handle v).2 := by
  unfold bootMonFsDelete
  split
  · exact .refl v
  · rename_i f _
    have hclear : v.services.Described v.cfg v.media
        (if File.onDisk { f with regionToFlush := [] } = true then
          invalidateImageDescription { f with regionToFlush := [] } v.services
        else (.success, v.services)).2 := by
      split
      · exact invalidateImageDescription_described
      · exact .refl _
    split
    · exact .refl v
    dsimp only
    generalize (if File.onDisk { f with regionToFlush := [] } = true then
      invalidateImageDescription { f with regionToFlush := [] } v.services
      else (.success, v.services)) = cleared at hclear
    split
    · exact ⟨rfl, rfl, rfl, hclear⟩
    · exact ⟨rfl, rfl, rfl, hclear⟩

lemma openFile_follows (hinitialized : v.initialized = true) (name : FileName)
    (mode : OpenMode) (attributes : ℕ) :
    Follows v (bootMonFsOpenFile name mode attributes v).2.2 := by
  rw [bootMonFsOpenFile, if_pos hinitialized, openInRoot]
  split
  · exact .refl v
  cases hallocate : v.services.allocatePool with
  | mk ok s =>
    have hlog := allocatePool_log hallocate
    cases ok with
    | false => exact .of_log hlog
    | true =>
      dsimp only
      split
      · split
        · exact .of_log hlog
        · exact .put hlog _
      split
      · cases hcreate : s.allocatePool with
        | mk ok s' =>
          have hlog' := (allocatePool_log hcreate).trans hlog
          simp only [bootMonFsCreateFile, hcreate]
          cases ok with
          | false => exact .of_log hlog'
          | true => exact .of_log hlog'
      · exact .of_log hlog

lemma writeFile_log (buffer : List UInt8) (f : File) (info : FileInfo) (s : Services) :
    (writeFile buffer f info s).2.2.log = s.log := by
  unfold writeFile
  split
  · rfl
  split
  · rename_i heq
    exact allocatePool_log heq
  rename_i heq
  split
  · rename_i heq'
    exact (allocatePool_log heq').trans (allocatePool_log heq)
  · rename_i heq'
    exact (allocatePool_log heq').trans (allocatePool_log heq)

lemma setFileSize_log (newSize : ℕ) (f : File) (info : FileInfo) (s : Services) :
    (setFileSize newSize f info s).2.2.log = s.log := by
  unfold setFileSize
  dsimp only
  split
  · rfl
  split
  · split
    · rename_i heq
      exact allocatePool_log heq
    rename_i s₁ heq
    have hwrite := (writeFile_log (List.replicate (newSize - info.fileSize % 2 ^ 32) 0)
      (f.setPosition (info.fileSize % 2 ^ 32) info) info s₁).trans (allocatePool_log heq)
    split
    · exact hwrite
    split
    · exact hwrite
    · exact hwrite
  · rfl

lemma applyFileInfo_log (cfg : BuildConfig) (files : List File) (args : SetInfoArgs) (f : File)
    (info : FileInfo) (s : Services) :
    (applyFileInfo cfg files args f info s).2.2.log = s.log := by
  have hresize : (if args.fileSize ≠ info.fileSize then
      setFileSize (cfg.arch.uintn args.fileSize) f info s else (.success, f, s)).2.2.log =
        s.log := by
    split
    · exact setFileSize_log ..
    · rfl
  unfold applyFileInfo
  generalize (if args.fileSize ≠ info.fileSize then
    setFileSize (cfg.arch.uintn args.fileSize) f info s else (.success, f, s)) = resized
      at hresize
  dsimp only
  split
  · exact hresize
  split
  · exact hresize
  split
  · exact hresize
  · exact hresize

lemma setFileInfo_log (cfg : BuildConfig) (files : List File) (args : SetInfoArgs) (f : File)
    (info : FileInfo) (s : Services) :
    (setFileInfo cfg files args f info s).2.2.log = s.log := by
  unfold setFileInfo
  dsimp only
  split
  · rfl
  split
  · rfl
  split
  · rfl
  · exact applyFileInfo_log ..

lemma setInfo_follows (args : SetInfoArgs) : Follows v (bootMonFsSetInfo handle args v).2 := by
  unfold bootMonFsSetInfo
  cases lookup handle v.files with
  | none => exact .refl v
  | some f =>
    dsimp only
    split
    · exact .refl v
    split
    · exact .refl v
    split
    · exact .refl v
    · exact .put (setFileInfo_log ..) _

lemma writeFile_follows (buffer : List UInt8) :
    Follows v (bootMonFsWriteFile handle buffer v).2 := by
  unfold bootMonFsWriteFile
  cases lookup handle v.files with
  | none => exact .refl v
  | some f =>
    dsimp only
    split
    · exact .refl v
    · exact .put (writeFile_log ..) _

lemma setPosition_follows (position : ℕ) :
    Follows v (bootMonFsSetPosition handle position v).2 := by
  unfold bootMonFsSetPosition
  cases lookup handle v.files with
  | none => exact .refl v
  | some f =>
    dsimp only
    split
    · exact .refl v
    · exact .put rfl _

/-- One call. -/
theorem perform_follows (hinitialized : v.initialized = true) (env : Environment) (call : Call) :
    Follows v (perform call (v.enter env)).2 := by
  have henter : Follows v (v.enter env) := ⟨rfl, rfl, rfl, .of_log rfl⟩
  refine henter.trans ?_
  cases call with
  | openFile name mode attributes =>
      exact @openFile_follows (v.enter env) hinitialized name mode attributes
  | closeFile handle => exact closeFile_follows
  | delete handle => exact delete_follows
  | readFile handle bufferSize => exact readFile_follows bufferSize
  | writeFile handle buffer => exact writeFile_follows buffer
  | setPosition handle position => exact setPosition_follows position
  | setInfo handle args => exact setInfo_follows args
  | flushFile handle => exact flushFile_follows

/-- A run. -/
theorem run_follows {v₀ : Volume} {calls : List (Environment × Call)}
    (hinitialized : v₀.initialized = true) (hrun : driver.Run v₀ calls v) : Follows v₀ v := by
  refine hrun.invariant (P := Follows v₀) ?_ (.refl v₀)
  rintro v ⟨env, call⟩ _ hv rfl
  exact hv.trans (perform_follows (hv.initialized.trans hinitialized) env call)

/-- A description that a run has written for a file, and that is not blank, is one that
`WriteFileDescription` has filled in. -/
lemma Follows.rewritten {f : File} (h : Follows v v') (hwritten : describing f ∈ newWrites v v')
    (hdisk : f.onDisk = true) : f.hwDescription.Rewritten v.cfg v.media := by
  obtain ⟨ws, hlog, hws⟩ := h.described
  rw [newWrites, hlog, List.drop_left] at hwritten
  rcases hws _ hwritten rfl with hzero | ⟨d, hd, hbytes⟩
  · have heq : f.hwDescription = .zero := HwImageDescription.bytes_injective hzero
    rw [File.onDisk, heq] at hdisk
    exact absurd hdisk (by decide)
  · rw [show f.hwDescription = d from HwImageDescription.bytes_injective hbytes]
    exact hd

end Follows

/-! ## Reading a file whole -/

section Read

variable {v v' : Volume} {handle : ℕ} {f f' : File} {info : FileInfo}

/-- A flush of a settled file at most brings the information on its size up to date. -/
lemma flushFile_settled (hlookup : lookup handle v.files = some f) (hinfo : f.info = some info)
    (hsettled : f.Settled info) :
    ∃ files f' info', (bootMonFsFlushFile handle v).2 = { v with files := files } ∧
      lookup handle files = some f' ∧ f'.info = some info' ∧ info'.fileSize = info.fileSize ∧
      f'.hwDescription = f.hwDescription ∧ f'.position = f.position := by
  unfold bootMonFsFlushFile
  simp only [hlookup, hinfo]
  by_cases hmode : f.openMode = .read
  · rw [if_pos hmode]
    exact ⟨v.files, f, info, rfl, hlookup, hinfo, rfl, rfl, rfl⟩
  · obtain ⟨hdisk, hregions, hneeds⟩ := hsettled.resolve_left hmode
    have hfreed : needsDescription (freeFileRegions v.media f info) info = false := hneeds
    rw [if_neg hmode, placeFile, if_pos hdisk]
    simp only [flushPlaced, hregions, flushRegions, EfiStatus.isError_success,
      Bool.false_eq_true, if_false, flushContext, hfreed]
    exact ⟨_, freeFileRegions v.media f info, _, rfl,
      lookup_update hlookup (lookup_some hlookup).2, rfl, rfl, rfl, rfl⟩

/-- What a successful read of a whole file leaves: its bytes in the buffer, and the file with
its description. -/
structure ReadWhole (handle : ℕ) (v : Volume) (f : File) (info : FileInfo) (data : List UInt8)
    (v' : Volume) : Prop where
  data : data = v.services.content.read
    (uint64 ((v.media.lowestAlignedLba + f.blockStart) * v.media.blockSize))
    (v.cfg.arch.uintn info.fileSize)
  content : v'.services.content = v.services.content
  cfg : v'.cfg = v.cfg
  initialized : v'.initialized = v.initialized
  file : ∃ f', lookup handle v'.files = some f' ∧ f'.info.isNone = false ∧
    f'.hwDescription = f.hwDescription

lemma readFile_settled (hlookup : lookup handle v.files = some f) (hinfo : f.info = some info)
    (hsettled : f.Settled info) (hposition : f.position = 0) :
    ∃ status data v', bootMonFsReadFile handle (v.cfg.arch.uintn info.fileSize) v =
        (status, data, v') ∧
      (status.isError = false → ReadWhole handle v f info data v') ∧
      (status = .success ∨ status = v.services.env.readDisk v.services.requests) := by
  obtain ⟨files, f', info', hflush, hlookup', hinfo', hsize, hdesc, hposition'⟩ :=
    flushFile_settled hlookup hinfo hsettled
  have hblock : f'.blockStart = f.blockStart := by rw [File.blockStart, hdesc, File.blockStart]
  have hbind : (lookup handle v.files).bind (·.info) = some info := by rw [hlookup]; exact hinfo
  unfold bootMonFsReadFile
  simp only [hbind, hflush, hlookup', hinfo', hposition'.trans hposition, hsize, Nat.sub_zero,
    Nat.min_self, Nat.add_zero, Nat.not_lt_zero, if_false, hblock, Nat.le_zero]
  by_cases hempty : info.fileSize = 0
  · rw [if_pos hempty]
    refine ⟨.success, [], _, rfl, fun _ => ⟨?_, rfl, rfl, rfl, f', hlookup', ?_, hdesc⟩, .inl rfl⟩
    · rw [hempty, Arch.uintn, Nat.zero_mod, ByteStore.read_zero]
    · rw [hinfo']
      rfl
  rw [if_neg hempty]
  by_cases herror : (v.services.env.readDisk v.services.requests).isError = true
  · simp only [Services.readDisk, herror, if_true]
    refine ⟨_, [], _, rfl, fun h => ?_, .inr rfl⟩
    rw [herror] at h
    cases h
  · simp only [Services.readDisk, herror, Bool.false_eq_true, if_false]
    refine ⟨_, _, _, rfl, fun _ => ⟨?_, rfl, rfl, rfl, _,
      lookup_update hlookup' (lookup_some hlookup').2, ?_, hdesc⟩, .inr rfl⟩
    · rw [uint64_of_lt (uint64_lt _)]
    · rfl

/-- The answer to the loader depends on the description only. -/
lemma getInfo_eq (hlookup : lookup handle v.files = some f) (hopen : f.info.isNone = false)
    (hinitialized : v.initialized = true) :
    bootMonFsGetInfo handle sizeofBootMonFsFileInfo v =
      (⟨.success, sizeOfBootMonFsFileInfo, some f.hwDescription.fileInfo⟩, v) := by
  simp only [bootMonFsGetInfo, hlookup, hopen, hinitialized, Bool.false_eq_true, if_false, if_true]
  rfl

lemma checkFile_iff (hlookup : lookup handle v.files = some f) (hopen : f.info.isNone = false)
    (hinitialized : v.initialized = true) :
    (bootMonFsCheckFile handle v).1 = .success ↔ f.hwDescription.fileInfo.isSupported = true := by
  rw [bootMonFsCheckFile, getInfo_eq hlookup hopen hinitialized]
  simp only [EfiStatus.isError_success, Bool.false_eq_true, if_false]
  by_cases hsupported : f.hwDescription.fileInfo.isSupported = true
  · simp [hsupported]
  · simp [hsupported]

end Read

/-! ## The load list -/

section LoadList

variable {arch : Arch} {cfg : BuildConfig} {media : Media} {d : HwImageDescription}
  {fileData : ℕ} {allocate : ℕ → Bool}

lemma HwImageDescription.Rewritten.regions (h : d.Rewritten cfg media) :
    (List.ofFn d.region).take d.regionCount.toNat = [d.region 0] := by
  rw [h.regionCount]
  simp [List.ofFn_succ]

lemma HwImageDescription.Rewritten.fileInfo_regions (h : d.Rewritten cfg media) :
    d.fileInfo.regions = [d.region 0] := by
  simp [BootMonFsFileInfo.regions, HwImageDescription.fileInfo, h.regionCount, List.ofFn_succ]

/-- A supported description has data. -/
lemma HwImageDescription.Rewritten.size_pos (h : d.Rewritten cfg media)
    (hsupported : d.fileInfo.isSupported = true) : 0 < (d.region 0).size.toNat := by
  rw [BootMonFsFileInfo.isSupported, h.fileInfo_regions, Bool.and_eq_true] at hsupported
  have hsize : (d.region 0).size ≠ 0 := by simpa using (by simpa using hsupported.2 : _ ∧ _).2
  exact Nat.pos_of_ne_zero fun hzero => hsize (UInt32.toNat_inj.mp hzero)

lemma UInt32.toNat_lt_uintn (n : UInt32) (arch : Arch) : n.toNat < 2 ^ arch.uintnBits := by
  have := n.toNat_lt
  cases arch <;> simp only [Arch.uintnBits] <;> omega

/-- The load list of a file the driver has described. -/
lemma loadFile_rewritten {v : Volume} {handle : ℕ} {f : File}
    (hlookup : lookup handle v.files = some f) (hopen : f.info.isNone = false)
    (hinitialized : v.initialized = true) (h : f.hwDescription.Rewritten cfg media)
    (hsize : 0 < f.dataSize) :
    (bootMonFsLoadFile handle fileData allocate v).1 =
      ⟨if allocate 0 then .success else .outOfResources,
        some f.hwDescription.entryPoint.toNat,
        if allocate 0 then [loadNode v.cfg.arch fileData (f.hwDescription.region 0)] else []⟩ := by
  rw [bootMonFsLoadFile, getInfo_eq hlookup hopen hinitialized]
  simp only [h.fileInfo_regions, loadRegions]
  by_cases hallocate : allocate 0 = true
  · have hne : imageSize v.cfg.arch
        [loadNode v.cfg.arch fileData (f.hwDescription.region 0)] ≠ 0 := by
      show v.cfg.arch.uintn (0 + f.dataSize) ≠ 0
      rw [Nat.zero_add, File.dataSize, Arch.uintn_of_lt (UInt32.toNat_lt_uintn _ _)]
      exact Nat.pos_iff_ne_zero.mp hsize
    simp only [hallocate, if_true, hne, decide_false, Bool.and_false, Bool.false_eq_true, if_false]
    rfl
  · simp only [hallocate, Bool.false_eq_true, if_false]
    rfl

/-- When the node of a region holds its bytes. -/
lemma holdsRegion_iff {content : ByteStore} {readStart fileStart size : ℕ} {region : HwRegion}
    (hfit : fileData + size ≤ 2 ^ arch.uintnBits) (hsize : 0 < region.size.toNat) :
    HoldsRegion content fileStart fileData (content.read readStart size)
        (loadNode arch fileData region) region ↔
      region.offset.toNat + region.size.toNat ≤ size ∧
        content.read (readStart + region.offset.toNat) region.size.toNat =
          content.read fileStart region.size.toNat := by
  have hoffset := UInt32.toNat_lt_uintn region.offset arch
  have hbytes : region.offset.toNat + region.size.toNat ≤ size →
      arch.uintn (fileData + region.offset.toNat) = fileData + region.offset.toNat ∧
      ((content.read readStart size).drop (fileData + region.offset.toNat - fileData)).take
          region.size.toNat =
        content.read (readStart + region.offset.toNat) region.size.toNat := by
    intro hin
    refine ⟨Arch.uintn_of_lt (by omega), ?_⟩
    rw [Nat.add_sub_cancel_left, ByteStore.read_drop_take hin]
  constructor
  · rintro ⟨hstart, hinside, hdata⟩
    rw [ByteStore.length_read] at hinside
    -- an address that wraps lies before the buffer
    have hnowrap : fileData + region.offset.toNat < 2 ^ arch.uintnBits := by
      by_contra hwrap
      have heq : arch.uintn (fileData + region.offset.toNat) =
          fileData + region.offset.toNat - 2 ^ arch.uintnBits := by
        rw [Arch.uintn, Nat.mod_eq_sub_mod (by omega), Nat.mod_eq_of_lt (by omega)]
      have hstart' : fileData ≤ arch.uintn (fileData + region.offset.toNat) := hstart
      omega
    have hinside' : arch.uintn (fileData + region.offset.toNat) + region.size.toNat ≤
      fileData + size := hinside
    rw [Arch.uintn_of_lt hnowrap] at hinside'
    have hin : region.offset.toNat + region.size.toNat ≤ size := by omega
    obtain ⟨heq, hread⟩ := hbytes hin
    refine ⟨hin, hread.symm.trans ?_⟩
    rw [← hdata]
    show _ = ((content.read readStart size).drop
      (arch.uintn (fileData + region.offset.toNat) - fileData)).take region.size.toNat
    rw [heq]
  · rintro ⟨hin, hdata⟩
    obtain ⟨heq, hread⟩ := hbytes hin
    have hnode : (loadNode arch fileData region).fileOffset = fileData + region.offset.toNat := heq
    refine ⟨?_, ?_, ?_⟩
    · rw [hnode]
      exact Nat.le_add_right _ _
    · rw [hnode, ByteStore.length_read, Nat.add_assoc]
      exact Nat.add_le_add_left hin _
    · rw [hnode]
      exact hread.trans hdata

/-- Only the place decides what is read from a media with any bytes. -/
lemma read_eq_read_forall {a b n : ℕ} (hn : 0 < n) :
    (∀ content : ByteStore, content.read a n = content.read b n) ↔ a = b := by
  refine ⟨fun h => ?_, fun h content => by rw [h]⟩
  by_contra hne
  have hbyte := List.getElem_of_eq (h fun x => if x = b then 1 else 0)
    (show 0 < _ by rw [ByteStore.length_read]; exact hn)
  simp [hne] at hbyte

end LoadList

/-! ## The driver and the loader -/

lemma HwImageDescription.Rewritten.regionOffset {cfg : BuildConfig} {media : Media} {f : File}
    (h : f.hwDescription.Rewritten cfg media) :
    (f.hwDescription.region 0).offset.toNat = f.regionOffset cfg media := by
  rw [h.offset, UInt32.toNat_ofNat']
  rfl

namespace ReadWhole

variable {v v' : Volume} {handle fileData : ℕ} {f f' : File} {info : FileInfo}
  {data : List UInt8} {allocate : ℕ → Bool}

/-- A file the driver has described is loaded as one node, if its memory is there. -/
lemma loadFile_eq (hwhole : ReadWhole handle v f info data v') (hinitialized : v.initialized = true)
    (hrewritten : f.hwDescription.Rewritten v.cfg v.media) (hsize : 0 < f.dataSize) :
    (bootMonFsLoadFile handle fileData allocate v').1 =
      ⟨if allocate 0 then .success else .outOfResources,
        some f.hwDescription.entryPoint.toNat,
        if allocate 0 then [loadNode v.cfg.arch fileData (f.hwDescription.region 0)] else []⟩ := by
  obtain ⟨f', hlookup, hopen, hdesc⟩ := hwhole.file
  rw [loadFile_rewritten hlookup hopen (hwhole.initialized.trans hinitialized)
    (hdesc ▸ hrewritten : f'.hwDescription.Rewritten v.cfg v.media)
    (by rw [File.dataSize, hdesc]; exact hsize), hdesc, hwhole.cfg]

/-- When the load list has the bytes of the file. -/
lemma loadList_iff (hwhole : ReadWhole handle v f info data v')
    (hinitialized : v.initialized = true) (hrewritten : f.hwDescription.Rewritten v.cfg v.media)
    (hsize : 0 < f.dataSize) (hlookup : lookup handle v'.files = some f')
    (hallocate : allocate 0 = true) (hfit : fileData + data.length ≤ 2 ^ v.cfg.arch.uintnBits) :
    List.Forall₂ (HoldsRegion v'.services.content (f'.fileStart v.cfg v.media) fileData data)
        (bootMonFsLoadFile handle fileData allocate v').1.loadList
        ((List.ofFn f'.hwDescription.region).take f'.hwDescription.regionCount.toNat) ↔
      f.regionOffset v.cfg v.media + f.dataSize ≤ v.cfg.arch.uintn info.fileSize ∧
        v.services.content.read
            (uint64 ((v.media.lowestAlignedLba + f.blockStart) * v.media.blockSize) +
              f.regionOffset v.cfg v.media) f.dataSize =
          v.services.content.read (f.fileStart v.cfg v.media) f.dataSize := by
  have hdesc : f'.hwDescription = f.hwDescription := by
    obtain ⟨f₁, hlookup₁, -, hdesc⟩ := hwhole.file
    rwa [show f' = f₁ from Option.some.inj (hlookup.symm.trans hlookup₁)]
  have hstart : f'.fileStart v.cfg v.media = f.fileStart v.cfg v.media := by
    rw [File.fileStart, File.blockStart, hdesc, File.fileStart, File.blockStart]
  rw [hwhole.data, ByteStore.length_read] at hfit
  rw [hwhole.loadFile_eq hinitialized hrewritten hsize, hwhole.data, hwhole.content, hdesc,
    hstart, hrewritten.regions]
  simp only [hallocate, if_true, List.forall₂_cons, List.forall₂_nil_left_iff, and_true]
  rw [holdsRegion_iff hfit hsize, hrewritten.regionOffset]
  rfl

lemma checkFile (hwhole : ReadWhole handle v f info data v') (hinitialized : v.initialized = true)
    (hsupported : f.hwDescription.fileInfo.isSupported = true) :
    (bootMonFsCheckFile handle v').1 = .success := by
  obtain ⟨f', hlookup, hopen, hdesc⟩ := hwhole.file
  rw [checkFile_iff hlookup hopen (hwhole.initialized.trans hinitialized), hdesc]
  exact hsupported

end ReadWhole

/-- What it takes of a file the driver has described, with nothing failing and a buffer at
address 0. -/
lemma LoadsStored.inside {v : Volume} {handle : ℕ} {f : File} {info : FileInfo}
    (hstored : LoadsStored handle v) (hinitialized : v.initialized = true)
    (hlookup : lookup handle v.files = some f) (hinfo : f.info = some info)
    (hsettled : f.Settled info) (hposition : f.position = 0)
    (hrewritten : f.hwDescription.Rewritten v.cfg v.media)
    (hsupported : f.hwDescription.fileInfo.isSupported = true) :
    f.regionOffset v.cfg v.media + f.dataSize ≤ v.cfg.arch.uintn info.fileSize ∧
      v.services.content.read
          (uint64 ((v.media.lowestAlignedLba + f.blockStart) * v.media.blockSize) +
            f.regionOffset v.cfg v.media) f.dataSize =
        v.services.content.read (f.fileStart v.cfg v.media) f.dataSize := by
  have hsize : 0 < f.dataSize := hrewritten.size_pos hsupported
  obtain ⟨status, data, v', hread, hwhole, hstatus⟩ := @readFile_settled (v.enter .good) handle f
    info hlookup hinfo hsettled hposition
  have hok : status.isError = false := by
    rcases hstatus with rfl | rfl <;> rfl
  replace hwhole := hwhole hok
  obtain ⟨f', hlookup', -, -⟩ := hwhole.file
  have hfit : 0 + data.length ≤ 2 ^ v.cfg.arch.uintnBits := by
    rw [hwhole.data, ByteStore.length_read, Nat.zero_add]
    exact (Arch.uintn_lt _ _).le
  have hforall := hstored .good 0 (fun _ => true) f info status data v' f' hlookup hinfo hread hok
    hfit hlookup' (hwhole.checkFile hinitialized hsupported)
    (by rw [hwhole.loadFile_eq hinitialized hrewritten hsize]; rfl)
  exact (hwhole.loadList_iff hinitialized hrewritten hsize hlookup' rfl hfit).mp hforall

/-- **When the driver and the loader agree.**  On a media with any bytes, the load list of a file
whose description the driver has written has the bytes the driver stored exactly if the offset of
its region on the media is also its place in the buffer. -/
theorem loadsStored_iff {v₀ v : Volume} {calls : List (Environment × Call)} {handle : ℕ}
    {f : File} {info : FileInfo} (hinitialized : v₀.initialized = true)
    (hrun : driver.Run v₀ calls v) (hlookup : lookup handle v.files = some f)
    (hwritten : describing f ∈ newWrites v₀ v) (hinfo : f.info = some info)
    (hsettled : f.Settled info) (hposition : f.position = 0)
    (hcheck : (bootMonFsCheckFile handle v).1 = .success) :
    (∀ content, LoadsStored handle (v.withContent content)) ↔
      f.LoadsInPlace v.cfg v.media info.fileSize := by
  have hfollows := run_follows hinitialized hrun
  have hinit : v.initialized = true := hfollows.initialized.trans hinitialized
  have hsupported : f.hwDescription.fileInfo.isSupported = true :=
    (checkFile_iff hlookup (by rw [hinfo]; rfl) hinit).mp hcheck
  have hdisk : f.onDisk = true := by
    by_contra hdisk
    have hcount : f.hwDescription.regionCount = 0 := by simpa [File.onDisk] using hdisk
    simp [BootMonFsFileInfo.isSupported, HwImageDescription.fileInfo, hcount] at hsupported
  have hrewritten : f.hwDescription.Rewritten v.cfg v.media := by
    have := hfollows.rewritten hwritten hdisk
    rwa [hfollows.cfg, hfollows.media]
  have hsize : 0 < f.dataSize := hrewritten.size_pos hsupported
  constructor
  · intro hstored
    have hboth := fun content => (hstored content).inside hinit hlookup hinfo hsettled hposition
      hrewritten hsupported
    exact ⟨(hboth fun _ => 0).1,
      (read_eq_read_forall hsize).mp fun content => (hboth content).2⟩
  · rintro ⟨hinside, hplace⟩ content env fileData allocate f₁ info₁ status data v' f' hlookup₁
      hinfo₁ hread hok hfit hlookup' - hload
    obtain rfl : f = f₁ := Option.some.inj (hlookup.symm.trans hlookup₁)
    obtain rfl : info = info₁ := Option.some.inj (hinfo.symm.trans hinfo₁)
    obtain ⟨status₁, data₁, v₁, hread₁, hwhole, -⟩ := @readFile_settled
      ((v.withContent content).enter env) handle f info hlookup hinfo hsettled hposition
    obtain ⟨rfl, rfl, rfl⟩ : status₁ = status ∧ data₁ = data ∧ v₁ = v' := by
      simpa using hread₁.symm.trans hread
    replace hwhole := hwhole hok
    have hallocate : allocate 0 = true := by
      by_contra hallocate
      rw [hwhole.loadFile_eq hinit hrewritten hsize, if_neg hallocate] at hload
      cases hload
    refine (hwhole.loadList_iff hinit hrewritten hsize hlookup' hallocate hfit).mpr ⟨hinside, ?_⟩
    show content.read (uint64 ((v.media.lowestAlignedLba + f.blockStart) * v.media.blockSize) +
      f.regionOffset v.cfg v.media) f.dataSize =
        content.read (f.fileStart v.cfg v.media) f.dataSize
    rw [hplace]

/-! ## A file the driver has made larger -/

/-- The description of an image of 100 bytes in one block. -/
def imageA (block : ℕ) : HwImageDescription where
  entryPoint := 0x80000000
  attributes := 1
  regionCount := 1
  region := fun i => if i = 0 then ⟨0x80000000, 100, 0, 0⟩ else .blank
  blockStart := UInt32.ofNat block
  blockEnd := UInt32.ofNat block
  footerChecksum := 0
  footer := HwImageFooter.setName ⟨fun _ => 0, hwImageFooterOffset2, hwImageFooterVersion2,
    hwImageFooterSignature1, hwImageFooterSignature2⟩ nameA

/-- A media of two blocks with the image in the given one. -/
def imageVolume (block : ℕ) : Volume :=
  (blankVolume 1).withContent
    (ByteStore.write (fun _ => 0) ((block + 1) * 512 - sizeofHwImageDescription)
      (imageA block).bytes)

/-- The calls that write 200 bytes to the image, which has handle 0, and open it again to load
it. -/
def growImage : List (Environment × Call) :=
  [(.good, .openFile nameA .readWrite 0), (.good, .writeFile 0 (List.replicate 200 7)),
    (.good, .closeFile 0), (.good, .openFile nameA .read 0)]

/-- The media with the image made larger. -/
def grownVolume (block : ℕ) : Volume :=
  runCalls growImage (bootMonFsInitialize (imageVolume block)).2

lemma run_grownVolume (block : ℕ) :
    driver.Run (bootMonFsInitialize (imageVolume block)).2 growImage (grownVolume block) :=
  run_runCalls _ _

/-- The file is in the list of both volumes. -/
lemma grownVolume_lookup : (lookup 0 (grownVolume 0).files).isSome = true ∧
    (lookup 0 (grownVolume 1).files).isSome = true := by
  decide +kernel

/-- It is open in both. -/
lemma grownVolume_info :
    ((lookup 0 (grownVolume 0).files).get grownVolume_lookup.1).info.isSome = true ∧
      ((lookup 0 (grownVolume 1).files).get grownVolume_lookup.2).info.isSome = true := by
  decide +kernel

/-- In the second block the driver describes the region at 512, which is behind the buffer. -/
theorem not_loadsStored_secondBlock :
    ¬ ∀ v₀ calls v handle f info, Mounted v₀ → driver.Run v₀ calls v →
      lookup handle v.files = some f → describing f ∈ newWrites v₀ v → f.info = some info →
      f.Settled info → f.position = 0 → (bootMonFsCheckFile handle v).1 = .success →
      LoadsStored handle v := by
  intro h
  have hmounted : Mounted (bootMonFsInitialize (imageVolume 1)).2 :=
    ⟨imageVolume 1, rfl, Prod.ext (by decide +kernel) rfl⟩
  have hlookup := (Option.some_get grownVolume_lookup.2).symm
  have hinfo := (Option.some_get grownVolume_info.2).symm
  have hwritten : describing ((lookup 0 (grownVolume 1).files).get grownVolume_lookup.2) ∈
    newWrites (bootMonFsInitialize (imageVolume 1)).2 (grownVolume 1) := by decide +kernel
  have hstored := h _ growImage (grownVolume 1) 0 _ _ hmounted (run_grownVolume 1) hlookup
    hwritten hinfo (.inl (by decide +kernel)) (by decide +kernel) (by decide +kernel)
  have hfollows := run_follows (by decide +kernel) (run_grownVolume 1)
  have hrewritten := hfollows.rewritten hwritten (by decide +kernel)
  rw [← hfollows.cfg, ← hfollows.media] at hrewritten
  have hinside := (hstored.inside (by decide +kernel) hlookup hinfo (.inl (by decide +kernel))
    (by decide +kernel) hrewritten (by decide +kernel)).1
  revert hinside
  decide +kernel

/-- In the first block it describes the region at 0. -/
theorem loadsStored_iff_firstBlock : LoadsStored 0 (grownVolume 0) := by
  rw [← (grownVolume 0).withContent_self]
  exact (loadsStored_iff (by decide +kernel) (run_grownVolume 0)
    (Option.some_get grownVolume_lookup.1).symm (by decide +kernel)
    (Option.some_get grownVolume_info.1).symm (.inl (by decide +kernel)) (by decide +kernel)
    (by decide +kernel)).mpr ⟨by decide +kernel, by decide +kernel⟩ _

end BootMonFs

end MuPlatform
