import MuPlatform.Base.Span
import MuPlatform.BootMonFs.Calls
import MuPlatform.BootMonFs.Description

/-!
# Where a flush puts a file

The blocks of the files on the media, and what a flush does to them.  The files that have been
flushed are to lie apart, in the order of the list (`Volume.Laid`).  A flush keeps that where
each description it writes ends inside the room of the file: the blocks from its start to the
next flushed file of the list, or to the end of the media (`RegionsFit`).

The check of the code is a different one.  It compares sizes in bytes, so that a file which
fills its room exactly gets a description in the block behind it; it looks at the next file of
the list whether or not that has been flushed; and it does not check the size the last
description is written for.
-/

namespace MuPlatform
namespace BootMonFs

/-! ## Blocks -/

/-- The block numbers of the media fit a description, its addresses fit a `UINTN`, and its
files start at block 0. -/
structure Media.Plain (media : Media) (arch : Arch) : Prop where
  blocks_lt : media.lastBlock + 1 < 2 ^ 32
  bytes_lt : (media.lastBlock + 1) * media.blockSize < 2 ^ arch.uintnBits
  lowestAlignedLba : media.lowestAlignedLba = 0

namespace Media

variable {media : Media} {b b' z z' : ℕ}

/-- The block of the description of `dataSize` bytes, counted from the first one of the file. -/
def descBlock (media : Media) (dataSize : ℕ) : ℕ :=
  (dataSize + sizeofHwImageDescription) / media.blockSize

lemma descBlock_mono (h : z ≤ z') : media.descBlock z ≤ media.descBlock z' :=
  Nat.div_le_div_right (by omega)

/-- The description starts behind the data. -/
lemma lt_descBlock (media : Media) (z : ℕ) :
    z + sizeofHwImageDescription < (media.descBlock z + 1) * media.blockSize := by
  have := Nat.lt_div_mul_add (a := z + sizeofHwImageDescription) media.blockSize_pos
  rw [Nat.add_mul, Nat.one_mul]
  exact this

/-- Data that ends before the end of a room of whole blocks has its description in the room. -/
lemma descBlock_lt_of_lt (h : b * media.blockSize + z + sizeofHwImageDescription <
    b' * media.blockSize) : b + media.descBlock z < b' := by
  have hdiv : (b * media.blockSize + (z + sizeofHwImageDescription)) / media.blockSize < b' :=
    Nat.div_lt_of_lt_mul (by rw [Nat.mul_comm media.blockSize]; omega)
  rwa [Nat.mul_comm b, Nat.mul_add_div media.blockSize_pos] at hdiv

end Media

namespace File

/-- The bytes of the blocks of a file that has been flushed. -/
def extent (media : Media) (f : File) : Span :=
  if f.onDisk then
    ⟨f.blockStart * media.blockSize, (f.blockEnd + 1 - f.blockStart) * media.blockSize⟩
  else ⟨0, 0⟩

/-- The file lies on the media, with its description at the end of its last block. -/
structure Placed (media : Media) (f : File) : Prop where
  le : f.blockStart ≤ f.blockEnd
  inside : f.blockEnd ≤ media.lastBlock
  hwDescAddress : f.hwDescAddress =
    (f.blockEnd + 1) * media.blockSize - sizeofHwImageDescription

/-- The file has been described as `dataSize` bytes from block `b` on. -/
structure DescribedAt (media : Media) (b dataSize : ℕ) (f : File) : Prop where
  onDisk : f.onDisk = true
  blockStart : f.blockStart = b
  blockEnd : f.blockEnd = b + media.descBlock dataSize
  size : f.dataSize = dataSize
  hwDescAddress : f.hwDescAddress =
    (b + media.descBlock dataSize + 1) * media.blockSize - sizeofHwImageDescription

end File

section Congr

variable {media : Media} {f f' : File} {b z : ℕ}

/-- The description of a file in memory and its address decide where it lies. -/
lemma File.Placed.congr (h : f.Placed media) (hdesc : f'.hwDescription = f.hwDescription)
    (haddress : f'.hwDescAddress = f.hwDescAddress) : f'.Placed media := by
  obtain ⟨hle, hinside, hat⟩ := h
  unfold File.blockStart File.blockEnd at *
  exact ⟨by rw [File.blockStart, File.blockEnd, hdesc]; exact hle,
    by rw [File.blockEnd, hdesc]; exact hinside,
    by rw [File.blockEnd, hdesc, haddress]; exact hat⟩

lemma File.DescribedAt.congr (h : f.DescribedAt media b z)
    (hdesc : f'.hwDescription = f.hwDescription)
    (haddress : f'.hwDescAddress = f.hwDescAddress) : f'.DescribedAt media b z where
  onDisk := by rw [File.onDisk, hdesc]; exact h.onDisk
  blockStart := by rw [File.blockStart, hdesc]; exact h.blockStart
  blockEnd := by rw [File.blockEnd, hdesc]; exact h.blockEnd
  size := by rw [File.dataSize, hdesc]; exact h.size
  hwDescAddress := haddress.trans h.hwDescAddress

end Congr

/-- The bytes of a write. -/
def DiskWrite.span (write : DiskWrite) : Span := ⟨write.address, write.bytes.length⟩

/-- The bytes of a file that starts in block `b` and is described as `dataSize` bytes. -/
def describedSpan (media : Media) (b dataSize : ℕ) : Span :=
  ⟨b * media.blockSize, (media.descBlock dataSize + 1) * media.blockSize⟩

section Describe

variable {cfg : BuildConfig} {media : Media} {f : File} {b z z' : ℕ}

lemma File.DescribedAt.extent (h : f.DescribedAt media b z) :
    f.extent media = describedSpan media b z := by
  rw [File.extent, if_pos h.onDisk, h.blockStart, h.blockEnd, describedSpan]
  congr 2
  omega

lemma describedSpan_mono (h : z ≤ z') :
    (describedSpan media b z).Within (describedSpan media b z') := by
  have hblocks : (media.descBlock z + 1) * media.blockSize ≤
      (media.descBlock z' + 1) * media.blockSize :=
    Nat.mul_le_mul_right _ (Nat.add_le_add_right (Media.descBlock_mono h) 1)
  exact ⟨Nat.le_refl _, Nat.add_le_add_left hblocks _⟩

lemma File.DescribedAt.placed (h : f.DescribedAt media b z)
    (hlast : b + media.descBlock z ≤ media.lastBlock) : f.Placed media where
  le := by rw [h.blockStart, h.blockEnd]; omega
  inside := by rw [h.blockEnd]; exact hlast
  hwDescAddress := by rw [h.hwDescAddress, h.blockEnd]

/-- `WriteFileDescription` does what it says as long as the block numbers, the size and the
address fit their fields. -/
lemma describe_describedAt_of_lt (name : FileName) (hsize : z + sizeofHwImageDescription < 2 ^ 32)
    (hend : b + media.descBlock z + 1 < 2 ^ 32)
    (haddress : (b + media.descBlock z + 1) * media.blockSize < 2 ^ cfg.arch.uintnBits) :
    (describe cfg media f name (UInt32.ofNat z) (b * media.blockSize)).DescribedAt media b z := by
  have hdata : (UInt32.ofNat z).toNat = z := by
    rw [UInt32.toNat_ofNat', Nat.mod_eq_of_lt (by omega)]
  have hblock : describedBlock media (UInt32.ofNat z) (b * media.blockSize) =
      b + media.descBlock z := by
    rw [describedBlock, descriptionBlock_eq (by rw [hdata]; exact hsize), hdata,
      Nat.mul_div_cancel _ media.blockSize_pos]
    rfl
  have hfits : DescriptionFits cfg media (UInt32.ofNat z) (b * media.blockSize) :=
    ⟨by rw [hdata]; exact hsize, by rw [hblock]; omega, by rw [hblock]; omega⟩
  have hstart := @describe_blockStart cfg media f name (UInt32.ofNat z) (b * media.blockSize)
    (by rw [Nat.mul_div_cancel _ media.blockSize_pos]; omega)
  have hend := @describe_blockEnd cfg media f name (UInt32.ofNat z) (b * media.blockSize)
    (by rw [hblock]; omega)
  refine ⟨rfl, ?_, ?_, ?_, ?_⟩
  · rw [hstart, Nat.mul_div_cancel _ media.blockSize_pos]
  · rw [hend, hblock]
  · rw [describe_dataSize, hdata]
  · rw [describe_hwDescAddress hfits, hblock]

lemma describe_describedAt (hplain : media.Plain cfg.arch) (name : FileName)
    (hsize : z + sizeofHwImageDescription < 2 ^ 32)
    (hlast : b + media.descBlock z ≤ media.lastBlock) :
    (describe cfg media f name (UInt32.ofNat z) (b * media.blockSize)).DescribedAt media b z := by
  have hblocks := hplain.blocks_lt
  have hle : (b + media.descBlock z + 1) * media.blockSize ≤
      (media.lastBlock + 1) * media.blockSize := Nat.mul_le_mul_right _ (by omega)
  exact describe_describedAt_of_lt name hsize (by omega) (Nat.lt_of_le_of_lt hle hplain.bytes_lt)

end Describe

/-! ## Rooms -/

/-- The files behind one in the list. -/
def filesAfter (handle : ℕ) : List File → List File
  | [] => []
  | f :: files => if f.handle = handle then files else filesAfter handle files

/-- The block behind the room of a file that these files follow. -/
def roomEndBlock (media : Media) : List File → ℕ
  | [] => media.lastBlock + 1
  | g :: files => if g.onDisk then g.blockStart else roomEndBlock media files

/-- What the flush of a file has to work with. -/
structure FlushRoom where
  fileStart : ℕ
  /-- The address behind the room. -/
  roomEnd : ℕ
  /-- `EndOfAppendSpace - FileStart`. -/
  appendSpace : ℕ
  oldSize : ℕ
  oldExtent : ℕ
  newSize : ℕ
  renamed : Bool

/-- The description of `dataSize` bytes ends inside the room. -/
def FlushRoom.Fits (room : FlushRoom) (dataSize : ℕ) : Prop :=
  dataSize + sizeofHwImageDescription < 2 ^ 32 ∧
    room.fileStart + dataSize + sizeofHwImageDescription < room.roomEnd

/-- The physical size of a file described as `dataSize` bytes. -/
def Media.physicalFor (media : Media) (dataSize : ℕ) : ℕ :=
  (media.descBlock dataSize + 1) * media.blockSize % 2 ^ 32

/-- Every description of a flush ends inside the room.  `physical` and `last` are the physical
size and the data size before the rest of the regions, and `top` is the largest data size the
flush has described.  Where the code finds no space it has described that size last. -/
def RegionsFit (media : Media) (room : FlushRoom) : ℕ → ℕ → ℕ → List FileRegion → Prop
  | _, _, top, [] =>
      top ≤ room.newSize ∧
        (room.Fits room.newSize ∨ room.newSize = room.oldSize ∧ room.renamed = false)
  | physical, last, top, region :: regions =>
      if region.size = 0 then RegionsFit media room physical last top regions
      else
        room.fileStart + region.ending + sizeofHwImageDescription < 2 ^ 64 ∧
        if region.ending < room.oldSize then
          region.ending ≤ room.oldExtent ∧ RegionsFit media room physical last top regions
        else if region.ending + sizeofHwImageDescription ≤ physical ∨
            region.ending + sizeofHwImageDescription ≤ room.appendSpace then
          room.Fits region.ending ∧
            RegionsFit media room (media.physicalFor region.ending) region.ending
              (max top region.ending) regions
        else media.descBlock top ≤ media.descBlock last

instance (room : FlushRoom) (dataSize : ℕ) : Decidable (room.Fits dataSize) :=
  inferInstanceAs (Decidable (_ ∧ _))

instance decidableRegionsFit (media : Media) (room : FlushRoom) :
    ∀ physical last top regions, Decidable (RegionsFit media room physical last top regions)
  | _, _, top, [] => inferInstanceAs (Decidable (top ≤ room.newSize ∧
      (room.Fits room.newSize ∨ room.newSize = room.oldSize ∧ room.renamed = false)))
  | physical, last, top, region :: regions =>
      have := decidableRegionsFit media room physical last top regions
      have := decidableRegionsFit media room (media.physicalFor region.ending) region.ending
        (max top region.ending) regions
      inferInstanceAs (Decidable (if region.size = 0 then
          RegionsFit media room physical last top regions
        else
          room.fileStart + region.ending + sizeofHwImageDescription < 2 ^ 64 ∧
          if region.ending < room.oldSize then
            region.ending ≤ room.oldExtent ∧ RegionsFit media room physical last top regions
          else if region.ending + sizeofHwImageDescription ≤ physical ∨
              region.ending + sizeofHwImageDescription ≤ room.appendSpace then
            room.Fits region.ending ∧
              RegionsFit media room (media.physicalFor region.ending) region.ending
                (max top region.ending) regions
          else media.descBlock top ≤ media.descBlock last))

/-- The room of the flush in the context `ctx` of the file `f`, with `files` behind it. -/
def flushRoom (ctx : FlushContext) (f : File) (info : FileInfo) (files : List File) :
    FlushRoom where
  fileStart := ctx.fileStart
  roomEnd := roomEndBlock ctx.media files * ctx.media.blockSize
  appendSpace := uint64Sub ctx.endOfAppendSpace ctx.fileStart
  oldSize := f.dataSize
  oldExtent := (f.extent ctx.media).len
  newSize := info.fileSize
  renamed := f.hwDescription.footer.name ≠ info.fileName.chars

/-- The flush of the file fits its room.  A file without blocks is one the driver has created. -/
def FlushFits (ctx : FlushContext) (f : File) (info : FileInfo) (files : List File) : Prop :=
  (f.onDisk = true ∨ f.hwDescAddress = 0) ∧
    RegionsFit ctx.media (flushRoom ctx f info files) (f.physicalSize ctx.media) f.dataSize 0
      f.regionToFlush

instance (ctx : FlushContext) (f : File) (info : FileInfo) (files : List File) :
    Decidable (FlushFits ctx f info files) := inferInstanceAs (Decidable (_ ∧ _))

section RegionLoop

variable {ctx : FlushContext} {f f' : File} {region : FileRegion} {regions : List FileRegion}
  {b z : ℕ} {through : Bool} {ws : List DiskWrite}

/-- The physical size of a file is that of its blocks, in a `UINT32`. -/
lemma File.physicalSize_eq {media : Media} (hdisk : f.onDisk = true)
    (hle : f.blockStart ≤ f.blockEnd) :
    f.physicalSize media = (f.blockEnd + 1 - f.blockStart) * media.blockSize % 2 ^ 32 := by
  have hsub : (f.hwDescription.blockEnd - f.hwDescription.blockStart).toNat =
      f.blockEnd - f.blockStart :=
    UInt32.toNat_sub_of_le _ _ (UInt32.le_iff_toNat_le.mpr hle)
  rw [File.physicalSize, if_pos hdisk, UInt32.toNat_mul, UInt32.toNat_add, hsub,
    UInt32.toNat_ofNat', Nat.sub_add_comm hle]
  simp [Nat.mul_mod]

lemma File.DescribedAt.physicalSize (h : f.DescribedAt ctx.media b z) :
    f.physicalSize ctx.media = ctx.media.physicalFor z := by
  have hblocks : b + ctx.media.descBlock z + 1 - b = ctx.media.descBlock z + 1 := by omega
  rw [File.physicalSize_eq h.onDisk (by rw [h.blockStart, h.blockEnd]; omega), h.blockStart,
    h.blockEnd, hblocks, Media.physicalFor]

namespace FlushContext

variable (hwrap : ctx.fileStart + region.ending + sizeofHwImageDescription < 2 ^ 64)
include hwrap

lemma regionStart_eq : ctx.regionStart region = ctx.fileStart + region.offset := by
  unfold FileRegion.ending at hwrap
  exact uint64_of_lt (by omega)

lemma regionEnd_eq : ctx.regionEnd region = ctx.fileStart + region.ending := by
  have hend : ctx.fileStart + region.offset + region.size = ctx.fileStart + region.ending := by
    unfold FileRegion.ending
    omega
  rw [regionEnd, regionStart_eq hwrap, hend, uint64_of_lt (by omega)]

lemma newDataSize_eq : ctx.newDataSize region = region.ending := by
  rw [newDataSize, regionEnd_eq hwrap, uint64Sub_of_le (by omega) (by omega)]
  omega

lemma newFileSize_eq : ctx.newFileSize region = region.ending + sizeofHwImageDescription := by
  rw [newFileSize, newDataSize_eq hwrap, uint64_of_lt (by omega)]

lemma hasSpace_iff : ctx.hasSpace f region = true ↔
    region.ending + sizeofHwImageDescription ≤ f.physicalSize ctx.media ∨
      region.ending + sizeofHwImageDescription ≤ uint64Sub ctx.endOfAppendSpace ctx.fileStart := by
  rw [hasSpace, newFileSize_eq hwrap, Bool.or_eq_true, decide_eq_true_iff, decide_eq_true_iff]

end FlushContext

/-- The bytes of the description of a file. -/
def File.descSpan (f : File) : Span := ⟨f.hwDescAddress, sizeofHwImageDescription⟩

lemma clearing_span (f : File) : (clearing f).span = f.descSpan := by
  simp [clearing, DiskWrite.span, File.descSpan]

lemma describing_span (f : File) : (describing f).span = f.descSpan := by
  simp [describing, DiskWrite.span, File.descSpan]

lemma File.Placed.descSpan_within {media : Media} (h : f.Placed media) (hdisk : f.onDisk = true) :
    f.descSpan.Within (f.extent media) := by
  have hle := h.le
  have hsize := media.description_lt
  have hlen : (f.blockEnd + 1) * media.blockSize =
      f.blockStart * media.blockSize + (f.blockEnd + 1 - f.blockStart) * media.blockSize := by
    rw [← Nat.add_mul]
    congr 1
    omega
  have hblock : 1 * media.blockSize ≤ (f.blockEnd + 1 - f.blockStart) * media.blockSize :=
    Nat.mul_le_mul_right _ (by omega)
  rw [File.extent, if_pos hdisk, File.descSpan, h.hwDescAddress]
  constructor <;> simp only <;> omega

lemma File.DescribedAt.descSpan_within {media : Media} (h : f.DescribedAt media b z) :
    f.descSpan.Within (describedSpan media b z) := by
  have hfit := media.lt_descBlock z
  have hlen : (b + media.descBlock z + 1) * media.blockSize =
      b * media.blockSize + (media.descBlock z + 1) * media.blockSize := by ring
  rw [File.descSpan, h.hwDescAddress, describedSpan]
  constructor <;> simp only <;> omega

/-- What is known of a flush before its region loop: the file starts at block `b`, its room
ends before block `r`, and a file on the media lies there in order. -/
structure FlushBase (ctx : FlushContext) (f₀ : File) (b r : ℕ) : Prop where
  plain : ctx.media.Plain ctx.cfg.arch
  fileStart : ctx.fileStart = b * ctx.media.blockSize
  fileEnd : ctx.fileEnd = ctx.fileStart + f₀.dataSize
  room_le : r ≤ ctx.media.lastBlock + 1
  blockStart : f₀.onDisk = true → f₀.blockStart = b
  placed : f₀.onDisk = true → f₀.Placed ctx.media
  created : f₀.onDisk = true ∨ f₀.hwDescAddress = 0

/-- The file in the region loop: as it was, or described as `last` bytes. -/
def LoopState (ctx : FlushContext) (f₀ : File) (room : FlushRoom) (b last top physical : ℕ)
    (f : File) : Prop :=
  f = f₀ ∧ top = 0 ∧ physical = f₀.physicalSize ctx.media ∨
    f.DescribedAt ctx.media b last ∧ f₀.dataSize ≤ last ∧ last ≤ top ∧ room.Fits top ∧
      physical = ctx.media.physicalFor last

namespace FlushBase

variable {f₀ : File} {r physical last top : ℕ} {room : FlushRoom}

lemma inPlace_iff (base : FlushBase ctx f₀ b r)
    (hwrap : ctx.fileStart + region.ending + sizeofHwImageDescription < 2 ^ 64) :
    ctx.InPlace region ↔ region.ending < f₀.dataSize := by
  rw [FlushContext.InPlace, ctx.regionEnd_eq hwrap, base.fileEnd]
  omega

/-- A description in the room. -/
lemma grown_describedAt (base : FlushBase ctx f₀ b r) (hstart : room.fileStart = ctx.fileStart)
    (hroom : room.roomEnd = r * ctx.media.blockSize)
    (hfits : room.Fits z) (f : File) (name : FileName) :
    (describe ctx.cfg ctx.media f name (UInt32.ofNat z) ctx.fileStart).DescribedAt ctx.media b z ∧
      b + ctx.media.descBlock z < r := by
  obtain ⟨hsize, hend⟩ := hfits
  rw [hstart, hroom, base.fileStart] at hend
  have hblock := Media.descBlock_lt_of_lt hend
  have hle := base.room_le
  rw [base.fileStart]
  exact ⟨describe_describedAt base.plain name hsize (by omega), hblock⟩

/-- The writes of a region that moves the end of the data. -/
lemma growing_within (base : FlushBase ctx f₀ b r)
    (hstate : LoopState ctx f₀ room b last top physical f)
    (hwrap : ctx.fileStart + region.ending + sizeofHwImageDescription < 2 ^ 64)
    (hgrown : (ctx.grown f region).DescribedAt ctx.media b region.ending) :
    ∀ w ∈ ctx.growing f region, w.span.Within (f₀.extent ctx.media) ∨
      w.span.Within (describedSpan ctx.media b (max top region.ending)) := by
  intro w hw
  rw [FlushContext.growing, List.mem_append, List.mem_cons, List.mem_singleton] at hw
  rcases hw with hclear | rfl | rfl
  · by_cases haddress : f.hwDescAddress = 0
    · rw [if_pos haddress] at hclear
      exact absurd hclear List.not_mem_nil
    · rw [if_neg haddress, List.mem_singleton] at hclear
      rw [hclear, clearing_span]
      rcases hstate with ⟨rfl, -, -⟩ | ⟨hdescribed, -, hle, -, -⟩
      · have hdisk := base.created.resolve_right haddress
        exact .inl ((base.placed hdisk).descSpan_within hdisk)
      · exact .inr (hdescribed.descSpan_within.trans
          (describedSpan_mono (hle.trans (Nat.le_max_left _ _))))
  · refine .inr (Span.Within.trans ?_ (describedSpan_mono (Nat.le_max_right _ _)))
    have hfit := ctx.media.lt_descBlock region.ending
    have hend : region.ending = region.offset + region.buffer.length := rfl
    rw [FlushContext.storing, DiskWrite.span, ctx.regionStart_eq hwrap, base.fileStart,
      describedSpan]
    constructor <;> simp only <;> omega
  · rw [describing_span]
    exact .inr (hgrown.descSpan_within.trans (describedSpan_mono (Nat.le_max_right _ _)))

/-- Where the region loop leaves the file, and where it writes. -/
structure LoopEnd (ctx : FlushContext) (f₀ : File) (room : FlushRoom) (b top : ℕ)
    (through : Bool) (f' : File) (ws : List DiskWrite) (last' top' : ℕ) : Prop where
  state : ∃ physical, LoopState ctx f₀ room b last' top' physical f'
  le : top ≤ top'
  writes : ∀ w ∈ ws, w.span.Within (f₀.extent ctx.media) ∨
    f'.DescribedAt ctx.media b last' ∧ w.span.Within (describedSpan ctx.media b top')
  got_through : through = true → top' ≤ room.newSize ∧
    (room.Fits room.newSize ∨ room.newSize = room.oldSize ∧ room.renamed = false)
  stopped : through = false → ctx.media.descBlock top' ≤ ctx.media.descBlock last'

/-- A region loop that fits its room. -/
theorem regionLoop (base : FlushBase ctx f₀ b r) {room : FlushRoom}
    (hstart : room.fileStart = ctx.fileStart)
    (hroom : room.roomEnd = r * ctx.media.blockSize)
    (hspace : room.appendSpace = uint64Sub ctx.endOfAppendSpace ctx.fileStart)
    (hsize : room.oldSize = f₀.dataSize) (hextent : room.oldExtent = (f₀.extent ctx.media).len)
    (hloop : RegionLoop ctx regions f through f' ws)
    (hstate : LoopState ctx f₀ room b last top physical f)
    (hfits : RegionsFit ctx.media room physical last top regions) :
    ∃ last' top', LoopEnd ctx f₀ room b top through f' ws last' top' := by
  induction hloop generalizing physical last top with
  | done f =>
      exact ⟨last, top, ⟨physical, hstate⟩, Nat.le_refl _, by simp, fun _ => hfits, by simp⟩
  | empty hempty _ ih =>
      rw [RegionsFit, if_pos hempty] at hfits
      exact ih hstate hfits
  | @inPlace region regions f through f' ws hne hplace _ ih =>
      rw [RegionsFit, if_neg hne, hstart] at hfits
      obtain ⟨hwrap, hfits⟩ := hfits
      have hlt := (base.inPlace_iff hwrap).mp hplace
      rw [hsize, if_pos hlt] at hfits
      obtain ⟨hle, hfits⟩ := hfits
      obtain ⟨last', top', hend⟩ := ih hstate hfits
      refine ⟨last', top', hend.state, hend.le, ?_, hend.got_through, hend.stopped⟩
      intro w hw
      rcases List.mem_cons.mp hw with rfl | hw
      · have hpos : 0 < region.ending := by
          have : region.ending = region.offset + region.size := rfl
          omega
        have hdisk : f₀.onDisk = true := by
          by_contra hdisk
          rw [hextent, File.extent, if_neg hdisk] at hle
          exact absurd hle (by simp only; omega)
        have hending : region.ending = region.offset + region.buffer.length := rfl
        rw [hextent] at hle
        refine .inl ?_
        rw [FlushContext.storing, DiskWrite.span, ctx.regionStart_eq hwrap, base.fileStart]
        rw [File.extent, if_pos hdisk] at hle ⊢
        rw [base.blockStart hdisk] at hle ⊢
        simp only at hle
        constructor <;> simp only <;> omega
      · exact hend.writes w hw
  | @grow region regions f through f' ws hne hplace hspaceCode _ ih =>
      rw [RegionsFit, if_neg hne, hstart] at hfits
      obtain ⟨hwrap, hfits⟩ := hfits
      have hge := mt (base.inPlace_iff hwrap).mpr hplace
      have hphysical : f.physicalSize ctx.media = physical := by
        rcases hstate with ⟨rfl, -, hphysical⟩ | ⟨hdescribed, -, -, -, hphysical⟩
        · exact hphysical.symm
        · rw [hdescribed.physicalSize, hphysical]
      have hroomFor := (ctx.hasSpace_iff hwrap).mp hspaceCode
      rw [hphysical, ← hspace] at hroomFor
      rw [hsize, if_neg hge, if_pos hroomFor] at hfits
      obtain ⟨hfit, hfits⟩ := hfits
      have hgrown : (ctx.grown f region).DescribedAt ctx.media b region.ending := by
        rw [FlushContext.grown, ctx.newDataSize_eq hwrap]
        exact (base.grown_describedAt hstart hroom hfit f _).1
      have htop : room.Fits (max top region.ending) := by
        rcases hstate with ⟨-, rfl, -⟩ | ⟨-, -, -, htop, -⟩
        · rwa [Nat.zero_max]
        · rcases Nat.le_total top region.ending with hle | hle
          · rwa [Nat.max_eq_right hle]
          · rwa [Nat.max_eq_left hle]
      have hwrites := base.growing_within hstate hwrap hgrown
      obtain ⟨last', top', hend⟩ := ih
        (.inr ⟨hgrown, Nat.not_lt.mp hge, Nat.le_max_right _ _, htop, rfl⟩) hfits
      have hdescribed : f'.DescribedAt ctx.media b last' := by
        obtain ⟨_, ⟨-, hzero, -⟩ | ⟨hdescribed, -⟩⟩ := hend.state
        · have hle := hend.le
          have hpos : region.ending = region.offset + region.size := rfl
          omega
        · exact hdescribed
      refine ⟨last', top', hend.state, (Nat.le_max_left _ _).trans hend.le, ?_,
        hend.got_through, hend.stopped⟩
      intro w hw
      rcases List.mem_append.mp hw with hw | hw
      · exact (hwrites w hw).imp_right fun hin =>
          ⟨hdescribed, hin.trans (describedSpan_mono hend.le)⟩
      · exact hend.writes w hw
  | @full region regions f hne hplace hspaceCode =>
      rw [RegionsFit, if_neg hne, hstart] at hfits
      obtain ⟨hwrap, hfits⟩ := hfits
      have hge := mt (base.inPlace_iff hwrap).mpr hplace
      have hphysical : f.physicalSize ctx.media = physical := by
        rcases hstate with ⟨rfl, -, hphysical⟩ | ⟨hdescribed, -, -, -, hphysical⟩
        · exact hphysical.symm
        · rw [hdescribed.physicalSize, hphysical]
      have hroomFor := mt (ctx.hasSpace_iff hwrap).mpr (by rw [hspaceCode]; simp)
      rw [hphysical, ← hspace] at hroomFor
      rw [hsize, if_neg hge, if_neg hroomFor] at hfits
      exact ⟨last, top, ⟨physical, hstate⟩, Nat.le_refl _, by simp, by simp, fun _ => hfits⟩

/-- A file that a flush leaves on the media lies in the room, or where it was. -/
def Kept (media : Media) (f f' : File) (b r : ℕ) : Prop :=
  f'.onDisk = true → f'.blockStart = b ∧ f'.Placed media ∧
    (f'.blockEnd < r ∨ f.onDisk = true ∧ f'.blockEnd = f.blockEnd)

lemma kept_of_describedAt (base : FlushBase ctx f₀ b r) (hfits : room.Fits z)
    (hstart : room.fileStart = ctx.fileStart) (hroom : room.roomEnd = r * ctx.media.blockSize)
    (h : f.DescribedAt ctx.media b z) : Kept ctx.media f₀ f b r := by
  intro _
  have hlt := (base.grown_describedAt hstart hroom hfits f .empty).2
  have hle := base.room_le
  exact ⟨h.blockStart, h.placed (by omega), .inl (by rw [h.blockEnd]; exact hlt)⟩

/-- The layout a flush leaves where its descriptions fit the room: the file lies in the room,
and every write is to its blocks before or after. -/
theorem flushOutcome (base : FlushBase ctx f₀ b r) {info : FileInfo} {files : List File}
    {status : EfiStatus} (hr : roomEndBlock ctx.media files = r)
    (hfits : FlushFits ctx f₀ info files) (houtcome : FlushOutcome ctx info f₀ status f' ws) :
    Kept ctx.media f₀ f' b r ∧ ∀ w ∈ ws,
      w.span.Within (f₀.extent ctx.media) ∨ w.span.Within (f'.extent ctx.media) := by
  have hroomEnd : (flushRoom ctx f₀ info files).roomEnd = r * ctx.media.blockSize := by
    rw [← hr]
    rfl
  have hstart : LoopState ctx f₀ (flushRoom ctx f₀ info files) b f₀.dataSize 0
      (f₀.physicalSize ctx.media) f₀ := .inl ⟨rfl, rfl, rfl⟩
  have hkept₀ : Kept ctx.media f₀ f₀ b r := fun hdisk =>
    ⟨base.blockStart hdisk, base.placed hdisk, .inr ⟨hdisk, rfl⟩⟩
  -- the blocks of a file that the loop has described, and the smaller spans inside them
  have hinside : ∀ {f : File} {last top : ℕ}, f.DescribedAt ctx.media b last →
      ctx.media.descBlock top ≤ ctx.media.descBlock last →
      (describedSpan ctx.media b top).Within (f.extent ctx.media) := by
    intro f last top hdescribed hle
    rw [hdescribed.extent]
    exact ⟨Nat.le_refl _, Nat.add_le_add_left
      (Nat.mul_le_mul_right _ (Nat.add_le_add_right hle 1)) _⟩
  cases houtcome with
  | full hloop =>
      obtain ⟨last, top, hend⟩ :=
        base.regionLoop rfl hroomEnd rfl rfl rfl hloop hstart hfits.2
      have hle := hend.stopped rfl
      constructor
      · obtain ⟨_, ⟨rfl, -, -⟩ | ⟨hdescribed, -, hlast, htop, -⟩⟩ := hend.state
        · exact hkept₀
        · refine base.kept_of_describedAt ⟨?_, ?_⟩ rfl hroomEnd hdescribed
          · exact Nat.lt_of_le_of_lt (Nat.add_le_add_right hlast _) htop.1
          · have := htop.2
            omega
      · intro w hw
        exact (hend.writes w hw).imp_right fun ⟨hdescribed, hin⟩ =>
          hin.trans (hinside hdescribed hle)
  | @settled f₁ ws hloop hneeds =>
      obtain ⟨last, top, hend⟩ :=
        base.regionLoop rfl hroomEnd rfl rfl rfl hloop hstart hfits.2
      obtain ⟨htopSize, -⟩ := hend.got_through rfl
      have hsize : info.fileSize = f₁.dataSize := by
        rw [needsDescription, Bool.or_eq_false_iff] at hneeds
        exact of_not_not (of_decide_eq_false hneeds.2)
      constructor
      · obtain ⟨_, ⟨rfl, -, -⟩ | ⟨hdescribed, -, hlast, htop, -⟩⟩ := hend.state
        · intro hdisk
          obtain ⟨hblock, hplaced, hend⟩ := hkept₀ hdisk
          exact ⟨hblock, hplaced.congr rfl rfl, hend⟩
        · refine base.kept_of_describedAt ⟨?_, ?_⟩ rfl hroomEnd (hdescribed.congr rfl rfl)
          · exact Nat.lt_of_le_of_lt (Nat.add_le_add_right hlast _) htop.1
          · have := htop.2
            omega
      · intro w hw
        refine (hend.writes w hw).imp_right fun ⟨hdescribed, hin⟩ => ?_
        have hle : top ≤ last := by
          rw [← hdescribed.size, ← hsize]
          exact htopSize
        exact hin.trans (hinside (hdescribed.congr rfl rfl) (Media.descBlock_mono hle))
  | @described f₁ ws hloop hneeds =>
      obtain ⟨last, top, hend⟩ :=
        base.regionLoop rfl hroomEnd rfl rfl rfl hloop hstart hfits.2
      obtain ⟨htopSize, hfit⟩ := hend.got_through rfl
      have hfit' : (flushRoom ctx f₀ info files).Fits info.fileSize := by
        rcases hfit with hfit | ⟨hsame, hname⟩
        · exact hfit
        obtain ⟨_, ⟨rfl, -, -⟩ | ⟨hdescribed, hold, hlast, htop, -⟩⟩ := hend.state
        · -- an untouched file of the same name and size needs no description
          have hname' : f₁.hwDescription.footer.name = info.fileName.chars :=
            of_not_not (of_decide_eq_false hname)
          have hsame' : info.fileSize = f₁.dataSize := hsame
          rw [needsDescription, Bool.or_eq_true] at hneeds
          rcases hneeds with hneeds | hneeds
          · exact absurd hname' (of_decide_eq_true hneeds)
          · exact absurd hsame' (of_decide_eq_true hneeds)
        · have hsame' : info.fileSize = f₀.dataSize := hsame
          have htop' : top = info.fileSize := Nat.le_antisymm htopSize (by omega)
          rwa [htop'] at htop
      have hgrown := (base.grown_describedAt rfl hroomEnd hfit'
        (freeFileRegions ctx.media f₁ info) info.fileName).1
      refine ⟨base.kept_of_describedAt hfit' rfl hroomEnd hgrown, ?_⟩
      intro w hw
      rcases List.mem_append.mp hw with hw | hw
      · exact (hend.writes w hw).imp_right fun ⟨_, hin⟩ =>
          hin.trans (hinside hgrown (Media.descBlock_mono htopSize))
      · rw [List.mem_singleton.mp hw, describing_span, hgrown.extent]
        exact .inr hgrown.descSpan_within

end FlushBase

end RegionLoop

end BootMonFs

end MuPlatform
