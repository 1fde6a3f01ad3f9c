import MuPlatform.BootMonFs.Address
import MuPlatform.BootMonFs.Delete
import MuPlatform.BootMonFs.Session

/-!
# Mounting a volume again

`BootMonFsInitialize` takes each block that ends in a valid description for the last block of a
file.  A volume comes back as it was left where the media bears that out: every flushed file has
its description there, and no other block ends in one (`Catalogued`).

A flush keeps the catalogue unless it ends the file in an earlier block, since the last
description it writes clears no other (`File.KeepsBlocks`).  The bytes of a file in front of its
description must not read as a description themselves (`Volume.DataPlain`).
`remount_of_run` is about runs: what is discovered afresh are the files that were in memory, with
their names, their blocks and the bytes a client has written.  `rediscovers_of_run` has the
conditions that can be checked before each call of a run in which all succeed; a file that is cut
down is found twice (`not_rediscovers_shrunk`).
-/

namespace MuPlatform
namespace BootMonFs

/-! ## The catalogue -/

/-- The description of the file is on the media, up to the two fields that the search sets. -/
def File.Catalogued (content : ByteStore) (f : File) : Prop :=
  f.onDisk = true → f.hwDescription.hasFooter = true ∧
    (HwImageDescription.ofStore content f.hwDescAddress).core = f.hwDescription.core

/-- The valid descriptions on the media are those of the flushed files. -/
structure Catalogued (v : Volume) : Prop where
  described : ∀ f ∈ v.files, f.Catalogued v.services.content
  complete : ∀ lba ≤ v.media.lastBlock, isImageAt v.media v.services.content lba = true →
    ∃ f ∈ v.files, f.onDisk = true ∧ f.blockEnd = lba

/-- No block of a file but its last ends in a valid description. -/
def Volume.DataPlain (v : Volume) : Prop :=
  ∀ f ∈ v.files, f.onDisk = true → ∀ lba, f.blockStart ≤ lba → lba < f.blockEnd →
    isImageAt v.media v.services.content lba = false

/-- A flush of the file describes it in its last block or behind, or writes nothing. -/
def File.KeepsBlocks (media : Media) (f : File) (info : FileInfo) : Prop :=
  f.onDisk = true → f.blockEnd ≤ f.blockStart + media.descBlock info.fileSize ∨
    f.regionToFlush = [] ∧ needsDescription f info = false

/-- The condition on a call, for the files to be found again. -/
structure Remountable (v : Volume) (step : Environment × Call) : Prop where
  careful : Careful v step
  keepsBlocks : ∀ handle f info, step.2.flushes = some handle → lookup handle v.files = some f →
    f.info = some info → f.openMode ≠ .read → f.KeepsBlocks v.media info
  dataPlain : (perform step.2 (v.enter step.1)).2.DataPlain

/-! ## Descriptions in their blocks -/

section Slots

variable {arch : Arch} {media : Media} {content content' : ByteStore} {f f' : File} {lba : ℕ}

/-- The place of the description in a block. -/
def descSlot (media : Media) (lba : ℕ) : Span :=
  ⟨(lba + 1) * media.blockSize - sizeofHwImageDescription, sizeofHwImageDescription⟩

lemma imageAt_congr (hplain : media.Plain arch) (hlba : lba ≤ media.lastBlock)
    (h : ∀ y, (descSlot media lba).Has y → content' y = content y) :
    imageAt media content' lba = imageAt media content lba := by
  unfold imageAt
  rw [hplain.descOffset_eq hlba]
  refine ofStore_congr fun i hi => h _ ⟨Nat.le_add_right _ _, ?_⟩
  exact Nat.add_lt_add_left hi _

lemma File.Placed.descOffset (h : f.Placed media) (hplain : media.Plain arch) :
    f.hwDescAddress = descOffset media f.blockEnd := by
  rw [hplain.descOffset_eq h.inside, h.hwDescAddress]

lemma File.Placed.descAddress (h : f.Placed media) (hplain : media.Plain arch) :
    f.hwDescAddress = descAddress arch media f.blockEnd := by
  rw [hplain.descAddress_eq h.inside, h.hwDescAddress]

lemma File.Placed.descSlot (h : f.Placed media) : descSlot media f.blockEnd = f.descSpan := by
  rw [BootMonFs.descSlot, File.descSpan, h.hwDescAddress]

/-- A byte of a block in the place of its description. -/
lemma descSlot_block {y : ℕ} (h : (descSlot media lba).Has y) :
    lba * media.blockSize ≤ y ∧ y < (lba + 1) * media.blockSize := by
  have hsize := media.description_lt
  have hmul : (lba + 1) * media.blockSize = lba * media.blockSize + media.blockSize :=
    Nat.succ_mul _ _
  obtain ⟨hlo, hhi⟩ := h
  simp only [descSlot] at hlo hhi
  omega

/-- A byte that is in a file and in the place of a description gives the block of the latter. -/
lemma block_of_extent {y : ℕ} (hle : f.onDisk = true → f.blockStart ≤ f.blockEnd)
    (hy : (f.extent media).Has y) (hslot : (descSlot media lba).Has y) :
    f.onDisk = true ∧ f.blockStart ≤ lba ∧ lba ≤ f.blockEnd := by
  have hdisk : f.onDisk = true := by
    by_contra hdisk
    rw [File.extent, if_neg hdisk] at hy
    exact absurd hy (by simp [Span.Has])
  obtain ⟨hlo, hhi⟩ := descSlot_block hslot
  rw [File.extent, if_pos hdisk] at hy
  obtain ⟨hlo', hhi'⟩ := hy
  simp only at hlo' hhi'
  have hsum : (f.blockEnd + 1) * media.blockSize = f.blockStart * media.blockSize +
      (f.blockEnd + 1 - f.blockStart) * media.blockSize := by
    rw [← Nat.add_mul]
    congr 1
    have := hle hdisk
    omega
  refine ⟨hdisk, ?_, ?_⟩
  · by_contra hlt
    have : (lba + 1) * media.blockSize ≤ f.blockStart * media.blockSize :=
      Nat.mul_le_mul_right _ (by omega)
    omega
  · by_contra hlt
    have : (f.blockEnd + 1) * media.blockSize ≤ lba * media.blockSize :=
      Nat.mul_le_mul_right _ (by omega)
    omega

lemma hasFooter_of_core {d d' : HwImageDescription} (h : d.core = d'.core) :
    d.hasFooter = d'.hasFooter := by
  unfold HwImageDescription.hasFooter
  rw [footer_of_core h]

lemma endsAt_of_core {d d' : HwImageDescription} (h : d.core = d'.core) (lba : ℕ) :
    d.endsAt lba = d'.endsAt lba := by
  have hstart : d.blockStart = d'.blockStart := by
    show d.core.blockStart = d'.core.blockStart
    rw [h]
  have hend : d.blockEnd = d'.blockEnd := by
    show d.core.blockEnd = d'.core.blockEnd
    rw [h]
  unfold HwImageDescription.endsAt
  rw [hstart, hend]

lemma uint64Sub_lowest (hplain : media.Plain arch) (hlba : lba ≤ media.lastBlock) :
    uint64Sub lba media.lowestAlignedLba = lba := by
  have hblocks := hplain.blocks_lt
  rw [hplain.lowestAlignedLba, uint64Sub_of_le (Nat.zero_le _) (by omega), Nat.sub_zero]

/-- A file in the catalogue is found in its last block. -/
lemma File.Catalogued.image (h : f.Catalogued content) (hplain : media.Plain arch)
    (hplaced : f.Placed media) (hdisk : f.onDisk = true) :
    isImageAt media content f.blockEnd = true ∧
      (imageAt media content f.blockEnd).core = f.hwDescription.core := by
  obtain ⟨hfooter, hcore⟩ := h hdisk
  rw [hplaced.descOffset hplain, ← imageAt] at hcore
  refine ⟨?_, hcore⟩
  rw [isImageAt, HwImageDescription.isImageValid, hasFooter_of_core hcore, hfooter,
    endsAt_of_core hcore, uint64Sub_lowest hplain hplaced.inside, Bool.true_and, endsAt_iff]
  exact ⟨rfl, hplaced.le⟩

lemma File.Catalogued.congr (h : f.Catalogued content) (hdesc : f'.hwDescription = f.hwDescription)
    (haddress : f'.hwDescAddress = f.hwDescAddress)
    (hcontent : ∀ y, f.descSpan.Has y → content' y = content y) : f'.Catalogued content' := by
  intro hdisk
  have hdisk' : f.onDisk = true := by
    rw [File.onDisk, ← hdesc]
    exact hdisk
  obtain ⟨hfooter, hcore⟩ := h hdisk'
  refine ⟨by rw [hdesc]; exact hfooter, ?_⟩
  rw [haddress, hdesc, ← hcore]
  refine congrArg _ (ofStore_congr fun i hi => hcontent _ ⟨Nat.le_add_right _ _, ?_⟩)
  exact Nat.add_lt_add_left hi _

/-- A file that has just been described, with the write that says so. -/
lemma describe_catalogued {cfg : BuildConfig} {name : FileName} {dataSize : UInt32}
    {fileStart : ℕ} :
    (describe cfg media f name dataSize fileStart).Catalogued
      (replay content [describing (describe cfg media f name dataSize fileStart)]) := by
  intro _
  refine ⟨describe_hasFooter, ?_⟩
  rw [replay_cons, replay_nil, describing, HwImageDescription.ofStore_write_bytes]

end Slots

/-! ## A flush -/

namespace FlushBase

variable {ctx : FlushContext} {f f' f₀ : File} {regions : List FileRegion} {b r physical last top : ℕ}
  {room : FlushRoom} {ws : List DiskWrite} {content : ByteStore} {info : FileInfo}

/-- In the region loop a description lies behind the data the file had. -/
lemma behind_data (base : FlushBase ctx f₀ b r) (hsound : f₀.Sound ctx.media)
    (hstate : LoopState ctx f₀ room b last top physical f) (hdisk : f.onDisk = true) :
    ctx.fileStart + f₀.dataSize ≤ f.hwDescAddress := by
  rcases hstate with ⟨rfl, -, -⟩ | ⟨hdescribed, hold, -, -, -⟩
  · have hfront := hsound.inFront hdisk
    have hplaced := base.placed hdisk
    have hle := hplaced.le
    have hsum : (f.blockEnd + 1) * ctx.media.blockSize = f.blockStart * ctx.media.blockSize +
        (f.blockEnd + 1 - f.blockStart) * ctx.media.blockSize := by
      rw [← Nat.add_mul]
      congr 1
      omega
    rw [hplaced.hwDescAddress, base.fileStart, ← base.blockStart hdisk]
    omega
  · have hfit := ctx.media.lt_descBlock last
    rw [hdescribed.hwDescAddress, base.fileStart, Nat.add_assoc b, Nat.add_mul]
    omega

/-- The region loop leaves the description of the file on the media. -/
lemma regionLoop_catalogued (base : FlushBase ctx f₀ b r) (hsound : f₀.Sound ctx.media)
    (hstart : room.fileStart = ctx.fileStart) (hroom : room.roomEnd = r * ctx.media.blockSize)
    (hspace : room.appendSpace = uint64Sub ctx.endOfAppendSpace ctx.fileStart)
    (hsize : room.oldSize = f₀.dataSize) {through : Bool}
    (hloop : RegionLoop ctx regions f through f' ws)
    (hstate : LoopState ctx f₀ room b last top physical f)
    (hfits : RegionsFit ctx.media room physical last top regions) (h : f.Catalogued content) :
    f'.Catalogued (replay content ws) := by
  induction hloop generalizing physical last top content with
  | done f => exact h
  | empty hempty _ ih =>
      rw [RegionsFit, if_pos hempty] at hfits
      exact ih hstate hfits h
  | @inPlace region regions f through f' ws hne hplace _ ih =>
      rw [RegionsFit, if_neg hne, hstart] at hfits
      obtain ⟨hwrap, hfits⟩ := hfits
      have hlt := (base.inPlace_iff hwrap).mp hplace
      rw [hsize, if_pos hlt] at hfits
      refine ih hstate hfits.2 fun hdisk => ?_
      refine h.congr rfl rfl (fun y hy => ByteStore.write_apply_off ?_) hdisk
      -- the data that is written in place ends in front of the description
      have hbehind := base.behind_data hsound hstate hdisk
      have hending : region.ending = region.offset + region.buffer.length := rfl
      have hlo : f.hwDescAddress ≤ y := hy.1
      refine .inr ?_
      rw [FlushContext.storing, ctx.regionStart_eq hwrap]
      show ctx.fileStart + region.offset + region.buffer.length ≤ y
      omega
  | @grow region regions f through f' ws hne hplace hspaceCode _ ih =>
      obtain ⟨hwrap, hge, hgrown, hstate', hfits'⟩ :=
        base.grow_step hstart hroom hspace hsize hne hplace hspaceCode hstate hfits
      rw [replay_append]
      refine ih hstate' hfits' ?_
      rw [FlushContext.growing, replay_append, replay_cons, FlushContext.grown]
      exact describe_catalogued
  | full => exact h

/-- A flush that succeeds leaves the description of the file on the media. -/
lemma flushOutcome_catalogued (base : FlushBase ctx f₀ b r) (hsound : f₀.Sound ctx.media)
    {files : List File} {status : EfiStatus} (hr : roomEndBlock ctx.media files = r)
    (hfits : FlushFits ctx f₀ info files) (houtcome : FlushOutcome ctx info f₀ status f' ws)
    (h : f₀.Catalogued content) : f'.Catalogued (replay content ws) := by
  have hroomEnd : (flushRoom ctx f₀ info files).roomEnd = r * ctx.media.blockSize := by
    rw [← hr]
    rfl
  have hstart : LoopState ctx f₀ (flushRoom ctx f₀ info files) b f₀.dataSize 0
      (f₀.physicalSize ctx.media) f₀ := .inl ⟨rfl, rfl, rfl⟩
  have hkept : ∀ {through : Bool} {f₁ : File} {ws : List DiskWrite},
      RegionLoop ctx f₀.regionToFlush f₀ through f₁ ws → f₁.Catalogued (replay content ws) :=
    fun hloop => base.regionLoop_catalogued hsound rfl hroomEnd rfl rfl hloop hstart hfits.2 h
  cases houtcome with
  | full hloop => exact hkept hloop
  | settled hloop _ => exact (hkept hloop).congr rfl rfl fun _ _ => rfl
  | described hloop _ =>
      rw [replay_append]
      exact describe_catalogued

/-- Where a flush that succeeds leaves the last block of a file. -/
lemma flushOutcome_keepsBlocks (base : FlushBase ctx f₀ b r) {files : List File}
    {status : EfiStatus} (hr : roomEndBlock ctx.media files = r)
    (hfits : FlushFits ctx f₀ info files) (houtcome : FlushOutcome ctx info f₀ status f' ws)
    (hstatus : status ≠ .volumeFull) (hkeeps : f₀.KeepsBlocks ctx.media info)
    (hdisk : f₀.onDisk = true) :
    f'.onDisk = true ∧ f'.blockStart = f₀.blockStart ∧ f₀.blockEnd ≤ f'.blockEnd := by
  have hroomEnd : (flushRoom ctx f₀ info files).roomEnd = r * ctx.media.blockSize := by
    rw [← hr]
    rfl
  have hstart : LoopState ctx f₀ (flushRoom ctx f₀ info files) b f₀.dataSize 0
      (f₀.physicalSize ctx.media) f₀ := .inl ⟨rfl, rfl, rfl⟩
  -- a file that has been described for its new size
  have hmoved : ∀ {f : File}, f.DescribedAt ctx.media b info.fileSize →
      f₀.blockEnd ≤ f₀.blockStart + ctx.media.descBlock info.fileSize →
      f.onDisk = true ∧ f.blockStart = f₀.blockStart ∧ f₀.blockEnd ≤ f.blockEnd := by
    intro f hdescribed hle
    refine ⟨hdescribed.onDisk, ?_, ?_⟩
    · rw [hdescribed.blockStart, base.blockStart hdisk]
    · rw [hdescribed.blockEnd, ← base.blockStart hdisk]
      exact hle
  cases houtcome with
  | full => exact absurd rfl hstatus
  | @settled f₁ ws hloop hneeds =>
      obtain ⟨last, top, hend⟩ := base.regionLoop rfl hroomEnd rfl rfl rfl hloop hstart hfits.2
      obtain ⟨_, ⟨rfl, -, -⟩ | ⟨hdescribed, -, -, -, -⟩⟩ := hend.state
      · exact ⟨hdisk, rfl, Nat.le_refl _⟩
      rcases hkeeps hdisk with hle | ⟨hnil, -⟩
      · have hsame : info.fileSize = last := by
          rw [needsDescription, Bool.or_eq_false_iff] at hneeds
          exact (of_not_not (of_decide_eq_false hneeds.2)).trans hdescribed.size
        rw [← hsame] at hdescribed
        exact hmoved (hdescribed.congr rfl rfl) hle
      · rw [hnil] at hloop
        cases hloop
        exact ⟨hdisk, rfl, Nat.le_refl _⟩
  | @described f₁ ws hloop hneeds =>
      have hfit := base.described_fits hr hfits hloop hneeds
      have hdescribed := (base.grown_describedAt rfl hroomEnd hfit
        (freeFileRegions ctx.media f₁ info) info.fileName).1
      rcases hkeeps hdisk with hle | ⟨hnil, hnone⟩
      · exact hmoved hdescribed hle
      · rw [hnil] at hloop
        cases hloop
        have hnone' : needsDescription (freeFileRegions ctx.media f₀ info) info = false := hnone
        rw [hnone'] at hneeds
        cases hneeds

end FlushBase

namespace Catalogued

variable {v v' : Volume} {contents : Contents} {handle : ℕ}

/-- A flush that finds space keeps the catalogue. -/
theorem flush (h : Catalogued v) (hreflects : Reflects v contents)
    (hplain : v.media.Plain v.cfg.arch) (hquiet : v.services.env.Quiet)
    (hroom : FlushInRoom v handle)
    (hkeeps : ∀ f info, lookup handle v.files = some f → f.info = some info →
      f.openMode ≠ .read → f.KeepsBlocks v.media info)
    (hstatus : (bootMonFsFlushFile handle v).1 ≠ .volumeFull)
    (hdata : (bootMonFsFlushFile handle v).2.DataPlain) :
    Catalogued (bootMonFsFlushFile handle v).2 := by
  obtain ⟨hlayout, -, -⟩ := flushFile_layout hreflects.layout hplain hquiet hroom
  by_cases hopen : ∃ f info, lookup handle v.files = some f ∧ f.info = some info ∧
      f.openMode ≠ .read
  case neg =>
    rw [flushFile_refused hopen]
    exact h
  obtain ⟨f, info, hlookup, hinfo, hmode⟩ := hopen
  obtain ⟨fileStart, files, status, f', ws, s', hplaceFile, houtcome, hstatus, hwrote, hcall⟩ :=
    flushFile_placed hquiet hlookup hinfo hmode hstatus
  rw [hcall] at hlayout hdata ⊢
  obtain ⟨hf, hhandle⟩ := lookup_some hlookup
  obtain ⟨pre, post, b, hplace⟩ := placeFile_placement hreflects.layout hplain hf hplaceFile
  have hfits := hroom f info fileStart files hlookup hinfo hmode hplaceFile
  have hdistinct : Distinct (pre ++ f :: post) := hplace.split ▸ hplace.distinct
  have hbase := hplace.flushBase hreflects.layout hplain hf info hfits.1
  have hafter : filesAfter handle files = post := by
    rw [hplace.split, ← hhandle, filesAfter_split hdistinct]
  rw [hafter] at hfits
  obtain ⟨-, hwrites⟩ := hbase.flushOutcome rfl hfits houtcome
  have hcatalogued := hbase.flushOutcome_catalogued (hreflects.sound f hf) rfl hfits houtcome
    (h.described f hf)
  have hblocks := hbase.flushOutcome_keepsBlocks rfl hfits houtcome hstatus
    (hkeeps f info hlookup hinfo hmode)
  have hfiles : update f' files = pre ++ f' :: post := by
    rw [hplace.split, update_split hdistinct houtcome.handle]
  have hmem : ∀ g, g ∈ update f' files ↔ g = f' ∨ g ∈ v.files ∧ g.handle ≠ f.handle := by
    intro g
    have hothers : g ∈ pre ++ post ↔ g ∈ v.files ∧ g.handle ≠ f.handle := by
      rw [hplace.others, List.mem_filter, decide_eq_true_iff]
    rw [hfiles, ← hothers]
    simp only [List.mem_append, List.mem_cons]
    tauto
  have hnew : f' ∈ update f' files := (hmem f').mpr (.inl rfl)
  have hle : ∀ g ∈ update f' files, g.onDisk = true → g.blockStart ≤ g.blockEnd :=
    fun g hg hdisk => (hlayout.placed g hg hdisk).le
  refine ⟨fun g hg => ?_, fun lba hlba himage => ?_⟩
  · show g.Catalogued s'.content
    rw [hwrote.content]
    rcases (hmem g).mp hg with rfl | ⟨hgFiles, hne⟩
    · exact hcatalogued
    · intro hdisk
      refine (h.described g hgFiles).congr rfl rfl (fun y hy => replay_off fun w hw hin => ?_) hdisk
      have hy' := ((hlayout.placed g hg hdisk).descSpan_within hdisk).has hy
      rcases hwrites w hw with hold | hnew'
      · exact hreflects.layout.extent_apart hf hgFiles hne.symm (hold.has hin) hy'
      · refine hlayout.extent_apart hnew hg ?_ (hnew'.has hin) hy'
        rw [houtcome.handle]
        exact hne.symm
  · -- a block of the file holds no description but its last one
    have hinside : f'.onDisk = true → f'.blockStart ≤ lba → lba ≤ f'.blockEnd →
        ∃ g ∈ update f' files, g.onDisk = true ∧ g.blockEnd = lba := by
      intro hdisk hlo hhi
      rcases Nat.lt_or_eq_of_le hhi with hlt | rfl
      · have hnone : isImageAt v.media s'.content lba = false :=
          hdata f' hnew hdisk lba hlo hlt
        rw [show isImageAt v.media s'.content lba = true from himage] at hnone
        cases hnone
      · exact ⟨f', hnew, hdisk, rfl⟩
    have hold : f.onDisk = true → f.blockStart ≤ lba → lba ≤ f.blockEnd →
        ∃ g ∈ update f' files, g.onDisk = true ∧ g.blockEnd = lba := by
      intro hdisk hlo hhi
      obtain ⟨hdisk', hstart, hend⟩ := hblocks hdisk
      exact hinside hdisk' (by omega) (by omega)
    by_cases htouched : ∃ w ∈ ws, ∃ y, w.span.Has y ∧ (descSlot v.media lba).Has y
    · obtain ⟨w, hw, y, hin, hslot⟩ := htouched
      rcases hwrites w hw with hwithin | hwithin
      · obtain ⟨hdisk, hlo, hhi⟩ := block_of_extent
          (fun hdisk => (hreflects.layout.placed f hf hdisk).le) (hwithin.has hin) hslot
        exact hold hdisk hlo hhi
      · obtain ⟨hdisk, hlo, hhi⟩ := block_of_extent (hle f' hnew) (hwithin.has hin) hslot
        exact hinside hdisk hlo hhi
    · have hsame : imageAt v.media s'.content lba = imageAt v.media v.services.content lba := by
        refine imageAt_congr hplain hlba fun y hy => ?_
        rw [hwrote.content]
        exact replay_off fun w hw hin => htouched ⟨w, hw, y, hin, hy⟩
      have himage' : isImageAt v.media v.services.content lba = true := by
        rw [isImageAt, ← hsame]
        exact himage
      obtain ⟨g, hg, hdisk, rfl⟩ := h.complete lba hlba himage'
      by_cases hgf : g.handle = f.handle
      · obtain rfl := hreflects.layout.distinct.eq_of_handle hg hf hgf
        exact hold hdisk (hreflects.layout.placed g hg hdisk).le (Nat.le_refl _)
      · exact ⟨g, (hmem g).mpr (.inr ⟨hg, hgf⟩), hdisk, rfl⟩

/-! ## The other calls -/

/-- The catalogue is about descriptions, places and the bytes of the media. -/
lemma still (h : Catalogued v) (hstill : Still v' v)
    (hcontent : v'.services.content = v.services.content) : Catalogued v' := by
  obtain ⟨hvolume, change, hsame, hfiles⟩ := hstill
  constructor
  · intro f' hf'
    rw [hfiles] at hf'
    obtain ⟨f, hf, rfl⟩ := List.mem_map.mp hf'
    rw [hcontent]
    exact (h.described f hf).congr (hsame f hf).hwDescription (hsame f hf).hwDescAddress
      fun _ _ => rfl
  · intro lba hlba himage
    rw [hvolume.media] at hlba himage
    rw [hcontent] at himage
    obtain ⟨f, hf, hdisk, hend⟩ := h.complete lba hlba himage
    refine ⟨change f, hfiles ▸ List.mem_map_of_mem hf, ?_, ?_⟩
    · rw [(hsame f hf).onDisk]
      exact hdisk
    · rw [(hsame f hf).blockEnd]
      exact hend

lemma cons (h : Catalogued v) {f : File} (hcreates : Creates v f v')
    (hcontent : v'.services.content = v.services.content) : Catalogued v' := by
  constructor
  · intro g hg
    rw [hcreates.files] at hg
    rw [hcontent]
    rcases List.mem_cons.mp hg with rfl | hg
    · intro hdisk
      rw [hcreates.onDisk] at hdisk
      cases hdisk
    · exact h.described g hg
  · intro lba hlba himage
    rw [hcreates.media] at hlba himage
    rw [hcontent] at himage
    obtain ⟨g, hg, hdisk, hend⟩ := h.complete lba hlba himage
    exact ⟨g, hcreates.files ▸ List.mem_cons_of_mem _ hg, hdisk, hend⟩

/-- A deletion clears the description of the file and no other. -/
theorem delete (h : Catalogued v) (hlayout : LayoutInv v) (hplain : v.media.Plain v.cfg.arch)
    (hok : (bootMonFsDelete handle v).1 = .success) : Catalogued (bootMonFsDelete handle v).2 := by
  cases hlookup : lookup handle v.files with
  | none =>
      simp only [bootMonFsDelete, hlookup] at hok
      cases hok
  | some f =>
      obtain ⟨hf, hhandle⟩ := lookup_some hlookup
      by_cases hopen : f.info.isSome = true
      case neg =>
        have hclosed : f.info.isNone = true := by simpa using hopen
        simp only [bootMonFsDelete, hlookup, if_pos hclosed] at hok
        cases hok
      rcases delete_cases hlookup hopen with ⟨-, s, hcontent, heq⟩ | ⟨-, s, heq⟩
      case inr =>
        rw [heq] at hok
        cases hok
      rw [heq]
      have hothers : ∀ g, g ∈ v.files.filter (fun g => g.handle ≠ handle) ↔
          g ∈ v.files ∧ g.handle ≠ handle := fun g => by
        rw [List.mem_filter, decide_eq_true_iff]
      -- the bytes that are cleared are those of the description of the file
      have hoff : ∀ y, ¬ (f.onDisk = true ∧ f.descSpan.Has y) →
          clearedContent v f y = v.services.content y := by
        intro y hy
        rw [clearedContent_eq_iff]
        exact fun hdisk hin => absurd ⟨hdisk, hin⟩ hy
      refine ⟨fun g hg => ?_, fun lba hlba himage => ?_⟩
      · obtain ⟨hgFiles, hne⟩ := (hothers g).mp hg
        show g.Catalogued s.content
        rw [hcontent]
        intro hdisk
        refine (h.described g hgFiles).congr rfl rfl (fun y hy => hoff y fun hin => ?_) hdisk
        have hy' := ((hlayout.placed g hgFiles hdisk).descSpan_within hdisk).has hy
        exact hlayout.extent_apart hgFiles hf (by rw [hhandle]; exact hne) hy'
          (((hlayout.placed f hf hin.1).descSpan_within hin.1).has hin.2)
      · replace himage : isImageAt v.media (clearedContent v f) lba = true := by
          rw [← hcontent]
          exact himage
        by_cases hend : f.onDisk = true ∧ f.blockEnd = lba
        · obtain ⟨hdisk, rfl⟩ := hend
          rw [isImageAt, imageAt, ← (hlayout.placed f hf hdisk).descOffset hplain, clearedContent,
            if_pos hdisk, HwImageDescription.isImageValid, hasFooter_zeros] at himage
          cases himage
        · have hsame : imageAt v.media (clearedContent v f) lba =
              imageAt v.media v.services.content lba := by
            refine imageAt_congr hplain hlba fun y hy => hoff y fun hin => hend ⟨hin.1, ?_⟩
            -- the place of one description only
            have hplaced := hlayout.placed f hf hin.1
            rw [← hplaced.descSlot] at hin
            obtain ⟨hlo, hhi⟩ := descSlot_block hy
            obtain ⟨hlo', hhi'⟩ := descSlot_block hin.2
            have h₁ := Nat.lt_of_mul_lt_mul_right (Nat.lt_of_le_of_lt hlo hhi')
            have h₂ := Nat.lt_of_mul_lt_mul_right (Nat.lt_of_le_of_lt hlo' hhi)
            omega
          rw [isImageAt, hsame] at himage
          obtain ⟨g, hg, hdisk, rfl⟩ := h.complete lba hlba himage
          refine ⟨g, (hothers g).mpr ⟨hg, fun hgHandle => hend ?_⟩, hdisk, rfl⟩
          obtain rfl := hlayout.distinct.eq_of_handle hg hf (hgHandle.trans hhandle.symm)
          exact ⟨hdisk, rfl⟩

end Catalogued

/-- The condition on the data behind work that leaves the files and the media alone. -/
lemma Volume.DataPlain.of_still {v v' : Volume} (h : v'.DataPlain) (hstill : Still v' v)
    (hcontent : v'.services.content = v.services.content) : v.DataPlain := by
  obtain ⟨hvolume, change, hsame, hfiles⟩ := hstill
  intro f hf hdisk lba hlo hhi
  have hplace := hsame f hf
  have hnone := h (change f) (hfiles ▸ List.mem_map_of_mem hf) (hplace.onDisk.trans hdisk) lba
    (by rw [hplace.blockStart]; exact hlo) (by rw [hplace.blockEnd]; exact hhi)
  rwa [hvolume.media, hcontent] at hnone

section Content

variable {v : Volume} {f : File} {info : FileInfo} {s s' : Services} {ok : Bool}

lemma content_of_allocatePool (h : s.allocatePool = (ok, s')) : s'.content = s.content :=
  (congrArg (·.2.content) h).symm

lemma openInRoot_content (name : FileName) (mode : OpenMode) (attributes : ℕ) :
    (openInRoot name mode attributes v).2.2.services.content = v.services.content := by
  unfold openInRoot
  split
  · rfl
  rcases hfirst : v.services.allocatePool with ⟨ok, s⟩
  have hs := content_of_allocatePool hfirst
  cases ok with
  | false => exact hs
  | true =>
    dsimp only
    split
    · split <;> exact hs
    split
    · unfold bootMonFsCreateFile
      rcases hsecond : s.allocatePool with ⟨ok, s'⟩
      have hs' := (content_of_allocatePool hsecond).trans hs
      cases ok <;> exact hs'
    · exact hs

lemma writeFile_content (buffer : List UInt8) :
    (writeFile buffer f info s).2.2.content = s.content := by
  unfold writeFile
  split
  · rfl
  rcases hfirst : s.allocatePool with ⟨ok, s₁⟩
  have hs₁ := content_of_allocatePool hfirst
  cases ok with
  | false => exact hs₁
  | true =>
    rcases hsecond : s₁.allocatePool with ⟨ok, s₂⟩
    have hs₂ := (content_of_allocatePool hsecond).trans hs₁
    cases ok <;> simp only [hsecond] <;> exact hs₂

lemma setFileSize_content (newSize : ℕ) :
    (setFileSize newSize f info s).2.2.content = s.content := by
  unfold setFileSize
  dsimp only
  split
  · rfl
  split
  · rcases hfirst : s.allocatePool with ⟨ok, s₁⟩
    have hs₁ := content_of_allocatePool hfirst
    cases ok with
    | false => exact hs₁
    | true =>
      have hwritten := @writeFile_content (f.setPosition (info.fileSize % 2 ^ 32) info) info s₁
        (List.replicate (newSize - info.fileSize % 2 ^ 32) 0)
      dsimp only
      generalize writeFile _ _ _ s₁ = written at hwritten ⊢
      obtain ⟨status, g, s₂⟩ := written
      dsimp only at hwritten ⊢
      split
      · exact hwritten.trans hs₁
      split <;> exact hwritten.trans hs₁
  · rfl

lemma setFileInfo_content (cfg : BuildConfig) (files : List File) (args : SetInfoArgs) :
    (setFileInfo cfg files args f info s).2.2.content = s.content := by
  unfold setFileInfo
  dsimp only
  split
  · rfl
  split
  · rfl
  split
  · rfl
  unfold applyFileInfo
  have hresized : (if args.fileSize ≠ info.fileSize then
      setFileSize (cfg.arch.uintn args.fileSize) f info s
      else (.success, f, s)).2.2.content = s.content := by
    split
    · exact setFileSize_content _
    · rfl
  generalize (if args.fileSize ≠ info.fileSize then
    setFileSize (cfg.arch.uintn args.fileSize) f info s else (.success, f, s)) = resized at hresized
  dsimp only
  split
  · exact hresized
  split
  · exact hresized
  split <;> exact hresized

lemma bootMonFsWriteFile_content (handle : ℕ) (buffer : List UInt8) :
    (bootMonFsWriteFile handle buffer v).2.services.content = v.services.content := by
  unfold bootMonFsWriteFile
  split
  · rfl
  split
  · rfl
  · exact writeFile_content buffer

lemma bootMonFsSetPosition_content (handle position : ℕ) :
    (bootMonFsSetPosition handle position v).2.services.content = v.services.content := by
  unfold bootMonFsSetPosition
  split
  · rfl
  split <;> rfl

lemma bootMonFsSetInfo_content (handle : ℕ) (args : SetInfoArgs) :
    (bootMonFsSetInfo handle args v).2.services.content = v.services.content := by
  unfold bootMonFsSetInfo
  split
  · rfl
  split
  · rfl
  split
  · rfl
  split
  · rfl
  · exact setFileInfo_content v.cfg v.files args

/-- A read that gets as far as the flush reads the media behind it. -/
lemma bootMonFsReadFile_content (handle bufferSize : ℕ) (hopen : (lookup handle v.files).bind
    (·.info) ≠ none) : (bootMonFsReadFile handle bufferSize v).2.2.services.content =
      (bootMonFsFlushFile handle v).2.services.content := by
  unfold bootMonFsReadFile
  split
  · next h => exact absurd h hopen
  dsimp only
  split
  · rfl
  split
  · rfl
  split
  · rfl
  split <;> rfl

end Content

/-- One call. -/
theorem Catalogued.perform {v : Volume} {contents : Contents} (h : Catalogued v)
    (hreflects : Reflects v contents) (hplain : v.media.Plain v.cfg.arch)
    {step : Environment × Call} (hremountable : Remountable v step) :
    Catalogued (BootMonFs.perform step.2 (v.enter step.1)).2 := by
  obtain ⟨env, call⟩ := step
  obtain ⟨hcareful, hkeeps, hdata⟩ := hremountable
  have henter : Catalogued (v.enter env) := h.still (still_of_files ⟨rfl, rfl, rfl, rfl⟩ rfl) rfl
  have hreflects' : Reflects (v.enter env) contents := hreflects.withServices rfl
  have hdistinct := hreflects'.layout.distinct
  -- a call that flushes leaves behind it what a flush leaves
  have hflush : ∀ handle, call.flushes = some handle →
      ∀ v', Still v' (bootMonFsFlushFile handle (v.enter env)).2 →
      v'.services.content = (bootMonFsFlushFile handle (v.enter env)).2.services.content →
      v'.DataPlain → Catalogued v' := by
    intro handle hflushes v' hstill hcontent hplainData
    obtain ⟨hquiet, hroom⟩ := hcareful.fits handle hflushes
    exact (henter.flush hreflects' hplain hquiet hroom
      (fun f info => hkeeps handle f info hflushes) (hcareful.hasSpace handle hflushes)
      (hplainData.of_still hstill hcontent)).still hstill hcontent
  cases call with
  | openFile name mode attributes =>
      show Catalogued (bootMonFsOpenFile name mode attributes (v.enter env)).2.2
      rw [bootMonFsOpenFile, if_pos hreflects'.layout.initialized]
      have hcontent := @openInRoot_content (v.enter env) name mode attributes
      rcases openInRoot_step hdistinct name mode attributes with hstill | ⟨f, hcreates⟩
      · exact henter.still hstill hcontent
      · exact henter.cons hcreates hcontent
  | closeFile handle =>
      show Catalogued (bootMonFsCloseFile handle (v.enter env)).2
      replace hdata : (bootMonFsCloseFile handle (v.enter env)).2.DataPlain := hdata
      unfold bootMonFsCloseFile at hdata ⊢
      split at hdata
      · exact henter
      · exact hflush handle rfl _ (still_close handle _) rfl hdata
  | delete handle =>
      exact henter.delete hreflects'.layout hplain (hcareful.deletes handle rfl)
  | readFile handle bufferSize =>
      obtain ⟨hquiet, hroom⟩ := hcareful.fits handle rfl
      have hlayout := (flushFile_layout hreflects'.layout hplain hquiet hroom).1
      show Catalogued (bootMonFsReadFile handle bufferSize (v.enter env)).2.2
      rcases readFile_still bufferSize hlayout.distinct with heq | ⟨hstill, -⟩
      · rw [heq]
        exact henter
      by_cases hopen : (lookup handle (v.enter env).files).bind (·.info) = none
      · rw [show (bootMonFsReadFile handle bufferSize (v.enter env)).2.2 = v.enter env by
          unfold bootMonFsReadFile
          rw [hopen]]
        exact henter
      · exact hflush handle rfl _ hstill (bootMonFsReadFile_content handle bufferSize hopen) hdata
  | writeFile handle buffer =>
      exact henter.still (writeFile_still handle hdistinct buffer)
        (bootMonFsWriteFile_content handle buffer)
  | setPosition handle position =>
      exact henter.still (setPosition_still handle hdistinct position)
        (bootMonFsSetPosition_content handle position)
  | setInfo handle args =>
      exact henter.still (setInfo_still handle hdistinct args) (bootMonFsSetInfo_content handle args)
  | flushFile handle =>
      exact hflush handle rfl _ (still_of_files (.refl _) rfl) rfl hdata

/-! ## Discovery -/

/-- The volume has just been initialised, and whatever had to succeed did. -/
def Discovers (u v : Volume) : Prop :=
  u.files = [] ∧ u.services.env.allocate u.services.requests = true ∧
    ScansThrough u.services.env u.media u.services.content (u.media.lastBlock + 1) 0
      (u.services.requests + 1) ∧
    bootMonFsInitialize u = (.success, v)

section Discovery

variable {u v : Volume} {media : Media} {arch : Arch} {content : ByteStore} {files : List File}

lemma discoverNextImage_content (lbaStart n lba : ℕ) (file : File) (s : Services) :
    (discoverNextImage arch media lbaStart n lba file s).services.content = s.content := by
  induction n generalizing lba file s with
  | zero => rfl
  | succ n ih =>
      cases hread : (s.env.readDisk s.requests).isError with
      | true => rw [(@discoverNextImage_unread arch media s file lba lbaStart n hread).1]; rfl
      | false =>
        cases himage : isImageAt media s.content lba with
        | true =>
            obtain ⟨f, hfound, -⟩ :=
              @discoverNextImage_image arch media s file lba lbaStart n hread himage
            rw [hfound]
            rfl
        | false =>
            obtain ⟨⟨file', hfound⟩, -⟩ :=
              @discoverNextImage_other arch media s file lba lbaStart n hread himage
            rw [hfound]
            exact ih _ _ _

lemma initializeLoop_content (n lba : ℕ) (v : Volume) :
    (initializeLoop n lba v).2.services.content = v.services.content := by
  induction n generalizing lba v with
  | zero => rfl
  | succ n ih =>
      rw [initializeLoop]
      unfold bootMonFsCreateFile
      rcases hpool : v.services.allocatePool with ⟨ok, s⟩
      have hs := content_of_allocatePool hpool
      cases ok with
      | false => exact hs
      | true =>
        have hfound := (@discoverNextImage_content v.media v.cfg.arch lba
          (v.media.lastBlock + 1 - lba) lba (.created v.nextHandle) s).trans hs
        dsimp only
        rw [bootMonFsDiscoverNextImage]
        split
        · exact hfound
        · exact (ih _ _).trans hfound

lemma initializeLoop_status (n lba : ℕ) (v : Volume) :
    (initializeLoop n lba v).1 = .success ∨ (initializeLoop n lba v).1 = .outOfResources := by
  induction n generalizing lba v with
  | zero => exact .inl rfl
  | succ n ih =>
      rw [initializeLoop]
      split
      · exact .inr rfl
      dsimp only
      split
      · exact .inl rfl
      · exact ih _ _

lemma Discovers.mounted (h : Discovers u v) : Mounted v := ⟨u, h.1, h.2.2.2⟩

/-- What is discovered are the images on the media. -/
lemma Discovers.listed (h : Discovers u v) :
    v.services.content = u.services.content ∧ v.media = u.media ∧ v.cfg = u.cfg ∧
      v.files.map File.listed =
        imagesFrom v.cfg.arch v.media v.services.content (v.media.lastBlock + 1) 0 := by
  obtain ⟨hfiles, halloc, hscans, hinit⟩ := h
  have hthrough := (initializeLoop_end (u.media.lastBlock + 2) 0 (Nat.zero_le _)
    (Nat.lt_succ_self _) halloc).through hscans
  have hcontent := initializeLoop_content (u.media.lastBlock + 2) 0 u
  obtain ⟨hmedia, hcfg⟩ := initializeLoop_media (u.media.lastBlock + 2) 0 u
  rw [← bootMonFsInitialize, hinit] at hthrough hcontent hmedia hcfg
  obtain ⟨-, -, -, hlisted⟩ := hthrough
  refine ⟨hcontent, hmedia, hcfg, ?_⟩
  rw [hfiles] at hlisted
  rw [show v.media = u.media from hmedia, show v.cfg = u.cfg from hcfg,
    show v.services.content = u.services.content from hcontent]
  exact hlisted

lemma blockEnd_of_core {d d' : HwImageDescription} (h : d.core = d'.core) :
    d.blockEnd = d'.blockEnd := by
  show d.core.blockEnd = d'.core.blockEnd
  rw [h]

/-- The catalogue right after the volume has been initialised. -/
theorem Discovers.catalogued (h : Discovers u v) (hplain : v.media.Plain v.cfg.arch)
    (hsound : ∀ f ∈ v.files, f.Sound v.media) : Catalogued v := by
  obtain ⟨-, -, -, hlisted⟩ := h.listed
  constructor
  · intro f hf _
    have hmem : f.listed ∈ v.files.map File.listed := List.mem_map_of_mem hf
    rw [hlisted] at hmem
    obtain ⟨l, -, hl, himage, heq⟩ := mem_imagesFrom.mp hmem
    obtain ⟨haddress, hcore⟩ := Prod.mk.inj heq
    rw [hplain.descAddress_descOffset (by omega)] at haddress
    refine ⟨?_, by rw [haddress, ← imageAt, hcore]⟩
    rw [hasFooter_of_core hcore]
    exact isImageAt_hasFooter himage
  · intro l hl himage
    have hmem : (descAddress v.cfg.arch v.media l,
        (imageAt v.media v.services.content l).core) ∈ v.files.map File.listed := by
      rw [hlisted]
      exact mem_imagesFrom.mpr ⟨l, Nat.zero_le _, by omega, himage, rfl⟩
    obtain ⟨f, hf, heq⟩ := List.mem_map.mp hmem
    obtain ⟨haddress, hcore⟩ := Prod.mk.inj heq
    refine ⟨f, hf, ?_, ?_⟩
    · -- a file without a region would have no address
      by_contra hdisk
      have hzero := ((hsound f hf).created (by simpa using hdisk)).2
      have hsize := v.media.description_lt
      have hblock : 1 * v.media.blockSize ≤ (l + 1) * v.media.blockSize :=
        Nat.mul_le_mul_right _ (by omega)
      rw [hzero, hplain.descAddress_eq hl] at haddress
      omega
    · have hends := himage
      rw [isImageAt, HwImageDescription.isImageValid, Bool.and_eq_true,
        uint64Sub_lowest hplain hl, endsAt_iff] at hends
      rw [File.blockEnd, blockEnd_of_core hcore]
      exact hends.2.1

/-- The images on the media, where these are the files of a list in the order of their blocks. -/
lemma imagesFrom_eq (hplain : media.Plain arch) (n lba : ℕ) (hlast : lba + n = media.lastBlock + 1)
    (hordered : files.Pairwise Before) (hdisk : ∀ f ∈ files, f.onDisk = true)
    (hplaced : ∀ f ∈ files, f.Placed media) (hfrom : ∀ f ∈ files, lba ≤ f.blockEnd)
    (hcatalogued : ∀ f ∈ files, f.Catalogued content)
    (hcomplete : ∀ l, lba ≤ l → l ≤ media.lastBlock → isImageAt media content l = true →
      ∃ f ∈ files, f.blockEnd = l) :
    imagesFrom arch media content n lba = files.map File.listed := by
  induction n generalizing lba files with
  | zero =>
      cases files with
      | nil => rfl
      | cons f files =>
          have hle := hfrom f List.mem_cons_self
          have hinside := (hplaced f List.mem_cons_self).inside
          omega
  | succ n ih =>
      rw [imagesFrom]
      by_cases himage : isImageAt media content lba = true
      · rw [if_pos himage]
        obtain ⟨f, hf, hend⟩ := hcomplete lba (Nat.le_refl _) (by omega) himage
        cases files with
        | nil => exact absurd hf List.not_mem_nil
        | cons g files =>
            rw [List.pairwise_cons] at hordered
            have hafter : ∀ k ∈ files, g.blockEnd < k.blockEnd := by
              intro k hk
              have hlt := hordered.1 k hk (hdisk g List.mem_cons_self)
                (hdisk k (List.mem_cons_of_mem _ hk))
              have hle := (hplaced k (List.mem_cons_of_mem _ hk)).le
              omega
            -- the first file of the list is the one that ends here
            have hgEnd : g.blockEnd = lba := by
              rcases List.mem_cons.mp hf with rfl | hf
              · exact hend
              · have hlt := hafter f hf
                have hle := hfrom g List.mem_cons_self
                omega
            have hgImage := (hcatalogued g List.mem_cons_self).image hplain
              (hplaced g List.mem_cons_self) (hdisk g List.mem_cons_self)
            have hgListed : g.listed =
                (descAddress arch media lba, (imageAt media content lba).core) := by
              rw [File.listed, (hplaced g List.mem_cons_self).descAddress hplain, ← hgImage.2,
                hgEnd]
            rw [List.map_cons, hgListed]
            refine congrArg _ (ih (lba + 1) (by omega) hordered.2
              (fun k hk => hdisk k (List.mem_cons_of_mem _ hk))
              (fun k hk => hplaced k (List.mem_cons_of_mem _ hk))
              (fun k hk => by have := hafter k hk; omega)
              (fun k hk => hcatalogued k (List.mem_cons_of_mem _ hk)) fun l hlo hhi hl => ?_)
            obtain ⟨k, hk, hkEnd⟩ := hcomplete l (by omega) hhi hl
            rcases List.mem_cons.mp hk with rfl | hk
            · omega
            · exact ⟨k, hk, hkEnd⟩
      · rw [if_neg himage]
        refine ih (lba + 1) (by omega) hordered hdisk hplaced (fun f hf => ?_) hcatalogued
          fun l hlo hhi hl => hcomplete l (by omega) hhi hl
        have hle := hfrom f hf
        have hne : f.blockEnd ≠ lba := by
          intro heq
          have hfImage := ((hcatalogued f hf).image hplain (hplaced f hf) (hdisk f hf)).1
          rw [heq] at hfImage
          exact himage hfImage
        omega

end Discovery

/-! ## Runs -/

/-- The file on the media is the file in memory, under its name. -/
structure File.Flushed (f : File) : Prop where
  onDisk : f.onDisk = true
  written : f.Written
  name : f.asciiName = f.hwDescription.footer.name

/-- The file `g`, found again on `v'`, is the file `f` that the client knows as `contents`. -/
structure FoundAgain (v' : Volume) (contents : Contents) (g f : File) : Prop where
  name : g.asciiName = f.asciiName
  blocks : g.blockStart = f.blockStart ∧ g.blockEnd = f.blockEnd
  contents : ∃ file file', contents f.handle = some file ∧ v'.contents g.handle = some file' ∧
    file'.size = file.size ∧ ∀ x byte, file.known x = some byte → file'.known x = some byte

lemma File.Flushed.size {content : ByteStore} {media : Media} {f : File} {file : ByteFile}
    (h : f.Flushed) (hholds : f.Holds content media file) : file.size = f.dataSize := by
  rw [hholds.size]
  cases hinfo : f.info with
  | none => rfl
  | some info => exact h.written.fileSize info hinfo

section Listed

variable {f g : File}

lemma onDisk_of_core (h : g.hwDescription.core = f.hwDescription.core) : g.onDisk = f.onDisk := by
  show decide (g.hwDescription.core.regionCount ≠ 0) = decide (f.hwDescription.core.regionCount ≠ 0)
  rw [h]

lemma dataSize_of_core (h : g.hwDescription.core = f.hwDescription.core) :
    g.dataSize = f.dataSize := by
  show (g.hwDescription.core.region 0).size.toNat = (f.hwDescription.core.region 0).size.toNat
  rw [h]

lemma blockStart_of_core (h : g.hwDescription.core = f.hwDescription.core) :
    g.blockStart = f.blockStart := by
  show g.hwDescription.core.blockStart.toNat = f.hwDescription.core.blockStart.toNat
  rw [h]

lemma File.blockEnd_of_core (h : g.hwDescription.core = f.hwDescription.core) :
    g.blockEnd = f.blockEnd := by
  rw [File.blockEnd, BootMonFs.blockEnd_of_core h, File.blockEnd]

/-- Two files that are listed alike lie alike. -/
lemma File.Sound.of_listed {media : Media} (h : f.Sound media) (hlisted : g.listed = f.listed) :
    g.Sound media := by
  obtain ⟨haddress, hcore⟩ := Prod.mk.inj hlisted
  refine ⟨?_, ?_, fun i hi => ?_⟩
  · rw [onDisk_of_core hcore, dataSize_of_core hcore, blockStart_of_core hcore,
      File.blockEnd_of_core hcore]
    exact h.inFront
  · rw [onDisk_of_core hcore, dataSize_of_core hcore, haddress]
    exact h.created
  · show (g.hwDescription.core.region i).size = 0
    rw [hcore]
    exact h.oneRegion i hi

lemma stored_of_listed {content : ByteStore} {media : Media} (hlisted : g.listed = f.listed) :
    g.stored content media = f.stored content media := by
  obtain ⟨-, hcore⟩ := Prod.mk.inj hlisted
  funext x
  rw [File.stored, File.stored, onDisk_of_core hcore, dataSize_of_core hcore,
    blockStart_of_core hcore]

/-- What `NoOverlap` says is about the files as they are listed. -/
lemma Volume.NoOverlap.of_listed {v v' : Volume} (h : v.NoOverlap) (hmedia : v'.media = v.media)
    (hlisted : v'.files.map File.listed = v.files.map File.listed) : v'.NoOverlap := by
  have hlength : v'.files.length = v.files.length := by
    have := congrArg List.length hlisted
    rwa [List.length_map, List.length_map] at this
  have hcore : ∀ i (hi' : i < v'.files.length) (hi : i < v.files.length),
      v'.files[i].hwDescription.core = v.files[i].hwDescription.core := by
    intro i hi' hi
    have hget : (v'.files.map File.listed)[i]? = (v.files.map File.listed)[i]? := by rw [hlisted]
    rw [List.getElem?_map, List.getElem?_map, List.getElem?_eq_getElem hi',
      List.getElem?_eq_getElem hi] at hget
    exact (Prod.mk.inj (Option.some.inj hget)).2
  refine ⟨?_, fun g hg => ?_, ?_⟩
  · rw [List.pairwise_iff_getElem]
    intro i j hi hj hlt
    have hi' := hcore i hi (hlength ▸ hi)
    have hj' := hcore j hj (hlength ▸ hj)
    rw [onDisk_of_core hi', onDisk_of_core hj', blockStart_of_core hi', blockStart_of_core hj',
      File.blockEnd_of_core hi', File.blockEnd_of_core hj']
    exact List.pairwise_iff_getElem.mp h.apart i j _ _ hlt
  · obtain ⟨i, hi, rfl⟩ := List.getElem_of_mem hg
    have hi' := hcore i hi (hlength ▸ hi)
    rw [onDisk_of_core hi', blockStart_of_core hi', File.blockEnd_of_core hi', hmedia]
    exact h.inside _ (List.getElem_mem _)
  · rw [List.pairwise_iff_getElem]
    intro i j hi hj hlt
    have hi' := hcore i hi (hlength ▸ hi)
    have hj' := hcore j hj (hlength ▸ hj)
    rw [onDisk_of_core hi', onDisk_of_core hj', blockStart_of_core hi', blockStart_of_core hj']
    exact List.pairwise_iff_getElem.mp h.ordered i j _ _ hlt

end Listed

/-- The files of a volume in the invariant are those that discovery lists. -/
lemma Catalogued.listed {v : Volume} (h : Catalogued v) (hlayout : LayoutInv v)
    (hplain : v.media.Plain v.cfg.arch) (hdisk : ∀ f ∈ v.files, f.onDisk = true) :
    imagesFrom v.cfg.arch v.media v.services.content (v.media.lastBlock + 1) 0 =
      v.files.map File.listed := by
  apply imagesFrom_eq hplain _ _ (Nat.zero_add _) hlayout.ordered hdisk
  · exact fun f hf => hlayout.placed f hf (hdisk f hf)
  · exact fun f _ => Nat.zero_le _
  · exact h.described
  · intro l _ hl himage
    obtain ⟨f, hf, -, hend⟩ := h.complete l hl himage
    exact ⟨f, hf, hend⟩

/-- A file that is listed like a flushed file of the client. -/
lemma FoundAgain.of_listed {v v' : Volume} {contents : Contents} {f g : File}
    (hreflects : Reflects v contents) (hf : f ∈ v.files) (hflushed : f.Flushed)
    (hmedia : v'.media = v.media) (hcontent : v'.services.content = v.services.content)
    (hlookup : lookup g.handle v'.files = some g) (hclosed : g.info = none)
    (hlisted : g.listed = f.listed) : FoundAgain v' contents g f := by
  obtain ⟨-, hcore⟩ := Prod.mk.inj hlisted
  obtain ⟨file, hfile, hholds⟩ := hreflects.holds f hf
  refine ⟨?_, ⟨blockStart_of_core hcore, File.blockEnd_of_core hcore⟩, file, _, hfile,
    by rw [Volume.contents, hlookup, Option.map_some], ?_, fun x byte hx => ?_⟩
  · rw [hflushed.name, File.asciiName, hclosed, footer_of_core hcore]
  · rw [hflushed.size hholds]
    exact dataSize_of_core hcore
  · show g.stored v'.services.content v'.media x = some byte
    rw [hcontent, hmedia, stored_of_listed hlisted, ← hflushed.written.current]
    exact hholds.known x byte hx

/-- What holds over the runs of remountable calls. -/
lemma catalogued_of_run {u v₀ v : Volume} {contents : Contents}
    {steps : List (Environment × Call)} (hstart : Discovers u v₀)
    (hplain : v₀.media.Plain v₀.cfg.arch) (happart : v₀.NoOverlap)
    (hsound : ∀ f ∈ v₀.files, f.Sound v₀.media)
    (hrun : (pictured.restrict fun s => Remountable s.1).Run (v₀, v₀.contents) steps
      (v, contents)) :
    Reflects v contents ∧ Catalogued v ∧ v.media.Plain v.cfg.arch := by
  refine System.Run.invariant
    (P := fun s => Reflects s.1 s.2 ∧ Catalogued s.1 ∧ s.1.media.Plain s.1.cfg.arch) ?_ hrun
    ⟨hstart.mounted.reflects hplain happart hsound, hstart.catalogued hplain hsound, hplain⟩
  rintro ⟨s, contents⟩ step ⟨t, contents'⟩ ⟨hs, hcatalogued, hplain⟩
    ⟨hremountable, hvolume, hcontents⟩
  obtain ⟨-, hmedia, hcfg, -⟩ :=
    @perform_layout s step.1 step.2 hs.layout hplain hremountable.careful.fits
  rw [show t = _ from hvolume, show contents' = _ from hcontents]
  exact ⟨hs.perform hplain hremountable.careful, hcatalogued.perform hs hplain hremountable,
    by rw [hmedia, hcfg]; exact hplain⟩

/-- A volume in the invariant whose files are all flushed is discovered as it is. -/
lemma Catalogued.rediscovered {v : Volume} (h : Catalogued v) (hlayout : LayoutInv v)
    (hplain : v.media.Plain v.cfg.arch) (hflushed : ∀ f ∈ v.files, f.Flushed) {env : Environment}
    (halloc : env.allocate 0 = true)
    (hscans : ScansThrough env v.media v.services.content (v.media.lastBlock + 1) 0 1) :
    ∃ v', Discovers (v.unmounted env) v' ∧ v'.media = v.media ∧ v'.cfg = v.cfg ∧
      v'.services.content = v.services.content ∧
      v'.files.map File.listed = v.files.map File.listed := by
  obtain ⟨hsuccess, -⟩ := (initializeLoop_end ((v.unmounted env).media.lastBlock + 2) 0
    (Nat.zero_le _) (Nat.lt_succ_self _) (v := v.unmounted env) halloc).through hscans
  have hdiscovers : Discovers (v.unmounted env) (bootMonFsInitialize (v.unmounted env)).2 := by
    refine ⟨rfl, halloc, hscans, Prod.ext ?_ rfl⟩
    rcases initializeLoop_status ((v.unmounted env).media.lastBlock + 2) 0 (v.unmounted env) with
      h | h
    · exact h
    · rw [h] at hsuccess
      cases hsuccess
  refine ⟨_, hdiscovers, ?_⟩
  generalize (bootMonFsInitialize (v.unmounted env)).2 = v' at hdiscovers
  obtain ⟨hcontent, hmedia, hcfg, hlisted⟩ := hdiscovers.listed
  replace hcontent : v'.services.content = v.services.content := hcontent
  replace hmedia : v'.media = v.media := hmedia
  refine ⟨hmedia, hcfg, hcontent, ?_⟩
  -- both lists are the images on the media
  rw [hlisted, hmedia, hcontent, show v'.cfg = v.cfg from hcfg]
  exact h.listed hlayout hplain fun f hf => (hflushed f hf).onDisk

/-- Two lists of files that are listed alike, file by file. -/
lemma forall₂_of_listed {files files' : List File}
    (h : files'.map File.listed = files.map File.listed) {R : File → File → Prop}
    (hR : ∀ g ∈ files', ∀ f ∈ files, g.listed = f.listed → R g f) :
    List.Forall₂ R files' files := by
  have halike : List.Forall₂ (fun g f => g.listed = f.listed) files' files := by
    rw [← List.forall₂_map_right_iff, ← List.forall₂_map_left_iff, List.forall₂_eq_eq_eq]
    exact h
  rw [List.forall₂_iff_get] at halike ⊢
  exact ⟨halike.1, fun i hi' hi => hR _ (files'.get_mem ⟨i, hi'⟩) _ (files.get_mem ⟨i, hi⟩)
    (halike.2 i hi' hi)⟩

/-- After a run of remountable calls that leaves every file flushed, initialising the volume
afresh finds the files that were in memory, in their order.  What it leaves meets the conditions
on the start again. -/
theorem remount_of_run {u v₀ v : Volume} {contents : Contents}
    {steps : List (Environment × Call)} (hstart : Discovers u v₀)
    (hplain : v₀.media.Plain v₀.cfg.arch) (happart : v₀.NoOverlap)
    (hsound : ∀ f ∈ v₀.files, f.Sound v₀.media)
    (hrun : (pictured.restrict fun s => Remountable s.1).Run (v₀, v₀.contents) steps
      (v, contents))
    (hflushed : ∀ f ∈ v.files, f.Flushed) {env : Environment} (halloc : env.allocate 0 = true)
    (hscans : ScansThrough env v.media v.services.content (v.media.lastBlock + 1) 0 1) :
    ∃ v', Discovers (v.unmounted env) v' ∧
      List.Forall₂ (FoundAgain v' contents) v'.files v.files ∧
      v'.media.Plain v'.cfg.arch ∧ v'.NoOverlap ∧ ∀ f ∈ v'.files, f.Sound v'.media := by
  obtain ⟨hreflects, hcatalogued, hplain⟩ := catalogued_of_run hstart hplain happart hsound hrun
  have hlayout := hreflects.layout
  obtain ⟨v', hdiscovers, hmedia, hcfg, hcontent, hlisted⟩ :=
    hcatalogued.rediscovered hlayout hplain hflushed halloc hscans
  have hplain' : v'.media.Plain v'.cfg.arch := by
    rw [hmedia, hcfg]
    exact hplain
  have happart' : v'.NoOverlap := hlayout.noOverlap.of_listed hmedia hlisted
  have hdistinct' := (hdiscovers.mounted.layoutInv hplain' happart').distinct
  refine ⟨v', hdiscovers, ?_, hplain', happart', fun g hg => ?_⟩
  · exact forall₂_of_listed hlisted fun g hg f hf halike =>
      .of_listed hreflects hf (hflushed f hf) hmedia hcontent (hdistinct'.lookup hg)
        (hdiscovers.mounted.closed g hg).1 halike
  · have hmem : g.listed ∈ v.files.map File.listed := hlisted ▸ List.mem_map_of_mem hg
    obtain ⟨f, hf, heq⟩ := List.mem_map.mp hmem
    rw [hmedia]
    exact (hreflects.sound f hf).of_listed heq.symm

/-! ## Runs of calls that succeed -/

instance (v : Volume) : Decidable v.DataPlain :=
  decidable_of_iff (∀ f ∈ v.files, f.onDisk = true → ∀ lba < f.blockEnd, f.blockStart ≤ lba →
      isImageAt v.media v.services.content lba = false)
    ⟨fun h f hf hdisk lba hlo hhi => h f hf hdisk lba hhi hlo,
      fun h f hf hdisk lba hhi hlo => h f hf hdisk lba hlo hhi⟩

instance (f : File) : Decidable f.Flushed :=
  decidable_of_iff (f.onDisk = true ∧ (f.regionToFlush = [] ∧
      ∀ info ∈ f.info, info.fileSize = f.dataSize) ∧ f.asciiName = f.hwDescription.footer.name)
    ⟨fun h => ⟨h.1, ⟨h.2.1.1, h.2.1.2⟩, h.2.2⟩,
      fun h => ⟨h.onDisk, ⟨h.written.regionToFlush, h.written.fileSize⟩, h.name⟩⟩

/-- The flush of the file behind the handle ends it in no earlier block, or writes nothing. -/
def FlushKeepsBlocks (v : Volume) (handle : ℕ) : Prop :=
  ∀ f ∈ lookup handle v.files, ∀ info ∈ f.info, f.openMode ≠ .read → f.KeepsBlocks v.media info

instance (v : Volume) (handle : ℕ) : Decidable (FlushKeepsBlocks v handle) :=
  inferInstanceAs (Decidable (∀ f ∈ lookup handle v.files, ∀ info ∈ f.info, f.openMode ≠ .read →
    (f.onDisk = true → _ ∨ _)))

/-- The call succeeds, and its flush keeps the bytes and the blocks of the file. -/
structure KeepsFiles (v : Volume) (step : Environment × Call) : Prop where
  succeeds : Succeeds v step
  keepsBytes : KeepsBytes v step
  keepsBlocks : ∀ handle ∈ step.2.flushes, FlushKeepsBlocks v handle

/-- The data of the files reads as no description behind the call. -/
def LeavesDataPlain (v : Volume) (step : Environment × Call) : Prop :=
  (perform step.2 (v.enter step.1)).2.DataPlain

instance (v : Volume) (step : Environment × Call) : Decidable (LeavesDataPlain v step) :=
  inferInstanceAs (Decidable (Volume.DataPlain _))

lemma KeepsFiles.remountable {v : Volume} {step : Environment × Call} (h : KeepsFiles v step)
    (hplain : LeavesDataPlain v step) : Remountable v step where
  careful := h.keepsBytes.careful fun _ => h.succeeds
  keepsBlocks := fun handle f info hflushes hlookup hinfo hmode =>
    h.keepsBlocks handle hflushes f hlookup info hinfo hmode
  dataPlain := hplain

lemma discovers_of_success {u : Volume} (hfiles : u.files = []) (henv : u.services.env = .good)
    (h : (bootMonFsInitialize u).1 = .success) : Discovers u (bootMonFsInitialize u).2 := by
  refine ⟨hfiles, ?_, ?_, Prod.ext h rfl⟩
  · rw [henv]
    rfl
  · rw [henv]
    exact scansThrough_good _

lemma volumeB_discovers : Discovers mediaB volumeB :=
  @discovers_of_success mediaB rfl rfl (by decide +kernel)

/-- Each of the calls beside `B` keeps the files. -/
lemma besideB_keepsFiles :
    AllMeet (fun v step => LeavesDataPlain v step ∧ KeepsFiles v step) besideB volumeB := by
  have hkeeps : AllMeet (fun v step => LeavesDataPlain v step ∧ Succeeds v step ∧
      step.2.Keeps v ∧ ∀ handle ∈ step.2.flushes, FlushKeepsBlocks v handle) besideB volumeB := by
    decide +kernel
  exact hkeeps.imp fun _ _ ⟨hplain, hok, hkeeps, hblocks⟩ =>
    ⟨hplain, hok, ⟨fun _ => Environment.good_quiet, hkeeps⟩, hblocks⟩

lemma besideB_flushed : ∀ f ∈ (runCalls besideB volumeB).files, f.Flushed := by decide +kernel

lemma scansThrough_blocks (v : Volume) :
    ScansThrough .good v.media v.services.content (v.media.lastBlock + 1) 0 1 :=
  scansThrough_good 1

/-- The file in the gap and the one that has grown are found again, with their bytes. -/
theorem remount_of_run_besideB :
    (runCalls besideB volumeB).files.length = 2 ∧
      ∃ v', Discovers ((runCalls besideB volumeB).unmounted .good) v' ∧
        List.Forall₂ (FoundAgain v' (pictureAfter besideB volumeB volumeB.contents)) v'.files
          (runCalls besideB volumeB).files := by
  refine ⟨by decide +kernel, ?_⟩
  have hflushed := besideB_flushed
  have hremountable : AllMeet Remountable besideB volumeB :=
    besideB_keepsFiles.imp fun _ _ h => h.2.remountable h.1
  have hrun := run_pictured hremountable.run volumeB.contents
  generalize runCalls besideB volumeB = v at hflushed hrun ⊢
  obtain ⟨v', hdiscovers, hfound, -⟩ := remount_of_run volumeB_discovers volumeB_plain
    volumeB_noOverlap volumeB_sound hrun hflushed (rfl : Environment.good.allocate 0 = true)
    (scansThrough_blocks v)
  exact ⟨v', hdiscovers, hfound⟩

/-- What a client sees of a file: its name, its size and its blocks. -/
def File.face (f : File) : List UInt8 × ℕ × ℕ × ℕ :=
  (f.asciiName, f.info.elim f.dataSize (·.fileSize), f.blockStart, f.blockEnd)

/-- A closed file that is listed like a flushed one. -/
lemma File.Flushed.face_eq {f g : File} (h : f.Flushed) (hclosed : g.info = none)
    (hlisted : g.listed = f.listed) : g.face = f.face := by
  obtain ⟨-, hcore⟩ := Prod.mk.inj hlisted
  have hname : g.asciiName = f.asciiName := by
    rw [h.name, File.asciiName, hclosed, footer_of_core hcore]
  have hsize : f.info.elim f.dataSize (·.fileSize) = f.dataSize := by
    cases hinfo : f.info with
    | none => rfl
    | some info => exact h.written.fileSize info hinfo
  rw [File.face, File.face, hname, hclosed, hsize, Option.elim_none, dataSize_of_core hcore,
    blockStart_of_core hcore, File.blockEnd_of_core hcore]

/-- Initialising the volume afresh finds the files in memory, each once, and no other. -/
def Rediscovers (v : Volume) (env : Environment) : Prop :=
  (bootMonFsInitialize (v.unmounted env)).1 = .success ∧
    ((bootMonFsInitialize (v.unmounted env)).2.files.map File.face).Perm (v.files.map File.face)

/-- The calls that write 1000 bytes to the new file `A`, and cut it to 100 bytes once they are
flushed. -/
def shrunk : List (Environment × Call) :=
  writeA 1000 ++ untroubled [.setInfo 1 ⟨100, 84, 100, List.replicate 48 0, 0, nameA.chars⟩,
    .flushFile 1]

end BootMonFs

end MuPlatform
