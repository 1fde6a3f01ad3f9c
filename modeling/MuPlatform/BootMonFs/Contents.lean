import MuPlatform.Base.ByteFile
import MuPlatform.BootMonFs.Overlap

/-!
# What a flush stores

A file in memory is the data on the media with the queued regions written over it.  A flush that
gets through leaves exactly that on the media, as far as the new size reaches, where it fits its
room and none of the descriptions it writes on the way lies over data (`SparesData`).

The code writes a description behind every region that moves the end of the data, also where a
longer region has been written before; that description is what `SparesData` is about.  The one
it clears lies behind the data as long as the file is `Sound`, which a flush keeps.
-/

namespace MuPlatform
namespace BootMonFs

/-! ## Stored and queued bytes -/

/-- The queued writes. -/
def queued (regions : List FileRegion) : List (ℕ × List UInt8) :=
  regions.map fun region => (region.offset, region.buffer)

/-- The bytes of a file that are on the media. -/
def File.stored (content : ByteStore) (media : Media) (f : File) : KnownBytes := fun x =>
  if f.onDisk = true ∧ x < f.dataSize then some (content (f.blockStart * media.blockSize + x))
  else none

/-- The bytes of a file with the queued regions over them. -/
def File.current (content : ByteStore) (media : Media) (f : File) : KnownBytes :=
  (f.stored content media).writes (queued f.regionToFlush)

/-- The data of the file ends before its description, and `Region[0]` is all there is. -/
structure File.Sound (media : Media) (f : File) : Prop where
  inFront : f.onDisk = true →
    f.dataSize + sizeofHwImageDescription ≤ (f.blockEnd + 1 - f.blockStart) * media.blockSize
  created : f.onDisk = false → f.dataSize = 0 ∧ f.hwDescAddress = 0
  oneRegion : ∀ i, i ≠ 0 → (f.hwDescription.region i).size = 0

instance (media : Media) (f : File) : Decidable (f.Sound media) :=
  decidable_of_iff ((f.onDisk = true →
      f.dataSize + sizeofHwImageDescription ≤ (f.blockEnd + 1 - f.blockStart) * media.blockSize) ∧
      (f.onDisk = false → f.dataSize = 0 ∧ f.hwDescAddress = 0) ∧
      ∀ i, i ≠ 0 → (f.hwDescription.region i).size = 0)
    ⟨fun h => ⟨h.1, h.2.1, h.2.2⟩, fun h => ⟨h.inFront, h.created, h.oneRegion⟩⟩

/-- No description that a flush writes between the regions lies over data.  `top` is the largest
end of the data so far. -/
def SparesData (media : Media) (oldSize : ℕ) : ℕ → List FileRegion → Prop
  | _, [] => True
  | top, region :: regions =>
      if region.size = 0 ∨ region.ending < oldSize then SparesData media oldSize top regions
      else
        max top region.ending + sizeofHwImageDescription ≤
            (media.descBlock region.ending + 1) * media.blockSize ∧
          SparesData media oldSize (max top region.ending) regions

instance decidableSparesData (media : Media) (oldSize : ℕ) :
    ∀ top regions, Decidable (SparesData media oldSize top regions)
  | _, [] => inferInstanceAs (Decidable True)
  | top, region :: regions =>
      have := decidableSparesData media oldSize top regions
      have := decidableSparesData media oldSize (max top region.ending) regions
      inferInstanceAs (Decidable (if region.size = 0 ∨ region.ending < oldSize then
          SparesData media oldSize top regions
        else
          max top region.ending + sizeofHwImageDescription ≤
              (media.descBlock region.ending + 1) * media.blockSize ∧
            SparesData media oldSize (max top region.ending) regions))

section Stored

variable {content content' : ByteStore} {media : Media} {f f' : File} {x : ℕ} {byte : UInt8}

lemma stored_of_lt (hdisk : f.onDisk = true) (hx : x < f.dataSize) :
    f.stored content media x = some (content (f.blockStart * media.blockSize + x)) :=
  if_pos ⟨hdisk, hx⟩

lemma stored_below : (f.stored content media).Below f.dataSize :=
  fun _ hx => if_neg fun h => Nat.not_lt.mpr hx h.2

lemma stored_storedAt : (f.stored content media).StoredAt content
    (f.blockStart * media.blockSize) := by
  intro x byte hx
  unfold File.stored at hx
  split at hx
  · exact Option.some_inj.mp hx
  · cases hx

/-- A file that has not been flushed has nothing on the media. -/
lemma stored_of_not_onDisk (hdisk : ¬ f.onDisk = true) : f.stored content media x = none :=
  if_neg fun h => hdisk h.1

/-- What is stored depends on the bytes of the blocks of the file and on its description. -/
lemma stored_congr (hsound : f.Sound media) (hdesc : f'.hwDescription = f.hwDescription)
    (h : ∀ y, (f.extent media).Has y → content' y = content y) :
    f'.stored content' media = f.stored content media := by
  funext x
  have hdisk : f'.onDisk = f.onDisk := by rw [File.onDisk, File.onDisk, hdesc]
  have hsize : f'.dataSize = f.dataSize := by rw [File.dataSize, File.dataSize, hdesc]
  have hstart : f'.blockStart = f.blockStart := by rw [File.blockStart, File.blockStart, hdesc]
  unfold File.stored
  rw [hdisk, hsize, hstart]
  split
  · rename_i hx
    rw [h _ ?_]
    have hfront := hsound.inFront hx.1
    rw [File.extent, if_pos hx.1]
    constructor <;> simp only <;> omega
  · rfl

end Stored

lemma File.Sound.congr {media : Media} {f f' : File} (h : f.Sound media)
    (hdesc : f'.hwDescription = f.hwDescription)
    (haddress : f'.hwDescAddress = f.hwDescAddress) : f'.Sound media := by
  have hdisk : f'.onDisk = f.onDisk := by rw [File.onDisk, File.onDisk, hdesc]
  have hsize : f'.dataSize = f.dataSize := by rw [File.dataSize, File.dataSize, hdesc]
  have hstart : f'.blockStart = f.blockStart := by rw [File.blockStart, File.blockStart, hdesc]
  have hend : f'.blockEnd = f.blockEnd := by rw [File.blockEnd, File.blockEnd, hdesc]
  refine ⟨?_, ?_, ?_⟩
  · rw [hdisk, hsize, hstart, hend]
    exact h.inFront
  · rw [hdisk, hsize, haddress]
    exact h.created
  · rw [hdesc]
    exact h.oneRegion

/-- A file that has just been described is sound. -/
lemma File.DescribedAt.sound {media : Media} {f : File} {b z : ℕ} (h : f.DescribedAt media b z)
    (hregions : ∀ i, i ≠ 0 → (f.hwDescription.region i).size = 0) : f.Sound media where
  inFront := by
    intro _
    have hfit := media.lt_descBlock z
    have hblocks : b + media.descBlock z + 1 - b = media.descBlock z + 1 := by omega
    rw [h.size, h.blockStart, h.blockEnd, hblocks]
    omega
  created := fun hdisk => absurd h.onDisk (by simp [hdisk])
  oneRegion := hregions

/-- A description changes the first region only. -/
lemma describe_region {cfg : BuildConfig} {media : Media} {f : File} {name : FileName}
    {dataSize : UInt32} {fileStart : ℕ} {i : Fin hwImageDescriptionRegionMax} (hi : i ≠ 0) :
    (describe cfg media f name dataSize fileStart).hwDescription.region i =
      f.hwDescription.region i := by
  unfold describe
  rw [HwImageDescription.checksummed_region]
  exact Function.update_of_ne hi _ _

lemma RegionLoop.region {ctx : FlushContext} {regions : List FileRegion} {f f' : File}
    {through : Bool} {ws : List DiskWrite} (h : RegionLoop ctx regions f through f' ws)
    {i : Fin hwImageDescriptionRegionMax} (hi : i ≠ 0) :
    f'.hwDescription.region i = f.hwDescription.region i := by
  induction h with
  | done f => rfl
  | empty _ _ ih => exact ih
  | inPlace _ _ _ ih => exact ih
  | grow _ _ _ _ ih => exact ih.trans (describe_region hi)
  | full => rfl

/-! ## The region loop -/

namespace FlushBase

variable {ctx : FlushContext} {f f' f₀ : File} {region : FileRegion} {regions : List FileRegion}
  {b r physical last top : ℕ} {room : FlushRoom} {ws : List DiskWrite} {content : ByteStore}

/-- A region that moves the end of the data is described in the room. -/
lemma grow_step (base : FlushBase ctx f₀ b r) (hstart : room.fileStart = ctx.fileStart)
    (hroom : room.roomEnd = r * ctx.media.blockSize)
    (hspace : room.appendSpace = uint64Sub ctx.endOfAppendSpace ctx.fileStart)
    (hsize : room.oldSize = f₀.dataSize) (hne : region.size ≠ 0) (hplace : ¬ ctx.InPlace region)
    (hspaceCode : ctx.hasSpace f region = true)
    (hstate : LoopState ctx f₀ room b last top physical f)
    (hfits : RegionsFit ctx.media room physical last top (region :: regions)) :
    ctx.fileStart + region.ending + sizeofHwImageDescription < 2 ^ 64 ∧
      f₀.dataSize ≤ region.ending ∧
      (ctx.grown f region).DescribedAt ctx.media b region.ending ∧
      LoopState ctx f₀ room b region.ending (max top region.ending)
        (ctx.media.physicalFor region.ending) (ctx.grown f region) ∧
      RegionsFit ctx.media room (ctx.media.physicalFor region.ending) region.ending
        (max top region.ending) regions := by
  rw [RegionsFit, if_neg hne, hstart] at hfits
  obtain ⟨hwrap, hfits⟩ := hfits
  have hge := mt (base.inPlace_iff hwrap).mpr hplace
  have hphysical : f.physicalSize ctx.media = physical := by
    rcases hstate with ⟨rfl, -, hphysical⟩ | ⟨hdescribed, -, -, -, hphysical⟩
    · exact hphysical.symm
    · rw [hdescribed.physicalSize, hphysical]
  have hroomFor := (ctx.hasSpace_iff hwrap).mp hspaceCode
  rw [hphysical, ← hspace] at hroomFor
  rw [hsize, if_neg hge, if_pos hroomFor] at hfits
  obtain ⟨hfit, hfits⟩ := hfits
  have hgrown : (ctx.grown f region).DescribedAt ctx.media b region.ending := by
    rw [FlushContext.grown, ctx.newDataSize_eq hwrap]
    exact (base.grown_describedAt hstart hroom hfit f _).1
  have htop : room.Fits (max top region.ending) := by
    rcases hstate with ⟨-, rfl, -⟩ | ⟨-, -, -, htop, -⟩
    · rwa [Nat.zero_max]
    · rcases Nat.le_total top region.ending with hle | hle
      · rwa [Nat.max_eq_right hle]
      · rwa [Nat.max_eq_left hle]
  exact ⟨hwrap, Nat.not_lt.mp hge, hgrown,
    .inr ⟨hgrown, Nat.not_lt.mp hge, Nat.le_max_right _ _, htop, rfl⟩, hfits⟩

/-- A region that grows the file is stored with everything before it: the description that is
cleared and the one that is written lie behind the data. -/
lemma growing_stores {known : KnownBytes} {sofar : ℕ} (base : FlushBase ctx f₀ b r)
    (hwrap : ctx.fileStart + region.ending + sizeofHwImageDescription < 2 ^ 64)
    (hgrown : (ctx.grown f region).DescribedAt ctx.media b region.ending)
    (haddress : f.hwDescAddress ≠ 0 → ctx.fileStart + sofar ≤ f.hwDescAddress)
    (hspares : max sofar region.ending + sizeofHwImageDescription ≤
      (ctx.media.descBlock region.ending + 1) * ctx.media.blockSize)
    (hbelow : known.Below sofar) (hstored : known.StoredAt content ctx.fileStart) :
    (known.write region.offset region.buffer).StoredAt (replay content (ctx.growing f region))
      ctx.fileStart := by
  have hending : region.ending = region.offset + region.buffer.length := rfl
  have hcleared : known.StoredAt
      (replay content (if f.hwDescAddress = 0 then [] else [clearing f])) ctx.fileStart := by
    by_cases hzero : f.hwDescAddress = 0
    · rw [if_pos hzero]
      exact hstored
    · rw [if_neg hzero]
      exact hstored.behind hbelow (haddress hzero)
  have hbelow' : (known.write region.offset region.buffer).Below (max sofar region.ending) :=
    (hbelow.mono (Nat.le_max_left _ _)).write (hending ▸ Nat.le_max_right _ _)
  have hbehind : ctx.fileStart + max sofar region.ending ≤ (ctx.grown f region).hwDescAddress := by
    rw [hgrown.hwDescAddress, base.fileStart, Nat.add_assoc b, Nat.add_mul]
    omega
  rw [FlushContext.growing, replay_append]
  simp only [replay_cons, replay_nil, FlushContext.storing, describing, ctx.regionStart_eq hwrap]
  exact hcleared.write.behind hbelow' hbehind

/-- The region loop stores the queued regions over what the media held. -/
theorem regionLoop_stores {known : KnownBytes} {sofar : ℕ} (base : FlushBase ctx f₀ b r)
    (hstart : room.fileStart = ctx.fileStart) (hroom : room.roomEnd = r * ctx.media.blockSize)
    (hspace : room.appendSpace = uint64Sub ctx.endOfAppendSpace ctx.fileStart)
    (hsize : room.oldSize = f₀.dataSize) {through : Bool} (hthrough : through = true)
    (hloop : RegionLoop ctx regions f through f' ws)
    (hstate : LoopState ctx f₀ room b last top physical f)
    (hfits : RegionsFit ctx.media room physical last top regions)
    (hspares : SparesData ctx.media f₀.dataSize sofar regions)
    (haddress : f.hwDescAddress ≠ 0 → ctx.fileStart + sofar ≤ f.hwDescAddress)
    (hold : f₀.dataSize ≤ sofar) (hbelow : known.Below sofar)
    (hstored : known.StoredAt content ctx.fileStart) :
    (known.writes (queued regions)).StoredAt (replay content ws) ctx.fileStart := by
  induction hloop generalizing physical last top sofar known content with
  | done f => exact hstored
  | @empty region regions f through f' ws hempty _ ih =>
      rw [RegionsFit, if_pos hempty] at hfits
      rw [SparesData, if_pos (.inl hempty)] at hspares
      have hnil : region.buffer = [] := List.eq_nil_of_length_eq_zero hempty
      rw [queued, List.map_cons, KnownBytes.writes_cons, hnil, KnownBytes.write_nil]
      exact ih hthrough hstate hfits hspares haddress hold hbelow hstored
  | @inPlace region regions f through f' ws hne hplace _ ih =>
      rw [RegionsFit, if_neg hne, hstart] at hfits
      obtain ⟨hwrap, hfits⟩ := hfits
      have hlt := (base.inPlace_iff hwrap).mp hplace
      rw [hsize, if_pos hlt] at hfits
      rw [SparesData, if_pos (.inr hlt)] at hspares
      have hending : region.ending = region.offset + region.buffer.length := rfl
      rw [queued, List.map_cons, KnownBytes.writes_cons, replay_cons, FlushContext.storing,
        ctx.regionStart_eq hwrap]
      exact ih hthrough hstate hfits.2 hspares haddress hold
        (hbelow.write (show region.offset + region.buffer.length ≤ sofar by omega)) hstored.write
  | @grow region regions f through f' ws hne hplace hspaceCode _ ih =>
      obtain ⟨hwrap, hge, hgrown, hstate', hfits'⟩ :=
        base.grow_step hstart hroom hspace hsize hne hplace hspaceCode hstate hfits
      rw [SparesData, if_neg (by omega)] at hspares
      have hending : region.ending = region.offset + region.buffer.length := rfl
      have haddress' : ctx.fileStart + max sofar region.ending ≤
          (ctx.grown f region).hwDescAddress := by
        have hspare := hspares.1
        rw [hgrown.hwDescAddress, base.fileStart, Nat.add_assoc b, Nat.add_mul]
        omega
      rw [queued, List.map_cons, KnownBytes.writes_cons, replay_append]
      exact ih hthrough hstate' hfits' hspares.2 (fun _ => haddress')
        (hold.trans (Nat.le_max_left _ _))
        ((hbelow.mono (Nat.le_max_left _ _)).write (hending ▸ Nat.le_max_right _ _))
        (base.growing_stores hwrap hgrown haddress hspares.1 hbelow hstored)
  | full => cases hthrough

/-- The last description of a flush fits the room. -/
lemma described_fits (base : FlushBase ctx f₀ b r) {info : FileInfo} {files : List File}
    (hr : roomEndBlock ctx.media files = r) (hfits : FlushFits ctx f₀ info files)
    (hloop : RegionLoop ctx f₀.regionToFlush f₀ true f ws)
    (hneeds : needsDescription (freeFileRegions ctx.media f info) info = true) :
    (flushRoom ctx f₀ info files).Fits info.fileSize := by
  have hroomEnd : (flushRoom ctx f₀ info files).roomEnd = r * ctx.media.blockSize := by
    rw [← hr]
    rfl
  have hstart : LoopState ctx f₀ (flushRoom ctx f₀ info files) b f₀.dataSize 0
      (f₀.physicalSize ctx.media) f₀ := .inl ⟨rfl, rfl, rfl⟩
  obtain ⟨last, top, hend⟩ := base.regionLoop rfl hroomEnd rfl rfl rfl hloop hstart hfits.2
  obtain ⟨htopSize, hfit | ⟨hsame, hname⟩⟩ := hend.got_through rfl
  · exact hfit
  have hsame' : info.fileSize = f₀.dataSize := hsame
  obtain ⟨_, ⟨rfl, -, -⟩ | ⟨hdescribed, hold, hlast, htop, -⟩⟩ := hend.state
  · -- an untouched file of the same name and size needs no description
    have hname' : f.hwDescription.footer.name = info.fileName.chars :=
      of_not_not (of_decide_eq_false hname)
    rw [needsDescription, Bool.or_eq_true] at hneeds
    rcases hneeds with hneeds | hneeds
    · exact absurd hname' (of_decide_eq_true hneeds)
    · exact absurd hsame' (of_decide_eq_true hneeds)
  · have htop' : top = info.fileSize := Nat.le_antisymm htopSize (by omega)
    rwa [htop'] at htop

/-- What a flush that succeeds makes of a file. -/
structure FlushedFile (media : Media) (info : FileInfo) (f f' : File) : Prop where
  handle : f'.handle = f.handle
  opened : ∃ physicalSize, f'.info = some { info with physicalSize := physicalSize }
  position : f'.position = f.position
  openMode : f'.openMode = f.openMode
  regionToFlush : f'.regionToFlush = []
  dataSize : f'.dataSize = info.fileSize
  sound : f'.Sound media

/-- A flush that succeeds stores the file as it was in memory, up to its new size. -/
theorem flushOutcome_stores (base : FlushBase ctx f₀ b r) (content : ByteStore) {info : FileInfo} {files : List File}
    {status : EfiStatus} (hr : roomEndBlock ctx.media files = r)
    (hsound : f₀.Sound ctx.media) (hfits : FlushFits ctx f₀ info files)
    (hspares : SparesData ctx.media f₀.dataSize f₀.dataSize f₀.regionToFlush)
    (houtcome : FlushOutcome ctx info f₀ status f' ws) (hstatus : status ≠ .volumeFull) :
    FlushedFile ctx.media info f₀ f' ∧
      ∀ x byte, x < info.fileSize → f₀.current content ctx.media x = some byte →
        f'.stored (replay content ws) ctx.media x = some byte := by
  have hroomEnd : (flushRoom ctx f₀ info files).roomEnd = r * ctx.media.blockSize := by
    rw [← hr]
    rfl
  have hstart : LoopState ctx f₀ (flushRoom ctx f₀ info files) b f₀.dataSize 0
      (f₀.physicalSize ctx.media) f₀ := .inl ⟨rfl, rfl, rfl⟩
  have haddress : f₀.hwDescAddress ≠ 0 → ctx.fileStart + f₀.dataSize ≤ f₀.hwDescAddress := by
    intro hne
    have hdisk : f₀.onDisk = true := base.created.resolve_right hne
    have hfront := hsound.inFront hdisk
    have hle := (base.placed hdisk).le
    have hsum : (f₀.blockEnd + 1) * ctx.media.blockSize = f₀.blockStart * ctx.media.blockSize +
        (f₀.blockEnd + 1 - f₀.blockStart) * ctx.media.blockSize := by
      rw [← Nat.add_mul]
      congr 1
      omega
    rw [(base.placed hdisk).hwDescAddress, base.fileStart, ← base.blockStart hdisk]
    omega
  have hstored : (f₀.stored content ctx.media).StoredAt content ctx.fileStart := by
    by_cases hdisk : f₀.onDisk = true
    · rw [base.fileStart, ← base.blockStart hdisk]
      exact stored_storedAt
    · intro x byte hx
      rw [stored_of_not_onDisk hdisk] at hx
      cases hx
  have hregions : ∀ {f₁ : File} {through : Bool} {ws : List DiskWrite},
      RegionLoop ctx f₀.regionToFlush f₀ through f₁ ws → ∀ i, i ≠ 0 →
        (f₁.hwDescription.region i).size = 0 := by
    intro f₁ through ws hloop i hi
    rw [hloop.region hi]
    exact hsound.oneRegion i hi
  cases houtcome with
  | full => exact absurd rfl hstatus
  | @settled f₁ ws hloop hneeds =>
      have hstores := base.regionLoop_stores rfl hroomEnd rfl rfl rfl hloop hstart hfits.2 hspares
        haddress (Nat.le_refl _) stored_below hstored
      have honly := hloop.onlyDescribed
      have hsize : info.fileSize = f₁.dataSize := by
        rw [needsDescription, Bool.or_eq_false_iff] at hneeds
        exact of_not_not (of_decide_eq_false hneeds.2)
      obtain ⟨last, top, hend⟩ :=
        base.regionLoop rfl hroomEnd rfl rfl rfl hloop hstart hfits.2
      obtain ⟨_, ⟨rfl, -, -⟩ | ⟨hdescribed, -, -, -, -⟩⟩ := hend.state
      · -- nothing has moved the end of the data
        refine ⟨⟨rfl, ⟨_, rfl⟩, rfl, rfl, rfl, hsize.symm, hsound.congr rfl rfl⟩, ?_⟩
        intro x byte hx hcurrent
        have hlt : x < f₁.dataSize := hsize ▸ hx
        have hdisk : f₁.onDisk = true := by
          by_contra hdisk
          have := (hsound.created (by simpa using hdisk)).1
          omega
        have hheld := hstores x byte hcurrent
        rw [base.fileStart, ← base.blockStart hdisk] at hheld
        rw [← hheld]
        exact stored_of_lt (f := freeFileRegions ctx.media f₁ info) hdisk hlt
      · refine ⟨⟨honly.handle, ⟨_, rfl⟩, honly.position, honly.openMode, rfl, hsize.symm,
          (hdescribed.sound (hregions hloop)).congr rfl rfl⟩, ?_⟩
        intro x byte hx hcurrent
        have hlt : x < f₁.dataSize := hsize ▸ hx
        have hheld := hstores x byte hcurrent
        rw [base.fileStart, ← hdescribed.blockStart] at hheld
        rw [← hheld]
        exact stored_of_lt (f := freeFileRegions ctx.media f₁ info) hdescribed.onDisk hlt
  | @described f₁ ws hloop hneeds =>
      have hstores := base.regionLoop_stores rfl hroomEnd rfl rfl rfl hloop hstart hfits.2 hspares
        haddress (Nat.le_refl _) stored_below hstored
      have honly := hloop.onlyDescribed
      have hfit' := base.described_fits hr hfits hloop hneeds
      have hgrown := (base.grown_describedAt rfl hroomEnd hfit'
        (freeFileRegions ctx.media f₁ info) info.fileName).1
      have hdescribe := describe_onlyDescribed ctx.cfg ctx.media
        (freeFileRegions ctx.media f₁ info) info.fileName (UInt32.ofNat info.fileSize)
        ctx.fileStart
      refine ⟨⟨hdescribe.handle.trans honly.handle, ⟨_, hdescribe.info⟩,
        hdescribe.position.trans honly.position, hdescribe.openMode.trans honly.openMode,
        hdescribe.regionToFlush, hgrown.size, hgrown.sound fun i hi => ?_⟩, ?_⟩
      · rw [describe_region hi]
        exact hregions hloop i hi
      intro x byte hx hcurrent
      have hheld := hstores x byte hcurrent
      generalize describe ctx.cfg ctx.media (freeFileRegions ctx.media f₁ info) info.fileName
        (UInt32.ofNat info.fileSize) ctx.fileStart = f₂ at hgrown ⊢
      have hbehind : ctx.fileStart + x < f₂.hwDescAddress := by
        have hfit := ctx.media.lt_descBlock info.fileSize
        rw [hgrown.hwDescAddress, base.fileStart, Nat.add_assoc b, Nat.add_mul]
        omega
      have hlt : x < f₂.dataSize := by
        rw [hgrown.size]
        exact hx
      rw [stored_of_lt hgrown.onDisk hlt, hgrown.blockStart, ← base.fileStart,
        replay_append, replay_cons, replay_nil, describing, ByteStore.write_apply_of_lt hbehind,
        hheld]

end FlushBase

end BootMonFs

end MuPlatform
