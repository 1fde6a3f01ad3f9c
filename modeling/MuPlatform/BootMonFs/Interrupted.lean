import MuPlatform.BootMonFs.FlushDirectory
import MuPlatform.BootMonFs.Layout

/-!
# Flushes that are interrupted

A flush stops at the first request that fails and leaves the regions queued.  For a file that is on
the media and whose regions lie in the data it has there (`StaysInside`) that is no loss: whatever
number of flushes have stopped half way (`Midway`), the description of the file has the size, the
name and the place it had, and a flush that goes through leaves the bytes that the first one would
have left (`settle_congr`).
-/

namespace MuPlatform
namespace BootMonFs

/-! ## Descriptions written again -/

section Layout

variable {cfg : BuildConfig} {media : Media} {name : FileName} {dataSize : UInt32}
  {fileStart : ℕ}

/-- A name that is copied over itself does not change a byte. -/
lemma setName_again {footer footer' : HwImageFooter}
    (h : footer'.filename = (footer.setName name).filename) :
    (footer'.setName name).filename = footer'.filename := by
  funext i
  by_cases hlt : (i : ℕ) < name.chars.length
  · rw [h]
    simp only [HwImageFooter.setName, dif_pos hlt]
  · by_cases heq : (i : ℕ) = name.chars.length
    · rw [h]
      simp only [HwImageFooter.setName, dif_neg hlt, if_pos heq]
    · simp only [HwImageFooter.setName, dif_neg hlt, if_neg heq]

/-- A description that is laid out again does not change. -/
lemma layout_layout (d : HwImageDescription) :
    layout cfg media (layout cfg media d name dataSize fileStart) name dataSize fileStart =
      layout cfg media d name dataSize fileStart := by
  have hfilename := @setName_again name d.footer
    (layout cfg media d name dataSize fileStart).footer rfl
  dsimp only [layout] at hfilename ⊢
  simp only [hfilename, Function.update_self, Function.update_idem]

lemma layout_described (d : HwImageDescription) :
    layout cfg media (layout cfg media d name dataSize fileStart).checksummed name dataSize
        fileStart = (layout cfg media d name dataSize fileStart).checksummed := by
  have hagain := @layout_layout cfg media name dataSize fileStart d
  calc layout cfg media (layout cfg media d name dataSize fileStart).checksummed name dataSize
        fileStart
      = { layout cfg media (layout cfg media d name dataSize fileStart) name dataSize fileStart with
          footerChecksum := (layout cfg media d name dataSize fileStart).checksummed.footerChecksum
        } := rfl
    _ = { layout cfg media d name dataSize fileStart with
          footerChecksum := (layout cfg media d name dataSize fileStart).checksummed.footerChecksum
        } := by rw [hagain]
    _ = (layout cfg media d name dataSize fileStart).checksummed := rfl

lemma describe_hwDescription (f : File) :
    (describe cfg media f name dataSize fileStart).hwDescription =
      (layout cfg media f.hwDescription name dataSize fileStart).checksummed := rfl

lemma describe_address (f : File) :
    (describe cfg media f name dataSize fileStart).hwDescAddress = hwDescAddressOf cfg media
      (describe cfg media f name dataSize fileStart).hwDescription.blockEnd := rfl

end Layout

/-! ## Regions inside the data -/

/-- The start of the file on the media. -/
def File.start (media : Media) (f : File) : ℕ := f.blockStart * media.blockSize

/-- The blocks of the file, in bytes. -/
def File.room (media : Media) (f : File) : ℕ := (f.blockEnd + 1 - f.blockStart) * media.blockSize

/-- The region has bytes, and they end where the data of the file ends: a flush writes the
description again. -/
def File.EndsWith (f : File) (region : FileRegion) : Prop :=
  region.size ≠ 0 ∧ region.ending = f.dataSize

/-- The file described again, with the size it has. -/
def File.rewritten (v : Volume) (f : File) (info : FileInfo) : File :=
  describe v.cfg v.media f info.fileName (UInt32.ofNat f.dataSize) (f.start v.media)

/-- The description of the file can be cleared and written again for a region that ends with the
data. -/
structure Rewritable (media : Media) (f : File) (region : FileRegion) : Prop where
  fits : f.dataSize + sizeofHwImageDescription < f.room media
  room_lt : f.room media < 2 ^ 32
  block_lt : f.blockEnd + 1 < 2 ^ 32
  within : f.hwDescAddress ≠ 0 → f.descSpan.Within (f.extent media)
  /-- What is cleared of the data is written again with the region. -/
  covered : f.hwDescAddress ≠ 0 → ∀ x, f.descSpan.Has x →
    f.start media + f.dataSize ≤ x ∨ f.start media + region.offset ≤ x

/-- The flush of the file stays in the data the file has on the media. -/
structure StaysInside (v : Volume) (f : File) (info : FileInfo) : Prop where
  onDisk : f.onDisk = true
  unshifted : v.media.lowestAlignedLba = 0
  le : f.blockStart ≤ f.blockEnd
  bytes_lt : (f.blockEnd + 1) * v.media.blockSize < 2 ^ v.cfg.arch.uintnBits
  holds : f.dataSize ≤ f.room v.media
  apart : ∀ g ∈ v.files, g.handle ≠ f.handle → (f.extent v.media).Apart (g.extent v.media)
  size_eq : info.fileSize = f.dataSize
  /-- The name is that of the description, or the description is written again. -/
  name : f.hwDescription.footer.name = info.fileName.chars ∨
    ∃ region ∈ f.regionToFlush, f.EndsWith region
  inside : ∀ region ∈ f.regionToFlush, region.size ≠ 0 → region.ending ≤ f.dataSize
  rewritable : ∀ region ∈ f.regionToFlush, f.EndsWith region → Rewritable v.media f region
  named : f.hwDescription.footer.name ≠ [] ∧ info.fileName.chars ≠ []
  unique : ∀ g ∈ v.files, g.handle ≠ f.handle →
    g.asciiName ≠ f.hwDescription.footer.name ∧ g.asciiName ≠ info.fileName.chars

/-- The description of a file as flushes of `f` leave it: as it was, laid out again but for want
of memory not written, or as it was to be written. -/
inductive Redescribed (v : Volume) (f : File) (info : FileInfo) (g : File) : Prop
  | same (hdescription : g.hwDescription = f.hwDescription)
      (haddress : g.hwDescAddress = f.hwDescAddress)
  | laidOut (hends : ∃ region ∈ f.regionToFlush, f.EndsWith region)
      (hdescription : g.hwDescription = layout v.cfg v.media f.hwDescription info.fileName
        (UInt32.ofNat f.dataSize) (f.start v.media))
      (haddress : g.hwDescAddress = f.hwDescAddress)
  | written (hends : ∃ region ∈ f.regionToFlush, f.EndsWith region)
      (hdescription : g.hwDescription = (f.rewritten v info).hwDescription)
      (haddress : g.hwDescAddress = (f.rewritten v info).hwDescAddress)

namespace StaysInside

variable {v : Volume} {f : File} {info : FileInfo} {region : FileRegion}

lemma extent_eq (h : StaysInside v f info) :
    f.extent v.media = ⟨f.start v.media, f.room v.media⟩ := if_pos h.onDisk

lemma start_add_room (h : StaysInside v f info) :
    f.start v.media + f.room v.media = (f.blockEnd + 1) * v.media.blockSize := by
  have hle := h.le
  rw [File.start, File.room, ← Nat.add_mul]
  congr 1
  omega

/-- The blocks of the file have addresses that are not cut off. -/
lemma room_end_lt (h : StaysInside v f info) :
    f.start v.media + f.room v.media < 2 ^ v.cfg.arch.uintnBits ∧
      f.start v.media + f.room v.media + sizeofHwImageDescription < 2 ^ 64 := by
  have hlt := h.bytes_lt
  have hblock : f.blockEnd < 2 ^ 32 := f.hwDescription.blockEnd.toNat_lt
  have hsize := v.media.blockSize_lt
  have hmul : (f.blockEnd + 1) * v.media.blockSize ≤ 2 ^ 32 * (2 ^ 32 - 1) :=
    Nat.mul_le_mul (by omega) (by omega)
  rw [h.start_add_room]
  refine ⟨hlt, ?_⟩
  unfold sizeofHwImageDescription
  omega

/-- The description that is written again lies at the end of a block of the file, behind the
data. -/
lemma rewritten_describedAt (h : StaysInside v f info) (hrewritable : Rewritable v.media f region) :
    (f.rewritten v info).DescribedAt v.media f.blockStart f.dataSize ∧
      f.blockStart + v.media.descBlock f.dataSize ≤ f.blockEnd := by
  have hstart : f.start v.media = f.blockStart * v.media.blockSize := rfl
  have hlast : f.blockStart + v.media.descBlock f.dataSize < f.blockEnd + 1 := by
    refine Media.descBlock_lt_of_lt ?_
    have hroom := h.start_add_room
    have hfits := hrewritable.fits
    omega
  have hblock := hrewritable.block_lt
  have hle : (f.blockStart + v.media.descBlock f.dataSize + 1) * v.media.blockSize ≤
      (f.blockEnd + 1) * v.media.blockSize := Nat.mul_le_mul_right _ (by omega)
  exact ⟨describe_describedAt_of_lt info.fileName
    (Nat.lt_trans hrewritable.fits hrewritable.room_lt) (by omega)
    (Nat.lt_of_le_of_lt hle h.bytes_lt), Nat.le_of_lt_succ hlast⟩

/-- The description that is written again lies in the blocks of the file, behind its data. -/
lemma rewritten_descSpan (h : StaysInside v f info) (hrewritable : Rewritable v.media f region) :
    f.start v.media + f.dataSize ≤ (f.rewritten v info).hwDescAddress ∧
      (f.rewritten v info).descSpan.Within (f.extent v.media) := by
  obtain ⟨hdescribed, hlast⟩ := h.rewritten_describedAt hrewritable
  have hroom := h.start_add_room
  have hfit := v.media.lt_descBlock f.dataSize
  have hlen : (f.blockStart + v.media.descBlock f.dataSize + 1) * v.media.blockSize =
      f.start v.media + (v.media.descBlock f.dataSize + 1) * v.media.blockSize := by
    rw [File.start]
    ring
  have hle : (f.blockStart + v.media.descBlock f.dataSize + 1) * v.media.blockSize ≤
      (f.blockEnd + 1) * v.media.blockSize := Nat.mul_le_mul_right _ (by omega)
  rw [h.extent_eq, File.descSpan, Span.Within, hdescribed.hwDescAddress]
  dsimp only
  omega

end StaysInside

namespace Redescribed

variable {v : Volume} {f g : File} {info : FileInfo} {region : FileRegion}

/-- The place and the size of the file are those of `f`, and its name is the old or the new one. -/
lemma shape (h : StaysInside v f info) (hg : Redescribed v f info g) :
    g.hwDescription.regionCount ≠ 0 ∧
      g.hwDescription.blockStart = f.hwDescription.blockStart ∧
      (g.hwDescription.region 0).size = (f.hwDescription.region 0).size ∧
      (g.hwDescription.footer.name = f.hwDescription.footer.name ∨
        g.hwDescription.footer.name = info.fileName.chars) := by
  have hlayout : (layout v.cfg v.media f.hwDescription info.fileName (UInt32.ofNat f.dataSize)
      (f.start v.media)).regionCount ≠ 0 ∧
      (layout v.cfg v.media f.hwDescription info.fileName (UInt32.ofNat f.dataSize)
        (f.start v.media)).blockStart = f.hwDescription.blockStart ∧
      ((layout v.cfg v.media f.hwDescription info.fileName (UInt32.ofNat f.dataSize)
        (f.start v.media)).region 0).size = (f.hwDescription.region 0).size ∧
      (layout v.cfg v.media f.hwDescription info.fileName (UInt32.ofNat f.dataSize)
        (f.start v.media)).footer.name = info.fileName.chars := by
    refine ⟨by simp [layout], ?_, ?_, ?_⟩
    · show UInt32.ofNat (f.blockStart * v.media.blockSize / v.media.blockSize) = _
      rw [Nat.mul_div_cancel _ v.media.blockSize_pos]
      exact UInt32.ofNat_toNat
    · simp only [layout, Function.update_self]
      exact UInt32.ofNat_toNat
    · exact HwImageFooter.name_setName
        { (layout v.cfg v.media f.hwDescription info.fileName (UInt32.ofNat f.dataSize)
            (f.start v.media)).footer with filename := f.hwDescription.footer.filename }
        info.fileName
  cases hg with
  | same hdescription _ =>
      rw [hdescription]
      exact ⟨by simpa [File.onDisk] using h.onDisk, rfl, rfl, .inl rfl⟩
  | laidOut _ hdescription _ =>
      rw [hdescription]
      exact ⟨hlayout.1, hlayout.2.1, hlayout.2.2.1, .inr hlayout.2.2.2⟩
  | written _ hdescription _ =>
      rw [hdescription, File.rewritten, describe_hwDescription]
      exact ⟨hlayout.1, hlayout.2.1, hlayout.2.2.1, .inr hlayout.2.2.2⟩

lemma onDisk (h : StaysInside v f info) (hg : Redescribed v f info g) : g.onDisk = true :=
  decide_eq_true (hg.shape h).1

lemma blockStart (h : StaysInside v f info) (hg : Redescribed v f info g) :
    g.blockStart = f.blockStart := congrArg UInt32.toNat (hg.shape h).2.1

lemma dataSize (h : StaysInside v f info) (hg : Redescribed v f info g) :
    g.dataSize = f.dataSize := congrArg UInt32.toNat (hg.shape h).2.2.1

lemma name (h : StaysInside v f info) (hg : Redescribed v f info g) :
    g.hwDescription.footer.name = f.hwDescription.footer.name ∨
      g.hwDescription.footer.name = info.fileName.chars := (hg.shape h).2.2.2

/-- Whatever flushes have left of it, the description comes out the same when it is written. -/
lemma describe (hg : Redescribed v f info g) :
    (describe v.cfg v.media g info.fileName (UInt32.ofNat f.dataSize)
        (f.start v.media)).hwDescription = (f.rewritten v info).hwDescription ∧
      (BootMonFs.describe v.cfg v.media g info.fileName (UInt32.ofNat f.dataSize)
        (f.start v.media)).hwDescAddress = (f.rewritten v info).hwDescAddress := by
  have hdescription : (BootMonFs.describe v.cfg v.media g info.fileName (UInt32.ofNat f.dataSize)
      (f.start v.media)).hwDescription = (f.rewritten v info).hwDescription := by
    rw [File.rewritten, describe_hwDescription, describe_hwDescription]
    cases hg with
    | same hdescription _ => rw [hdescription]
    | laidOut _ hdescription _ => rw [hdescription, layout_layout]
    | written _ hdescription _ =>
        rw [hdescription, File.rewritten, describe_hwDescription, layout_described,
          HwImageDescription.checksummed_checksummed]
  refine ⟨hdescription, ?_⟩
  rw [describe_address, hdescription, File.rewritten, describe_address]

lemma layout (hg : Redescribed v f info g) (hends : ∃ region ∈ f.regionToFlush, f.EndsWith region) :
    Redescribed v f info { g with
      hwDescription := layout v.cfg v.media g.hwDescription info.fileName
        (UInt32.ofNat f.dataSize) (f.start v.media) } := by
  cases hg with
  | same hdescription haddress => exact .laidOut hends (by dsimp only; rw [hdescription]) haddress
  | laidOut _ hdescription haddress =>
      exact .laidOut hends (by dsimp only; rw [hdescription, layout_layout]) haddress
  | written _ hdescription haddress =>
      refine .written hends ?_ haddress
      dsimp only
      rw [hdescription, File.rewritten, describe_hwDescription, layout_described]

/-- The last block of the file is that of `f`, or the one its data needs. -/
lemma blockEnd (h : StaysInside v f info) (hg : Redescribed v f info g)
    (hrewritable : Rewritable v.media f region) :
    g.blockEnd = f.blockEnd ∨ g.blockEnd = f.blockStart + v.media.descBlock f.dataSize := by
  have hdescribed := (h.rewritten_describedAt hrewritable).1.blockEnd
  cases hg with
  | same hdescription _ => exact .inl (by rw [File.blockEnd, hdescription, File.blockEnd])
  | laidOut _ hdescription _ =>
      refine .inr ?_
      rw [← hdescribed, File.blockEnd, hdescription]
      rfl
  | written _ hdescription _ =>
      refine .inr ?_
      rw [← hdescribed, File.blockEnd, hdescription, File.blockEnd]

/-- The description finds the space it is checked for. -/
lemma physicalSize (h : StaysInside v f info) (hg : Redescribed v f info g)
    (hrewritable : Rewritable v.media f region) :
    f.dataSize + sizeofHwImageDescription ≤ g.physicalSize v.media := by
  have hlast := (h.rewritten_describedAt hrewritable).2
  have hle := h.le
  have hend := hg.blockEnd h hrewritable
  have hroom_lt := hrewritable.room_lt
  have hblocks : g.blockEnd + 1 - g.blockStart ≤ f.blockEnd + 1 - f.blockStart := by
    rw [hg.blockStart h]
    omega
  have hroom : (g.blockEnd + 1 - g.blockStart) * v.media.blockSize ≤ f.room v.media :=
    Nat.mul_le_mul_right _ hblocks
  rw [File.physicalSize_eq (hg.onDisk h) (by rw [hg.blockStart h]; omega),
    Nat.mod_eq_of_lt (by omega), hg.blockStart h]
  rcases hend with hsame | hneeded
  · rw [hsame]
    exact Nat.le_of_lt hrewritable.fits
  · have hfit := v.media.lt_descBlock f.dataSize
    have hcount : f.blockStart + v.media.descBlock f.dataSize + 1 - f.blockStart =
        v.media.descBlock f.dataSize + 1 := by omega
    rw [hneeded, hcount]
    exact Nat.le_of_lt hfit

/-- A description that has another address is the one that is written again. -/
lemma address_of_ne (hg : Redescribed v f info g) (hne : g.hwDescAddress ≠ f.hwDescAddress) :
    g.hwDescAddress = (f.rewritten v info).hwDescAddress := by
  cases hg with
  | same _ haddress => exact absurd haddress hne
  | laidOut _ _ haddress => exact absurd haddress hne
  | written _ _ haddress => exact haddress

end Redescribed

/-! ## Flushes that have stopped half way -/

/-- A flush of the region writes the byte. -/
def Touches (v : Volume) (f : File) (info : FileInfo) (region : FileRegion) (x : ℕ) : Prop :=
  region.size ≠ 0 ∧ (Span.Has ⟨f.start v.media + region.offset, region.size⟩ x ∨
    f.EndsWith region ∧ (f.hwDescAddress ≠ 0 ∧ f.descSpan.Has x ∨
      (f.rewritten v info).descSpan.Has x))

/-- Nothing is left of the old description behind the data but what lies under the new one. -/
def Cleared (v : Volume) (f : File) (info : FileInfo) (content : ByteStore) : Prop :=
  f.hwDescAddress ≠ 0 → ∀ x, f.descSpan.Has x → f.start v.media + f.dataSize ≤ x →
    ¬ (f.rewritten v info).descSpan.Has x → content x = 0

/-- The file and the bytes of the media as flushes of `f` leave them that stop half way. -/
structure Midway (v : Volume) (f : File) (info : FileInfo) (g : File) (content : ByteStore) :
    Prop where
  described : Redescribed v f info g
  kept : ∀ x, (∀ region ∈ f.regionToFlush, ¬ Touches v f info region x) →
    content x = v.services.content x
  cleared : g.hwDescAddress ≠ f.hwDescAddress → Cleared v f info content

/-- The bytes before the description of `g` is written again. -/
def blanked (g : File) (content : ByteStore) : ByteStore :=
  if g.hwDescAddress = 0 then content
  else content.write g.hwDescAddress (List.replicate sizeofHwImageDescription 0)

/-- What the flush of a region comes to that goes through. -/
def settleRegion (v : Volume) (f : File) (info : FileInfo) (p : File × ByteStore)
    (region : FileRegion) : File × ByteStore :=
  if region.size = 0 then p
  else if region.ending < f.dataSize then
    (p.1, p.2.write (f.start v.media + region.offset) region.buffer)
  else
    ({ p.1 with
        hwDescription := (f.rewritten v info).hwDescription
        hwDescAddress := (f.rewritten v info).hwDescAddress },
      ((blanked p.1 p.2).write (f.start v.media + region.offset) region.buffer).write
        (f.rewritten v info).hwDescAddress (f.rewritten v info).hwDescription.bytes)

/-- A flush of these regions, whether it has gone through or has stopped. -/
structure Advances (v : Volume) (f : File) (info : FileInfo) (g : File) (content : ByteStore)
    (regions : List FileRegion) (outcome : EfiStatus × File × Services) : Prop where
  midway : Midway v f info outcome.2.1 outcome.2.2.content
  onlyDescribed : OnlyDescribed outcome.2.1 g
  settles : outcome.1.isError = false → (outcome.2.1, outcome.2.2.content) =
    regions.foldl (settleRegion v f info) (g, content)

section Writes

variable {v : Volume} {f g : File} {info : FileInfo} {content : ByteStore} {a n x : ℕ}
  {bytes : List UInt8}

lemma write_take_off (h : ¬ Span.Has ⟨a, bytes.length⟩ x) :
    content.write a (bytes.take n) x = content x := by
  have hlen : (bytes.take n).length ≤ bytes.length := List.length_take_le' ..
  refine ByteStore.write_apply_off ?_
  rw [Span.Has] at h
  dsimp only at h
  omega

lemma Cleared.write (h : Cleared v f info content)
    (hspan : ∀ x, Span.Has ⟨a, bytes.length⟩ x →
      x < f.start v.media + f.dataSize ∨ (f.rewritten v info).descSpan.Has x) :
    Cleared v f info (content.write a (bytes.take n)) := by
  intro haddress x hx hbehind hnot
  rw [write_take_off, h haddress x hx hbehind hnot]
  intro hhas
  rcases hspan x hhas with hlt | hin
  · omega
  · exact hnot hin

lemma Midway.write (h : Midway v f info g content)
    (htouched : ∀ x, Span.Has ⟨a, bytes.length⟩ x →
      ∃ region ∈ f.regionToFlush, Touches v f info region x)
    (hspan : g.hwDescAddress ≠ f.hwDescAddress → ∀ x, Span.Has ⟨a, bytes.length⟩ x →
      x < f.start v.media + f.dataSize ∨ (f.rewritten v info).descSpan.Has x) :
    Midway v f info g (content.write a (bytes.take n)) where
  described := h.described
  kept x hx := by
    rw [write_take_off, h.kept x hx]
    intro hhas
    obtain ⟨region, hmem, htouches⟩ := htouched x hhas
    exact hx region hmem htouches
  cleared hne := (h.cleared hne).write (hspan hne)

/-- Clearing the description leaves nothing of the old one. -/
lemma Redescribed.blanked (hg : Redescribed v f info g)
    (hcleared : g.hwDescAddress ≠ f.hwDescAddress → Cleared v f info content) :
    Cleared v f info (blanked g content) := by
  have hlen : (List.replicate sizeofHwImageDescription (0 : UInt8)).length =
      sizeofHwImageDescription := List.length_replicate
  rw [BootMonFs.blanked]
  by_cases haddress : g.hwDescAddress = 0
  · rw [if_pos haddress]
    exact fun hne => hcleared (by rw [haddress]; exact hne.symm) hne
  rw [if_neg haddress]
  by_cases hat : g.hwDescAddress = f.hwDescAddress
  · intro _ x hx _ _
    obtain ⟨hlo, hhi⟩ := hx
    obtain ⟨k, rfl⟩ := Nat.exists_eq_add_of_le hlo
    have hk : k < sizeofHwImageDescription := Nat.lt_of_add_lt_add_left hhi
    rw [hat]
    exact (ByteStore.write_apply_on (by rwa [hlen])).trans (List.getElem_replicate _)
  · have hkept := @Cleared.write v f info content g.hwDescAddress sizeofHwImageDescription
      (List.replicate sizeofHwImageDescription 0) (hcleared hat) (fun x hx => .inr (by
        rw [hlen] at hx
        rw [File.descSpan, ← hg.address_of_ne hat]
        exact hx))
    rwa [List.take_of_length_le (by rw [hlen])] at hkept

/-- Without the old description and the new one, clearing changes nothing. -/
lemma Redescribed.blanked_off (hg : Redescribed v f info g)
    (hold : ¬ (f.hwDescAddress ≠ 0 ∧ f.descSpan.Has x))
    (hnew : ¬ (f.rewritten v info).descSpan.Has x) :
    BootMonFs.blanked g content x = content x := by
  rw [BootMonFs.blanked]
  by_cases haddress : g.hwDescAddress = 0
  · rw [if_pos haddress]
  rw [if_neg haddress]
  have hnot : ¬ g.descSpan.Has x := by
    by_cases hat : g.hwDescAddress = f.hwDescAddress
    · rw [File.descSpan, hat]
      exact fun hx => hold ⟨hat ▸ haddress, hx⟩
    · rw [File.descSpan, hg.address_of_ne hat]
      exact hnew
  refine ByteStore.write_apply_off ?_
  rw [File.descSpan, Span.Has] at hnot
  rw [List.length_replicate]
  dsimp only at hnot
  omega

/-- The same bytes written at the same place leave a difference where there was one. -/
lemma write_congr {content' : ByteStore}
    (h : ¬ Span.Has ⟨a, bytes.length⟩ x → content x = content' x) :
    content.write a bytes x = content'.write a bytes x := by
  by_cases hhas : Span.Has ⟨a, bytes.length⟩ x
  · obtain ⟨k, rfl⟩ := Nat.exists_eq_add_of_le hhas.1
    have hk : k < bytes.length := Nat.lt_of_add_lt_add_left hhas.2
    exact (ByteStore.write_apply_on hk).trans (ByteStore.write_apply_on hk).symm
  · have hoff : x < a ∨ a + bytes.length ≤ x := by
      rw [Span.Has] at hhas
      dsimp only at hhas
      omega
    rw [ByteStore.write_apply_off hoff, ByteStore.write_apply_off hoff]
    exact h hhas

/-- A write that is torn writes a first part of its bytes. -/
lemma writeDisk_torn (kind : WriteKind) (a : ℕ) (bytes : List UInt8) (s : Services) :
    ∃ n, (s.writeDisk kind a bytes).2.content = s.content.write a (bytes.take n) ∧
      ((s.writeDisk kind a bytes).1.isError = false → bytes.take n = bytes) := by
  by_cases hok : (s.env.writeDisk s.requests).isError = true
  · refine ⟨s.env.torn s.requests, ?_, ?_⟩
    · simp only [Services.writeDisk, hok, if_true]
    · intro h
      rw [Services.writeDisk] at h
      dsimp only at h
      rw [hok] at h
      cases h
  · refine ⟨bytes.length, ?_, fun _ => List.take_length⟩
    simp only [Services.writeDisk, hok, List.take_length]
    rfl

end Writes

/-! ## One region -/

/-- The context of a flush of a file that lies where `f` does. -/
structure FlushesAt (ctx : FlushContext) (v : Volume) (f : File) (info : FileInfo) : Prop where
  cfg : ctx.cfg = v.cfg
  media : ctx.media = v.media
  asciiFileName : ctx.asciiFileName = info.fileName
  fileStart : ctx.fileStart = f.start v.media
  fileEnd : ctx.fileEnd = f.start v.media + f.dataSize

section Region

variable {v : Volume} {f g : File} {info : FileInfo} {ctx : FlushContext} {region : FileRegion}
  {s : Services}

lemma StaysInside.wrap (h : StaysInside v f info) (hctx : FlushesAt ctx v f info)
    (hle : region.ending ≤ f.dataSize) :
    ctx.fileStart + region.ending + sizeofHwImageDescription < 2 ^ 64 := by
  have hlt := h.room_end_lt.2
  have hholds := h.holds
  rw [hctx.fileStart]
  omega

/-- The clearing of the description before it is written again. -/
lemma clear_midway (hmem : region ∈ f.regionToFlush) (hends : f.EndsWith region)
    (hmid : Midway v f info g s.content) {status : EfiStatus}
    {s' : Services}
    (hclear : (if g.hwDescAddress = 0 then (.success, s) else invalidateImageDescription g s) =
      (status, s')) :
    Midway v f info g s'.content ∧ (status.isError = false →
      s'.content = blanked g s.content ∧ Cleared v f info s'.content) := by
  by_cases haddress : g.hwDescAddress = 0
  case pos =>
    rw [if_pos haddress] at hclear
    obtain ⟨rfl, rfl⟩ := Prod.mk.inj hclear
    have hcleared := hmid.described.blanked hmid.cleared
    rw [blanked, if_pos haddress] at hcleared ⊢
    exact ⟨hmid, fun _ => ⟨rfl, hcleared⟩⟩
  case neg =>
    rw [if_neg haddress] at hclear
    have hlen : (List.replicate sizeofHwImageDescription (0 : UInt8)).length =
        sizeofHwImageDescription := List.length_replicate
    have hwrite : ∀ n, Midway v f info g
        (s.content.write g.hwDescAddress ((List.replicate sizeofHwImageDescription 0).take n)) := by
      intro n
      refine hmid.write ?_ ?_
      · intro x hx
        rw [hlen] at hx
        refine ⟨region, hmem, hends.1, .inr ⟨hends, ?_⟩⟩
        by_cases hsame : g.hwDescAddress = f.hwDescAddress
        · exact .inl ⟨hsame ▸ haddress, by rw [File.descSpan, ← hsame]; exact hx⟩
        · exact .inr (by
            rw [File.descSpan, ← hmid.described.address_of_ne hsame]
            exact hx)
      · intro hne x hx
        rw [hlen] at hx
        exact .inr (by
          rw [File.descSpan, ← hmid.described.address_of_ne hne]
          exact hx)
    rcases halloc : s.allocatePool with ⟨ok, s₁⟩
    have hsame : s₁.content = s.content := (congrArg (·.2.content) halloc).symm
    rw [invalidateImageDescription, halloc] at hclear
    cases ok with
    | false =>
        obtain ⟨rfl, rfl⟩ := Prod.mk.inj hclear
        exact ⟨hsame ▸ hmid, fun hok => by cases hok⟩
    | true =>
        obtain ⟨n, hcontent, hwhole⟩ := writeDisk_torn .description g.hwDescAddress
          (List.replicate sizeofHwImageDescription 0) s₁
        dsimp only at hclear
        rw [hclear, hsame] at hcontent
        rw [hclear] at hwhole
        dsimp only at hcontent hwhole
        rw [hcontent]
        refine ⟨hwrite n, fun hok => ?_⟩
        have hcleared := hmid.described.blanked hmid.cleared
        rw [blanked, if_neg haddress] at hcleared ⊢
        rw [hwhole hok]
        exact ⟨rfl, hcleared⟩

/-- The description that is written again. -/
lemma writeFileDescription_midway (hmem : region ∈ f.regionToFlush)
    (hends : f.EndsWith region) (hmid : Midway v f info g s.content)
    (hcleared : Cleared v f info s.content) {status : EfiStatus} {g' : File} {s' : Services}
    (hwrite : writeFileDescription v.cfg v.media g info.fileName (UInt32.ofNat f.dataSize)
      (f.start v.media) s = (status, g', s')) :
    Midway v f info g' s'.content ∧ OnlyDescribed g' g ∧ (status.isError = false →
      g' = { g with
        hwDescription := (f.rewritten v info).hwDescription
        hwDescAddress := (f.rewritten v info).hwDescAddress } ∧
      s'.content = s.content.write (f.rewritten v info).hwDescAddress
        (f.rewritten v info).hwDescription.bytes) := by
  rcases halloc : s.allocatePool with ⟨ok, s₁⟩
  have hsame : s₁.content = s.content := (congrArg (·.2.content) halloc).symm
  rw [writeFileDescription, halloc] at hwrite
  cases ok with
  | false =>
      simp only [Prod.mk.injEq] at hwrite
      obtain ⟨rfl, rfl, rfl⟩ := hwrite
      rw [hsame]
      exact ⟨⟨hmid.described.layout ⟨region, hmem, hends⟩, hmid.kept, fun _ => hcleared⟩,
        ⟨rfl, rfl, rfl, rfl, rfl⟩, fun hok => by cases hok⟩
  | true =>
      obtain ⟨hdescription, haddress⟩ := hmid.described.describe
      have hdescribed := describe_onlyDescribed v.cfg v.media g info.fileName
        (UInt32.ofNat f.dataSize) (f.start v.media)
      have hfile : describe v.cfg v.media g info.fileName (UInt32.ofNat f.dataSize)
          (f.start v.media) = { g with
            hwDescription := (f.rewritten v info).hwDescription
            hwDescAddress := (f.rewritten v info).hwDescAddress } := by
        rw [← hdescription, ← haddress]
        rfl
      obtain ⟨n, hcontent, hwhole⟩ := writeDisk_torn .description
        (f.rewritten v info).hwDescAddress (f.rewritten v info).hwDescription.bytes s₁
      dsimp only at hwrite
      rw [hdescription, haddress] at hwrite
      simp only [Prod.mk.injEq] at hwrite
      obtain ⟨hstatus, rfl, rfl⟩ := hwrite
      rw [hsame] at hcontent
      have hin : ∀ x, Span.Has ⟨(f.rewritten v info).hwDescAddress,
          (f.rewritten v info).hwDescription.bytes.length⟩ x →
          (f.rewritten v info).descSpan.Has x := by
        intro x hx
        rwa [HwImageDescription.length_bytes] at hx
      refine ⟨⟨.written ⟨region, hmem, hends⟩ hdescription haddress, ?_, ?_⟩, hdescribed, ?_⟩
      · rw [hcontent]
        exact (hmid.write (fun x hx => ⟨region, hmem, hends.1, .inr ⟨hends, .inr (hin x hx)⟩⟩)
          fun _ x hx => .inr (hin x hx)).kept
      · intro _
        rw [hcontent]
        exact hcleared.write fun x hx => .inr (hin x hx)
      · intro hok
        rw [hcontent, hwhole (by rw [hstatus]; exact hok)]
        exact ⟨hfile, rfl⟩

/-- A region that ends with the data: the description is cleared, the data written, and the
description written again. -/
lemma appendRegion_advances (h : StaysInside v f info) (hctx : FlushesAt ctx v f info)
    (hmem : region ∈ f.regionToFlush) (hends : f.EndsWith region)
    (hmid : Midway v f info g s.content) :
    Advances v f info g s.content [region] (appendRegion ctx region g s) := by
  have hwrap := h.wrap hctx (Nat.le_of_eq hends.2)
  have hrewritable := h.rewritable region hmem hends
  obtain ⟨hbehind, -⟩ := h.rewritten_descSpan hrewritable
  have hstart : ctx.regionStart region = f.start v.media + region.offset := by
    rw [FlushContext.regionStart_eq hwrap, hctx.fileStart]
  have hsize : ctx.newDataSize region = f.dataSize := by
    rw [FlushContext.newDataSize_eq hwrap, hends.2]
  have hinPlace : ¬ region.ending < f.dataSize := by
    rw [hends.2]
    exact Nat.lt_irrefl _
  unfold appendRegion
  rw [hctx.cfg, hctx.media, hctx.asciiFileName, hctx.fileStart, hstart, hsize]
  rcases hclear : (if g.hwDescAddress = 0 then (EfiStatus.success, s)
    else invalidateImageDescription g s) with ⟨status₁, s₁⟩
  obtain ⟨hmid₁, hok₁⟩ := clear_midway hmem hends hmid hclear
  dsimp only
  by_cases herror₁ : status₁.isError = true
  · rw [if_pos herror₁]
    exact ⟨hmid₁, .refl g, fun hok => by rw [herror₁] at hok; cases hok⟩
  rw [if_neg herror₁]
  obtain ⟨hcontent₁, hcleared₁⟩ := hok₁ (by simpa using herror₁)
  -- the data of the region
  obtain ⟨n, hcontent₂, hwhole₂⟩ := writeDisk_torn .data (f.start v.media + region.offset)
    region.buffer s₁
  have hdata : ∀ x, Span.Has ⟨f.start v.media + region.offset, region.buffer.length⟩ x →
      x < f.start v.media + f.dataSize := by
    intro x hx
    have hlt := hx.2
    have hending := hends.2
    unfold FileRegion.ending FileRegion.size at hending
    dsimp only at hlt
    omega
  rcases hwrite : s₁.writeDisk .data (f.start v.media + region.offset) region.buffer with
    ⟨status₂, s₂⟩
  rw [hwrite] at hcontent₂ hwhole₂
  dsimp only at hcontent₂ hwhole₂ ⊢
  have hmid₂ : Midway v f info g s₂.content := by
    rw [hcontent₂]
    exact hmid₁.write (fun x hx => ⟨region, hmem, hends.1, .inl hx⟩)
      fun _ x hx => .inl (hdata x hx)
  have hcleared₂ : Cleared v f info s₂.content := by
    rw [hcontent₂]
    exact hcleared₁.write fun x hx => .inl (hdata x hx)
  by_cases herror₂ : status₂.isError = true
  · rw [if_pos herror₂]
    exact ⟨hmid₂, .refl g, fun hok => by rw [herror₂] at hok; cases hok⟩
  rw [if_neg herror₂]
  rcases hdescribe : writeFileDescription v.cfg v.media g info.fileName (UInt32.ofNat f.dataSize)
    (f.start v.media) s₂ with ⟨status₃, g', s₃⟩
  obtain ⟨hmid₃, hdescribed, hok₃⟩ :=
    writeFileDescription_midway hmem hends hmid₂ hcleared₂ hdescribe
  refine ⟨hmid₃, hdescribed, fun hok => ?_⟩
  obtain ⟨rfl, hcontent₃⟩ := hok₃ hok
  rw [List.foldl_cons, List.foldl_nil, settleRegion, if_neg hends.1, if_neg hinPlace]
  dsimp only
  rw [hcontent₃, hcontent₂, hwhole₂ (by simpa using herror₂), hcontent₁]

/-- One region of the loop. -/
lemma flushRegion_advances (h : StaysInside v f info) (hctx : FlushesAt ctx v f info)
    (hmem : region ∈ f.regionToFlush) (hmid : Midway v f info g s.content) :
    Advances v f info g s.content [region] (flushRegion ctx region g s) := by
  rw [flushRegion]
  by_cases hsize : region.size = 0
  · rw [if_pos hsize]
    refine ⟨hmid, .refl g, fun _ => ?_⟩
    rw [List.foldl_cons, List.foldl_nil, settleRegion, if_pos hsize]
  rw [if_neg hsize]
  have hle := h.inside region hmem hsize
  have hwrap := h.wrap hctx hle
  rw [FlushContext.regionEnd_eq hwrap, hctx.fileStart, hctx.fileEnd]
  by_cases hlt : region.ending < f.dataSize
  case pos =>
    rw [if_pos (by omega), FlushContext.regionStart_eq hwrap, hctx.fileStart]
    obtain ⟨n, hcontent, hwhole⟩ := writeDisk_torn .data (f.start v.media + region.offset)
      region.buffer s
    refine ⟨?_, .refl g, fun hok => ?_⟩
    · rw [hcontent]
      refine hmid.write (fun x hx => ⟨region, hmem, hsize, .inl hx⟩) fun _ x hx => .inl ?_
      have hxlt := hx.2
      unfold FileRegion.ending FileRegion.size at hle
      dsimp only at hxlt
      omega
    · rw [List.foldl_cons, List.foldl_nil, settleRegion, if_neg hsize, if_pos hlt, hcontent,
        hwhole hok]
  case neg =>
    have hends : f.EndsWith region := ⟨hsize, by omega⟩
    have hspace : ctx.hasSpace g region = true := by
      refine (FlushContext.hasSpace_iff hwrap).mpr (.inl ?_)
      rw [hends.2, hctx.media]
      exact hmid.described.physicalSize h (h.rewritable region hmem hends)
    rw [if_neg (by omega), if_pos hspace]
    exact appendRegion_advances h hctx hmem hends hmid

/-- The loop over the regions. -/
lemma flushRegions_advances (h : StaysInside v f info) (hctx : FlushesAt ctx v f info)
    (regions : List FileRegion) (hsub : ∀ region ∈ regions, region ∈ f.regionToFlush)
    (hmid : Midway v f info g s.content) :
    Advances v f info g s.content regions (flushRegions ctx regions g s) := by
  induction regions generalizing g s with
  | nil => exact ⟨hmid, .refl g, fun _ => rfl⟩
  | cons region regions ih =>
      have hfirst := flushRegion_advances h hctx (hsub region List.mem_cons_self) hmid
      rw [flushRegions]
      rcases hregion : flushRegion ctx region g s with ⟨status, g', s'⟩
      rw [hregion] at hfirst
      dsimp only
      by_cases herror : status.isError = true
      · rw [if_pos herror]
        exact ⟨hfirst.midway, hfirst.onlyDescribed, fun hok => by rw [herror] at hok; cases hok⟩
      · rw [if_neg herror]
        have hrest := ih (fun region hmem => hsub region (List.mem_cons_of_mem _ hmem))
          hfirst.midway
        refine ⟨hrest.midway, hrest.onlyDescribed.trans hfirst.onlyDescribed, fun hok => ?_⟩
        have hstep : (g', s'.content) = settleRegion v f info (g, s.content) region :=
          hfirst.settles (by simpa using herror)
        rw [hrest.settles hok, List.foldl_cons, ← hstep]

end Region

/-! ## The bytes that are left -/

/-- Two files and the bytes of the media, on the way to the same end: they differ only where the
regions still to be flushed write. -/
structure Converges (v : Volume) (f : File) (info : FileInfo) (regions : List FileRegion)
    (p q : File × ByteStore) : Prop where
  onlyDescribed : OnlyDescribed q.1 p.1
  described : Redescribed v f info p.1 ∧ Redescribed v f info q.1
  cleared : (p.1.hwDescAddress ≠ f.hwDescAddress → Cleared v f info p.2) ∧
    (q.1.hwDescAddress ≠ f.hwDescAddress → Cleared v f info q.2)
  kept : ∀ x, (∀ region ∈ regions, ¬ Touches v f info region x) → p.2 x = q.2 x
  /-- Without a region that ends with the data the description is not written again. -/
  same : (∀ region ∈ regions, ¬ f.EndsWith region) →
    q.1.hwDescription = p.1.hwDescription ∧ q.1.hwDescAddress = p.1.hwDescAddress

section Settle

variable {v : Volume} {f g : File} {info : FileInfo} {region : FileRegion}
  {regions : List FileRegion} {p q : File × ByteStore} {content : ByteStore}

/-- A file whose description is that of another, too, is that file. -/
lemma OnlyDescribed.eq (h : OnlyDescribed g f) (hdescription : g.hwDescription = f.hwDescription)
    (haddress : g.hwDescAddress = f.hwDescAddress) : g = f := by
  obtain ⟨hhandle, hinfo, hposition, hregions, hmode⟩ := h
  cases f
  cases g
  simp only at *
  subst_vars
  rfl

lemma StaysInside.data_lt (h : StaysInside v f info) (hmem : region ∈ f.regionToFlush) {x : ℕ}
    (hx : Span.Has ⟨f.start v.media + region.offset, region.buffer.length⟩ x) :
    x < f.start v.media + f.dataSize := by
  obtain ⟨hlo, hhi⟩ := hx
  dsimp only at hlo hhi
  have hle := h.inside region hmem (by unfold FileRegion.size; omega)
  unfold FileRegion.ending FileRegion.size at hle
  omega

/-- A flush writes in the blocks of the file. -/
lemma StaysInside.touches_extent (h : StaysInside v f info) (hmem : region ∈ f.regionToFlush)
    {x : ℕ} (htouches : Touches v f info region x) : (f.extent v.media).Has x := by
  rcases htouches.2 with hin | ⟨hends, ⟨hne, hin⟩ | hin⟩
  · have hlt := h.data_lt hmem hin
    have hlo := hin.1
    have hholds := h.holds
    rw [h.extent_eq, Span.Has]
    dsimp only at hlo ⊢
    omega
  · exact ((h.rewritable region hmem hends).within hne).has hin
  · exact (h.rewritten_descSpan (h.rewritable region hmem hends)).2.has hin

/-- One region brings the two closer. -/
lemma Converges.step (h : StaysInside v f info) (hmem : region ∈ f.regionToFlush)
    (hpq : Converges v f info (region :: regions) p q) :
    Converges v f info regions (settleRegion v f info p region)
      (settleRegion v f info q region) := by
  have hdata : ∀ {content}, Cleared v f info content →
      Cleared v f info (content.write (f.start v.media + region.offset) region.buffer) := by
    intro content hcleared
    have hkept := @Cleared.write v f info content (f.start v.media + region.offset)
      region.buffer.length region.buffer hcleared (fun x hx => .inl (h.data_lt hmem hx))
    rwa [List.take_length] at hkept
  rw [BootMonFs.settleRegion, BootMonFs.settleRegion]
  by_cases hsize : region.size = 0
  case pos =>
    rw [if_pos hsize, if_pos hsize]
    exact ⟨hpq.onlyDescribed, hpq.described, hpq.cleared,
      fun x hx => hpq.kept x (List.forall_mem_cons.mpr ⟨fun ht => ht.1 hsize, hx⟩),
      fun hnone => hpq.same (List.forall_mem_cons.mpr ⟨fun he => he.1 hsize, hnone⟩)⟩
  rw [if_neg hsize, if_neg hsize]
  by_cases hlt : region.ending < f.dataSize
  case pos =>
    have hnot : ¬ f.EndsWith region := fun hends => Nat.ne_of_lt hlt hends.2
    rw [if_pos hlt, if_pos hlt]
    refine ⟨hpq.onlyDescribed, hpq.described, ⟨fun hne => hdata (hpq.cleared.1 hne),
      fun hne => hdata (hpq.cleared.2 hne)⟩, fun x hx => write_congr fun hoff => ?_,
      fun hnone => hpq.same (List.forall_mem_cons.mpr ⟨hnot, hnone⟩)⟩
    refine hpq.kept x (List.forall_mem_cons.mpr ⟨fun htouches => ?_, hx⟩)
    rcases htouches.2 with hin | ⟨hends, -⟩
    · exact hoff hin
    · exact hnot hends
  case neg =>
    have hends : f.EndsWith region :=
      ⟨hsize, Nat.le_antisymm (h.inside region hmem hsize) (Nat.le_of_not_lt hlt)⟩
    have hexists : ∃ region ∈ f.regionToFlush, f.EndsWith region := ⟨region, hmem, hends⟩
    have hrewritable := h.rewritable region hmem hends
    have hclearedP := hpq.described.1.blanked hpq.cleared.1
    have hclearedQ := hpq.described.2.blanked hpq.cleared.2
    have hnew : ∀ {content}, Cleared v f info content → Cleared v f info (content.write
        (f.rewritten v info).hwDescAddress (f.rewritten v info).hwDescription.bytes) := by
      intro content hcleared
      have hkept := @Cleared.write v f info content (f.rewritten v info).hwDescAddress
        sizeofHwImageDescription (f.rewritten v info).hwDescription.bytes hcleared
        (fun x hx => .inr (by rwa [HwImageDescription.length_bytes] at hx))
      rwa [List.take_of_length_le (by rw [HwImageDescription.length_bytes])] at hkept
    have hwritten : ∀ k : File, Redescribed v f info { k with
        hwDescription := (f.rewritten v info).hwDescription
        hwDescAddress := (f.rewritten v info).hwDescAddress } :=
      fun k => .written hexists (by dsimp only) (by dsimp only)
    rw [if_neg hlt, if_neg hlt]
    refine ⟨⟨hpq.onlyDescribed.handle, hpq.onlyDescribed.info, hpq.onlyDescribed.position,
      hpq.onlyDescribed.regionToFlush, hpq.onlyDescribed.openMode⟩,
      ⟨hwritten p.1, hwritten q.1⟩, ⟨fun _ => ?_, fun _ => ?_⟩, fun x hx => ?_,
      fun _ => ⟨by dsimp only, by dsimp only⟩⟩
    · dsimp only
      exact hnew (hdata hclearedP)
    · dsimp only
      exact hnew (hdata hclearedQ)
    dsimp only
    refine write_congr fun hoffNew => write_congr fun hoff => ?_
    rw [HwImageDescription.length_bytes] at hoffNew
    by_cases hold : f.hwDescAddress ≠ 0 ∧ f.descSpan.Has x
    · -- what is cleared lies behind the data, or is written with the region
      have hbehind : f.start v.media + f.dataSize ≤ x := by
        rcases hrewritable.covered hold.1 x hold.2 with hbehind | hcovered
        · exact hbehind
        · have hending := hends.2
          rw [Span.Has] at hoff
          unfold FileRegion.ending FileRegion.size at hending
          dsimp only at hoff
          omega
      rw [hclearedP hold.1 x hold.2 hbehind hoffNew, hclearedQ hold.1 x hold.2 hbehind hoffNew]
    · rw [hpq.described.1.blanked_off hold hoffNew,
        hpq.described.2.blanked_off hold hoffNew]
      refine hpq.kept x (List.forall_mem_cons.mpr ⟨fun htouches => ?_, hx⟩)
      rcases htouches.2 with hin | ⟨-, hin | hin⟩
      · exact hoff hin
      · exact hold hin
      · exact hoffNew hin

/-- All regions bring the two together. -/
lemma Converges.settle (h : StaysInside v f info) (regions : List FileRegion)
    (hsub : ∀ region ∈ regions, region ∈ f.regionToFlush)
    (hpq : Converges v f info regions p q) :
    regions.foldl (settleRegion v f info) q = regions.foldl (settleRegion v f info) p := by
  induction regions generalizing p q with
  | nil =>
      obtain ⟨hdescription, haddress⟩ := hpq.same (by simp)
      have hcontent : q.2 = p.2 := by
        funext x
        exact (hpq.kept x (by simp)).symm
      exact Prod.ext (hpq.onlyDescribed.eq hdescription haddress) hcontent
  | cons region regions ih =>
      rw [List.foldl_cons, List.foldl_cons]
      exact ih (fun region hmem => hsub region (List.mem_cons_of_mem _ hmem))
        (hpq.step h (hsub region List.mem_cons_self))

/-- A region that ends with the data leaves the description that is written again. -/
lemma settle_described (h : p.1.hwDescription = (f.rewritten v info).hwDescription ∨
    ∃ region ∈ regions, f.EndsWith region) :
    (regions.foldl (settleRegion v f info) p).1.hwDescription =
      (f.rewritten v info).hwDescription := by
  induction regions generalizing p with
  | nil =>
      rcases h with hdone | ⟨_, hmem, _⟩
      · exact hdone
      · cases hmem
  | cons region regions ih =>
      rw [List.foldl_cons]
      refine ih ?_
      rw [settleRegion]
      rcases h with hdone | ⟨k, hmem, hends⟩
      · refine .inl ?_
        split
        · exact hdone
        split
        · exact hdone
        · dsimp only
      · rcases List.mem_cons.mp hmem with rfl | hmem
        · rw [if_neg hends.1, if_neg (by rw [hends.2]; exact Nat.lt_irrefl _)]
          exact .inl (by dsimp only)
        · exact .inr ⟨k, hmem, hends⟩

/-- A flush that goes through after others that have stopped leaves what the first one would have
left. -/
theorem Midway.settle (h : StaysInside v f info) (hmid : Midway v f info g content)
    (honly : OnlyDescribed g f) :
    f.regionToFlush.foldl (settleRegion v f info) (g, content) =
      f.regionToFlush.foldl (settleRegion v f info) (f, v.services.content) := by
  refine Converges.settle h f.regionToFlush (fun _ hmem => hmem) ⟨honly, ⟨.same rfl rfl,
    hmid.described⟩, ⟨fun hne => absurd rfl hne, hmid.cleared⟩,
    fun x hx => (hmid.kept x hx).symm, fun hnone => ?_⟩
  cases hmid.described with
  | same hdescription haddress => exact ⟨hdescription, haddress⟩
  | laidOut hends _ _ =>
      obtain ⟨region, hmem, hends⟩ := hends
      exact absurd hends (hnone region hmem)
  | written hends _ _ =>
      obtain ⟨region, hmem, hends⟩ := hends
      exact absurd hends (hnone region hmem)

end Settle

/-! ## A flush after flushes that have stopped -/

section Flush

variable {v v₁ : Volume} {f g : File} {info : FileInfo} {handle : ℕ}

lemma Redescribed.congr {g' : File} (hg : Redescribed v f info g)
    (hdescription : g'.hwDescription = g.hwDescription)
    (haddress : g'.hwDescAddress = g.hwDescAddress) : Redescribed v f info g' := by
  cases hg with
  | same h h' => exact .same (hdescription.trans h) (haddress.trans h')
  | laidOut hends h h' => exact .laidOut hends (hdescription.trans h) (haddress.trans h')
  | written hends h h' => exact .written hends (hdescription.trans h) (haddress.trans h')

lemma Midway.congr {g' : File} {content : ByteStore} (hmid : Midway v f info g content)
    (hdescription : g'.hwDescription = g.hwDescription)
    (haddress : g'.hwDescAddress = g.hwDescAddress) : Midway v f info g' content :=
  ⟨hmid.described.congr hdescription haddress, hmid.kept,
    fun hne => hmid.cleared (haddress ▸ hne)⟩

/-- Nothing has been flushed yet. -/
lemma Midway.start : Midway v f info f v.services.content :=
  ⟨.same rfl rfl, fun _ _ => rfl, fun hne => absurd rfl hne⟩

/-- What a flush of a file comes to that earlier ones have left half way. -/
inductive Resumes (v : Volume) (f : File) (info : FileInfo) (g : File) (content : ByteStore) :
    EfiStatus → File → ByteStore → Prop
  | stopped {status g' content'} (herror : status.isError = true)
      (hmid : Midway v f info g' content') (honly : OnlyDescribed g' g) :
      Resumes v f info g content status g' content'
  | settled {g' content'} (hmid : Midway v f info g' content') (honly : OnlyDescribed g' g)
      (hsettled : (g', content') =
        f.regionToFlush.foldl (settleRegion v f info) (g, content)) :
      Resumes v f info g content .success (freeFileRegions v.media g' info) content'

/-- A volume on which flushes of `f` have stopped half way and left `g` of it. -/
structure Stopped (handle : ℕ) (v : Volume) (f : File) (info : FileInfo) (v₁ : Volume)
    (g : File) : Prop where
  cfg : v₁.cfg = v.cfg
  media : v₁.media = v.media
  found : lookup handle v₁.files = some g
  opened : g.info = some info
  regionToFlush : g.regionToFlush = f.regionToFlush
  openMode : g.openMode ≠ .read
  midway : Midway v f info g v₁.services.content
  others : ∀ k, k.handle ≠ handle → (k ∈ v₁.files ↔ k ∈ v.files)

namespace Stopped

lemma start (hlookup : lookup handle v.files = some f) (hinfo : f.info = some info)
    (hmode : f.openMode ≠ .read) (env : Environment) :
    Stopped handle v f info (v.enter env) f :=
  ⟨rfl, rfl, hlookup, hinfo, rfl, hmode, .start, fun _ _ => Iff.rfl⟩

lemma enter (h : Stopped handle v f info v₁ g) (env : Environment) :
    Stopped handle v f info (v₁.enter env) g :=
  ⟨h.cfg, h.media, h.found, h.opened, h.regionToFlush, h.openMode, h.midway, h.others⟩

/-- The file has changed, but for its description and what waits in it. -/
lemma put (h : Stopped handle v f info v₁ g) {g' : File} {s : Services}
    (hhandle : g'.handle = g.handle) (hinfo : g'.info = g.info)
    (hregions : g'.regionToFlush = g.regionToFlush) (hmode : g'.openMode = g.openMode)
    (hmid : Midway v f info g' s.content) :
    Stopped handle v f info { v₁ with files := update g' v₁.files, services := s } g' := by
  have hg : g'.handle = handle := hhandle.trans (lookup_some h.found).2
  refine ⟨h.cfg, h.media, lookup_update h.found hg, hinfo.trans h.opened,
    hregions.trans h.regionToFlush, by rw [hmode]; exact h.openMode, hmid, fun k hne => ?_⟩
  refine Iff.trans ⟨fun hk => ?_, fun hk => ?_⟩ (h.others k hne)
  · exact (mem_update hk).resolve_left fun heq => hne (heq ▸ hg)
  · exact mem_update_of_mem hk (hg ▸ hne)

lemma setPosition (h : Stopped handle v f info v₁ g) (position : ℕ) :
    Stopped handle v f info (bootMonFsSetPosition handle position v₁).2
      (g.setPosition position info) := by
  have hseek : bootMonFsSetPosition handle position v₁ =
      (.success, v₁.put (g.setPosition position info) v₁.services) := by
    simp only [bootMonFsSetPosition, h.found, h.opened]
  rw [hseek]
  exact h.put rfl rfl rfl rfl (h.midway.congr rfl rfl)

end Stopped

lemma flush_resumes (h : StaysInside v f info) (hstopped : Stopped handle v f info v₁ g) :
    ∃ status g' s, bootMonFsFlushFile handle v₁ =
        (status, { v₁ with files := update g' v₁.files, services := s }) ∧
      Resumes v f info g v₁.services.content status g' s.content := by
  obtain ⟨hcfg, hmedia, hlookup, hinfo, hregions, hmode, hmid, -⟩ := hstopped
  have hlt : f.start v.media < 2 ^ v.cfg.arch.uintnBits := by
    have := h.room_end_lt.1
    omega
  have hplace : placeFile v₁.cfg v₁.media g info.fileSize v₁.files =
      some (f.start v.media, v₁.files) := by
    rw [placeFile, if_pos (hmid.described.onDisk h), hcfg, hmedia, hmid.described.blockStart h]
    exact congrArg some (Prod.ext (Arch.uintn_of_lt hlt) rfl)
  have hctx : FlushesAt (flushContext v₁ g info (f.start v.media) v₁.files) v f info := by
    refine ⟨hcfg, hmedia, rfl, rfl, ?_⟩
    have hend := h.room_end_lt.2
    have hholds := h.holds
    show uint64 (f.start v.media + g.dataSize) = _
    rw [hmid.described.dataSize h, uint64_of_lt (by omega)]
  have hloop := flushRegions_advances h hctx f.regionToFlush (fun _ hmem => hmem) hmid
  unfold bootMonFsFlushFile
  simp only [hlookup, hinfo, if_neg hmode, hplace, flushPlaced, hregions]
  rcases hflushed : flushRegions (flushContext v₁ g info (f.start v.media) v₁.files)
    f.regionToFlush g v₁.services with ⟨status, g', s⟩
  rw [hflushed] at hloop
  dsimp only
  by_cases herror : status.isError = true
  · rw [if_pos herror]
    exact ⟨status, g', s, rfl, .stopped herror hloop.midway hloop.onlyDescribed⟩
  · have hsettled : needsDescription (freeFileRegions v.media g' info) info = false := by
      have hfreed : Redescribed v f info (freeFileRegions v.media g' info) :=
        hloop.midway.described.congr rfl rfl
      have hname : (freeFileRegions v.media g' info).hwDescription.footer.name =
          info.fileName.chars := by
        rcases h.name with hname | hends
        · rcases hfreed.name h with hold | hnew
          · exact hold.trans hname
          · exact hnew
        · have hdescribed := @settle_described v f info f.regionToFlush
            (g, v₁.services.content) (.inr hends)
          rw [← hloop.settles (by simpa using herror)] at hdescribed
          show g'.hwDescription.footer.name = _
          rw [show g'.hwDescription = _ from hdescribed]
          exact describe_name
      rw [needsDescription, hname, hfreed.dataSize h, h.size_eq]
      simp
    rw [if_neg herror, hctx.media, if_neg (by rw [hsettled]; exact Bool.false_ne_true)]
    exact ⟨.success, _, s, rfl, .settled hloop.midway hloop.onlyDescribed
      (hloop.settles (by simpa using herror))⟩

/-- A flush that stops leaves the volume as one on which flushes have stopped. -/
lemma Stopped.flush (hstopped : Stopped handle v f info v₁ g) (h : StaysInside v f info)
    (herror : (bootMonFsFlushFile handle v₁).1.isError = true) :
    ∃ g', Stopped handle v f info (bootMonFsFlushFile handle v₁).2 g' ∧ OnlyDescribed g' g := by
  obtain ⟨status, g', s, hflush, hresumes⟩ := flush_resumes h hstopped
  rw [hflush] at herror ⊢
  cases hresumes with
  | stopped _ hmid honly =>
      exact ⟨g', hstopped.put honly.handle honly.info honly.regionToFlush honly.openMode hmid,
        honly⟩
  | settled => cases herror

/-- A flush that goes through leaves what the first one would have left. -/
lemma Stopped.settle (hstopped : Stopped handle v f info v₁ g) (h : StaysInside v f info)
    (honly : OnlyDescribed g f) (hok : (bootMonFsFlushFile handle v₁).1.isError = false) :
    lookup handle (bootMonFsFlushFile handle v₁).2.files =
        some (freeFileRegions v.media (f.regionToFlush.foldl (settleRegion v f info)
          (f, v.services.content)).1 info) ∧
      (bootMonFsFlushFile handle v₁).2.services.content =
        (f.regionToFlush.foldl (settleRegion v f info) (f, v.services.content)).2 := by
  obtain ⟨status, g', s, hflush, hresumes⟩ := flush_resumes h hstopped
  rw [hflush] at hok ⊢
  cases hresumes with
  | stopped herror => rw [herror] at hok; cases hok
  | @settled g' _ _ honly' hsettled =>
      rw [hstopped.midway.settle h honly] at hsettled
      rw [← hsettled]
      refine ⟨lookup_update hstopped.found ?_, rfl⟩
      exact honly'.handle.trans (lookup_some hstopped.found).2

end Flush

end BootMonFs

end MuPlatform
