import MuPlatform.Base.Access
import MuPlatform.BootMonFs.Description
import MuPlatform.BootMonFs.Directory
import MuPlatform.BootMonFs.Loader

/-!
# What GetInfo and a listing touch

`RegionCount` and the name of a description come from the media as they are, and the driver
indexes arrays of four regions and of thirty-two characters with them.  `infoAccesses` and
`directoryAccesses` are what `GetBootMonFsFileInfo` and `BootMonFsReadDirectory` read of the
description and write of the caller's buffer, both counted from offset 0.

`infoSafe_iff` says for which descriptions and buffers they stay inside.
-/

namespace MuPlatform
namespace BootMonFs

/-! ## Offsets -/

/-- The offset of a region in `HW_IMAGE_DESCRIPTION`. -/
def regionOffset (i : ℕ) : ℕ := 12 + 16 * i

/-- The offset of a region in `BOOTMON_FS_FILE_INFO`. -/
def infoRegionOffset (i : ℕ) : ℕ := 16 + 16 * i

/-- The offset of `Footer.Filename` in `HW_IMAGE_DESCRIPTION`. -/
def filenameOffset : ℕ := 88

/-! ## GetBootMonFsFileInfo -/

/-- The assignments of the four fields of a region. -/
def regionAccesses (i : ℕ) : List Access :=
  (List.range 4).flatMap fun k =>
    [.read ⟨regionOffset i + 4 * k, 4⟩, .write ⟨infoRegionOffset i + 4 * k, 4⟩]

/-- The accesses of `GetBootMonFsFileInfo`. -/
def infoAccesses (d : HwImageDescription) (bufferSize : ℕ) : List Access :=
  if bufferSize < sizeOfBootMonFsFileInfo then []
  else
    -- `ZeroMem`, `Size`, `EntryPoint`, `RegionCount`
    [.write ⟨0, sizeOfBootMonFsFileInfo⟩, .write ⟨0, 8⟩, .read ⟨0, 4⟩, .write ⟨8, 4⟩,
      .read ⟨8, 4⟩, .write ⟨12, 4⟩] ++
    (List.range d.regionCount.toNat).flatMap fun i => .read ⟨8, 4⟩ :: regionAccesses i

/-! ## BootMonFsReadDirectory -/

/-- The accesses of `BootMonFsReadDirectory` to the file at the position. -/
def directoryAccesses (d : HwImageDescription) (bufferSize : ℕ) : List Access :=
  let nameSize := d.footer.name.length + 1
  -- `AsciiStrLen`
  .read ⟨filenameOffset, nameSize⟩ ::
    if bufferSize < fileInfoSize d.footer.name then []
    else
      -- `ZeroMem`, `Size`, `FileSize` and `PhysicalSize`
      [.write ⟨0, fileInfoSize d.footer.name⟩, .write ⟨0, 8⟩] ++
      ((List.range hwImageDescriptionRegionMax).map fun i => .read ⟨regionOffset i + 4, 4⟩) ++
      [.write ⟨8, 8⟩, .read ⟨8, 4⟩, .read ⟨80, 4⟩, .read ⟨76, 4⟩, .write ⟨16, 8⟩] ++
      (List.range nameSize).flatMap fun i =>
        [.read ⟨filenameOffset + i, 1⟩, .write ⟨sizeOfEfiFileInfo + 2 * i, 2⟩]

/-! ## Safety -/

/-- The calls read only the description of the file and write only the caller's buffer, and the
bytes `GetInfo` returns hold every region it reports. -/
structure InfoSafe (f : File) (bufferSize : ℕ) : Prop where
  info : ∀ a ∈ infoAccesses f.hwDescription bufferSize,
    a.Inside ⟨0, sizeofHwImageDescription⟩ ⟨0, bufferSize⟩
  complete : ∀ info, (getBootMonFsFileInfo f bufferSize).info = some info →
    ∀ i < info.regionCount.toNat,
      infoRegionOffset (i + 1) ≤ (getBootMonFsFileInfo f bufferSize).bufferSize
  directory : ∀ a ∈ directoryAccesses f.hwDescription bufferSize,
    a.Inside ⟨0, sizeofHwImageDescription⟩ ⟨0, bufferSize⟩

section Name

/-- A zero byte ends a C string. -/
lemma length_cString_le {bytes : List UInt8} {n : ℕ} (h : bytes[n]? = some 0) :
    (cString bytes).length ≤ n := by
  by_contra hlong
  have hlt : n < (cString bytes).length := Nat.lt_of_not_le hlong
  obtain ⟨hn, hzero⟩ := List.getElem?_eq_some_iff.mp h
  have hsame : (cString bytes)[n] = bytes[n] := (List.takeWhile_prefix _).getElem hlt
  have hne := List.mem_takeWhile_imp (List.getElem_mem hlt)
  rw [hsame, hzero] at hne
  simp at hne

/-- The name of a description with the footer of an image ends in the offset behind it at the
latest. -/
lemma length_name_le {d : HwImageDescription} (h : d.hasFooter = true) :
    d.footer.name.length ≤ 33 := by
  have hoffset : d.footer.offset = hwImageFooterOffset ∨
      d.footer.offset = hwImageFooterOffset2 := by
    rw [HwImageDescription.hasFooter, Bool.and_eq_true] at h
    obtain ⟨-, h⟩ := h
    split at h
    · exact .inl (of_decide_eq_true h)
    · rw [Bool.and_eq_true] at h
      exact .inr (of_decide_eq_true h.2)
  have hlength : (List.ofFn d.footer.filename).length = 32 := List.length_ofFn
  rw [HwImageFooter.name]
  refine length_cString_le ?_
  rw [List.getElem?_append_right (by omega), hlength, wordBytes_cons]
  rcases hoffset with heq | heq
  · rw [heq]
    rfl
  · rw [heq]
    rfl

end Name

section Safety

variable {d : HwImageDescription} {f : File} {bufferSize : ℕ}

lemma inside_read_description {lo len : ℕ} (h : lo + len ≤ sizeofHwImageDescription) :
    (Access.read ⟨lo, len⟩).Inside ⟨0, sizeofHwImageDescription⟩ ⟨0, bufferSize⟩ :=
  Access.inside_read ⟨Nat.zero_le _, by simpa using h⟩

lemma inside_write_buffer {lo len : ℕ} (h : lo + len ≤ bufferSize) :
    (Access.write ⟨lo, len⟩).Inside ⟨0, sizeofHwImageDescription⟩ ⟨0, bufferSize⟩ :=
  Access.inside_write ⟨Nat.zero_le _, by simpa using h⟩

/-- A listing stays inside for every image. -/
lemma directoryAccesses_inside (hfooter : d.hasFooter = true) :
    ∀ a ∈ directoryAccesses d bufferSize,
      a.Inside ⟨0, sizeofHwImageDescription⟩ ⟨0, bufferSize⟩ := by
  have hname := length_name_le hfooter
  have hread : ∀ lo len, lo + len ≤ 136 → (Access.read ⟨lo, len⟩).Inside
      ⟨0, sizeofHwImageDescription⟩ ⟨0, bufferSize⟩ := fun lo len h => inside_read_description h
  intro a ha
  rcases List.mem_cons.mp ha with rfl | ha
  · exact hread _ _ (by unfold filenameOffset; omega)
  split at ha
  · cases ha
  · next hfits =>
    have hfits' : 80 + 2 * (d.footer.name.length + 1) ≤ bufferSize := Nat.le_of_not_lt hfits
    have hwrite : ∀ lo len, lo + len ≤ 80 + 2 * (d.footer.name.length + 1) →
        (Access.write ⟨lo, len⟩).Inside ⟨0, sizeofHwImageDescription⟩ ⟨0, bufferSize⟩ :=
      fun lo len h => inside_write_buffer (h.trans hfits')
    rcases List.mem_append.mp ha with ha | hcopied
    · rcases List.mem_append.mp ha with ha | hsizes
      · rcases List.mem_append.mp ha with hstart | hlength
        · rcases List.mem_cons.mp hstart with rfl | hstart
          · exact hwrite _ _ (Nat.le_of_eq (Nat.zero_add _))
          · rw [List.mem_singleton.mp hstart]
            exact hwrite _ _ (by omega)
        · obtain ⟨i, hi, rfl⟩ := List.mem_map.mp hlength
          have hlt : i < 4 := List.mem_range.mp hi
          exact hread _ _ (by unfold regionOffset; omega)
      · simp only [List.mem_cons, List.not_mem_nil, or_false] at hsizes
        rcases hsizes with rfl | rfl | rfl | rfl | rfl
        · exact hwrite _ _ (by omega)
        · exact hread _ _ (by omega)
        · exact hread _ _ (by omega)
        · exact hread _ _ (by omega)
        · exact hwrite _ _ (by omega)
    · obtain ⟨i, hi, ha⟩ := List.mem_flatMap.mp hcopied
      have hlt : i < d.footer.name.length + 1 := List.mem_range.mp hi
      simp only [List.mem_cons, List.not_mem_nil, or_false] at ha
      rcases ha with rfl | rfl
      · exact hread _ _ (by unfold filenameOffset; omega)
      · exact hwrite _ _ (by unfold sizeOfEfiFileInfo; omega)

/-- With three regions `GetInfo` stays inside. -/
lemma infoAccesses_inside (hcount : d.regionCount.toNat ≤ 3) :
    ∀ a ∈ infoAccesses d bufferSize,
      a.Inside ⟨0, sizeofHwImageDescription⟩ ⟨0, bufferSize⟩ := by
  have hread : ∀ lo len, lo + len ≤ 136 → (Access.read ⟨lo, len⟩).Inside
      ⟨0, sizeofHwImageDescription⟩ ⟨0, bufferSize⟩ := fun lo len h => inside_read_description h
  intro a ha
  rw [infoAccesses] at ha
  split at ha
  · cases ha
  · next hfits =>
    have hfits' : 76 ≤ bufferSize := Nat.le_of_not_lt hfits
    have hwrite : ∀ lo len, lo + len ≤ 76 → (Access.write ⟨lo, len⟩).Inside
        ⟨0, sizeofHwImageDescription⟩ ⟨0, bufferSize⟩ :=
      fun lo len h => inside_write_buffer (h.trans hfits')
    rcases List.mem_append.mp ha with hstart | hregions
    · simp only [List.mem_cons, List.not_mem_nil, or_false] at hstart
      rcases hstart with rfl | rfl | rfl | rfl | rfl | rfl
      · exact hwrite _ _ (by decide)
      · exact hwrite _ _ (by decide)
      · exact hread _ _ (by decide)
      · exact hwrite _ _ (by decide)
      · exact hread _ _ (by decide)
      · exact hwrite _ _ (by decide)
    · obtain ⟨i, hi, ha⟩ := List.mem_flatMap.mp hregions
      have hlt : i < d.regionCount.toNat := List.mem_range.mp hi
      rcases List.mem_cons.mp ha with rfl | ha
      · exact hread _ _ (by decide)
      · obtain ⟨k, hk, ha⟩ := List.mem_flatMap.mp ha
        have hk' : k < 4 := List.mem_range.mp hk
        simp only [List.mem_cons, List.not_mem_nil, or_false] at ha
        rcases ha with rfl | rfl
        · exact hread _ _ (by unfold regionOffset; omega)
        · exact hwrite _ _ (by unfold infoRegionOffset; omega)

end Safety

/-- For a file that has been found on the media, the calls are safe exactly where the buffer is
refused or the description has at most three regions. -/
theorem infoSafe_iff (d : HwImageDescription) (lba : ℕ) (s : Services) (f : File)
    (bufferSize : ℕ) (hvalid : (bootMonFsIsImageValid d lba s).1 = true)
    (hfound : f.hwDescription = (bootMonFsIsImageValid d lba s).2.1) :
    InfoSafe f bufferSize ↔ bufferSize < sizeOfBootMonFsFileInfo ∨ d.regionCount.toNat ≤ 3 := by
  have hkept : f.hwDescription.hasFooter = true ∧
      f.hwDescription.regionCount = d.regionCount := by
    rw [bootMonFsIsImageValid_fst, HwImageDescription.isImageValid, Bool.and_eq_true] at hvalid
    rw [hfound, bootMonFsIsImageValid, if_pos hvalid.1]
    split
    · exact ⟨hvalid.1, rfl⟩
    · exact ⟨hvalid.1, rfl⟩
  constructor
  · intro h
    refine or_iff_not_imp_left.mpr fun hfits => ?_
    by_contra hmany
    have hreply : getBootMonFsFileInfo f bufferSize =
        ⟨.success, sizeOfBootMonFsFileInfo, some f.hwDescription.fileInfo⟩ := if_neg hfits
    have hthree : 3 < f.hwDescription.fileInfo.regionCount.toNat := by
      show 3 < f.hwDescription.regionCount.toNat
      rw [hkept.2]
      omega
    have hlast : infoRegionOffset (3 + 1) ≤ (getBootMonFsFileInfo f bufferSize).bufferSize :=
      h.complete f.hwDescription.fileInfo (by rw [hreply]) 3 hthree
    rw [hreply] at hlast
    replace hlast : 80 ≤ 76 := hlast
    omega
  · intro h
    constructor
    case info =>
      rcases h with hsmall | hcount
      · intro a ha
        rw [infoAccesses, if_pos hsmall] at ha
        cases ha
      · exact infoAccesses_inside (by rw [hkept.2]; exact hcount)
    case complete =>
      intro info hinfo i hi
      unfold getBootMonFsFileInfo at hinfo ⊢
      split at hinfo
      · cases hinfo
      · next hfits =>
        rw [if_neg hfits]
        obtain rfl := Option.some.inj hinfo
        have hcount := h.resolve_left hfits
        have hlt : i < d.regionCount.toNat := by rw [← hkept.2]; exact hi
        show infoRegionOffset (i + 1) ≤ 76
        unfold infoRegionOffset
        omega
    case directory => exact directoryAccesses_inside hkept.1

/-- A description of `count` regions that says it starts and ends in block 0. -/
def countedImage (count : UInt32) : HwImageDescription :=
  { HwImageDescription.zero with
    regionCount := count
    footer := ⟨fun _ => 0, hwImageFooterOffset2, hwImageFooterVersion2, hwImageFooterSignature1,
      hwImageFooterSignature2⟩ }

/-- A file whose description is the one found. -/
def countedFile (count : UInt32) : File :=
  { File.created 0 with
    hwDescription :=
      (bootMonFsIsImageValid (countedImage count) 0 (blankVolume 0).services).2.1 }

theorem infoSafe_iff_oneRegion :
    InfoSafe (countedFile 1) 80 ↔
      80 < sizeOfBootMonFsFileInfo ∨ (countedImage 1).regionCount.toNat ≤ 3 :=
  infoSafe_iff (countedImage 1) 0 (blankVolume 0).services (countedFile 1) 80 (by decide) rfl

/-- With four regions and a buffer of 76 bytes, `GetInfo` writes the last checksum behind the
buffer. -/
theorem not_infoSafe_fourRegions : ¬ InfoSafe (countedFile 4) sizeOfBootMonFsFileInfo := by
  intro h
  have hwrite : Access.write ⟨76, 4⟩ ∈
      infoAccesses (countedFile 4).hwDescription sizeOfBootMonFsFileInfo := by
    decide
  exact absurd (Access.within_of_write (by decide) (h.info _ hwrite)) (by decide)

end BootMonFs

end MuPlatform
