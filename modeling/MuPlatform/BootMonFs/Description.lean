import Mathlib.Data.UInt
import MuPlatform.BootMonFs.OpenClose

/-!
# Descriptions on the media

What `WriteFileDescription` puts on the media and what `BootMonFsIsImageValid` makes of it.  A
description whose fields hold the numbers it is made of (`DescriptionFits`) lies behind the data,
at the end of its block, and is read back as it was written (`describe_roundTrips`).

The validator computes the checksum again and warns where it differs; what it answers does not
depend on it.
-/

namespace MuPlatform
namespace BootMonFs

/-! ## The block of a description -/

lemma Media.blockSize_pos (media : Media) : 0 < media.blockSize :=
  Nat.lt_of_le_of_lt (Nat.zero_le _) media.description_lt

section Fields

variable {cfg : BuildConfig} {media : Media} {f : File} {name : FileName} {dataSize : UInt32}
  {fileStart : ℕ}

/-- The block a description is to be in, for `dataSize` bytes from `fileStart` on. -/
def describedBlock (media : Media) (dataSize : UInt32) (fileStart : ℕ) : ℕ :=
  fileStart / media.blockSize + descriptionBlock media dataSize

/-- The sizes, block numbers and addresses of a description fit the types they are computed in. -/
structure DescriptionFits (cfg : BuildConfig) (media : Media) (dataSize : UInt32)
    (fileStart : ℕ) : Prop where
  fileSize : dataSize.toNat + sizeofHwImageDescription < 2 ^ 32
  block : describedBlock media dataSize fileStart + 1 < 2 ^ 32
  address : (describedBlock media dataSize fileStart + 1) * media.blockSize -
    sizeofHwImageDescription < 2 ^ cfg.arch.uintnBits

lemma descriptionBlock_eq (h : dataSize.toNat + sizeofHwImageDescription < 2 ^ 32) :
    descriptionBlock media dataSize =
      (dataSize.toNat + sizeofHwImageDescription) / media.blockSize := by
  rw [descriptionBlock, UInt32.toNat_add]
  exact congrArg (· / media.blockSize) (Nat.mod_eq_of_lt h)

lemma describe_blockStart (h : fileStart / media.blockSize < 2 ^ 32) :
    (describe cfg media f name dataSize fileStart).blockStart = fileStart / media.blockSize := by
  change (UInt32.ofNat (fileStart / media.blockSize)).toNat = _
  rw [UInt32.toNat_ofNat', Nat.mod_eq_of_lt h]

lemma describe_blockEnd (h : describedBlock media dataSize fileStart < 2 ^ 32) :
    (describe cfg media f name dataSize fileStart).blockEnd =
      describedBlock media dataSize fileStart := by
  have hstart : fileStart / media.blockSize < 2 ^ 32 :=
    Nat.lt_of_le_of_lt (Nat.le_add_right _ _) h
  have hfield : (UInt32.ofNat (fileStart / media.blockSize)).toNat =
      fileStart / media.blockSize := by
    rw [UInt32.toNat_ofNat', Nat.mod_eq_of_lt hstart]
  change (UInt32.ofNat ((UInt32.ofNat (fileStart / media.blockSize)).toNat +
    descriptionBlock media dataSize)).toNat = _
  rw [hfield, UInt32.toNat_ofNat']
  exact Nat.mod_eq_of_lt h

/-- Conversions to `UINTN` on the way do not matter where the address itself fits. -/
lemma hwDescAddressOf_of_lt {blockEnd : UInt32} (hblock : blockEnd.toNat + 1 < 2 ^ 32)
    (haddress : (blockEnd.toNat + 1) * media.blockSize - sizeofHwImageDescription <
      2 ^ cfg.arch.uintnBits) :
    hwDescAddressOf cfg media blockEnd =
      (blockEnd.toNat + 1) * media.blockSize - sizeofHwImageDescription := by
  have hsucc : (blockEnd + 1).toNat = blockEnd.toNat + 1 := by
    rw [UInt32.toNat_add]
    exact Nat.mod_eq_of_lt hblock
  have hge : 1 * media.blockSize ≤ (blockEnd.toNat + 1) * media.blockSize :=
    Nat.mul_le_mul_right _ (by omega)
  have hsize := media.description_lt
  have hsplit : (blockEnd.toNat + 1) * media.blockSize = sizeofHwImageDescription +
      ((blockEnd.toNat + 1) * media.blockSize - sizeofHwImageDescription) := by omega
  have hbits : sizeofHwImageDescription ≤ 2 ^ cfg.arch.uintnBits := by
    cases cfg.arch <;> decide
  rw [hwDescAddressOf, hsucc]
  conv_lhs => rw [hsplit]
  exact Arch.uintnSub_uintn_add hbits haddress

lemma describe_hwDescAddress (h : DescriptionFits cfg media dataSize fileStart) :
    (describe cfg media f name dataSize fileStart).hwDescAddress =
      (describedBlock media dataSize fileStart + 1) * media.blockSize -
        sizeofHwImageDescription := by
  have hend := @describe_blockEnd cfg media f name dataSize fileStart (by have := h.block; omega)
  have hend' : (describe cfg media f name dataSize fileStart).hwDescription.blockEnd.toNat =
      describedBlock media dataSize fileStart := hend
  have hat := @hwDescAddressOf_of_lt cfg media
    (describe cfg media f name dataSize fileStart).hwDescription.blockEnd
    (by rw [hend']; exact h.block) (by rw [hend']; exact h.address)
  rw [hend'] at hat
  exact hat

lemma describe_hasFooter : (describe cfg media f name dataSize fileStart).hwDescription.hasFooter =
    true := by
  obtain ⟨arch, _⟩ := cfg
  cases arch <;> rfl

lemma describe_name :
    (describe cfg media f name dataSize fileStart).hwDescription.footer.name = name.chars :=
  HwImageFooter.name_setName
    { (describe cfg media f name dataSize fileStart).hwDescription.footer with
      filename := f.hwDescription.footer.filename } name

lemma describe_dataSize :
    (describe cfg media f name dataSize fileStart).dataSize = dataSize.toNat := by
  simp only [File.dataSize, describe, layout, HwImageDescription.checksummed_region,
    Function.update_self]

/-- The checksum of a description is that of its contents. -/
lemma describe_checksummed :
    (describe cfg media f name dataSize fileStart).hwDescription.checksummed =
      (describe cfg media f name dataSize fileStart).hwDescription :=
  HwImageDescription.checksummed_checksummed _

end Fields

/-! ## What is read back -/

/-- The file `f` is described as `dataSize` bytes from `fileStart` on, by a description that lies
at the end of its block and is read back and accepted there. -/
structure RoundTrips (media : Media) (fileName : FileName) (dataSize : UInt32) (fileStart : ℕ)
    (f : File) : Prop where
  behind : fileStart + dataSize.toNat ≤ f.hwDescAddress
  ending : f.hwDescAddress + sizeofHwImageDescription = (f.blockEnd + 1) * media.blockSize
  readBack : ∀ content : ByteStore, HwImageDescription.ofStore
    (content.write f.hwDescAddress f.hwDescription.bytes) f.hwDescAddress = f.hwDescription
  accepted : ∀ lba s, (bootMonFsIsImageValid f.hwDescription lba s).1 = true ↔ lba = f.blockEnd
  kept : ∀ lba s, (bootMonFsIsImageValid f.hwDescription lba s).2.1 = f.hwDescription
  name : f.hwDescription.footer.name = fileName.chars
  size : f.dataSize = dataSize.toNat
  start : f.blockStart * media.blockSize = fileStart
  checksum : f.hwDescription.checksummed.footerChecksum = f.hwDescription.footerChecksum

/-- A stored checksum that is not that of the description makes it invalid. -/
def RejectsCorruption : Prop :=
  ∀ (d : HwImageDescription) lba s, d.checksummed.footerChecksum ≠ d.footerChecksum →
    (bootMonFsIsImageValid d lba s).1 = false

/-- The stored checksum has no part in the answer of the validator, which leaves the computed one
where there is memory to compute it in. -/
structure ChecksumOnlyWarns : Prop where
  answer : ∀ (d : HwImageDescription) checksum lba s,
    (bootMonFsIsImageValid { d with footerChecksum := checksum } lba s).1 =
      (bootMonFsIsImageValid d lba s).1
  replaced : ∀ (d : HwImageDescription) lba s, d.hasFooter = true → s.allocatePool.1 = true →
    (bootMonFsIsImageValid d lba s).2.1.footerChecksum = d.checksummed.footerChecksum

/-- The answer of the validator. -/
lemma bootMonFsIsImageValid_fst (d : HwImageDescription) (lba : ℕ) (s : Services) :
    (bootMonFsIsImageValid d lba s).1 = d.isImageValid lba := by
  unfold bootMonFsIsImageValid HwImageDescription.isImageValid
  by_cases hfooter : d.hasFooter = true
  · rw [if_pos hfooter, hfooter, Bool.true_and]
    split <;> rfl
  · rw [if_neg hfooter, Bool.eq_false_iff.mpr hfooter, Bool.false_and]

/-- A description whose checksum is in order comes out of the validator as it was. -/
lemma bootMonFsIsImageValid_kept {d : HwImageDescription} (h : d.checksummed = d) (lba : ℕ)
    (s : Services) : (bootMonFsIsImageValid d lba s).2.1 = d := by
  unfold bootMonFsIsImageValid
  split
  · split
    · exact h
    · have hattributes : d.attributes = 1 := by
        rw [← h]
        rfl
      cases d
      simp only at hattributes
      rw [hattributes]
  · rfl

lemma checksumOnlyWarns : ChecksumOnlyWarns where
  answer d checksum lba s := by
    rw [bootMonFsIsImageValid_fst, bootMonFsIsImageValid_fst]
    rfl
  replaced d lba s hfooter hmemory := by
    unfold bootMonFsIsImageValid
    rw [if_pos hfooter]
    split
    · rfl
    · next hfailed =>
        rw [hfailed] at hmemory
        cases hmemory

/-- An accepted description is accepted with any other checksum. -/
lemma not_rejectsCorruption {d : HwImageDescription} {lba : ℕ} (hvalid : d.isImageValid lba = true) :
    ¬ RejectsCorruption := by
  intro hrejects
  have hother : d.checksummed.footerChecksum ≠ d.checksummed.footerChecksum + 1 := by simp
  have hrejected := hrejects { d with footerChecksum := d.checksummed.footerChecksum + 1 } lba
    ⟨fun _ => 0, [], .good, 0⟩ hother
  rw [checksumOnlyWarns.answer, bootMonFsIsImageValid_fst, hvalid] at hrejected
  cases hrejected

section Describe

variable {cfg : BuildConfig} {media : Media} {dataSize : UInt32} {fileStart : ℕ}

lemma describe_valid_iff (f : File) (name : FileName)
    (h : DescriptionFits cfg media dataSize fileStart) (lba : ℕ) :
    (describe cfg media f name dataSize fileStart).hwDescription.isImageValid lba = true ↔
      lba = (describe cfg media f name dataSize fileStart).blockEnd := by
  have hblock := h.block
  have hstart := @describe_blockStart cfg media f name dataSize fileStart
    (by rw [describedBlock] at hblock; omega)
  have hend := @describe_blockEnd cfg media f name dataSize fileStart (by omega)
  have hle : (describe cfg media f name dataSize fileStart).blockStart ≤
      (describe cfg media f name dataSize fileStart).blockEnd := by
    rw [hstart, hend]
    exact Nat.le_add_right _ _
  rw [HwImageDescription.isImageValid, describe_hasFooter, Bool.true_and, endsAt_iff]
  exact ⟨fun hends => hends.1.symm, fun hlba => ⟨hlba.symm, hle⟩⟩

/-- The description lies behind the data. -/
lemma describe_behind (f : File) (name : FileName)
    (h : DescriptionFits cfg media dataSize fileStart) (haligned : media.blockSize ∣ fileStart) :
    fileStart + dataSize.toNat ≤
      (describe cfg media f name dataSize fileStart).hwDescAddress := by
  have hroom := Nat.lt_div_mul_add (a := dataSize.toNat + sizeofHwImageDescription)
    media.blockSize_pos
  have hsplit : (describedBlock media dataSize fileStart + 1) * media.blockSize = fileStart +
      ((dataSize.toNat + sizeofHwImageDescription) / media.blockSize * media.blockSize +
        media.blockSize) := by
    rw [describedBlock, descriptionBlock_eq h.fileSize, Nat.add_assoc, Nat.add_mul,
      Nat.div_mul_cancel haligned, Nat.add_mul, Nat.one_mul]
  rw [describe_hwDescAddress h, hsplit]
  omega

/-- A description that fits goes to the media and back, whatever the file was described as before;
the stored checksum is not looked at. -/
theorem describe_roundTrips (cfg : BuildConfig) (media : Media) (f : File) (name : FileName)
    (dataSize : UInt32) (fileStart : ℕ) (haligned : media.blockSize ∣ fileStart)
    (hfits : DescriptionFits cfg media dataSize fileStart) :
    RoundTrips media name dataSize fileStart
        (describe cfg media f name dataSize fileStart) ∧ ChecksumOnlyWarns := by
  have hblock := hfits.block
  have hstart := @describe_blockStart cfg media f name dataSize fileStart
    (by rw [describedBlock] at hblock; omega)
  have hend := @describe_blockEnd cfg media f name dataSize fileStart (by omega)
  refine ⟨⟨describe_behind f name hfits haligned, ?_, ?_, ?_, ?_, describe_name,
    describe_dataSize, ?_, congrArg _ describe_checksummed⟩, checksumOnlyWarns⟩
  · have hge : 1 * media.blockSize ≤
        (describedBlock media dataSize fileStart + 1) * media.blockSize :=
      Nat.mul_le_mul_right _ (by omega)
    have hsize := media.description_lt
    rw [describe_hwDescAddress hfits, hend]
    omega
  · exact fun content => HwImageDescription.ofStore_write_bytes _ _ _
  · intro lba s
    rw [bootMonFsIsImageValid_fst]
    exact describe_valid_iff f name hfits lba
  · exact bootMonFsIsImageValid_kept describe_checksummed
  · rw [hstart, Nat.div_mul_cancel haligned]

end Describe

/-! ## A media of many blocks -/

/-- A media of `2 ^ 33` blocks of 512 bytes. -/
def wideMedia : Media := ⟨512, 2 ^ 33 - 1, 0, by decide, by decide⟩

/-- The name `kernel`. -/
def kernelName : FileName := ⟨[0x6B, 0x65, 0x72, 0x6E, 0x65, 0x6C], by decide, by decide⟩

/-- A new file of this name, described. -/
def kernelFile (arch : Arch) (dataSize : UInt32) (fileStart : ℕ) : File :=
  describe ⟨arch, 1000000⟩ wideMedia (File.created 1) kernelName dataSize fileStart

lemma kernelFile_fits : DescriptionFits ⟨.aarch64, 1000000⟩ wideMedia 0 0 :=
  ⟨by decide, by decide, by decide⟩

/-- A file of 1000 bytes in blocks 2 to 4. -/
theorem describe_roundTrips_kernel :
    RoundTrips wideMedia kernelName 1000 1024 (kernelFile .aarch64 1000 1024) ∧
      ChecksumOnlyWarns :=
  describe_roundTrips ⟨.aarch64, 1000000⟩ wideMedia (File.created 1) kernelName 1000 1024
    (by decide) ⟨by decide, by decide, by decide⟩

/-- A wrong checksum is accepted.  And where `FileSize`, `BlockEnd + 1` or the address wraps, the
description is not where the data ends. -/
theorem not_roundTrips :
    ¬ RejectsCorruption ∧
      ¬ RoundTrips wideMedia kernelName (2 ^ 32 - 136) 0 (kernelFile .aarch64 (2 ^ 32 - 136) 0) ∧
      ¬ RoundTrips wideMedia kernelName 0 ((2 ^ 32 - 1) * 512)
        (kernelFile .aarch64 0 ((2 ^ 32 - 1) * 512)) ∧
      ¬ RoundTrips wideMedia kernelName 0 (2 ^ 32) (kernelFile .arm 0 (2 ^ 32)) := by
  refine ⟨not_rejectsCorruption ((describe_valid_iff (File.created 1) kernelName
    kernelFile_fits 0).mpr rfl), fun htrips => ?_, fun htrips => ?_, fun htrips => ?_⟩
  · have hbehind := htrips.behind
    revert hbehind
    decide +kernel
  · have hending := htrips.ending
    revert hending
    decide +kernel
  · have hending := htrips.ending
    revert hending
    decide +kernel

end BootMonFs

end MuPlatform
