import MuPlatform.BootMonFs.Overlap

/-!
# Where a file lives

Block numbers in a description count from `Media->LowestAlignedLba` for the search for images and
for `BootMonFsReadFile`, and from block 0 for `BootMonFsFlushFile` and `WriteFileDescription`.
The four agree on the place of a described file exactly where the offset is zero and the numbers
of its description fit (`onePlace_iff`).
-/

namespace MuPlatform
namespace BootMonFs

/-! ## The address of an offset -/

/-- The media address `BootMonFsReadFile` has for offset `p` of a file. -/
def File.readAddress (media : Media) (f : File) (p : ℕ) : ℕ :=
  uint64 (uint64 ((media.lowestAlignedLba + f.blockStart) * media.blockSize) + p)

/-- The media address of offset `p` of an image whose description is found in block `lba`: the
image starts as many blocks before as its description says. -/
def HwImageDescription.impliedAddress (media : Media) (d : HwImageDescription) (lba p : ℕ) : ℕ :=
  uint64 ((lba - (d.blockEnd.toNat - d.blockStart.toNat)) * media.blockSize + p)

/-- A read returns the bytes at the address of its position. -/
lemma readFile_readAddress {v : Volume} {handle bufferSize : ℕ} {f : File} {info : FileInfo}
    (hopen : ((lookup handle v.files).bind (·.info)).isSome = true)
    (hlookup : lookup handle (bootMonFsFlushFile handle v).2.files = some f)
    (hinfo : f.info = some info) (hposition : f.position < info.fileSize)
    (hread : (bootMonFsFlushFile handle v).2.services.readDisk.1.isError = false) :
    (bootMonFsReadFile handle bufferSize v).2.1 =
      (bootMonFsFlushFile handle v).2.services.content.read
        (f.readAddress (bootMonFsFlushFile handle v).2.media f.position)
        (min bufferSize ((bootMonFsFlushFile handle v).2.cfg.arch.uintn
          (info.fileSize - f.position))) := by
  obtain ⟨opened, hopened⟩ := Option.isSome_iff_exists.mp hopen
  unfold bootMonFsReadFile
  simp only [hopened, hlookup, hinfo]
  rw [if_neg (Nat.not_le.mpr hposition)]
  simp only [hread, Bool.false_eq_true, if_false]
  rfl

/-- The four paths agree on the place of `f`, a file of `dataSize` bytes that a flush has put at
`fileStart`. -/
structure OnePlace (cfg : BuildConfig) (media : Media) (dataSize : UInt32) (fileStart : ℕ)
    (f : File) : Prop where
  /-- The next flush starts from the same place. -/
  placed : ∀ fileSize files, placeFile cfg media f fileSize files = some (fileStart, files)
  /-- The data of a region is written where its offset is read. -/
  written : ∀ (ctx : FlushContext) region, ctx.fileStart = fileStart →
    (ctx.storing region).address = f.readAddress media region.offset
  /-- The data of a region of the file is read back unchanged. -/
  readBack : ∀ (ctx : FlushContext) region content, ctx.fileStart = fileStart →
    region.ending ≤ dataSize.toNat →
    (replay content [ctx.storing region, describing f]).read
      (f.readAddress media region.offset) region.size = region.buffer
  /-- The description is found at the address it is written to, and implies that place. -/
  rediscovered : ∃ lba, descOffset media lba = f.hwDescAddress ∧
    (∀ file s, (∀ n, (s.env.readDisk n).isError = false) →
      HwImageDescription.ofStore s.content f.hwDescAddress = f.hwDescription →
      (bootMonFsDiscoverNextImage cfg.arch media lba file s).status = .success ∧
      (bootMonFsDiscoverNextImage cfg.arch media lba file s).lba = lba + 1 ∧
      (bootMonFsDiscoverNextImage cfg.arch media lba file s).file.hwDescription = f.hwDescription) ∧
    ∀ p, f.hwDescription.impliedAddress media lba p = f.readAddress media p

/-- A media whose bytes have 64-bit addresses, and whose aligned blocks start on it. -/
structure Media.Addressed (media : Media) : Prop where
  bytes_lt : (media.lastBlock + 1) * media.blockSize < 2 ^ 64
  aligned_le : media.lowestAlignedLba ≤ media.lastBlock

/-- Blocks count from 0, and the numbers of the description fit. -/
structure StaysPut (cfg : BuildConfig) (media : Media) (dataSize : UInt32) (fileStart : ℕ) :
    Prop where
  unshifted : media.lowestAlignedLba = 0
  inside : describedBlock media dataSize fileStart ≤ media.lastBlock
  fits : DescriptionFits cfg media dataSize fileStart

section Search

variable {arch : Arch} {media : Media} {file : File} {s : Services} {d : HwImageDescription} {lba : ℕ}

lemma Media.Addressed.address_lt (hmedia : media.Addressed) (h : lba ≤ media.lastBlock) :
    (lba + 1) * media.blockSize < 2 ^ 64 :=
  Nat.lt_of_le_of_lt (Nat.mul_le_mul_right _ (Nat.add_le_add_right h 1)) hmedia.bytes_lt

lemma Media.Addressed.descOffset_eq (hmedia : media.Addressed) (h : lba ≤ media.lastBlock) :
    descOffset media lba = (lba + 1) * media.blockSize - sizeofHwImageDescription := by
  have hlt := hmedia.address_lt h
  have hge : 1 * media.blockSize ≤ (lba + 1) * media.blockSize :=
    Nat.mul_le_mul_right _ (by omega)
  have hsize := media.description_lt
  rw [descOffset, uint64_of_lt hlt, uint64Sub_of_le (by omega) hlt]

/-- A 32-bit block number that the search compares is not one from a difference that wrapped. -/
lemma Media.Addressed.lba_eq (hmedia : media.Addressed) (h : lba ≤ media.lastBlock) {n : UInt32}
    (hn : n.toNat = uint64Sub lba media.lowestAlignedLba) :
    lba = n.toNat + media.lowestAlignedLba := by
  have hbytes := hmedia.bytes_lt
  have haligned := hmedia.aligned_le
  have hblock : (media.lastBlock + 1) * 137 ≤ (media.lastBlock + 1) * media.blockSize :=
    Nat.mul_le_mul_left _ media.description_lt
  have hlt := n.toNat_lt
  rcases Nat.lt_or_ge lba media.lowestAlignedLba with hwrap | hle
  · -- the difference is close to `2 ^ 64`
    rw [uint64Sub, uint64, Nat.mod_eq_of_lt (by omega)] at hn
    omega
  · rw [uint64Sub_of_le hle (by omega)] at hn
    omega

/-- The search finds a valid description in the first block it looks at. -/
lemma bootMonFsDiscoverNextImage_valid (hlba : lba ≤ media.lastBlock)
    (hread : s.readDisk.1.isError = false)
    (hd : HwImageDescription.ofStore s.content (descOffset media lba) = d)
    (hvalid : d.isImageValid (uint64Sub lba media.lowestAlignedLba) = true)
    (hchecksum : d.checksummed = d) :
    (bootMonFsDiscoverNextImage arch media lba file s).status = .success ∧
      (bootMonFsDiscoverNextImage arch media lba file s).lba = lba + 1 ∧
      (bootMonFsDiscoverNextImage arch media lba file s).file.hwDescription = d := by
  obtain ⟨n, hn⟩ : ∃ n, media.lastBlock + 1 - lba = n + 1 := ⟨media.lastBlock - lba, by omega⟩
  rw [bootMonFsDiscoverNextImage, hn, discoverNextImage, hread, hd,
    if_neg Bool.false_ne_true]
  simp only [bootMonFsIsImageValid_fst, hvalid, if_true]
  exact ⟨trivial, trivial, bootMonFsIsImageValid_kept hchecksum _ _⟩

/-- What the search finds in the first block it looks at ends there. -/
lemma bootMonFsDiscoverNextImage_first
    (hsuccess : (bootMonFsDiscoverNextImage arch media lba file s).status = .success)
    (hfirst : (bootMonFsDiscoverNextImage arch media lba file s).lba = lba + 1) :
    lba ≤ media.lastBlock ∧
      (bootMonFsDiscoverNextImage arch media lba file s).file.hwDescription.endsAt
        (uint64Sub lba media.lowestAlignedLba) = true := by
  rw [bootMonFsDiscoverNextImage] at hsuccess hfirst ⊢
  obtain ⟨l, d, s', hle, hlt, hends, hfound⟩ := discoverNextImage_found
    (media.lastBlock + 1 - lba) lba file s (by rw [hsuccess]; rfl)
  rw [hfound] at hfirst ⊢
  obtain rfl : l = lba := Nat.succ.inj hfirst
  exact ⟨by omega, hends⟩

/-- A media with nothing but a description. -/
lemma exists_services (d : HwImageDescription) (a : ℕ) :
    ∃ s : Services, (∀ n, (s.env.readDisk n).isError = false) ∧
      HwImageDescription.ofStore s.content a = d :=
  ⟨⟨ByteStore.write (fun _ => 0) a d.bytes, [], .good, 0⟩, fun _ => rfl,
    HwImageDescription.ofStore_write_bytes _ _ _⟩

end Search

/-! ## Agreement -/

section Agreement

variable {cfg : BuildConfig} {media : Media} {f : File} {name : FileName} {dataSize : UInt32}
  {fileStart : ℕ}

lemma placeFile_describe (fileSize : ℕ) (files : List File) :
    placeFile cfg media (describe cfg media f name dataSize fileStart) fileSize files =
      some (cfg.arch.uintn ((describe cfg media f name dataSize fileStart).blockStart *
        media.blockSize), files) := if_pos rfl

/-- The fields of a description are the numbers it is made of, as far as they fit. -/
lemma describe_blockStart_mod :
    (describe cfg media f name dataSize fileStart).blockStart =
      fileStart / media.blockSize % 2 ^ 32 := UInt32.toNat_ofNat'

lemma describe_blockEnd_mod :
    (describe cfg media f name dataSize fileStart).blockEnd =
      ((describe cfg media f name dataSize fileStart).blockStart +
        descriptionBlock media dataSize) % 2 ^ 32 := UInt32.toNat_ofNat'

/-- A description that stays put makes the paths agree. -/
lemma onePlace_of_staysPut (hmedia : media.Addressed) (haligned : media.blockSize ∣ fileStart)
    (h : StaysPut cfg media dataSize fileStart) :
    OnePlace cfg media dataSize fileStart (describe cfg media f name dataSize fileStart) := by
  obtain ⟨hzero, hinside, hfits⟩ := h
  have hblock := hfits.block
  have hstart := @describe_blockStart cfg media f name dataSize fileStart
    (by rw [describedBlock] at hblock; omega)
  have hend := @describe_blockEnd cfg media f name dataSize fileStart (by omega)
  have hbytes : (describe cfg media f name dataSize fileStart).blockStart * media.blockSize =
      fileStart := by rw [hstart, Nat.div_mul_cancel haligned]
  have hbehind := describe_behind f name hfits haligned
  have haddress := @describe_hwDescAddress cfg media f name dataSize fileStart hfits
  have hlt := hmedia.address_lt hinside
  have hread : ∀ p, (describe cfg media f name dataSize fileStart).readAddress media p =
      uint64 (fileStart + p) := by
    intro p
    rw [File.readAddress, hzero, Nat.zero_add, hbytes, uint64_of_lt (n := fileStart) (by omega)]
  refine ⟨fun fileSize files => ?_, fun ctx region hctx => ?_,
    fun ctx region content hctx hending => ?_,
    describedBlock media dataSize fileStart, ?_, fun file s hok hd => ?_, fun p => ?_⟩
  · have hsmall := hfits.address
    rw [placeFile_describe, hbytes, Arch.uintn_of_lt (by omega)]
  · rw [hread, ← hctx]
    rfl
  · have hregion : region.ending = region.offset + region.size := rfl
    have hstored : ctx.regionStart region = fileStart + region.offset := by
      rw [FlushContext.regionStart, hctx]
      exact uint64_of_lt (by omega)
    have hapart : fileStart + region.offset + region.size ≤
        (describing (describe cfg media f name dataSize fileStart)).address := by
      change _ ≤ (describe cfg media f name dataSize fileStart).hwDescAddress
      omega
    rw [hread, uint64_of_lt (by omega), replay_cons, replay_cons, replay_nil,
      ByteStore.read_write_disjoint (.inl hapart), FlushContext.storing, hstored]
    exact ByteStore.read_write_same
  · rw [hmedia.descOffset_eq hinside, haddress]
  · refine bootMonFsDiscoverNextImage_valid hinside (hok _) ?_ ?_ describe_checksummed
    · rw [hmedia.descOffset_eq hinside, ← haddress]
      exact hd
    · rw [describe_valid_iff f name hfits, hend, hzero, uint64Sub_of_le (by omega) (by omega)]
      omega
  · have hstart' : (describe cfg media f name dataSize fileStart).hwDescription.blockStart.toNat =
        fileStart / media.blockSize := hstart
    have hend' : (describe cfg media f name dataSize fileStart).hwDescription.blockEnd.toNat =
        describedBlock media dataSize fileStart := hend
    have hback : describedBlock media dataSize fileStart -
        (describedBlock media dataSize fileStart - fileStart / media.blockSize) =
          fileStart / media.blockSize := by
      rw [describedBlock]
      omega
    rw [HwImageDescription.impliedAddress, hread, hstart', hend', hback,
      Nat.div_mul_cancel haligned]

/-- The block number behind the last one there is wraps to 0. -/
lemma hwDescAddressOf_wraps {blockEnd : UInt32} (h : blockEnd.toNat + 1 = 2 ^ 32) :
    hwDescAddressOf cfg media blockEnd + sizeofHwImageDescription =
      2 ^ cfg.arch.uintnBits := by
  have hzero : (blockEnd + 1).toNat = 0 := by
    rw [UInt32.toNat_add]
    change (blockEnd.toNat + 1) % 2 ^ 32 = 0
    rw [h, Nat.mod_self]
  rw [hwDescAddressOf, hzero, Nat.zero_mul]
  cases cfg.arch <;> rfl

namespace OnePlace

/-- The blocks of the file start where the flush has put it. -/
lemma start (h : OnePlace cfg media dataSize fileStart
    (describe cfg media f name dataSize fileStart)) :
    (describe cfg media f name dataSize fileStart).blockStart * media.blockSize = fileStart := by
  have hplaced := h.placed 0 []
  rw [placeFile_describe, Option.some_inj] at hplaced
  have hfrom : cfg.arch.uintn ((describe cfg media f name dataSize fileStart).blockStart *
      media.blockSize) = fileStart := congrArg Prod.fst hplaced
  have hle := cfg.arch.uintn_le ((describe cfg media f name dataSize fileStart).blockStart *
    media.blockSize)
  have hquot : (describe cfg media f name dataSize fileStart).blockStart * media.blockSize ≤
      fileStart / media.blockSize * media.blockSize := by
    rw [describe_blockStart_mod]
    exact Nat.mul_le_mul_right _ (Nat.mod_le _ _)
  have hback := Nat.div_mul_le_self fileStart media.blockSize
  omega

/-- The block the description is found in. -/
lemma foundIn (h : OnePlace cfg media dataSize fileStart
    (describe cfg media f name dataSize fileStart)) (hmedia : media.Addressed) :
    (describe cfg media f name dataSize fileStart).blockEnd + media.lowestAlignedLba ≤
        media.lastBlock ∧
      (describe cfg media f name dataSize fileStart).blockStart ≤
        (describe cfg media f name dataSize fileStart).blockEnd ∧
      descOffset media ((describe cfg media f name dataSize fileStart).blockEnd +
        media.lowestAlignedLba) =
          (describe cfg media f name dataSize fileStart).hwDescAddress := by
  obtain ⟨lba, haddress, hfound, -⟩ := h.rediscovered
  obtain ⟨s, hok, hd⟩ := exists_services
    (describe cfg media f name dataSize fileStart).hwDescription
    (describe cfg media f name dataSize fileStart).hwDescAddress
  obtain ⟨hstatus, hlba, hdesc⟩ := hfound (File.created 0) s hok hd
  obtain ⟨hle, hends⟩ := bootMonFsDiscoverNextImage_first hstatus hlba
  rw [hdesc, endsAt_iff] at hends
  have heq : lba = (describe cfg media f name dataSize fileStart).blockEnd +
      media.lowestAlignedLba := hmedia.lba_eq hle hends.1
  rw [← heq]
  exact ⟨hle, hends.2, haddress⟩

lemma unshifted (h : OnePlace cfg media dataSize fileStart
    (describe cfg media f name dataSize fileStart)) (hmedia : media.Addressed) :
    media.lowestAlignedLba = 0 := by
  obtain ⟨hinside, hle, -⟩ := h.foundIn hmedia
  have hstart := h.start
  have hwritten := h.written ⟨cfg, media, none, name, fileStart, 0⟩ ⟨0, []⟩ rfl
  have hlt := hmedia.address_lt hinside
  have hsum : (media.lowestAlignedLba +
      (describe cfg media f name dataSize fileStart).blockStart) * media.blockSize ≤
        ((describe cfg media f name dataSize fileStart).blockEnd + media.lowestAlignedLba + 1) *
          media.blockSize := Nat.mul_le_mul_right _ (by omega)
  have hsplit : (media.lowestAlignedLba +
      (describe cfg media f name dataSize fileStart).blockStart) * media.blockSize =
        media.lowestAlignedLba * media.blockSize + fileStart := by rw [Nat.add_mul, hstart]
  have hstored : uint64 (fileStart + 0) = uint64 (uint64 ((media.lowestAlignedLba +
      (describe cfg media f name dataSize fileStart).blockStart) * media.blockSize) + 0) :=
    hwritten
  rw [Nat.add_zero, Nat.add_zero, uint64_of_lt (uint64_lt _), uint64_of_lt (by omega),
    uint64_of_lt (by omega)] at hstored
  exact (Nat.mul_eq_zero.mp (by omega)).resolve_right media.blockSize_pos.ne'

/-- The block of the description, with an address that fits. -/
lemma block (h : OnePlace cfg media dataSize fileStart
    (describe cfg media f name dataSize fileStart)) (hmedia : media.Addressed) :
    (describe cfg media f name dataSize fileStart).blockEnd =
        describedBlock media dataSize fileStart ∧
      describedBlock media dataSize fileStart ≤ media.lastBlock ∧
      describedBlock media dataSize fileStart + 1 < 2 ^ 32 ∧
      (describedBlock media dataSize fileStart + 1) * media.blockSize -
          sizeofHwImageDescription =
        (describe cfg media f name dataSize fileStart).hwDescAddress := by
  obtain ⟨hinside, hle, haddress⟩ := h.foundIn hmedia
  rw [h.unshifted hmedia, Nat.add_zero] at hinside haddress
  rw [hmedia.descOffset_eq hinside] at haddress
  have hstart : (describe cfg media f name dataSize fileStart).blockStart =
      fileStart / media.blockSize := by
    conv_rhs => rw [← h.start]
    rw [Nat.mul_div_cancel _ media.blockSize_pos]
  have hmod := @describe_blockEnd_mod cfg media f name dataSize fileStart
  have hrel : descriptionBlock media dataSize < 2 ^ 32 :=
    Nat.lt_of_le_of_lt (Nat.div_le_self _ _) (UInt32.toNat_lt _)
  have hsum : (describe cfg media f name dataSize fileStart).blockStart +
      descriptionBlock media dataSize = describedBlock media dataSize fileStart := by
    rw [hstart, describedBlock]
  have hend : (describe cfg media f name dataSize fileStart).blockEnd =
      describedBlock media dataSize fileStart := by
    rw [hsum] at hmod
    omega
  rw [hend] at hinside haddress
  refine ⟨hend, hinside, ?_, haddress⟩
  by_contra hlast
  have hwrap : (describe cfg media f name dataSize fileStart).hwDescription.blockEnd.toNat + 1 =
      2 ^ 32 := by
    have hlt := (describe cfg media f name dataSize fileStart).hwDescription.blockEnd.toNat_lt
    have hfield : (describe cfg media f name dataSize fileStart).hwDescription.blockEnd.toNat =
        describedBlock media dataSize fileStart := hend
    omega
  have hsize := media.description_lt
  have hlt := hmedia.address_lt hinside
  have htop : (describe cfg media f name dataSize fileStart).hwDescAddress +
      sizeofHwImageDescription = 2 ^ cfg.arch.uintnBits := hwDescAddressOf_wraps hwrap
  have hbytes : (describedBlock media dataSize fileStart + 1) * media.blockSize =
      2 ^ 32 * media.blockSize := by
    rw [← hend]
    exact congrArg (· * media.blockSize) hwrap
  -- neither 32 nor 64 bits end where those blocks do
  cases harch : cfg.arch with
  | arm =>
      rw [harch] at htop
      simp only [Arch.uintnBits, sizeofHwImageDescription] at htop hsize haddress
      omega
  | aarch64 =>
      rw [harch] at htop
      simp only [Arch.uintnBits] at htop
      omega

/-- A read of the whole file comes back only where the size of the description fits. -/
lemma fileSize (h : OnePlace cfg media dataSize fileStart
    (describe cfg media f name dataSize fileStart)) (hmedia : media.Addressed) :
    dataSize.toNat + sizeofHwImageDescription < 2 ^ 32 := by
  obtain ⟨-, hinside, -, haddress⟩ := h.block hmedia
  by_contra hwrap
  have hsize := media.description_lt
  have hblockSize := media.blockSize_lt
  have hdata := dataSize.toNat_lt
  -- the description of so much data is in the first block
  have hfirst : descriptionBlock media dataSize = 0 := by
    have hsum : (dataSize + UInt32.ofNat sizeofHwImageDescription).toNat =
        dataSize.toNat + sizeofHwImageDescription - 2 ^ 32 := by
      rw [UInt32.toNat_add]
      change (dataSize.toNat + sizeofHwImageDescription) % 2 ^ 32 = _
      have hlt : sizeofHwImageDescription < 2 ^ 32 := by decide
      omega
    rw [descriptionBlock, hsum]
    exact Nat.div_eq_of_lt (by omega)
  have hquot : fileStart / media.blockSize * media.blockSize = fileStart := by
    conv_lhs => rw [← h.start, Nat.mul_div_cancel _ media.blockSize_pos]
    exact h.start
  have hat : (describe cfg media f name dataSize fileStart).hwDescAddress =
      fileStart + (media.blockSize - sizeofHwImageDescription) := by
    rw [← haddress, describedBlock, hfirst, Nat.add_zero, Nat.add_mul, hquot, Nat.one_mul]
    omega
  have hlt := hmedia.address_lt hinside
  have hlow : fileStart < 2 ^ 64 := by
    rw [describedBlock, hfirst, Nat.add_zero, Nat.add_mul, hquot] at hlt
    omega
  -- data with a byte that the description does not have there
  have hlen := (describe cfg media f name dataSize fileStart).hwDescription.length_bytes
  obtain ⟨b, bs, hbytes⟩ : ∃ b bs,
      (describe cfg media f name dataSize fileStart).hwDescription.bytes = b :: bs :=
    List.exists_cons_of_length_pos (by rw [hlen]; decide)
  have hstored := h.written ⟨cfg, media, none, name, fileStart, 0⟩
    ⟨0, List.replicate dataSize.toNat (b + 1)⟩ rfl
  have hstored' : uint64 (fileStart + 0) =
      (describe cfg media f name dataSize fileStart).readAddress media 0 := hstored
  rw [Nat.add_zero, uint64_of_lt hlow] at hstored'
  have hback := h.readBack ⟨cfg, media, none, name, fileStart, 0⟩
    ⟨0, List.replicate dataSize.toNat (b + 1)⟩ (fun _ => 0) rfl
    (by simp [FileRegion.ending, FileRegion.size])
  have hbyte := ByteStore.apply_eq_of_read_eq (k := media.blockSize - sizeofHwImageDescription)
    hback (by rw [List.length_replicate]; omega)
  rw [← hstored', ← hat, replay_cons, replay_cons, replay_nil, List.getElem_replicate] at hbyte
  have hhead : ∀ (content : ByteStore) a, content.write a (b :: bs) a = b := by
    intro content a
    simp [ByteStore.write]
  simp only [describing, hbytes, hhead] at hbyte
  simp at hbyte

/-- Where the paths agree the description stays put. -/
lemma staysPut (h : OnePlace cfg media dataSize fileStart
    (describe cfg media f name dataSize fileStart)) (hmedia : media.Addressed) :
    StaysPut cfg media dataSize fileStart := by
  obtain ⟨-, hinside, hblock, haddress⟩ := h.block hmedia
  refine ⟨h.unshifted hmedia, hinside, h.fileSize hmedia, hblock, ?_⟩
  rw [haddress]
  exact Arch.uintn_lt _ _

end OnePlace

/-- A file that a flush has described lives in one place for all four paths exactly where blocks
count from 0 and the numbers of its description fit. -/
theorem onePlace_iff (cfg : BuildConfig) (media : Media) (hmedia : media.Addressed) (f : File)
    (name : FileName) (dataSize : UInt32) (fileStart : ℕ)
    (haligned : media.blockSize ∣ fileStart) :
    OnePlace cfg media dataSize fileStart (describe cfg media f name dataSize fileStart) ↔
      StaysPut cfg media dataSize fileStart :=
  ⟨fun h => h.staysPut hmedia, onePlace_of_staysPut hmedia haligned⟩

end Agreement

/-- The paths agree on a file of 1000 bytes in blocks 2 to 4. -/
theorem onePlace_iff_kernel : OnePlace ⟨.aarch64, 1000000⟩ wideMedia 1000 1024
    (kernelFile .aarch64 1000 1024) :=
  (onePlace_iff ⟨.aarch64, 1000000⟩ wideMedia ⟨by decide, by decide⟩ (File.created 1) kernelName
    1000 1024 (by decide)).mpr ⟨rfl, by decide, by decide, by decide, by decide⟩

/-! ## A media with an offset -/

/-- A media of four blocks of 512 bytes, aligned from block 1 on. -/
def shiftedMedia : Media := ⟨512, 3, 1, wideMedia.description_lt, wideMedia.blockSize_lt⟩

/-- A volume on it. -/
def shiftedVolume : Volume := { blankVolume 3 with media := shiftedMedia }

/-- A file of 100 bytes is written to block 0.  A read gets zeros from block 1, and a fresh look at
the media does not find the file. -/
theorem not_onePlace_shifted :
    ¬ OnePlace ⟨.aarch64, 1000000⟩ shiftedMedia 100 0
        (describe ⟨.aarch64, 1000000⟩ shiftedMedia (queuedA 100) nameA 100 0) ∧
      (bootMonFsReadFile 1 100 (runCalls (writeA 100 ++ [(.good, .setPosition 1 0)])
        (bootMonFsInitialize shiftedVolume).2)).2.1 = List.replicate 100 0 ∧
      (bootMonFsInitialize
        { runCalls (writeA 100) (bootMonFsInitialize shiftedVolume).2 with
          files := [] }).2.files = [] := by
  refine ⟨fun honePlace => ?_, by decide +kernel, by decide +kernel⟩
  have hzero := honePlace.unshifted ⟨by decide, by decide⟩
  exact absurd hzero (by decide)

end BootMonFs

end MuPlatform
