import MuPlatform.BootMonFs.ImageLength
import MuPlatform.BootMonFs.Overlap

/-!
# Free space

`ComputeFreeSpace` (`BootMonFsDir.c`): a rough value, as its comment says, of the media size less
the lengths of all files and a block for the description of each.  The code adds the block size
to the number of files where the comment multiplies the two, and the difference can wrap.

`not_freeSpaceSound` says that what the comment promises fails on every volume.
-/

namespace MuPlatform
namespace BootMonFs

/-! ## ComputeFreeSpace -/

/-- The loop of `ComputeFreeSpace`: `FileSizeSum` and `NumFiles`. -/
def countFiles (arch : Arch) : List File → ℕ × ℕ → ℕ × ℕ
  | [], counts => counts
  | file :: files, counts =>
      countFiles arch files
        (uint64 (counts.1 + file.imageLength.toNat), arch.uintn (counts.2 + 1))

/-- The bytes of the media. -/
def Media.mediaSize (media : Media) : ℕ := media.blockSize * (media.lastBlock + 1)

/-- `ComputeFreeSpace`. -/
def computeFreeSpace (v : Volume) : ℕ :=
  let counts := countFiles v.cfg.arch v.files (0, 0)
  uint64Sub (uint64 v.media.mediaSize)
    (uint64 (counts.1 + v.cfg.arch.uintn (v.media.blockSize + counts.2)))

/-- The sum of the lengths of some files. -/
def totalLength (files : List File) : ℕ := (files.map (·.imageLength.toNat)).sum

/-- What the comment subtracts from the media size. -/
def Volume.occupied (v : Volume) : ℕ :=
  totalLength v.files + v.media.blockSize * v.files.length

/-- What the code adds to the lengths for the descriptions. -/
def Volume.overhead (v : Volume) : ℕ :=
  v.cfg.arch.uintn (v.media.blockSize + v.cfg.arch.uintn v.files.length)

lemma countFiles_eq (arch : Arch) (files : List File) (sum count : ℕ) :
    countFiles arch files (uint64 sum, arch.uintn count) =
      (uint64 (sum + totalLength files), arch.uintn (count + files.length)) := by
  induction files generalizing sum count with
  | nil => rfl
  | cons file files ih =>
      have hsum : uint64 (uint64 sum + file.imageLength.toNat) =
          uint64 (sum + file.imageLength.toNat) := Nat.mod_add_mod ..
      have hcount : arch.uintn (arch.uintn count + 1) = arch.uintn (count + 1) :=
        Nat.mod_add_mod ..
      have htotal : totalLength (file :: files) =
          file.imageLength.toNat + totalLength files := List.sum_cons
      simp only [countFiles]
      rw [hsum, hcount, ih, htotal, List.length_cons, Nat.add_assoc, Nat.add_assoc,
        Nat.add_comm 1 files.length]

lemma computeFreeSpace_eq (v : Volume) :
    computeFreeSpace v =
      uint64Sub (uint64 v.media.mediaSize)
        (uint64 (totalLength v.files + v.overhead)) := by
  have hcounts := countFiles_eq v.cfg.arch v.files 0 0
  have hzero : uint64 0 = 0 := rfl
  have hnone : v.cfg.arch.uintn 0 = 0 := Nat.zero_mod _
  rw [hzero, hnone, Nat.zero_add, Nat.zero_add] at hcounts
  have hsum : uint64 (uint64 (totalLength v.files) + v.overhead) =
      uint64 (totalLength v.files + v.overhead) := Nat.mod_add_mod ..
  rw [computeFreeSpace, hcounts]
  exact congrArg _ hsum

/-- The value, the lengths and the overhead add up to the media size, but for multiples of
`2 ^ 64`. -/
lemma computeFreeSpace_add (v : Volume) :
    (computeFreeSpace v + totalLength v.files + v.overhead) % 2 ^ 64 =
      v.media.mediaSize % 2 ^ 64 := by
  have hmedia : uint64 v.media.mediaSize = v.media.mediaSize % 2 ^ 64 := rfl
  have hsum : uint64 (totalLength v.files + v.overhead) =
      (totalLength v.files + v.overhead) % 2 ^ 64 := rfl
  rw [computeFreeSpace_eq, uint64Sub, uint64]
  omega

/-! ## What the comment promises -/

/-- The file with one more region that waits. -/
def File.grow (f : File) (region : FileRegion) : File :=
  { f with regionToFlush := f.regionToFlush ++ [region] }

/-- The free space is what the comment of `ComputeFreeSpace` says, or 0 where that is negative;
a file less does not make it smaller, and a longer file does not make it larger. -/
structure FreeSpaceSound (v : Volume) : Prop where
  value : computeFreeSpace v = v.media.mediaSize - v.occupied
  deleted : ∀ before file behind, v.files = before ++ file :: behind →
    computeFreeSpace v ≤ computeFreeSpace { v with files := before ++ behind }
  grown : ∀ before file behind region, v.files = before ++ file :: behind →
    file.imageLength.toNat < region.ending →
    computeFreeSpace { v with files := before ++ file.grow region :: behind } ≤
      computeFreeSpace v

/-! ## The value -/

/-- The overhead of the code is not that of the comment. -/
lemma overhead_ne (v : Volume) : v.overhead ≠ v.media.blockSize * v.files.length := by
  have hblock : 136 < v.media.blockSize := v.media.description_lt
  have hwide := v.media.blockSize_lt
  have hle : v.overhead ≤ v.media.blockSize + v.files.length :=
    (v.cfg.arch.uintn_le _).trans (Nat.add_le_add_left (v.cfg.arch.uintn_le _) _)
  have hlow : v.overhead % 2 ^ 32 = (v.media.blockSize + v.files.length) % 2 ^ 32 := by
    rw [Volume.overhead, Arch.uintn_mod, Nat.add_mod, Arch.uintn_mod, ← Nat.add_mod]
  match hcount : v.files.length with
  | 0 => rw [hcount] at hlow; omega
  | 1 => rw [hcount] at hlow; omega
  | n + 2 =>
      have hproduct : 137 * n ≤ v.media.blockSize * n := Nat.mul_le_mul_right _ hblock
      rw [hcount] at hle
      rw [Nat.mul_add]
      omega

/-- The value is right only where the comment's is 0, and there the code comes to 0 by an
overhead that fits exactly. -/
lemma occupied_ge_of_value {v : Volume} (hmedia : v.media.mediaSize < 2 ^ 64)
    (h : computeFreeSpace v = v.media.mediaSize - v.occupied) :
    v.media.mediaSize ≤ v.occupied := by
  by_contra hless
  have hsum := computeFreeSpace_add v
  have hover : v.overhead < 2 ^ 64 :=
    (v.cfg.arch.uintn_lt _).trans_le (Nat.pow_le_pow_right Nat.two_pos v.cfg.arch.uintnBits_le)
  have hne := overhead_ne v
  unfold Volume.occupied at h hless
  omega

/-! ## Growing -/

lemma totalLength_append (files files' : List File) :
    totalLength (files ++ files') = totalLength files + totalLength files' := by
  rw [totalLength, List.map_append, List.sum_append]
  rfl

lemma totalLength_cons (file : File) (files : List File) :
    totalLength (file :: files) = file.imageLength.toNat + totalLength files := List.sum_cons

/-- A region beyond the length of a file is added to it. -/
lemma toNat_imageLength_grow {f : File} {region : FileRegion}
    (hbeyond : f.imageLength.toNat < region.ending) (hlt : region.ending < 2 ^ 64) :
    (f.grow region).imageLength.toNat = (f.imageLength.toNat + region.ending) % 2 ^ 32 := by
  have hadded : (f.grow region).imageLength = File.addRegions [region] f.imageLength :=
    File.addRegions_snoc f.regionToFlush region f.regionSizes
  rw [hadded]
  simp only [File.addRegions]
  rw [uint64_of_lt hlt, if_pos hbeyond, UInt32.toNat_add, UInt32.toNat_ofNat']
  omega

/-- A file in the place of another changes the free space by the difference of their lengths. -/
lemma computeFreeSpace_replace {v : Volume} {before behind : List File} {file : File}
    (hfiles : v.files = before ++ file :: behind) (file' : File) :
    (computeFreeSpace { v with files := before ++ file' :: behind } + file'.imageLength.toNat) %
        2 ^ 64 = (computeFreeSpace v + file.imageLength.toNat) % 2 ^ 64 := by
  have hsum := computeFreeSpace_add v
  have hsum' := computeFreeSpace_add { v with files := before ++ file' :: behind }
  have hover : Volume.overhead { v with files := before ++ file' :: behind } = v.overhead := by
    simp only [Volume.overhead, hfiles, List.length_append, List.length_cons]
  rw [hover] at hsum'
  rw [hfiles] at hsum
  simp only [totalLength_append, totalLength_cons] at hsum hsum'
  omega

/-- Where nothing is free, some longer file makes the free space larger. -/
lemma exists_grown_gt {v : Volume} {before behind : List File} {file : File}
    (hfiles : v.files = before ++ file :: behind) (hfull : computeFreeSpace v = 0) :
    ∃ region : FileRegion, file.imageLength.toNat < region.ending ∧
      computeFreeSpace v <
        computeFreeSpace { v with files := before ++ file.grow region :: behind } := by
  have hlt := file.imageLength.toNat_lt
  -- a write of one byte, at the end of the file or one behind it
  obtain ⟨offset, hoffset, hlength⟩ : ∃ offset, file.imageLength.toNat ≤ offset ∧
      (file.grow ⟨offset, [0]⟩).imageLength.toNat ≠ file.imageLength.toNat := by
    have hstep : ∀ offset, file.imageLength.toNat ≤ offset → offset < 2 ^ 33 →
        (file.grow ⟨offset, [0]⟩).imageLength.toNat =
          (file.imageLength.toNat + (offset + 1)) % 2 ^ 32 := by
      intro offset hle hsmall
      have hending : FileRegion.ending ⟨offset, [0]⟩ = offset + 1 := rfl
      exact toNat_imageLength_grow (by omega) (by omega)
    by_cases hlast : file.imageLength.toNat + 1 = 2 ^ 32
    · refine ⟨file.imageLength.toNat + 1, Nat.le_succ _, ?_⟩
      rw [hstep _ (Nat.le_succ _) (by omega)]
      omega
    · refine ⟨file.imageLength.toNat, le_rfl, ?_⟩
      rw [hstep _ le_rfl (by omega)]
      omega
  refine ⟨⟨offset, [0]⟩, Nat.lt_succ_of_le hoffset, ?_⟩
  have hreplace := computeFreeSpace_replace hfiles (file.grow ⟨offset, [0]⟩)
  have hlt' := (file.grow ⟨offset, [0]⟩).imageLength.toNat_lt
  omega

/-- What the comment promises fails on every volume. -/
theorem not_freeSpaceSound (v : Volume) (hmedia : v.media.mediaSize < 2 ^ 64) :
    ¬ FreeSpaceSound v := by
  intro h
  have hfull : v.media.mediaSize ≤ v.occupied := occupied_ge_of_value hmedia h.value
  have hvalue : computeFreeSpace v = 0 := h.value.trans (Nat.sub_eq_zero_of_le hfull)
  cases hfiles : v.files with
  | nil =>
      have hempty : v.occupied = 0 := by
        rw [Volume.occupied, hfiles, List.length_nil, Nat.mul_zero]
        rfl
      have hpos : 0 < v.media.mediaSize :=
        Nat.mul_pos ((Nat.zero_le _).trans_lt v.media.description_lt) (Nat.succ_pos _)
      omega
  | cons file files =>
      have hsplit : v.files = [] ++ file :: files := hfiles
      obtain ⟨region, hbeyond, hgrown⟩ := exists_grown_gt hsplit hvalue
      exact Nat.not_le_of_lt hgrown (h.grown [] file files region hsplit hbeyond)

theorem not_freeSpaceSound_blankVolume : ¬ FreeSpaceSound (blankVolume 3) :=
  not_freeSpaceSound (blankVolume 3) (by decide)

/-- Two empty files on a media of 2048 bytes: their descriptions take 1024, and 514 are
subtracted. -/
theorem not_freeSpaceSound_twoFiles :
    ¬ FreeSpaceSound { blankVolume 3 with files := [.created 0, .created 1] } := by
  intro h
  have hcomputed :
      computeFreeSpace { blankVolume 3 with files := [.created 0, .created 1] } = 1534 := by
    decide
  have hright : (blankVolume 3).media.mediaSize -
      Volume.occupied { blankVolume 3 with files := [.created 0, .created 1] } = 1024 := by
    decide
  have hvalue := h.value
  rw [hcomputed] at hvalue
  exact absurd (hvalue.trans hright) (by decide)

end BootMonFs

end MuPlatform
