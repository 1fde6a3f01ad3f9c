import MuPlatform.Base.ByteStore
import Mathlib.Data.Fintype.Basic
import Mathlib.Data.List.OfFn
import Mathlib.Tactic.FinCases

/-!
# Image descriptions

`HW_IMAGE_DESCRIPTION` (`BootMonFsHw.h`), the structure at the end of the last block of a file,
with its checksum and the test that recognises it (`BootMonFsImages.c`).

The structure is packed: `HwImageDescription.bytes` are the bytes the driver writes and
`HwImageDescription.ofStore` is what it reads back from the media, with `ofStore_write_bytes`
the round trip.
-/

namespace MuPlatform
namespace BootMonFs

/-! ## Constants -/

/-- `MAX_NAME_LENGTH`. -/
def maxNameLength : ℕ := 32

/-- `HW_IMAGE_FOOTER_SIGNATURE_1`. -/
def hwImageFooterSignature1 : UInt32 := 0x464C5348

/-- `HW_IMAGE_FOOTER_SIGNATURE_2`. -/
def hwImageFooterSignature2 : UInt32 := 0x464F4F54

/-- `HW_IMAGE_FOOTER_VERSION` and its offset, those of a 32-bit build. -/
def hwImageFooterVersion : UInt32 := 1
def hwImageFooterOffset : UInt32 := 92

/-- `HW_IMAGE_FOOTER_VERSION2` and its offset, those of a 64-bit build. -/
def hwImageFooterVersion2 : UInt32 := 2
def hwImageFooterOffset2 : UInt32 := 96

/-- `HW_IMAGE_DESCRIPTION_REGION_MAX`. -/
abbrev hwImageDescriptionRegionMax : ℕ := 4

instance neZero_hwImageDescriptionRegionMax : NeZero hwImageDescriptionRegionMax := ⟨by decide⟩

/-- `sizeof (HW_IMAGE_DESCRIPTION)`. -/
def sizeofHwImageDescription : ℕ := 136

/-! ## Names -/

/-- A file name: the characters before the terminator of a `CHAR8` buffer of
`MAX_NAME_LENGTH`. -/
structure FileName where
  chars : List UInt8
  chars_ne_zero : 0 ∉ chars
  length_lt : chars.length < maxNameLength
  deriving DecidableEq

/-- The name a buffer of zeros holds. -/
def FileName.empty : FileName := ⟨[], by simp, by decide⟩

lemma FileName.eq_of_chars {name name' : FileName} (h : name.chars = name'.chars) :
    name = name' := by
  cases name
  cases name'
  cases h
  rfl

/-- The characters of a C string that starts the given bytes. -/
def cString (bytes : List UInt8) : List UInt8 := bytes.takeWhile (· ≠ 0)

lemma cString_append_zero {chars rest : List UInt8} (h : 0 ∉ chars) :
    cString (chars ++ 0 :: rest) = chars := by
  have hpos : ∀ c ∈ chars, decide (c ≠ 0) = true := by
    intro c hc
    exact decide_eq_true fun hzero => h (hzero ▸ hc)
  rw [cString, List.takeWhile_append_of_pos hpos]
  simp

/-! ## The structure -/

/-- An entry of `Region`. -/
structure HwRegion where
  loadAddress : UInt32
  size : UInt32
  offset : UInt32
  checksum : UInt32
  deriving DecidableEq

/-- A region whose fields are blank. -/
def HwRegion.blank : HwRegion := ⟨0, 0, 0, 0⟩

/-- `HW_IMAGE_FOOTER`. -/
structure HwImageFooter where
  filename : Fin maxNameLength → UInt8
  offset : UInt32
  version : UInt32
  footerSignature1 : UInt32
  footerSignature2 : UInt32

/-- `HW_IMAGE_DESCRIPTION`. -/
structure HwImageDescription where
  entryPoint : UInt32
  attributes : UInt32
  regionCount : UInt32
  region : Fin hwImageDescriptionRegionMax → HwRegion
  blockStart : UInt32
  blockEnd : UInt32
  footerChecksum : UInt32
  footer : HwImageFooter

/-- What `AllocateZeroPool` leaves in `HwDescription`. -/
def HwImageDescription.zero : HwImageDescription where
  entryPoint := 0
  attributes := 0
  regionCount := 0
  region := fun _ => .blank
  blockStart := 0
  blockEnd := 0
  footerChecksum := 0
  footer := ⟨fun _ => 0, 0, 0, 0, 0⟩

/-! ## Bytes -/

/-- The bytes of 32-bit words in memory. -/
def wordBytes (words : List UInt32) : List UInt8 :=
  words.flatMap fun word => ByteStore.leBytes 4 word.toNat

lemma wordBytes_cons (word : UInt32) (words : List UInt32) :
    wordBytes (word :: words) = ByteStore.leBytes 4 word.toNat ++ wordBytes words :=
  List.flatMap_cons

@[simp] lemma length_wordBytes (words : List UInt32) :
    (wordBytes words).length = 4 * words.length := by
  induction words with
  | nil => rfl
  | cons word words ih =>
      rw [wordBytes_cons, List.length_append, ih, ByteStore.length_leBytes, List.length_cons]
      omega

/-- A word of a run of words just written. -/
lemma load32_write_wordBytes {m : ByteStore} {a k : ℕ} {words : List UInt32}
    (h : k < words.length) :
    (m.write a (wordBytes words)).load32 (a + 4 * k) = words[k] := by
  induction words generalizing m a k with
  | nil => simp at h
  | cons word words ih =>
      rw [wordBytes_cons, ByteStore.write_append, ByteStore.length_leBytes]
      cases k with
      | zero =>
          rw [ByteStore.load32_write_off (by omega)]
          exact ByteStore.load32_store32_same word
      | succ k =>
          have hk : k < words.length := by simpa using h
          have haddr : a + 4 * (k + 1) = a + 4 + 4 * k := by ring
          rw [haddr, ih hk]
          rfl

namespace HwRegion

def words (region : HwRegion) : List UInt32 :=
  [region.loadAddress, region.size, region.offset, region.checksum]

def ofStore (m : ByteStore) (a : ℕ) : HwRegion where
  loadAddress := m.load32 a
  size := m.load32 (a + 4)
  offset := m.load32 (a + 8)
  checksum := m.load32 (a + 12)

end HwRegion

namespace HwImageFooter

/-- The name read from `Filename` on: a `Filename` without terminator runs into the fields
behind it. -/
def name (footer : HwImageFooter) : List UInt8 :=
  cString (List.ofFn footer.filename ++
    wordBytes [footer.offset, footer.version, footer.footerSignature1, footer.footerSignature2])

/-- `AsciiStrCpyS` into `Filename`: the bytes behind the terminator keep their values. -/
def setName (footer : HwImageFooter) (name : FileName) : HwImageFooter :=
  { footer with filename := fun i =>
      if h : i < name.chars.length then name.chars[i] else
        if i = name.chars.length then 0 else footer.filename i }

lemma name_setName (footer : HwImageFooter) (name : FileName) :
    (footer.setName name).name = name.chars := by
  have hlt : name.chars.length < 32 := name.length_lt
  have hsplit : List.ofFn (footer.setName name).filename =
      name.chars ++ 0 :: (List.ofFn footer.filename).drop (name.chars.length + 1) := by
    apply List.ext_getElem
    · simp only [List.length_ofFn, List.length_append, List.length_cons, List.length_drop]
      unfold maxNameLength
      omega
    · intro i hi hi'
      rcases Nat.lt_trichotomy i name.chars.length with hlow | rfl | hhigh
      · simp [setName, hlow]
      · simp [setName]
      · obtain ⟨j, rfl⟩ := Nat.exists_eq_add_of_lt hhigh
        have hsub : name.chars.length + j + 1 - name.chars.length = j + 1 := by omega
        have hge : ¬ (name.chars.length + j + 1 < name.chars.length) := by omega
        have hne : ¬ (name.chars.length + j + 1 = name.chars.length) := by omega
        rw [List.getElem_append_right (by omega)]
        simp [setName, hsub, hge, hne, Nat.add_right_comm]
  rw [HwImageFooter.name, hsplit, List.append_assoc, List.cons_append]
  exact cString_append_zero name.chars_ne_zero

end HwImageFooter

namespace HwImageDescription

/-- The words before the footer. -/
def headWords (d : HwImageDescription) : List UInt32 :=
  [d.entryPoint, d.attributes, d.regionCount] ++
    ((d.region 0).words ++ (d.region 1).words ++ (d.region 2).words ++ (d.region 3).words) ++
    [d.blockStart, d.blockEnd, d.footerChecksum]

/-- The words behind the name. -/
def tailWords (d : HwImageDescription) : List UInt32 :=
  [d.footer.offset, d.footer.version, d.footer.footerSignature1, d.footer.footerSignature2]

/-- The description as it lies in memory and on the media. -/
def bytes (d : HwImageDescription) : List UInt8 :=
  wordBytes d.headWords ++ (List.ofFn d.footer.filename ++ wordBytes d.tailWords)

/-- The description whose bytes start at `a`. -/
def ofStore (m : ByteStore) (a : ℕ) : HwImageDescription where
  entryPoint := m.load32 a
  attributes := m.load32 (a + 4)
  regionCount := m.load32 (a + 8)
  region := fun i => .ofStore m (a + 12 + 16 * i)
  blockStart := m.load32 (a + 76)
  blockEnd := m.load32 (a + 80)
  footerChecksum := m.load32 (a + 84)
  footer :=
    { filename := fun i => m (a + 88 + i)
      offset := m.load32 (a + 120)
      version := m.load32 (a + 124)
      footerSignature1 := m.load32 (a + 128)
      footerSignature2 := m.load32 (a + 132) }

@[simp] lemma length_bytes (d : HwImageDescription) :
    d.bytes.length = sizeofHwImageDescription := by
  rw [bytes, List.length_append, List.length_append, List.length_ofFn, length_wordBytes,
    length_wordBytes]
  rfl

/-- A description is read back as it was written. -/
theorem ofStore_write_bytes (m : ByteStore) (a : ℕ) (d : HwImageDescription) :
    ofStore (m.write a d.bytes) a = d := by
  have hhead : (wordBytes d.headWords).length = 88 := rfl
  have hname : (List.ofFn d.footer.filename).length = 32 := List.length_ofFn
  have hbytes : m.write a d.bytes = ((m.write a (wordBytes d.headWords)).write (a + 88)
      (List.ofFn d.footer.filename)).write (a + 120) (wordBytes d.tailWords) := by
    rw [bytes, ByteStore.write_append, ByteStore.write_append, hhead, hname]
  have hheadWord : ∀ k (hk : k < 22), (m.write a d.bytes).load32 (a + 4 * k) =
      d.headWords.get ⟨k, hk⟩ := by
    intro k hk
    rw [hbytes, ByteStore.load32_write_off (by omega), ByteStore.load32_write_off (by omega)]
    exact load32_write_wordBytes hk
  have htailWord : ∀ k (hk : k < 4), (m.write a d.bytes).load32 (a + 120 + 4 * k) =
      d.tailWords.get ⟨k, hk⟩ := by
    intro k hk
    rw [hbytes]
    exact load32_write_wordBytes hk
  have hregion : ∀ i : Fin hwImageDescriptionRegionMax,
      HwRegion.ofStore (m.write a d.bytes) (a + 12 + 16 * i) = d.region i := by
    have hword : ∀ k (hk : k < 22) b, b = a + 4 * k →
        (m.write a d.bytes).load32 b = d.headWords.get ⟨k, hk⟩ := by
      rintro k hk b rfl
      exact hheadWord k hk
    intro i
    rw [HwRegion.ofStore]
    fin_cases i
    · rw [hword 3 (by decide) _ (by simp), hword 4 (by decide) _ (by simp),
        hword 5 (by decide) _ (by simp), hword 6 (by decide) _ (by simp)]
      rfl
    · rw [hword 7 (by decide) _ (by simp), hword 8 (by decide) _ (by simp),
        hword 9 (by decide) _ (by simp), hword 10 (by decide) _ (by simp)]
      rfl
    · rw [hword 11 (by decide) _ (by simp), hword 12 (by decide) _ (by simp),
        hword 13 (by decide) _ (by simp), hword 14 (by decide) _ (by simp)]
      rfl
    · rw [hword 15 (by decide) _ (by simp), hword 16 (by decide) _ (by simp),
        hword 17 (by decide) _ (by simp), hword 18 (by decide) _ (by simp)]
      rfl
  have hfilename : ∀ i : Fin maxNameLength,
      m.write a d.bytes (a + 88 + i) = d.footer.filename i := by
    intro i
    have hi : (i : ℕ) < 32 := i.isLt
    rw [hbytes, ByteStore.write_apply_off (by omega),
      ByteStore.write_apply_on (by rw [hname]; exact hi), List.getElem_ofFn]
  rw [ofStore]
  simp only [hregion, hfilename]
  have hentry := hheadWord 0 (by decide)
  have hattributes := hheadWord 1 (by decide)
  have hcount := hheadWord 2 (by decide)
  have hstart := hheadWord 19 (by decide)
  have hend := hheadWord 20 (by decide)
  have hchecksum := hheadWord 21 (by decide)
  have hoffset := htailWord 0 (by decide)
  have hversion := htailWord 1 (by decide)
  have hsignature1 := htailWord 2 (by decide)
  have hsignature2 := htailWord 3 (by decide)
  simp only [Nat.mul_zero, Nat.add_zero, Nat.add_assoc, Nat.reduceMul, Nat.reduceAdd] at *
  rw [hentry, hattributes, hcount, hstart, hend, hchecksum, hoffset, hversion, hsignature1,
    hsignature2]
  rfl

end HwImageDescription

/-! ## The checksum -/

/-- The words `BootMonFsChecksum` reads through its `UINT32` pointer. -/
def wordsOfBytes : List UInt8 → List UInt32
  | b₀ :: b₁ :: b₂ :: b₃ :: bytes =>
      UInt32.ofNat (ByteStore.leNat [b₀, b₁, b₂, b₃]) :: wordsOfBytes bytes
  | _ => []

/-- The body of the loop of `BootMonFsChecksum`. -/
def checksumStep (checksum word : UInt32) : UInt32 :=
  (if word > ~~~checksum then checksum + 1 else checksum) + word

/-- `BootMonFsChecksum`. -/
def bootMonFsChecksum (data : List UInt8) : UInt32 :=
  ~~~((wordsOfBytes data).foldl checksumStep 0)

namespace HwImageDescription

/-- The copy that is summed: no checksum, and the regions behind `RegionCount` blank. -/
def shim (d : HwImageDescription) : HwImageDescription :=
  { d with
    footerChecksum := 0
    region := fun i => if i < d.regionCount.toNat then d.region i else .blank }

/-- What `BootMonFsComputeFooterChecksum` makes of a description. -/
def checksummed (d : HwImageDescription) : HwImageDescription :=
  { d with
    attributes := 1
    footerChecksum := bootMonFsChecksum ({ d with attributes := 1 } : HwImageDescription).shim.bytes }

@[simp] lemma checksummed_blockStart (d : HwImageDescription) :
    d.checksummed.blockStart = d.blockStart := rfl

@[simp] lemma checksummed_blockEnd (d : HwImageDescription) :
    d.checksummed.blockEnd = d.blockEnd := rfl

@[simp] lemma checksummed_regionCount (d : HwImageDescription) :
    d.checksummed.regionCount = d.regionCount := rfl

@[simp] lemma checksummed_region (d : HwImageDescription) :
    d.checksummed.region = d.region := rfl

@[simp] lemma checksummed_footer (d : HwImageDescription) :
    d.checksummed.footer = d.footer := rfl

/-- Computing the checksum again changes nothing. -/
@[simp] lemma checksummed_checksummed (d : HwImageDescription) :
    d.checksummed.checksummed = d.checksummed := rfl

/-! ## Validity -/

/-- The signatures and the version of the footer are those of an image. -/
def hasFooter (d : HwImageDescription) : Bool :=
  d.footer.footerSignature1 = hwImageFooterSignature1 &&
    d.footer.footerSignature2 = hwImageFooterSignature2 &&
    (if d.footer.version = hwImageFooterVersion then d.footer.offset = hwImageFooterOffset
     else d.footer.version = hwImageFooterVersion2 && d.footer.offset = hwImageFooterOffset2)

/-- The blocks of the description are those of an image that ends in block `lba`. -/
def endsAt (d : HwImageDescription) (lba : ℕ) : Bool :=
  d.blockEnd.toNat = lba && d.blockStart ≤ d.blockEnd

/-- What makes `BootMonFsIsImageValid` answer `TRUE`; a wrong checksum only warns. -/
def isImageValid (d : HwImageDescription) (lba : ℕ) : Bool := d.hasFooter && d.endsAt lba

end HwImageDescription

end BootMonFs

end MuPlatform
