import MuPlatform.BootMonFs.Address
import MuPlatform.BootMonFs.Discover
import MuPlatform.BootMonFs.FlushDirectory

/-!
# Deleting a file

`BootMonFsDelete` frees the regions of a file, clears its description on the media if it has one
there, and takes it off the list.  Where the clearing fails it returns `EFI_WARN_DELETE_FAILURE`
and leaves the file open.

`deleteClean_iff` says when a deletion is clean, with what a fresh scan of the media finds behind
it.  The address that is cleared is that of a description, or `0` in a file whose description has
never been written (`clearsOne_of_run`).
-/

namespace MuPlatform
namespace BootMonFs

open LinkedList (drain drain_eq)

/-! ## The statement -/

/-- The loop of `BootMonFsDelete` over the links of the regions, which goes on with what
`RemoveEntryList` returns: the regions it frees, and the list it leaves. -/
def freeRegions (regions : List FileRegion) : Option (List FileRegion × List FileRegion) :=
  let links := List.range regions.length
  if links.isEmpty then some ([], regions)
  else (drain links.length links.head? links).map fun r =>
    (r.1.filterMap (regions[·]?), r.2.filterMap (regions[·]?))

/-- The files `BootMonFsInitialize` finds on the media from scratch, with nothing that fails. -/
def Volume.freshScan (v : Volume) : List File :=
  (bootMonFsInitialize { v with
    services := { v.services with env := .good, requests := 0 }
    files := []
    initialized := false
    nextHandle := 0 }).2.files

/-- The name a file is open by, or the one in its description. -/
def File.Named (f : File) (name : List UInt8) : Prop :=
  name = f.asciiName ∨ name = f.hwDescription.footer.name

/-- The file is in neither the list nor a fresh scan, and nothing else has changed. -/
structure Deleted (handle : ℕ) (f : File) (v v' : Volume) : Prop where
  unlisted : ∀ g ∈ v'.files, g.handle ≠ handle
  /-- What a fresh scan finds by the name of the file is a file that is still in the list. -/
  unscanned : ∀ found ∈ v'.freshScan, f.Named found.hwDescription.footer.name →
    ∃ g ∈ v'.files, g.hwDescAddress = found.hwDescAddress
  others : ∀ g, g.handle ≠ handle → (g ∈ v'.files ↔ g ∈ v.files)
  content : ∀ g ∈ v'.files, ∀ a, (g.extent v.media).Has a →
    v'.services.content a = v.services.content a

/-- The handle is closed, and the blocks of the file are as they were. -/
structure LeftIntact (handle : ℕ) (f : File) (v v' : Volume) : Prop where
  closed : ∃ g, lookup handle v'.files = some g ∧ g.info = none
  content : ∀ a, (f.extent v.media).Has a → v'.services.content a = v.services.content a

/-- A deletion is clean on both outcomes. -/
structure DeleteClean (handle : ℕ) (v : Volume) (f : File) : Prop where
  freed : freeRegions f.regionToFlush = some (f.regionToFlush, [])
  deleted : (bootMonFsDelete handle v).1 = .success →
    Deleted handle f v (bootMonFsDelete handle v).2
  failed : (bootMonFsDelete handle v).1 = .warnDeleteFailure →
    LeftIntact handle f v (bootMonFsDelete handle v).2

/-- The requests of the clearing succeed. -/
def Clears (v : Volume) (f : File) : Prop :=
  f.onDisk = true → v.services.env.allocate v.services.requests = true ∧
    (v.services.env.writeDisk (v.services.requests + 1)).isError = false

/-- What has to hold of the volume for a clean deletion. -/
structure DeletesWhole (v : Volume) (f : File) : Prop where
  clears : Clears v f
  /-- The bytes that are cleared are not those of another file. -/
  spares : f.onDisk = true → ∀ g ∈ v.files, g.handle ≠ f.handle → ∀ a,
    (g.extent v.media).Has a → f.descSpan.Has a → v.services.content a = 0
  /-- The only description of the file on the media is the one that is cleared. -/
  single : ∀ lba ≤ v.media.lastBlock, isImageAt v.media v.services.content lba = true →
    f.Named (imageAt v.media v.services.content lba).footer.name →
    (∃ g ∈ v.files, g.handle ≠ f.handle ∧
        g.hwDescAddress = descAddress v.cfg.arch v.media lba) ∨
      (f.onDisk = true ∧ f.hwDescAddress = descOffset v.media lba)

/-- The bytes at `HwDescAddress` are the description of a block or no part of one. -/
def File.ClearsOne (media : Media) (f : File) : Prop :=
  ∀ lba ≤ media.lastBlock, f.hwDescAddress = descOffset media lba ∨
    f.descSpan.Apart ⟨descOffset media lba, sizeofHwImageDescription⟩

lemma filterMap_range (regions : List FileRegion) :
    (List.range regions.length).filterMap (regions[·]?) = regions := by
  induction regions with
  | nil => rfl
  | cons region regions ih =>
      rw [List.length_cons, List.range_succ_eq_map,
        List.filterMap_cons_some (List.getElem?_cons_zero), List.filterMap_map]
      exact congrArg (region :: ·) ih

/-- The loop comes to an end, and has freed every region. -/
lemma freeRegions_eq (regions : List FileRegion) :
    freeRegions regions = some (regions, []) := by
  have hlinks := filterMap_range regions
  have hnodup : (List.range regions.length).Nodup := List.nodup_range
  unfold freeRegions
  generalize hn : List.range regions.length = links at hlinks hnodup ⊢
  cases links with
  | nil =>
      rw [List.filterMap_nil] at hlinks
      rw [← hlinks]
      rfl
  | cons link links =>
      simp only [List.isEmpty_cons, Bool.false_eq_true, if_false, List.head?_cons,
        drain_eq hnodup, Option.map_some, hlinks, List.filterMap_nil]

/-! ## Descriptions that are cleared -/

section Clear

variable {arch : Arch} {media : Media} {content content' : ByteStore} {lba a n : ℕ}

lemma ofStore_congr (h : ∀ i < sizeofHwImageDescription, content (a + i) = content' (a + i)) :
    HwImageDescription.ofStore content a = HwImageDescription.ofStore content' a := by
  have hload : ∀ k, k + 4 ≤ sizeofHwImageDescription →
      content.load32 (a + k) = content'.load32 (a + k) := by
    intro k hk
    refine ByteStore.load32_congr fun i hi => ?_
    rw [Nat.add_assoc]
    exact h (k + i) (by omega)
  have hregion : ∀ i : Fin hwImageDescriptionRegionMax,
      HwRegion.ofStore content (a + 12 + 16 * i) = HwRegion.ofStore content' (a + 12 + 16 * i) := by
    intro i
    have hi : (i : ℕ) < 4 := i.isLt
    simp only [HwRegion.ofStore, HwRegion.mk.injEq, Nat.add_assoc]
    refine ⟨?_, ?_, ?_, ?_⟩ <;> exact hload _ (by unfold sizeofHwImageDescription; omega)
  have hname : ∀ i : Fin maxNameLength, content (a + 88 + i) = content' (a + 88 + i) := by
    intro i
    have hi : (i : ℕ) < 32 := i.isLt
    rw [Nat.add_assoc]
    exact h _ (by unfold sizeofHwImageDescription; omega)
  have hfirst := hload 0 (by decide)
  rw [Nat.add_zero] at hfirst
  simp only [HwImageDescription.ofStore, hfirst, hload 4 (by decide), hload 8 (by decide),
    hload 76 (by decide), hload 80 (by decide), hload 84 (by decide), hload 120 (by decide),
    hload 124 (by decide), hload 128 (by decide), hload 132 (by decide), hregion, hname]

/-- Zeros are no description. -/
lemma hasFooter_zeros : (HwImageDescription.ofStore
    (content.write a (List.replicate sizeofHwImageDescription 0)) a).hasFooter = false := by
  have hzeros : HwImageDescription.ofStore
      (content.write a (List.replicate sizeofHwImageDescription 0)) a =
        HwImageDescription.ofStore (fun _ => 0) a := by
    refine ofStore_congr fun i hi => ?_
    rw [ByteStore.write_apply_on (by rw [List.length_replicate]; exact hi),
      List.getElem_replicate]
  rw [hzeros]
  rfl

/-- What is left of the images once a description has been cleared. -/
lemma imageAt_cleared {f : File} (hone : f.ClearsOne media) (hlba : lba ≤ media.lastBlock) :
    (f.hwDescAddress = descOffset media lba ∧ isImageAt media (content.write f.hwDescAddress
      (List.replicate sizeofHwImageDescription 0)) lba = false) ∨
    (f.hwDescAddress ≠ descOffset media lba ∧ imageAt media (content.write f.hwDescAddress
      (List.replicate sizeofHwImageDescription 0)) lba = imageAt media content lba) := by
  by_cases heq : f.hwDescAddress = descOffset media lba
  · refine .inl ⟨heq, ?_⟩
    rw [isImageAt, imageAt, HwImageDescription.isImageValid, ← heq, hasFooter_zeros,
      Bool.false_and]
  · refine .inr ⟨heq, ofStore_congr fun i hi => ByteStore.write_apply_off ?_⟩
    have hapart := (hone lba hlba).resolve_left heq
    rw [List.length_replicate]
    rcases hapart with hapart | hapart
    · exact .inr (Nat.le_add_right_of_le hapart)
    · exact .inl (Nat.lt_of_lt_of_le (Nat.add_lt_add_left hi _) hapart)

/-! ## The fresh scan -/

lemma mem_imagesFrom {x : ℕ × HwImageDescription} :
    x ∈ imagesFrom arch media content n lba ↔ ∃ l, lba ≤ l ∧ l < lba + n ∧
      isImageAt media content l = true ∧
      x = (descAddress arch media l, (imageAt media content l).core) := by
  induction n generalizing lba with
  | zero =>
      refine iff_of_false List.not_mem_nil ?_
      rintro ⟨l, hle, hlt, -⟩
      omega
  | succ n ih =>
      have hrest : (∃ l, lba + 1 ≤ l ∧ l < lba + 1 + n ∧ isImageAt media content l = true ∧
          x = (descAddress arch media l, (imageAt media content l).core)) ↔
          ∃ l, lba ≤ l ∧ l < lba + (n + 1) ∧ l ≠ lba ∧ isImageAt media content l = true ∧
            x = (descAddress arch media l, (imageAt media content l).core) := by
        refine exists_congr fun l => ⟨?_, ?_⟩
        · rintro ⟨hle, hlt, h⟩
          exact ⟨by omega, by omega, by omega, h⟩
        · rintro ⟨hle, hlt, hne, h⟩
          exact ⟨by omega, by omega, h⟩
      rw [imagesFrom]
      by_cases himage : isImageAt media content lba = true
      · rw [if_pos himage, List.mem_cons, ih, hrest]
        constructor
        · rintro (rfl | ⟨l, hle, hlt, -, h⟩)
          · exact ⟨lba, Nat.le_refl _, by omega, himage, rfl⟩
          · exact ⟨l, hle, hlt, h⟩
        · rintro ⟨l, hle, hlt, h⟩
          by_cases heq : l = lba
          · subst heq
            exact .inl h.2
          · exact .inr ⟨l, hle, hlt, heq, h⟩
      · rw [if_neg himage, ih, hrest]
        constructor
        · rintro ⟨l, hle, hlt, -, h⟩
          exact ⟨l, hle, hlt, h⟩
        · rintro ⟨l, hle, hlt, h⟩
          refine ⟨l, hle, hlt, ?_, h⟩
          rintro rfl
          exact himage h.1

lemma scansThrough_good (k : ℕ) : ScansThrough .good media content n lba k := by
  induction n generalizing lba k with
  | zero => trivial
  | succ n ih =>
      rw [ScansThrough]
      refine ⟨rfl, ?_⟩
      split
      · exact ⟨rfl, ih _⟩
      · exact ih _

lemma footer_of_core {d d' : HwImageDescription} (h : d.core = d'.core) :
    d.footer = d'.footer := by
  show d.core.footer = d'.core.footer
  rw [h]

/-- A fresh scan finds the valid descriptions on the media. -/
lemma mem_freshScan {v : Volume} (P : ℕ → HwImageFooter → Prop) :
    (∀ found ∈ v.freshScan, P found.hwDescAddress found.hwDescription.footer) ↔
      ∀ lba ≤ v.media.lastBlock, isImageAt v.media v.services.content lba = true →
        P (descAddress v.cfg.arch v.media lba) (imageAt v.media v.services.content lba).footer := by
  have hscan : v.freshScan.map File.listed =
      imagesFrom v.cfg.arch v.media v.services.content (v.media.lastBlock + 1) 0 := by
    have hend := (initializeLoop_end (v := { v with
      services := { v.services with env := .good, requests := 0 }
      files := []
      initialized := false
      nextHandle := 0 }) (v.media.lastBlock + 2) 0 (Nat.zero_le _) (Nat.lt_succ_self _) rfl).through
    exact (hend (scansThrough_good _)).2.2.2
  constructor
  · intro h l hl himage
    have hmem : (descAddress v.cfg.arch v.media l, (imageAt v.media v.services.content l).core) ∈
        v.freshScan.map File.listed := by
      rw [hscan]
      exact mem_imagesFrom.mpr ⟨l, Nat.zero_le _, by omega, himage, rfl⟩
    obtain ⟨found, hfound, hlisted⟩ := List.mem_map.mp hmem
    obtain ⟨haddress, hcore⟩ := Prod.mk.inj hlisted
    rw [← haddress, ← footer_of_core hcore]
    exact h found hfound
  · intro h found hfound
    have hmem : found.listed ∈ v.freshScan.map File.listed := List.mem_map_of_mem hfound
    rw [hscan] at hmem
    obtain ⟨l, -, hl, himage, hlisted⟩ := mem_imagesFrom.mp hmem
    obtain ⟨haddress, hcore⟩ := Prod.mk.inj hlisted
    rw [haddress, footer_of_core hcore]
    exact h l (by omega) himage

end Clear

/-! ## The address that is cleared -/

/-- The address is 136 bytes before the end of a block, or `0`. -/
def File.Anchored (media : Media) (f : File) : Prop :=
  f.hwDescAddress = 0 ∨ media.blockSize ∣ f.hwDescAddress + sizeofHwImageDescription

/-- The blocks divide the address space and hold more than two descriptions. -/
structure Media.Regular (media : Media) (arch : Arch) : Prop where
  addressed : media.Addressed
  divides : media.blockSize ∣ 2 ^ arch.uintnBits
  room : 2 * sizeofHwImageDescription ≤ media.blockSize

section Anchored

variable {cfg : BuildConfig} {media : Media} {f f' : File} {v v' : Volume} {handle lba : ℕ}

lemma Media.Regular.descOffset_dvd (hmedia : media.Regular cfg.arch) (h : lba ≤ media.lastBlock) :
    descOffset media lba + sizeofHwImageDescription = (lba + 1) * media.blockSize := by
  have hblock : 1 * media.blockSize ≤ (lba + 1) * media.blockSize :=
    Nat.mul_le_mul_right _ (by omega)
  have hroom := hmedia.room
  rw [hmedia.addressed.descOffset_eq h]
  omega

/-- The blocks divide the address space, so a cut address is one at the end of a block too. -/
lemma Media.Regular.descAddress_dvd (hmedia : media.Regular cfg.arch) (h : lba ≤ media.lastBlock) :
    media.blockSize ∣ descAddress cfg.arch media lba + sizeofHwImageDescription := by
  have hwhole : media.blockSize ∣ descOffset media lba + sizeofHwImageDescription :=
    ⟨lba + 1, (hmedia.descOffset_dvd h).trans (Nat.mul_comm _ _)⟩
  have hcut := Nat.div_add_mod (descOffset media lba) (2 ^ cfg.arch.uintnBits)
  have hfront : media.blockSize ∣ 2 ^ cfg.arch.uintnBits *
      (descOffset media lba / 2 ^ cfg.arch.uintnBits) := hmedia.divides.mul_right _
  rw [← hcut, Nat.add_assoc] at hwhole
  exact (Nat.dvd_add_right hfront).mp hwhole

/-- Two descriptions at the ends of blocks are the same or lie apart. -/
lemma File.Anchored.clearsOne (hmedia : media.Regular cfg.arch) (h : f.Anchored media) :
    f.ClearsOne media := by
  intro lba hlba
  have hoffset := hmedia.descOffset_dvd hlba
  have hroom := hmedia.room
  rcases h with hzero | ⟨k, hk⟩
  · refine .inr (.inl ?_)
    have hblock : 1 * media.blockSize ≤ (lba + 1) * media.blockSize :=
      Nat.mul_le_mul_right _ (by omega)
    show f.hwDescAddress + sizeofHwImageDescription ≤ descOffset media lba
    omega
  · rw [Nat.mul_comm] at hk
    rcases Nat.lt_trichotomy k (lba + 1) with hlt | heq | hgt
    · have hnext : (k + 1) * media.blockSize ≤ (lba + 1) * media.blockSize :=
        Nat.mul_le_mul_right _ hlt
      refine .inr (.inl ?_)
      show f.hwDescAddress + sizeofHwImageDescription ≤ descOffset media lba
      rw [Nat.add_mul] at hnext
      omega
    · rw [heq] at hk
      exact .inl (by omega)
    · have hnext : (lba + 1 + 1) * media.blockSize ≤ k * media.blockSize :=
        Nat.mul_le_mul_right _ hgt
      refine .inr (.inr ?_)
      show descOffset media lba + sizeofHwImageDescription ≤ f.hwDescAddress
      rw [Nat.add_mul (lba + 1)] at hnext
      omega

/-- `WriteFileDescription` computes the address in a `UINTN`. -/
lemma hwDescAddressOf_dvd (hmedia : media.Regular cfg.arch) (blockEnd : UInt32) :
    media.blockSize ∣ hwDescAddressOf cfg media blockEnd + sizeofHwImageDescription := by
  have hend : media.blockSize ∣ cfg.arch.uintn ((blockEnd + 1).toNat * media.blockSize) :=
    (Nat.dvd_mod_iff hmedia.divides).mpr (Nat.dvd_mul_left _ _)
  have hrange : 2 ^ 32 ≤ 2 ^ cfg.arch.uintnBits :=
    Nat.pow_le_pow_right (by decide) (by cases cfg.arch <;> decide)
  rw [hwDescAddressOf, Arch.uintnSub]
  generalize cfg.arch.uintn ((blockEnd + 1).toNat * media.blockSize) = a at hend ⊢
  -- the address and 136 make `a`, but for multiples of the range
  obtain ⟨q, hq⟩ : ∃ q, 2 ^ cfg.arch.uintnBits * q +
      (cfg.arch.uintn (a + (2 ^ cfg.arch.uintnBits - sizeofHwImageDescription)) +
        sizeofHwImageDescription) = a + 2 ^ cfg.arch.uintnBits := by
    have hsplit := Nat.div_add_mod (a + (2 ^ cfg.arch.uintnBits - sizeofHwImageDescription))
      (2 ^ cfg.arch.uintnBits)
    have hsmall : sizeofHwImageDescription ≤ 2 ^ 32 := by decide
    rw [← Arch.uintn] at hsplit
    refine ⟨(a + (2 ^ cfg.arch.uintnBits - sizeofHwImageDescription)) / 2 ^ cfg.arch.uintnBits, ?_⟩
    rw [← Nat.add_assoc, hsplit]
    omega
  have hsum := Nat.dvd_add hend hmedia.divides
  rw [← hq] at hsum
  exact (Nat.dvd_add_right (hmedia.divides.mul_right q)).mp hsum

lemma writeFileDescription_anchored (hmedia : media.Regular cfg.arch) (name : FileName)
    (dataSize : UInt32) (fileStart : ℕ) (s : Services) (h : f.Anchored media) :
    (writeFileDescription cfg media f name dataSize fileStart s).2.1.Anchored media := by
  unfold writeFileDescription
  split
  · exact .inr (hwDescAddressOf_dvd hmedia _)
  · exact h

/-- The files of a volume have distinct handles, and addresses of descriptions. -/
structure Anchors (v : Volume) : Prop where
  regular : v.media.Regular v.cfg.arch
  distinct : Distinct v.files
  fresh : ∀ f ∈ v.files, f.handle < v.nextHandle
  anchored : ∀ f ∈ v.files, f.Anchored v.media

namespace Anchors

lemma still (h : Anchors v) (hstill : Still v' v) : Anchors v' := by
  obtain ⟨hvolume, change, hsame, hfiles⟩ := hstill
  have hmem : ∀ f' ∈ v'.files, ∃ f ∈ v.files, SamePlace f' f := by
    intro f' hf'
    rw [hfiles] at hf'
    obtain ⟨f, hf, rfl⟩ := List.mem_map.mp hf'
    exact ⟨f, hf, hsame f hf⟩
  refine ⟨by rw [hvolume.media, hvolume.cfg]; exact h.regular, ?_, fun f' hf' => ?_,
    fun f' hf' => ?_⟩
  · have hhandles : (v.files.map change).map (·.handle) = v.files.map (·.handle) := by
      rw [List.map_map]
      exact List.map_congr_left fun f hf => (hsame f hf).handle
    rw [Distinct, hfiles, hhandles]
    exact h.distinct
  · obtain ⟨f, hf, hplace⟩ := hmem f' hf'
    rw [hplace.handle, hvolume.nextHandle]
    exact h.fresh f hf
  · obtain ⟨f, hf, hplace⟩ := hmem f' hf'
    rw [File.Anchored, hplace.hwDescAddress, hvolume.media]
    exact h.anchored f hf

lemma sublist (h : Anchors v) (hvolume : SameVolume v' v) (hfiles : v'.files.Sublist v.files) :
    Anchors v' where
  regular := by rw [hvolume.media, hvolume.cfg]; exact h.regular
  distinct := h.distinct.sublist (hfiles.map _)
  fresh := fun f hf => hvolume.nextHandle ▸ h.fresh f (hfiles.subset hf)
  anchored := fun f hf => hvolume.media ▸ h.anchored f (hfiles.subset hf)

lemma cons (h : Anchors v) (hcreates : Creates v f v') : Anchors v' where
  regular := by rw [hcreates.media, hcreates.cfg]; exact h.regular
  distinct := (hcreates.handles h.distinct h.fresh).1
  fresh := (hcreates.handles h.distinct h.fresh).2
  anchored := by
    intro g hg
    rw [hcreates.files] at hg
    rw [hcreates.media]
    rcases List.mem_cons.mp hg with rfl | hg
    · exact .inl hcreates.hwDescAddress
    · exact h.anchored g hg

/-- A flush gives the file no other address than that of a description. -/
lemma flush (h : Anchors v) : Anchors (bootMonFsFlushFile handle v).2 := by
  have hdistinct : Distinct (bootMonFsFlushFile handle v).2.files := flush_distinct h.distinct
  rcases flushFile_cases handle v with ⟨status, -, heq⟩ |
    ⟨f, info, fileStart, files, hlookup, hinfo, -, hplace, heq⟩
  · rw [heq]
    exact h
  obtain ⟨hf, -⟩ := lookup_some hlookup
  have hopen := (@flushPlaced_stillOpen f v.services (flushContext v f info fileStart files) info
    hinfo).1
  have hanchored : (flushPlaced (flushContext v f info fileStart files) info f
      v.services).2.1.Anchored v.media :=
    flushPlaced_keeps (P := fun g _ => g.Anchored v.media) (fun _ _ h => h) (fun _ _ _ _ h => h)
      (fun _ s name dataSize => writeFileDescription_anchored h.regular name dataSize _ s)
      (fun _ _ h => h) (h.anchored f hf)
  rw [heq] at hdistinct ⊢
  have hmem : ∀ g ∈ files, g ∈ v.files := by
    intro g hg
    rcases placeFile_files hplace with rfl | ⟨k, rfl⟩
    · exact hg
    · rcases mem_relink hg with rfl | hg
      · exact hf
      · exact hg
  refine ⟨h.regular, hdistinct, fun g hg => ?_, fun g hg => ?_⟩
  · rcases mem_update hg with rfl | hg
    · rw [hopen.handle]
      exact h.fresh f hf
    · exact h.fresh g (hmem g hg)
  · rcases mem_update hg with rfl | hg
    · exact hanchored
    · exact h.anchored g (hmem g hg)

/-- What discovery finds lies at the end of its block. -/
lemma discover (h : Anchors v) : Anchors (bootMonFsInitialize v).2 := by
  refine initializeLoop_keeps (fun v s nextHandle initialized h hnext => ?_)
    (fun v s l d h hl _ => ?_) (v.media.lastBlock + 2) 0 h
  · exact ⟨h.regular, h.distinct, fun f hf => Nat.lt_of_lt_of_le (h.fresh f hf) hnext,
      h.anchored⟩
  · have hmem : ∀ {P : File → Prop}, (∀ f ∈ v.files, P f) →
        P { File.created v.nextHandle with
          hwDescription := d
          hwDescAddress := descAddress v.cfg.arch v.media l } →
        ∀ f ∈ v.files ++ [{ File.created v.nextHandle with
          hwDescription := d
          hwDescAddress := descAddress v.cfg.arch v.media l }], P f := by
      intro P hold hnew f hf
      rcases List.mem_append.mp hf with hf | hf
      · exact hold f hf
      · exact List.mem_singleton.mp hf ▸ hnew
    refine ⟨h.regular, ?_, ?_, ?_⟩
    · show (List.map (·.handle) (v.files ++ [_])).Nodup
      rw [List.map_append, List.nodup_append]
      refine ⟨h.distinct, List.nodup_singleton _, ?_⟩
      intro x hx y hy
      obtain ⟨g, hg, rfl⟩ := List.mem_map.mp hx
      rw [List.mem_singleton.mp hy]
      exact Nat.ne_of_lt (h.fresh g hg)
    · exact hmem (fun f hf => Nat.lt_succ_of_lt (h.fresh f hf)) (Nat.lt_succ_self _)
    · refine hmem h.anchored (.inr ?_)
      exact h.regular.descAddress_dvd hl

/-- One call. -/
lemma perform (h : Anchors v) (env : Environment) (call : Call) :
    Anchors (perform call (v.enter env)).2 := by
  have hv : Anchors (v.enter env) := h.still (still_of_files ⟨rfl, rfl, rfl, rfl⟩ rfl)
  generalize v.enter env = v at hv
  have hstep : ∀ handle, Anchors (bootMonFsFlushFile handle v).2 := fun handle => hv.flush
  cases call with
  | openFile name mode attributes =>
      have hopen : ∀ v : Volume, Anchors v →
          Anchors (openInRoot name mode attributes v).2.2 := by
        intro v hv
        rcases openInRoot_step hv.distinct name mode attributes with hstill | ⟨f, hcreates⟩
        · exact hv.still hstill
        · exact hv.cons hcreates
      show Anchors (bootMonFsOpenFile name mode attributes v).2.2
      unfold bootMonFsOpenFile
      split
      · exact hopen v hv
      · have hinit := hv.discover
        generalize bootMonFsInitialize v = outcome at hinit
        obtain ⟨status, v'⟩ := outcome
        dsimp only
        split
        · exact hinit
        · exact hopen v' hinit
  | closeFile handle =>
      show Anchors (bootMonFsCloseFile handle v).2
      unfold bootMonFsCloseFile
      split
      · exact hv
      · exact (hstep handle).still (still_close handle _)
  | delete handle =>
      rcases delete_step handle hv.distinct with hstill | ⟨hvolume, hfiles⟩
      · exact hv.still hstill
      · exact hv.sublist hvolume hfiles
  | readFile handle bufferSize =>
      show Anchors (bootMonFsReadFile handle bufferSize v).2.2
      rcases readFile_still bufferSize (hstep handle).distinct with heq | ⟨hstill, -⟩
      · rw [heq]
        exact hv
      · exact (hstep handle).still hstill
  | writeFile handle buffer => exact hv.still (writeFile_still handle hv.distinct buffer)
  | setPosition handle position =>
      exact hv.still (setPosition_still handle hv.distinct position)
  | setInfo handle args => exact hv.still (setInfo_still handle hv.distinct args)
  | flushFile handle => exact hstep handle

end Anchors

/-- In every run the address that is cleared is that of a description, or of no part of one. -/
theorem clearsOne_of_run {v₀ : Volume} {calls : List (Environment × Call)}
    (hmounted : Mounted v₀) (hmedia : v₀.media.Regular v₀.cfg.arch)
    (hrun : driver.Run v₀ calls v) : ∀ f ∈ v.files, f.ClearsOne v.media := by
  have hstart : Anchors v₀ := by
    obtain ⟨v₁, hfiles, hinit⟩ := hmounted
    obtain ⟨hsame, hcfg⟩ := initializeLoop_media (v₁.media.lastBlock + 2) 0 v₁
    rw [← bootMonFsInitialize, hinit] at hsame hcfg
    have hempty : Anchors v₁ := by
      refine ⟨hsame ▸ hcfg ▸ hmedia, ?_, ?_, ?_⟩ <;> rw [hfiles]
      · exact List.nodup_nil
      · exact fun f hf => absurd hf List.not_mem_nil
      · exact fun f hf => absurd hf List.not_mem_nil
    have hinitialize := hempty.discover
    rwa [hinit] at hinitialize
  have hend : Anchors v := by
    refine System.Run.invariant ?_ hrun hstart
    rintro s ⟨env, call⟩ t hs hstep
    rw [show t = (BootMonFs.perform call (s.enter env)).2 from hstep]
    exact hs.perform env call
  exact fun f hf => (hend.anchored f hf).clearsOne hend.regular

end Anchored

/-! ## The outcomes -/

section Outcome

variable {v : Volume} {f : File} {handle : ℕ}

/-- The bytes of the media once the description has been cleared. -/
def clearedContent (v : Volume) (f : File) : ByteStore :=
  if f.onDisk then
    v.services.content.write f.hwDescAddress (List.replicate sizeofHwImageDescription 0)
  else v.services.content

/-- A deletion takes the file off the list, or leaves it there with its information. -/
lemma delete_cases (hlookup : lookup handle v.files = some f) (hopen : f.info.isSome = true) :
    (Clears v f ∧ ∃ s, s.content = clearedContent v f ∧ bootMonFsDelete handle v =
      (.success, { v with files := v.files.filter fun g => g.handle ≠ handle, services := s })) ∨
    (¬ Clears v f ∧ ∃ s, bootMonFsDelete handle v =
      (.warnDeleteFailure, v.put { f with regionToFlush := [] } s)) := by
  have hclosed : ¬ f.info.isNone = true := by
    rw [← Option.not_isSome, hopen]
    exact Bool.false_ne_true
  unfold bootMonFsDelete
  simp only [hlookup]
  rw [if_neg hclosed]
  by_cases hdisk : f.onDisk = true
  · rw [if_pos (show File.onDisk { f with regionToFlush := [] } = true from hdisk),
      invalidateImageDescription]
    cases halloc : v.services.env.allocate v.services.requests with
    | false =>
        have hno : ¬ Clears v f := by
          intro h
          rw [(h hdisk).1] at halloc
          cases halloc
        refine .inr ⟨hno, v.services.asked 1, ?_⟩
        rw [Services.allocatePool_asked halloc]
        rfl
    | true =>
        rw [Services.allocatePool_asked halloc]
        dsimp only
        cases hwrite : (v.services.env.writeDisk (v.services.requests + 1)).isError with
        | true =>
            have hno : ¬ Clears v f := by
              intro h
              rw [(h hdisk).2] at hwrite
              cases hwrite
            exact .inr ⟨hno, _, if_pos hwrite⟩
        | false =>
            refine .inl ⟨fun _ => ⟨halloc, hwrite⟩, _, ?_,
              if_neg (fun h => absurd (hwrite.symm.trans h) Bool.false_ne_true)⟩
            have hwhole : ¬ ((v.services.asked 1).env.writeDisk
                (v.services.asked 1).requests).isError = true :=
              fun h => absurd (hwrite.symm.trans h) Bool.false_ne_true
            rw [clearedContent, if_pos hdisk]
            simp only [Services.writeDisk, if_neg hwhole]
            rfl
  · rw [if_neg (show ¬ File.onDisk { f with regionToFlush := [] } = true from hdisk)]
    refine .inl ⟨fun h => absurd h hdisk, v.services, ?_, rfl⟩
    rw [clearedContent, if_neg hdisk]

/-- The clearing changes the bytes of the description that are not zero yet. -/
lemma clearedContent_eq_iff (a : ℕ) : clearedContent v f a = v.services.content a ↔
    (f.onDisk = true → f.descSpan.Has a → v.services.content a = 0) := by
  rw [clearedContent]
  by_cases hdisk : f.onDisk = true
  · rw [if_pos hdisk, forall_prop_of_true hdisk]
    by_cases hin : f.descSpan.Has a
    · obtain ⟨k, rfl⟩ : ∃ k, a = f.hwDescAddress + k := ⟨a - f.hwDescAddress, by
        have hle : f.hwDescAddress ≤ a := hin.1
        omega⟩
      have hk : k < sizeofHwImageDescription := Nat.lt_of_add_lt_add_left hin.2
      rw [ByteStore.write_apply_on (by rw [List.length_replicate]; exact hk),
        List.getElem_replicate, forall_prop_of_true hin]
      exact eq_comm
    · refine iff_of_true (ByteStore.write_apply_off ?_) (fun h => absurd h hin)
      rw [List.length_replicate]
      unfold Span.Has at hin
      have hspan : f.descSpan.lo = f.hwDescAddress ∧
        f.descSpan.len = sizeofHwImageDescription := ⟨rfl, rfl⟩
      omega
  · rw [if_neg hdisk]
    exact iff_of_true rfl fun h => absurd h hdisk

/-- The images with a name of the file once its description has been cleared. -/
lemma clearedContent_images (hone : f.ClearsOne v.media) (P : ℕ → Prop) :
    (∀ lba ≤ v.media.lastBlock, isImageAt v.media (clearedContent v f) lba = true →
      f.Named (imageAt v.media (clearedContent v f) lba).footer.name →
        P (descAddress v.cfg.arch v.media lba)) ↔
    ∀ lba ≤ v.media.lastBlock, isImageAt v.media v.services.content lba = true →
      f.Named (imageAt v.media v.services.content lba).footer.name →
        P (descAddress v.cfg.arch v.media lba) ∨
          (f.onDisk = true ∧ f.hwDescAddress = descOffset v.media lba) := by
  refine forall_congr' fun l => forall_congr' fun hl => ?_
  rw [clearedContent]
  by_cases hdisk : f.onDisk = true
  · rw [if_pos hdisk]
    rcases @imageAt_cleared v.media v.services.content l f hone hl with
      ⟨heq, hnone⟩ | ⟨hne, hsame⟩
    · rw [hnone]
      exact iff_of_true (fun h => by cases h) fun _ _ => .inr ⟨hdisk, heq⟩
    · simp only [isImageAt, hsame, hne, and_false, or_false]
  · rw [if_neg hdisk]
    simp only [hdisk, false_and, or_false, Bool.false_eq_true]

/-- `BootMonFsDelete` is clean exactly when the clearing succeeds, hits no byte of another file
and leaves no description of the file. -/
theorem deleteClean_iff (hlookup : lookup handle v.files = some f)
    (hopen : f.info.isSome = true) (hone : f.ClearsOne v.media) :
    DeleteClean handle v f ↔ DeletesWhole v f := by
  obtain ⟨hmem, rfl⟩ := lookup_some hlookup
  have hothers : ∀ g, g ∈ v.files.filter (fun g => g.handle ≠ f.handle) ↔
      g ∈ v.files ∧ g.handle ≠ f.handle := by
    intro g
    rw [List.mem_filter, decide_eq_true_eq]
  rcases delete_cases hlookup hopen with ⟨hclears, s, hcontent, hcall⟩ | ⟨hclears, s, hcall⟩
  · generalize hv' : ({ v with
      files := v.files.filter fun g => g.handle ≠ f.handle
      services := s } : Volume) = v' at hcall
    have hscan := mem_freshScan (v := v')
      fun address footer => f.Named footer.name → ∃ g ∈ v'.files, g.hwDescAddress = address
    have himages := clearedContent_images (v := v) hone
      fun address => ∃ g ∈ v'.files, g.hwDescAddress = address
    subst hv'
    rw [hcontent] at hscan
    simp only [hothers, and_assoc] at hscan himages
    constructor
    · rintro ⟨-, hdeleted, -⟩
      rw [hcall] at hdeleted
      obtain ⟨-, hunscanned, -, hbytes⟩ := hdeleted rfl
      refine ⟨hclears, fun hdisk g hg hne a ha hin => ?_, ?_⟩
      · have hsame := hbytes g ((hothers g).mpr ⟨hg, hne⟩) a ha
        rw [hcontent] at hsame
        exact (clearedContent_eq_iff a).mp hsame hdisk hin
      · simp only [hothers, and_assoc] at hunscanned
        exact himages.mp (hscan.mp hunscanned)
    · rintro ⟨-, hspares, hsingle⟩
      refine ⟨freeRegions_eq _, fun _ => ?_, fun h => ?_⟩
      · rw [hcall]
        refine ⟨fun g hg => ((hothers g).mp hg).2, ?_, fun g hne => ?_, fun g hg a ha => ?_⟩
        · simp only [hothers, and_assoc]
          exact hscan.mpr (himages.mpr hsingle)
        · exact (hothers g).trans (and_iff_left hne)
        · obtain ⟨hg', hne⟩ := (hothers g).mp hg
          rw [hcontent]
          exact (clearedContent_eq_iff a).mpr fun hdisk => hspares hdisk g hg' hne a ha
      · rw [hcall] at h
        cases h
  · constructor
    · -- the file is still open
      intro h
      have hfailed := h.failed (by rw [hcall])
      rw [hcall] at hfailed
      obtain ⟨g, hg, hnone⟩ := hfailed.closed
      have hput : lookup f.handle (v.put { f with regionToFlush := [] } s).files =
          some { f with regionToFlush := [] } := lookup_update hlookup rfl
      obtain rfl := Option.some.inj (hput.symm.trans hg)
      rw [show f.info = none from hnone] at hopen
      cases hopen
    · exact fun h => absurd h.clears hclears

end Outcome

/-! ## A clearing that fails -/

/-- An environment in which every write fails. -/
def Environment.writeFails : Environment :=
  { Environment.good with writeDisk := fun _ => .deviceError }

/-- A file of 100 bytes on a blank media. -/
theorem deleteClean_iff_flushed : ∃ f, lookup 1 (volumeAfter (writeA 100)).files = some f ∧
    DeleteClean 1 (volumeAfter (writeA 100)) f := by
  have hfile : (lookup 1 (volumeAfter (writeA 100)).files).map
      (fun f => (f.info.isSome, f.onDisk, f.hwDescAddress)) = some (true, true, 376) := by
    decide +kernel
  obtain ⟨f, hlookup, hf⟩ := Option.map_eq_some_iff.mp hfile
  simp only [Prod.mk.injEq] at hf
  obtain ⟨hopen, hdisk, haddress⟩ := hf
  have hone : f.ClearsOne (volumeAfter (writeA 100)).media :=
    clearsOne_of_run (blankVolume_mounted 3 (by decide)) ⟨⟨by decide, by decide⟩,
      by decide, by decide⟩ (run_runCalls (writeA 100) _) f (lookup_some hlookup).1
  refine ⟨f, hlookup, (deleteClean_iff hlookup hopen hone).mpr ⟨fun _ => ⟨rfl, rfl⟩, ?_, ?_⟩⟩
  · intro _ g hg hne
    have honly : ∀ g ∈ (volumeAfter (writeA 100)).files, g.handle = 1 := by decide +kernel
    exact absurd ((honly g hg).trans (lookup_some hlookup).2.symm) hne
  · intro lba hlba himage _
    have honly : ∀ lba ≤ (volumeAfter (writeA 100)).media.lastBlock,
        isImageAt (volumeAfter (writeA 100)).media
          (volumeAfter (writeA 100)).services.content lba = true →
        descOffset (volumeAfter (writeA 100)).media lba = 376 := by decide +kernel
    exact .inr ⟨hdisk, haddress.trans (honly lba hlba himage).symm⟩

/-- The clearing of the description fails: the file stays open. -/
theorem not_deleteClean_writeFails :
    ¬ ∀ v₀ calls v env handle f, Mounted v₀ → driver.Run v₀ calls v →
      lookup handle v.files = some f → f.info.isSome = true →
        DeleteClean handle (v.enter env) f := by
  intro h
  have hstatus : (bootMonFsDelete 1 ((volumeAfter (writeA 100)).enter .writeFails)).1 =
      .warnDeleteFailure := by decide +kernel
  have hstays : (lookup 1 (bootMonFsDelete 1
      ((volumeAfter (writeA 100)).enter .writeFails)).2.files).map (·.info.isSome) =
        some true := by decide +kernel
  obtain ⟨f, hlookup⟩ : ∃ f, lookup 1 (volumeAfter (writeA 100)).files = some f :=
    Option.isSome_iff_exists.mp (by decide +kernel)
  have hopen : (lookup 1 (volumeAfter (writeA 100)).files).all (·.info.isSome) = true := by
    decide +kernel
  rw [hlookup] at hopen
  have hclean := h _ _ _ .writeFails 1 f (blankVolume_mounted 3 (by decide))
    (run_runCalls (writeA 100) _) hlookup hopen
  obtain ⟨g, hg, hnone⟩ := (hclean.failed hstatus).closed
  have hgone : (some g).map (·.info.isSome) = some true := by
    rw [← hg]
    exact hstays
  rw [Option.map_some, hnone] at hgone
  cases hgone

end BootMonFs

end MuPlatform
