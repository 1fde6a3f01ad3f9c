import MuPlatform.BootMonFs.Volume

/-!
# Discovery

How the files of a volume are found on its media (`BootMonFsImages.c`): every block is read at
the place a description would have in it, and each valid description becomes a file at the end
of the list.
-/

namespace MuPlatform
namespace BootMonFs

/-- The address of the description in a block of the media. -/
def descOffset (media : Media) (lba : ℕ) : ℕ :=
  uint64Sub (uint64 ((lba + 1) * media.blockSize)) sizeofHwImageDescription

/-- What a file keeps of it: `HwDescAddress` is a `UINTN`. -/
def descAddress (arch : Arch) (media : Media) (lba : ℕ) : ℕ := arch.uintn (descOffset media lba)

/-- `BootMonFsIsImageValid`, with the description it leaves: without memory for the checksum
only `Attributes` changes. -/
def bootMonFsIsImageValid (d : HwImageDescription) (lba : ℕ) (s : Services) :
    Bool × HwImageDescription × Services :=
  if d.hasFooter then
    match s.allocatePool with
    | (true, s') => (d.endsAt lba, d.checksummed, s')
    | (false, s') => (d.endsAt lba, { d with attributes := 1 }, s')
  else (false, d, s)

/-- What a search for the next image ends with. -/
structure Discovery where
  status : EfiStatus
  lba : ℕ
  file : File
  services : Services

/-- The loop of `BootMonFsDiscoverNextImage` over the `n` blocks from `lba` on. -/
def discoverNextImage (arch : Arch) (media : Media) (lbaStart : ℕ) :
    ℕ → ℕ → File → Services → Discovery
  | 0, lba, file, s => ⟨.notFound, lba, file, s⟩
  | n + 1, lba, file, s =>
      let read := s.readDisk
      if read.1.isError then ⟨read.1, lbaStart, file, read.2⟩
      else
        let d := HwImageDescription.ofStore s.content (descOffset media lba)
        let valid := bootMonFsIsImageValid d (uint64Sub lba media.lowestAlignedLba) read.2
        if valid.1 then
          ⟨.success, lba + 1,
            { file with hwDescription := valid.2.1, hwDescAddress := descAddress arch media lba },
            valid.2.2⟩
        else discoverNextImage arch media lbaStart n (lba + 1)
          { file with hwDescription := valid.2.1 } valid.2.2

/-- `BootMonFsDiscoverNextImage` from `*LbaStart` on. -/
def bootMonFsDiscoverNextImage (arch : Arch) (media : Media) (lbaStart : ℕ) (file : File)
    (s : Services) : Discovery :=
  discoverNextImage arch media lbaStart (media.lastBlock + 1 - lbaStart) lbaStart file s

/-- The loop of `BootMonFsInitialize`; every image it finds moves `lba` on, so it is left after
as many rounds as there are blocks and one more. -/
def initializeLoop : ℕ → ℕ → Volume → EfiStatus × Volume
  | 0, _, v => (.success, v)
  | n + 1, lba, v =>
      match bootMonFsCreateFile v with
      | (none, v') => (.outOfResources, v')
      | (some file, v') =>
          let found := bootMonFsDiscoverNextImage v.cfg.arch v.media lba file v'.services
          if found.status.isError then
            (.success, { v' with services := found.services, initialized := true })
          else initializeLoop n found.lba
            { v' with services := found.services, files := v'.files ++ [found.file] }

/-- `BootMonFsInitialize`. -/
def bootMonFsInitialize (v : Volume) : EfiStatus × Volume :=
  initializeLoop (v.media.lastBlock + 2) 0 v

/-! ## What the search finds -/

variable {arch : Arch} {media : Media}

lemma endsAt_iff {d : HwImageDescription} {lba : ℕ} :
    d.endsAt lba = true ↔ d.blockEnd.toNat = lba ∧ d.blockStart.toNat ≤ d.blockEnd.toNat := by
  rw [HwImageDescription.endsAt, Bool.and_eq_true, decide_eq_true_iff, decide_eq_true_iff,
    UInt32.le_iff_toNat_le]

/-- The description a valid image keeps ends where it was found. -/
lemma bootMonFsIsImageValid_endsAt {d : HwImageDescription} {lba : ℕ} {s : Services}
    (h : (bootMonFsIsImageValid d lba s).1 = true) :
    (bootMonFsIsImageValid d lba s).2.1.endsAt lba = true := by
  unfold bootMonFsIsImageValid at h ⊢
  by_cases hfooter : d.hasFooter = true
  · rw [if_pos hfooter] at h ⊢
    split at h <;> exact h
  · rw [if_neg hfooter] at h
    cases h

/-- One block of the search. -/
lemma discoverNextImage_succ (lbaStart n lba : ℕ) (file : File) (s : Services) :
    (s.readDisk.1.isError = true ∧
      discoverNextImage arch media lbaStart (n + 1) lba file s =
        ⟨s.readDisk.1, lbaStart, file, s.readDisk.2⟩) ∨
    (∃ d s', d.endsAt (uint64Sub lba media.lowestAlignedLba) = true ∧
      discoverNextImage arch media lbaStart (n + 1) lba file s =
        ⟨.success, lba + 1,
          { file with hwDescription := d, hwDescAddress := descAddress arch media lba }, s'⟩) ∨
    ∃ d s', discoverNextImage arch media lbaStart (n + 1) lba file s =
      discoverNextImage arch media lbaStart n (lba + 1) { file with hwDescription := d } s' := by
  rw [discoverNextImage]
  by_cases herror : s.readDisk.1.isError = true
  · exact .inl ⟨herror, if_pos herror⟩
  rw [if_neg herror]
  dsimp only
  generalize hvalid : bootMonFsIsImageValid
    (HwImageDescription.ofStore s.content (descOffset media lba))
      (uint64Sub lba media.lowestAlignedLba) s.readDisk.2 = valid
  by_cases hends : valid.1 = true
  · rw [if_pos hends]
    refine .inr (.inl ⟨valid.2.1, valid.2.2, ?_, rfl⟩)
    rw [← hvalid] at hends ⊢
    exact bootMonFsIsImageValid_endsAt hends
  · rw [if_neg hends]
    exact .inr (.inr ⟨valid.2.1, valid.2.2, rfl⟩)

/-- What the search finds is a description in one of the blocks it looks at. -/
lemma discoverNextImage_found {lbaStart : ℕ} (n lba : ℕ) (file : File) (s : Services)
    (h : (discoverNextImage arch media lbaStart n lba file s).status.isError = false) :
    ∃ l d s', lba ≤ l ∧ l < lba + n ∧ d.endsAt (uint64Sub l media.lowestAlignedLba) = true ∧
      discoverNextImage arch media lbaStart n lba file s = ⟨.success, l + 1,
        { file with hwDescription := d, hwDescAddress := descAddress arch media l }, s'⟩ := by
  induction n generalizing lba file s with
  | zero => cases h
  | succ n ih =>
      rcases discoverNextImage_succ lbaStart n lba file s with
        ⟨herror, heq⟩ | ⟨d, s', hends, heq⟩ | ⟨d, s', heq⟩
      · rw [heq] at h
        rw [herror] at h
        cases h
      · exact ⟨lba, d, s', Nat.le_refl _, by omega, hends, heq⟩
      · rw [heq] at h ⊢
        obtain ⟨l, d', s'', hle, hlt, hends, heq'⟩ := ih _ _ _ h
        exact ⟨l, d', s'', by omega, by omega, hends, heq'⟩

/-- What holds through the loop of `BootMonFsInitialize`: it is kept by work that leaves the
files alone, and by the file of an image put at the end of the list. -/
lemma initializeLoop_keeps {P : Volume → Prop}
    (hskip : ∀ v s nextHandle initialized, P v → v.nextHandle ≤ nextHandle → P { v with
      services := s
      nextHandle := nextHandle
      initialized := initialized })
    (hfound : ∀ v s l d, P v → l ≤ v.media.lastBlock →
      d.endsAt (uint64Sub l v.media.lowestAlignedLba) = true → P { v with
        services := s
        nextHandle := v.nextHandle + 1
        files := v.files ++ [{ File.created v.nextHandle with
          hwDescription := d
          hwDescAddress := descAddress v.cfg.arch v.media l }] })
    (n lba : ℕ) {v : Volume} (h : P v) : P (initializeLoop n lba v).2 := by
  induction n generalizing lba v with
  | zero => exact h
  | succ n ih =>
      rw [initializeLoop]
      unfold bootMonFsCreateFile
      cases v.services.allocatePool with
      | mk ok s =>
        cases ok with
        | false => exact hskip v s _ _ h (Nat.le_refl _)
        | true =>
          dsimp only
          generalize hfind : bootMonFsDiscoverNextImage v.cfg.arch v.media lba
            (File.created v.nextHandle) s = found
          by_cases herror : found.status.isError = true
          · rw [if_pos herror]
            exact hskip v _ _ _ h (Nat.le_succ _)
          · rw [if_neg herror]
            unfold bootMonFsDiscoverNextImage at hfind
            obtain ⟨l, d, s', hle, hlt, hends, heq⟩ :=
              @discoverNextImage_found v.cfg.arch v.media lba _ lba
                (File.created v.nextHandle) s (by rw [hfind]; simpa using herror)
            rw [heq] at hfind
            subst hfind
            exact ih (l + 1) (hfound v s' l d h (by omega) hends)

end BootMonFs

end MuPlatform
