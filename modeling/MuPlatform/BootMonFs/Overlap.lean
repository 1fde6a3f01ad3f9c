import MuPlatform.BootMonFs.Layout

/-!
# Files do not overlap

Whatever is done with the files of a volume whose discovered files lie apart in disk order, the
flushed files lie apart, inside the media and in list order, and a flush writes only to the
blocks of the file it flushes, as long as each flush fits its room (`FlushesFit`).
`noOverlap_of_run` is the statement about runs.

The invariant is `LayoutInv`.  A flush is the only call that moves a file; every other call
keeps handle, description and place of the files it leaves in the list (`SamePlace`).
-/

namespace MuPlatform
namespace BootMonFs

/-! ## The statement -/

/-- The flushed files lie apart, inside the media, in list order. -/
structure Volume.NoOverlap (v : Volume) : Prop where
  apart : v.files.Pairwise fun f g => f.onDisk = true → g.onDisk = true →
    f.blockEnd < g.blockStart ∨ g.blockEnd < f.blockStart
  inside : ∀ f ∈ v.files, f.onDisk = true →
    f.blockStart ≤ f.blockEnd ∧ f.blockEnd ≤ v.media.lastBlock
  ordered : v.files.Pairwise fun f g => f.onDisk = true → g.onDisk = true →
    f.blockStart < g.blockStart

/-- The writes of a call. -/
def newWrites (v v' : Volume) : List DiskWrite := v'.services.log.drop v.services.log.length

/-- The writes of the flush of a file go to the blocks it has before or after the call. -/
def WritesOwnBlocks (v : Volume) (call : Call) (v' : Volume) : Prop :=
  ∀ handle, call.flushes = some handle → ∀ w ∈ newWrites v v', ∃ f f',
    lookup handle v.files = some f ∧ lookup handle v'.files = some f' ∧
      (w.span.Within (f.extent v.media) ∨ w.span.Within (f'.extent v.media))

/-- The flush of the file behind a handle fits its room, if it gets as far as that. -/
def FlushInRoom (v : Volume) (handle : ℕ) : Prop :=
  ∀ f info fileStart files, lookup handle v.files = some f → f.info = some info →
    f.openMode ≠ .read →
    placeFile v.cfg v.media f info.fileSize v.files = some (fileStart, files) →
    FlushFits (flushContext v f info fileStart files) f info (filesAfter handle files)

instance (v : Volume) (handle : ℕ) : Decidable (FlushInRoom v handle) :=
  decidable_of_iff (∀ f ∈ lookup handle v.files, ∀ info ∈ f.info, f.openMode ≠ .read →
      ∀ place ∈ placeFile v.cfg v.media f info.fileSize v.files,
        FlushFits (flushContext v f info place.1 place.2) f info (filesAfter handle place.2))
    ⟨fun h f info fileStart files hlookup hinfo hmode hplace =>
        h f hlookup info hinfo hmode (fileStart, files) hplace,
      fun h f hlookup info hinfo hmode place hplace =>
        h f info place.1 place.2 hlookup hinfo hmode hplace⟩

/-- The condition on a call: where it flushes, no allocation and no write fails and the flush
fits its room. -/
def FlushesFit (v : Volume) (call : Environment × Call) : Prop :=
  ∀ handle, call.2.flushes = some handle → call.1.Quiet ∧ FlushInRoom v handle

/-! ## The invariant -/

/-- One file lies wholly before another. -/
def Before (f g : File) : Prop :=
  f.onDisk = true → g.onDisk = true → f.blockEnd < g.blockStart

structure LayoutInv (v : Volume) : Prop where
  initialized : v.initialized = true
  distinct : Distinct v.files
  fresh : ∀ f ∈ v.files, f.handle < v.nextHandle
  ordered : v.files.Pairwise Before
  placed : ∀ f ∈ v.files, f.onDisk = true → f.Placed v.media

lemma LayoutInv.noOverlap {v : Volume} (h : LayoutInv v) : v.NoOverlap where
  apart := h.ordered.imp fun hbefore hf hg => .inl (hbefore hf hg)
  inside := fun f hf hdisk => ⟨(h.placed f hf hdisk).le, (h.placed f hf hdisk).inside⟩
  ordered := by
    refine List.Pairwise.imp_of_mem (fun {f g} hf _ hbefore hdisk hdisk' => ?_) h.ordered
    exact Nat.lt_of_le_of_lt (h.placed f hf hdisk).le (hbefore hdisk hdisk')

/-- Two files with the same handle lie at the same place, described alike. -/
structure SamePlace (f' f : File) : Prop where
  handle : f'.handle = f.handle
  hwDescription : f'.hwDescription = f.hwDescription
  hwDescAddress : f'.hwDescAddress = f.hwDescAddress

namespace SamePlace

variable {f f' f'' g g' : File}

lemma refl (f : File) : SamePlace f f := ⟨rfl, rfl, rfl⟩

lemma trans (h : SamePlace f'' f') (h' : SamePlace f' f) : SamePlace f'' f :=
  ⟨h.handle.trans h'.handle, h.hwDescription.trans h'.hwDescription,
    h.hwDescAddress.trans h'.hwDescAddress⟩

lemma onDisk (h : SamePlace f' f) : f'.onDisk = f.onDisk := by
  rw [File.onDisk, File.onDisk, h.hwDescription]

lemma blockStart (h : SamePlace f' f) : f'.blockStart = f.blockStart := by
  rw [File.blockStart, File.blockStart, h.hwDescription]

lemma blockEnd (h : SamePlace f' f) : f'.blockEnd = f.blockEnd := by
  rw [File.blockEnd, File.blockEnd, h.hwDescription]

lemma extent (h : SamePlace f' f) (media : Media) : f'.extent media = f.extent media := by
  rw [File.extent, File.extent, h.onDisk, h.blockStart, h.blockEnd]

lemma before (hf : SamePlace f' f) (hg : SamePlace g' g) (h : Before f g) : Before f' g' := by
  intro hdisk hdisk'
  rw [hf.blockEnd, hg.blockStart]
  exact h (hf.onDisk ▸ hdisk) (hg.onDisk ▸ hdisk')

end SamePlace

/-- The parts of a volume that only opening a file changes. -/
structure SameVolume (v' v : Volume) : Prop where
  cfg : v'.cfg = v.cfg
  media : v'.media = v.media
  initialized : v'.initialized = v.initialized
  nextHandle : v'.nextHandle = v.nextHandle

lemma SameVolume.refl (v : Volume) : SameVolume v v := ⟨rfl, rfl, rfl, rfl⟩

lemma SameVolume.trans {v v' v'' : Volume} (h : SameVolume v'' v') (h' : SameVolume v' v) :
    SameVolume v'' v :=
  ⟨h.cfg.trans h'.cfg, h.media.trans h'.media, h.initialized.trans h'.initialized,
    h.nextHandle.trans h'.nextHandle⟩

/-- Work that leaves every file of the list at its place. -/
def Still (v' v : Volume) : Prop :=
  SameVolume v' v ∧ ∃ change : File → File,
    (∀ f ∈ v.files, SamePlace (change f) f) ∧ v'.files = v.files.map change

lemma still_of_files {v v' : Volume} (hvolume : SameVolume v' v) (hfiles : v'.files = v.files) :
    Still v' v :=
  ⟨hvolume, id, fun f _ => .refl f, by rw [hfiles, List.map_id]⟩

lemma still_put {v : Volume} {f f' : File} {handle : ℕ} (hdistinct : Distinct v.files)
    (hlookup : lookup handle v.files = some f) (hsame : SamePlace f' f) (s : Services) :
    Still (v.put f' s) v := by
  refine ⟨⟨rfl, rfl, rfl, rfl⟩, _, fun g hg => ?_, rfl⟩
  by_cases heq : g.handle = f'.handle
  · obtain ⟨hf, -⟩ := lookup_some hlookup
    rw [if_pos heq, hdistinct.eq_of_handle hg hf (heq.trans hsame.handle)]
    exact hsame
  · rw [if_neg heq]
    exact .refl g

/-- A file put in front of the list that has not been flushed. -/
structure Creates (v : Volume) (f : File) (v' : Volume) : Prop where
  handle : f.handle = v.nextHandle
  onDisk : f.onDisk = false
  hwDescAddress : f.hwDescAddress = 0
  cfg : v'.cfg = v.cfg
  media : v'.media = v.media
  initialized : v'.initialized = v.initialized
  nextHandle : v'.nextHandle = v.nextHandle + 1
  files : v'.files = f :: v.files

/-- The handle of a new file is a new one. -/
lemma Creates.handles {v v' : Volume} {f : File} (h : Creates v f v') (hdistinct : Distinct v.files)
    (hfresh : ∀ g ∈ v.files, g.handle < v.nextHandle) :
    Distinct v'.files ∧ ∀ g ∈ v'.files, g.handle < v'.nextHandle := by
  have hhandle := h.handle
  have hnext := h.nextHandle
  rw [h.files]
  constructor
  · rw [Distinct, List.map_cons, List.nodup_cons]
    refine ⟨fun hmem => ?_, hdistinct⟩
    obtain ⟨g, hg, heq⟩ := List.mem_map.mp hmem
    have := hfresh g hg
    omega
  · intro g hg
    rcases List.mem_cons.mp hg with rfl | hg
    · omega
    · have := hfresh g hg
      omega

/-- The file behind a handle is still there. -/
lemma Still.lookup {v v' : Volume} (h : Still v' v) (hdistinct : Distinct v'.files) {handle : ℕ}
    {f : File} (hlookup : lookup handle v.files = some f) :
    ∃ f', BootMonFs.lookup handle v'.files = some f' ∧ SamePlace f' f := by
  obtain ⟨-, change, hsame, hfiles⟩ := h
  obtain ⟨hf, rfl⟩ := lookup_some hlookup
  refine ⟨change f, ?_, hsame f hf⟩
  rw [← (hsame f hf).handle]
  exact hdistinct.lookup (by rw [hfiles]; exact List.mem_map_of_mem hf)

namespace LayoutInv

variable {v v' : Volume} {f f' : File} {handle : ℕ}

/-- The invariant speaks of handles, descriptions and places only. -/
lemma still (h : LayoutInv v) (hstill : Still v' v) : LayoutInv v' := by
  obtain ⟨hvolume, change, hsame, hfiles⟩ := hstill
  refine ⟨hvolume.initialized.trans h.initialized, ?_, ?_, ?_, ?_⟩
  · have hhandles : (v.files.map change).map (·.handle) = v.files.map (·.handle) := by
      rw [List.map_map]
      exact List.map_congr_left fun f hf => (hsame f hf).handle
    rw [Distinct, hfiles, hhandles]
    exact h.distinct
  · intro f' hf'
    rw [hfiles] at hf'
    obtain ⟨f, hf, rfl⟩ := List.mem_map.mp hf'
    rw [(hsame f hf).handle, hvolume.nextHandle]
    exact h.fresh f hf
  · rw [hfiles, List.pairwise_map]
    exact List.Pairwise.imp_of_mem
      (fun {f g} hf hg hbefore => (hsame f hf).before (hsame g hg) hbefore) h.ordered
  · intro f' hf' hdisk
    rw [hfiles] at hf'
    obtain ⟨f, hf, rfl⟩ := List.mem_map.mp hf'
    rw [hvolume.media]
    exact (h.placed f hf ((hsame f hf).onDisk ▸ hdisk)).congr (hsame f hf).hwDescription
      (hsame f hf).hwDescAddress

/-- Files taken out of the list. -/
lemma sublist (h : LayoutInv v) (hvolume : SameVolume v' v)
    (hfiles : v'.files.Sublist v.files) : LayoutInv v' where
  initialized := hvolume.initialized.trans h.initialized
  distinct := h.distinct.sublist (hfiles.map _)
  fresh := by
    intro f hf
    rw [hvolume.nextHandle]
    exact h.fresh f (hfiles.subset hf)
  ordered := h.ordered.sublist hfiles
  placed := by
    intro f hf hdisk
    rw [hvolume.media]
    exact h.placed f (hfiles.subset hf) hdisk

lemma cons (h : LayoutInv v) (hcreates : Creates v f v') : LayoutInv v' where
  initialized := hcreates.initialized.trans h.initialized
  distinct := (hcreates.handles h.distinct h.fresh).1
  fresh := (hcreates.handles h.distinct h.fresh).2
  ordered := by
    rw [hcreates.files, List.pairwise_cons]
    exact ⟨fun g _ hf => absurd hf (by simp [hcreates.onDisk]), h.ordered⟩
  placed := by
    intro g hg hgDisk
    rw [hcreates.files] at hg
    rw [hcreates.media]
    rcases List.mem_cons.mp hg with rfl | hg
    · exact absurd hgDisk (by simp [hcreates.onDisk])
    · exact h.placed g hg hgDisk

end LayoutInv

/-! ## Placing a file -/

section Place

variable {cfg : BuildConfig} {media : Media} {files : List File} {fileStart : ℕ} {f : File}

lemma filesAfter_split {pre post : List File} (h : Distinct (pre ++ f :: post)) :
    filesAfter f.handle (pre ++ f :: post) = post := by
  have hpre := h.ne_of_split.1
  clear h
  induction pre with
  | nil => rw [List.nil_append, filesAfter, if_pos rfl]
  | cons g pre ih =>
      rw [List.cons_append, filesAfter, if_neg (hpre g List.mem_cons_self)]
      exact ih fun k hk => hpre k (List.mem_cons_of_mem _ hk)

lemma uintn_block (hplain : media.Plain cfg.arch) {b : ℕ} (hb : b ≤ media.lastBlock + 1) :
    cfg.arch.uintn (b * media.blockSize) = b * media.blockSize :=
  Arch.uintn_of_lt (Nat.lt_of_le_of_lt (Nat.mul_le_mul_right _ hb) hplain.bytes_lt)

lemma roomEndBlock_le (hplaced : ∀ g ∈ files, g.onDisk = true → g.Placed media) :
    roomEndBlock media files ≤ media.lastBlock + 1 := by
  induction files with
  | nil => exact Nat.le_refl _
  | cons g files ih =>
      rw [roomEndBlock]
      by_cases hdisk : g.onDisk = true
      · rw [if_pos hdisk]
        have hg := hplaced g List.mem_cons_self hdisk
        have := hg.le
        have := hg.inside
        omega
      · rw [if_neg hdisk]
        exact ih fun k hk => hplaced k (List.mem_cons_of_mem _ hk)

lemma roomEndBlock_le_blockStart (hordered : files.Pairwise Before)
    (hplaced : ∀ g ∈ files, g.onDisk = true → g.Placed media) :
    ∀ g ∈ files, g.onDisk = true → roomEndBlock media files ≤ g.blockStart := by
  induction files with
  | nil => simp
  | cons k files ih =>
      obtain ⟨hbefore, hordered⟩ := List.pairwise_cons.mp hordered
      intro g hg hdisk
      rw [roomEndBlock]
      by_cases hk : k.onDisk = true
      · rw [if_pos hk]
        rcases List.mem_cons.mp hg with rfl | hg
        · exact Nat.le_refl _
        · have := (hplaced k List.mem_cons_self hk).le
          have := hbefore g hg hk hdisk
          omega
      · rw [if_neg hk]
        rcases List.mem_cons.mp hg with rfl | hg
        · exact absurd hdisk hk
        · exact ih hordered (fun j hj => hplaced j (List.mem_cons_of_mem _ hj)) g hg hdisk

/-- The search for space ends at block `b`: the flushed files before the place it found end
before that block. -/
def Passed (files : List File) (b : ℕ) : Option ℕ → Prop
  | some handle => ∃ pre e post, files = pre ++ e :: post ∧ e.handle = handle ∧
      e.onDisk = true ∧ ∀ g ∈ pre, g.onDisk = true → g.blockEnd < b
  | none => ∀ g ∈ files, g.onDisk = true → g.blockEnd < b

lemma Passed.cons {b : ℕ} {place : Option ℕ} (h : Passed files b place)
    (hf : f.onDisk = true → f.blockEnd < b) : Passed (f :: files) b place := by
  cases place with
  | none =>
      intro g hg hdisk
      rcases List.mem_cons.mp hg with rfl | hg
      · exact hf hdisk
      · exact h g hg hdisk
  | some handle =>
      obtain ⟨pre, e, post, rfl, hhandle, he, hpre⟩ := h
      refine ⟨f :: pre, e, post, rfl, hhandle, he, fun g hg hdisk => ?_⟩
      rcases List.mem_cons.mp hg with rfl | hg
      · exact hf hdisk
      · exact hpre g hg hdisk

lemma findSpace_passed (hplain : media.Plain cfg.arch) {size c : ℕ} {place : Option ℕ}
    (hordered : files.Pairwise Before)
    (hplaced : ∀ g ∈ files, g.onDisk = true → g.Placed media)
    (hfrom : ∀ g ∈ files, g.onDisk = true → c ≤ g.blockStart) (hc : c ≤ media.lastBlock + 1)
    (h : findSpace cfg media size files (c * media.blockSize) = some (fileStart, place)) :
    ∃ b, fileStart = b * media.blockSize ∧ c ≤ b ∧ b ≤ media.lastBlock + 1 ∧
      Passed files b place := by
  induction files generalizing c with
  | nil =>
      rw [findSpace] at h
      split at h
      · cases h
        exact ⟨c, rfl, Nat.le_refl _, hc, by simp [Passed]⟩
      · cases h
  | cons e files ih =>
      obtain ⟨hbefore, hordered⟩ := List.pairwise_cons.mp hordered
      have hplaced' : ∀ g ∈ files, g.onDisk = true → g.Placed media :=
        fun g hg => hplaced g (List.mem_cons_of_mem _ hg)
      rw [findSpace] at h
      by_cases hdisk : e.onDisk = true
      · rw [if_pos hdisk] at h
        split at h
        · cases h
          exact ⟨c, rfl, Nat.le_refl _, hc, [], e, files, rfl, rfl, hdisk, by simp⟩
        · have hstart := hfrom e List.mem_cons_self hdisk
          have hle := (hplaced e List.mem_cons_self hdisk).le
          have hlast := (hplaced e List.mem_cons_self hdisk).inside
          have hblocks := hplain.blocks_lt
          have hsucc : (e.hwDescription.blockEnd + 1).toNat = e.blockEnd + 1 := by
            rw [UInt32.toNat_add]
            exact Nat.mod_eq_of_lt (by simp [File.blockEnd] at *; omega)
          rw [hsucc, uintn_block hplain (by omega)] at h
          obtain ⟨b, hb, hle', hb', hpassed⟩ :=
            ih hordered hplaced' (fun g hg hg' => hbefore g hg hdisk hg') (by omega) h
          exact ⟨b, hb, by omega, hb', hpassed.cons fun _ => by omega⟩
      · rw [if_neg hdisk] at h
        obtain ⟨b, hb, hle, hb', hpassed⟩ :=
          ih hordered hplaced' (fun g hg => hfrom g (List.mem_cons_of_mem _ hg)) hc h
        exact ⟨b, hb, hle, hb', hpassed.cons fun hdisk' => absurd hdisk' hdisk⟩

/-- The place of a flushed file: `files` is the list with `f` between `pre` and `post`. -/
structure Placement (v : Volume) (f : File) (fileStart : ℕ) (files pre post : List File)
    (b : ℕ) : Prop where
  split : files = pre ++ f :: post
  distinct : Distinct files
  others : pre ++ post = v.files.filter fun g => g.handle ≠ f.handle
  fileStart : fileStart = b * v.media.blockSize
  le : b ≤ v.media.lastBlock + 1
  before : ∀ g ∈ pre, g.onDisk = true → g.blockEnd < b
  onDisk : f.onDisk = true → files = v.files ∧ f.blockStart = b

/-- `placeFile` keeps the other files in their order. -/
lemma placeFile_placement {v : Volume} {fileSize : ℕ} (hinv : LayoutInv v)
    (hplain : v.media.Plain v.cfg.arch) (hf : f ∈ v.files)
    (h : placeFile v.cfg v.media f fileSize v.files = some (fileStart, files)) :
    ∃ pre post b, Placement v f fileStart files pre post b := by
  obtain ⟨pre₀, post₀, hsplit⟩ := List.append_of_mem hf
  have hdistinct : Distinct (pre₀ ++ f :: post₀) := hsplit ▸ hinv.distinct
  have hothers : pre₀ ++ post₀ = v.files.filter fun g => g.handle ≠ f.handle := by
    rw [hsplit, filter_split hdistinct]
  by_cases hdisk : f.onDisk = true
  · rw [placeFile, if_pos hdisk] at h
    cases h
    have hplaced := hinv.placed f hf hdisk
    have hle := hplaced.le
    have hlast := hplaced.inside
    have hordered := hinv.ordered
    rw [hsplit, List.pairwise_append] at hordered
    refine ⟨pre₀, post₀, f.blockStart, hsplit, hinv.distinct, hothers,
      uintn_block hplain (by omega), by omega, ?_, fun _ => ⟨rfl, rfl⟩⟩
    intro g hg hgDisk
    exact hordered.2.2 g hg f List.mem_cons_self hgDisk hdisk
  · rw [placeFile, if_neg hdisk, findSpaceForNewFile] at h
    have hzero : findSpace v.cfg v.media (uint64 (fileSize + sizeofHwImageDescription)) v.files 0 =
        findSpace v.cfg v.media (uint64 (fileSize + sizeofHwImageDescription)) v.files
          (0 * v.media.blockSize) := by rw [Nat.zero_mul]
    rw [hzero] at h
    split at h
    · rename_i start handle hfound
      cases h
      obtain ⟨b, hb, -, hle, pre, e, post, hfiles, rfl, he, hpre⟩ := findSpace_passed hplain
        hinv.ordered hinv.placed (fun _ _ _ => Nat.zero_le _) (Nat.zero_le _) hfound
      have hne : e.handle ≠ f.handle := by
        intro heq
        have hmem : e ∈ v.files := by rw [hfiles]; simp
        exact hdisk (hinv.distinct.eq_of_handle hmem hf heq ▸ he)
      have hd : Distinct (pre ++ e :: post) := hfiles ▸ hinv.distinct
      have hfilter : v.files.filter (fun g => g.handle ≠ f.handle) =
          pre.filter (fun g => g.handle ≠ f.handle) ++
            e :: post.filter (fun g => g.handle ≠ f.handle) := by
        rw [hfiles, List.filter_append, List.filter_cons_of_pos (by simpa using hne)]
      have hrelink : relink f e.handle v.files =
          pre.filter (fun g => g.handle ≠ f.handle) ++
            f :: e :: post.filter (fun g => g.handle ≠ f.handle) := by
        rw [relink, hfilter, insertBefore_split]
        intro g hg
        exact hd.ne_of_split.1 g (List.mem_of_mem_filter hg)
      refine ⟨_, _, b, hrelink, ?_, hfilter.symm, hb, hle, ?_, fun hd => absurd hd hdisk⟩
      · rw [hrelink, Distinct, List.map_append, List.map_cons, List.nodup_middle,
          ← List.map_append, ← hfilter, List.nodup_cons]
        refine ⟨fun hmem => ?_, hinv.distinct.sublist (List.filter_sublist.map _)⟩
        obtain ⟨g, hg, heq⟩ := List.mem_map.mp hmem
        exact absurd heq (by simpa using (List.mem_filter.mp hg).2)
      · exact fun g hg => hpre g (List.mem_of_mem_filter hg)
    · rename_i start hfound
      cases h
      obtain ⟨b, hb, -, hle, hpassed⟩ := findSpace_passed hplain hinv.ordered hinv.placed
        (fun _ _ _ => Nat.zero_le _) (Nat.zero_le _) hfound
      refine ⟨pre₀, post₀, b, hsplit, hinv.distinct, hothers, hb, hle, ?_,
        fun hd => absurd hd hdisk⟩
      intro g hg
      exact hpassed g (by rw [hsplit]; exact List.mem_append_left _ hg)
    · cases h

end Place

/-! ## The calls -/

section Calls

variable {v v' : Volume} {handle : ℕ} {f f' : File} {fileStart : ℕ} {files pre post : List File}
  {b : ℕ}

/-- The list with a flushed file in its place. -/
lemma Placement.layoutInv (hplace : Placement v f fileStart files pre post b) (hinv : LayoutInv v)
    (hf : f ∈ v.files) (hhandle : f'.handle = f.handle)
    (hkept : FlushBase.Kept v.media f f' b (roomEndBlock v.media post)) (hvolume : SameVolume v' v)
    (hfiles : v'.files = pre ++ f' :: post) : LayoutInv v' := by
  have hothers : ∀ g, g ∈ pre ++ post → g ∈ v.files := by
    intro g hg
    rw [hplace.others] at hg
    exact List.mem_of_mem_filter hg
  have hpost : ∀ g ∈ post, g.onDisk = true → g.Placed v.media :=
    fun g hg => hinv.placed g (hothers g (List.mem_append_right _ hg))
  have hordered : (pre ++ post).Pairwise Before := by
    rw [hplace.others]
    exact hinv.ordered.sublist List.filter_sublist
  obtain ⟨hpreOrdered, hpostOrdered, hacross⟩ := List.pairwise_append.mp hordered
  refine ⟨hvolume.initialized.trans hinv.initialized, ?_, ?_, ?_, ?_⟩
  · rw [hfiles]
    exact (hplace.split ▸ hplace.distinct).replace hhandle
  · intro g hg
    rw [hfiles] at hg
    rw [hvolume.nextHandle]
    rcases List.mem_append.mp hg with hg | hg
    · exact hinv.fresh g (hothers g (List.mem_append_left _ hg))
    · rcases List.mem_cons.mp hg with rfl | hg
      · rw [hhandle]
        exact hinv.fresh f hf
      · exact hinv.fresh g (hothers g (List.mem_append_right _ hg))
  · rw [hfiles, List.pairwise_append, List.pairwise_cons]
    refine ⟨hpreOrdered, ⟨?_, hpostOrdered⟩, ?_⟩
    · intro g hg hdisk hgDisk
      obtain ⟨hblock, -, hend | ⟨hfDisk, hend⟩⟩ := hkept hdisk
      · exact Nat.lt_of_lt_of_le hend
          (roomEndBlock_le_blockStart hpostOrdered hpost g hg hgDisk)
      · -- the file lies where it was, and so does the list
        have hv := hinv.ordered
        rw [← (hplace.onDisk hfDisk).1, hplace.split, List.pairwise_append,
          List.pairwise_cons] at hv
        rw [hend]
        exact hv.2.1.1 g hg hfDisk hgDisk
    · intro g hg k hk hgDisk hkDisk
      rcases List.mem_cons.mp hk with rfl | hk
      · rw [(hkept hkDisk).1]
        exact hplace.before g hg hgDisk
      · exact hacross g hg k hk hgDisk hkDisk
  · intro g hg hdisk
    rw [hfiles] at hg
    rw [hvolume.media]
    rcases List.mem_append.mp hg with hg | hg
    · exact hinv.placed g (hothers g (List.mem_append_left _ hg)) hdisk
    · rcases List.mem_cons.mp hg with rfl | hg
      · exact (hkept hdisk).2.1
      · exact hinv.placed g (hothers g (List.mem_append_right _ hg)) hdisk

/-- The base of a flush of a placed file. -/
lemma Placement.flushBase (hplace : Placement v f fileStart files pre post b) (hinv : LayoutInv v)
    (hplain : v.media.Plain v.cfg.arch) (hf : f ∈ v.files) (info : FileInfo)
    (hcreated : f.onDisk = true ∨ f.hwDescAddress = 0) :
    FlushBase (flushContext v f info fileStart files) f b (roomEndBlock v.media post) where
  plain := hplain
  fileStart := hplace.fileStart
  fileEnd := by
    have hsize : f.dataSize < 2 ^ 32 := UInt32.toNat_lt _
    have hblocks := hplain.blocks_lt
    have hblockSize := v.media.blockSize_lt
    have hle : b * v.media.blockSize ≤ (2 ^ 32 - 1) * (2 ^ 32 - 1) :=
      Nat.mul_le_mul (by have := hplace.le; omega) (by omega)
    rw [← hplace.fileStart] at hle
    exact uint64_of_lt (by omega)
  room_le := by
    refine roomEndBlock_le fun g hg => hinv.placed g ?_
    have hmem : g ∈ pre ++ post := List.mem_append_right _ hg
    rw [hplace.others] at hmem
    exact List.mem_of_mem_filter hmem
  blockStart := fun hdisk => (hplace.onDisk hdisk).2
  placed := hinv.placed f hf
  created := hcreated

/-- A flush that fits its room keeps the layout and writes to the blocks of its file. -/
lemma flushFile_layout (hinv : LayoutInv v) (hplain : v.media.Plain v.cfg.arch)
    (hquiet : v.services.env.Quiet) (hroom : FlushInRoom v handle) :
    LayoutInv (bootMonFsFlushFile handle v).2 ∧
      SameVolume (bootMonFsFlushFile handle v).2 v ∧
      WritesOwnBlocks v (.flushFile handle) (bootMonFsFlushFile handle v).2 := by
  have hcall := bootMonFsFlushFile_quiet hquiet handle
  generalize (bootMonFsFlushFile handle v).1 = status at hcall
  generalize (bootMonFsFlushFile handle v).2 = v' at hcall ⊢
  cases hcall with
  | refused herror =>
      refine ⟨hinv, .refl v, fun h _ w hw => ?_⟩
      rw [newWrites, List.drop_length] at hw
      exact absurd hw List.not_mem_nil
  | @flushed f info fileStart files status f' ws s' hlookup hinfo hmode hplaceFile houtcome
      hwrote =>
      obtain ⟨hf, hhandle⟩ := lookup_some hlookup
      obtain ⟨pre, post, b, hplace⟩ := placeFile_placement hinv hplain hf hplaceFile
      have hfits := hroom f info fileStart files hlookup hinfo hmode hplaceFile
      have hdistinct : Distinct (pre ++ f :: post) := hplace.split ▸ hplace.distinct
      have hbase := hplace.flushBase hinv hplain hf info hfits.1
      have hafter : filesAfter handle files = post := by
        rw [hplace.split, ← hhandle, filesAfter_split hdistinct]
      rw [hafter] at hfits
      obtain ⟨hkept, hwrites⟩ := hbase.flushOutcome rfl hfits houtcome
      have hfiles : update f' files = pre ++ f' :: post := by
        rw [hplace.split, update_split hdistinct houtcome.handle]
      have hinv' : LayoutInv { v with files := update f' files, services := s' } :=
        hplace.layoutInv hinv hf houtcome.handle hkept ⟨rfl, rfl, rfl, rfl⟩ hfiles
      refine ⟨hinv', ⟨rfl, rfl, rfl, rfl⟩, fun h hh w hw => ?_⟩
      have hsame : handle = h := by simpa [Call.flushes] using hh
      rw [newWrites, hwrote.log, List.drop_left] at hw
      refine ⟨f, f', hsame ▸ hlookup, ?_, hwrites w hw⟩
      rw [← hsame, ← hhandle, ← houtcome.handle]
      exact hinv'.distinct.lookup (by simp [hfiles])

/-! Work on an open file that waits for a flush leaves it at its place. -/

variable {info : FileInfo} {s : Services}

lemma setPosition_samePlace (position : ℕ) : SamePlace (f.setPosition position info) f :=
  ⟨rfl, rfl, rfl⟩

lemma writeFile_samePlace (buffer : List UInt8) :
    SamePlace (writeFile buffer f info s).2.1 f := by
  unfold writeFile
  split
  · exact .refl f
  split
  · exact .refl f
  split
  · exact .refl f
  · exact ⟨rfl, rfl, rfl⟩

lemma setFileSize_samePlace (newSize : ℕ) :
    SamePlace (setFileSize newSize f info s).2.1 f := by
  unfold setFileSize
  simp only
  split
  · exact ⟨rfl, rfl, rfl⟩
  split
  · split
    · exact setPosition_samePlace _
    · rename_i s₁ _
      have hwrite := SamePlace.trans
        (@writeFile_samePlace (f.setPosition (info.fileSize % 2 ^ 32) info) info s₁
          (List.replicate (newSize - info.fileSize % 2 ^ 32) 0))
        (setPosition_samePlace _)
      split
      · exact hwrite
      split
      · exact hwrite
      · exact ⟨hwrite.handle, hwrite.hwDescription, hwrite.hwDescAddress⟩
  · exact ⟨rfl, rfl, rfl⟩

lemma setFileName_samePlace (cfg : BuildConfig) (files : List File) (fileName : List UInt8) :
    SamePlace (setFileName cfg files fileName f info).2 f := by
  unfold setFileName
  simp only
  split
  · exact .refl f
  · exact ⟨rfl, rfl, rfl⟩

lemma applyFileInfo_samePlace (cfg : BuildConfig) (files : List File) (args : SetInfoArgs) :
    SamePlace (applyFileInfo cfg files args f info s).2.1 f := by
  have hresize : SamePlace (if args.fileSize ≠ info.fileSize then
      setFileSize (cfg.arch.uintn args.fileSize) f info s else (.success, f, s)).2.1 f := by
    split
    · exact setFileSize_samePlace _
    · exact .refl f
  unfold applyFileInfo
  generalize (if args.fileSize ≠ info.fileSize then
    setFileSize (cfg.arch.uintn args.fileSize) f info s else (.success, f, s)) = resized
      at hresize
  dsimp only
  split
  · exact hresize
  split
  · exact hresize
  split
  · exact (setFileName_samePlace cfg files args.fileName).trans
      ⟨hresize.handle, hresize.hwDescription, hresize.hwDescAddress⟩
  · exact ⟨hresize.handle, hresize.hwDescription, hresize.hwDescAddress⟩

lemma setFileInfo_samePlace (cfg : BuildConfig) (files : List File) (args : SetInfoArgs) :
    SamePlace (setFileInfo cfg files args f info s).2.1 f := by
  unfold setFileInfo
  dsimp only
  split
  · exact .refl f
  split
  · exact .refl f
  split
  · exact .refl f
  · exact applyFileInfo_samePlace cfg files args

/-- What a flush wrote, once more work has left the files at their places. -/
lemma WritesOwnBlocks.still {v'' : Volume} {call call' : Call} (h : WritesOwnBlocks v call v')
    (hflushes : call'.flushes = call.flushes) (hstill : Still v'' v')
    (hdistinct : Distinct v''.files) (hlog : v''.services.log = v'.services.log) :
    WritesOwnBlocks v call' v'' := by
  intro h' hh w hw
  rw [newWrites, hlog] at hw
  obtain ⟨f, f', hf, hf', hin⟩ := h h' (hflushes ▸ hh) w hw
  obtain ⟨f'', hf'', hsame⟩ := hstill.lookup hdistinct hf'
  exact ⟨f, f'', hf, hf'', by rwa [hsame.extent]⟩

/-- A call that flushes nothing. -/
lemma writesOwnBlocks_none {call : Call} (h : call.flushes = none) : WritesOwnBlocks v call v' := by
  intro handle hh
  rw [h] at hh
  cases hh

/-- What a close does behind the flush. -/
lemma still_close (handle : ℕ) (v : Volume) : Still { v with
    files := v.files.map fun f => if f.handle = handle then f.close else f } v := by
  refine ⟨⟨rfl, rfl, rfl, rfl⟩, _, fun f _ => ?_, rfl⟩
  split
  · exact ⟨rfl, rfl, rfl⟩
  · exact .refl f

lemma closeFile_layout (hinv : LayoutInv v) (hplain : v.media.Plain v.cfg.arch)
    (hquiet : v.services.env.Quiet) (hroom : FlushInRoom v handle) :
    LayoutInv (bootMonFsCloseFile handle v).2 ∧
      SameVolume (bootMonFsCloseFile handle v).2 v ∧
      WritesOwnBlocks v (.closeFile handle) (bootMonFsCloseFile handle v).2 := by
  obtain ⟨hinv', hvolume, hwrites⟩ := flushFile_layout hinv hplain hquiet hroom
  unfold bootMonFsCloseFile
  cases (lookup handle v.files).bind (·.info) with
  | none =>
      refine ⟨hinv, .refl v, fun h _ w hw => ?_⟩
      rw [newWrites, List.drop_length] at hw
      exact absurd hw List.not_mem_nil
  | some info =>
      have hstill := still_close handle (bootMonFsFlushFile handle v).2
      exact ⟨hinv'.still hstill, hstill.1.trans hvolume,
        hwrites.still rfl hstill (hinv'.still hstill).distinct rfl⟩

/-- What a read does behind the flush. -/
lemma readFile_still (bufferSize : ℕ) :
    Distinct (bootMonFsFlushFile handle v).2.files →
    (bootMonFsReadFile handle bufferSize v).2.2 = v ∨
      Still (bootMonFsReadFile handle bufferSize v).2.2 (bootMonFsFlushFile handle v).2 ∧
        (bootMonFsReadFile handle bufferSize v).2.2.services.log =
          (bootMonFsFlushFile handle v).2.services.log := by
  intro hdistinct
  unfold bootMonFsReadFile
  cases (lookup handle v.files).bind (·.info) with
  | none => exact .inl rfl
  | some _ =>
    refine .inr ?_
    generalize (bootMonFsFlushFile handle v).2 = flushed at hdistinct ⊢
    dsimp only
    cases hlookup : lookup handle flushed.files with
    | none => exact ⟨still_of_files (.refl _) rfl, rfl⟩
    | some f =>
      have hput : ∀ f', SamePlace f' f →
          Still (flushed.put f' flushed.services.readDisk.2) flushed :=
        fun f' hsame => still_put hdistinct hlookup hsame _
      dsimp only
      split
      · exact ⟨still_of_files (.refl _) rfl, rfl⟩
      split
      · exact ⟨still_of_files (.refl _) rfl, rfl⟩
      split
      · exact ⟨hput f (.refl f), rfl⟩
      · exact ⟨hput _ ⟨rfl, rfl, rfl⟩, rfl⟩

lemma readFile_layout (hinv : LayoutInv v) (hplain : v.media.Plain v.cfg.arch)
    (hquiet : v.services.env.Quiet) (hroom : FlushInRoom v handle) (bufferSize : ℕ) :
    LayoutInv (bootMonFsReadFile handle bufferSize v).2.2 ∧
      SameVolume (bootMonFsReadFile handle bufferSize v).2.2 v ∧
      WritesOwnBlocks v (.readFile handle bufferSize)
        (bootMonFsReadFile handle bufferSize v).2.2 := by
  obtain ⟨hinv', hvolume, hwrites⟩ := flushFile_layout hinv hplain hquiet hroom
  rcases readFile_still bufferSize hinv'.distinct with heq | ⟨hstill, hlog⟩
  · rw [heq]
    refine ⟨hinv, .refl v, fun h _ w hw => ?_⟩
    rw [newWrites, List.drop_length] at hw
    exact absurd hw List.not_mem_nil
  · exact ⟨hinv'.still hstill, hstill.1.trans hvolume,
      hwrites.still rfl hstill (hinv'.still hstill).distinct hlog⟩

/-- A deletion leaves the files at their places or takes one off the list. -/
lemma delete_step (handle : ℕ) (hdistinct : Distinct v.files) :
    Still (bootMonFsDelete handle v).2 v ∨ (SameVolume (bootMonFsDelete handle v).2 v ∧
      (bootMonFsDelete handle v).2.files.Sublist v.files) := by
  unfold bootMonFsDelete
  cases hlookup : lookup handle v.files with
  | none => exact .inl (still_of_files (.refl v) rfl)
  | some f =>
    dsimp only
    split
    · exact .inl (still_of_files (.refl v) rfl)
    have hput : ∀ f', SamePlace f' f → ∀ s, Still (v.put f' s) v :=
      fun f' hsame => still_put hdistinct hlookup hsame
    generalize (if File.onDisk _ = true then invalidateImageDescription _ v.services
      else (.success, v.services)) = cleared
    split
    · exact .inl (hput { f with regionToFlush := [] } ⟨rfl, rfl, rfl⟩ cleared.2)
    · exact .inr ⟨⟨rfl, rfl, rfl, rfl⟩, List.filter_sublist⟩

lemma delete_layout (handle : ℕ) (hinv : LayoutInv v) :
    LayoutInv (bootMonFsDelete handle v).2 ∧ SameVolume (bootMonFsDelete handle v).2 v := by
  rcases delete_step handle hinv.distinct with hstill | ⟨hvolume, hfiles⟩
  · exact ⟨hinv.still hstill, hstill.1⟩
  · exact ⟨hinv.sublist hvolume hfiles, hvolume⟩

/-- An open in the root directory leaves the files at their places or creates one. -/
lemma openInRoot_step (hdistinct : Distinct v.files) (name : FileName) (mode : OpenMode)
    (attributes : ℕ) :
    Still (openInRoot name mode attributes v).2.2 v ∨
      ∃ f, Creates v f (openInRoot name mode attributes v).2.2 := by
  unfold openInRoot
  have hsame : ∀ s, Still { v with services := s } v := fun s =>
    still_of_files ⟨rfl, rfl, rfl, rfl⟩ rfl
  split
  · exact .inl (still_of_files (.refl v) rfl)
  split
  · exact .inl (hsame _)
  split
  · rename_i f hfound
    split
    · exact .inl (hsame _)
    · have hlookup := hdistinct.lookup (List.mem_of_find?_eq_some hfound)
      have hplace : SamePlace (f.opened v.media name mode 0) f := ⟨rfl, rfl, rfl⟩
      exact .inl (still_put hdistinct hlookup hplace _)
  split
  · unfold bootMonFsCreateFile
    split
    · rename_i heq
      split at heq <;> cases heq
      exact .inl (hsame _)
    · rename_i heq
      split at heq <;> cases heq
      exact .inr ⟨_, rfl, rfl, rfl, rfl, rfl, rfl, rfl, rfl⟩
  · exact .inl (hsame _)

lemma openFile_layout (hinv : LayoutInv v) (name : FileName) (mode : OpenMode)
    (attributes : ℕ) :
    LayoutInv (bootMonFsOpenFile name mode attributes v).2.2 ∧
      (bootMonFsOpenFile name mode attributes v).2.2.media = v.media ∧
      (bootMonFsOpenFile name mode attributes v).2.2.cfg = v.cfg := by
  rw [bootMonFsOpenFile, if_pos hinv.initialized]
  rcases openInRoot_step hinv.distinct name mode attributes with hstill | ⟨f, hcreates⟩
  · exact ⟨hinv.still hstill, hstill.1.media, hstill.1.cfg⟩
  · exact ⟨hinv.cons hcreates, hcreates.media, hcreates.cfg⟩

/-- Work on one file that leaves it at its place. -/
lemma writeFile_still (handle : ℕ) (hdistinct : Distinct v.files) (buffer : List UInt8) :
    Still (bootMonFsWriteFile handle buffer v).2 v := by
  unfold bootMonFsWriteFile
  cases hlookup : lookup handle v.files with
  | none => exact still_of_files (.refl v) rfl
  | some f =>
    dsimp only
    split
    · exact still_of_files (.refl v) rfl
    · exact still_put hdistinct hlookup (writeFile_samePlace buffer) _

lemma setPosition_still (handle : ℕ) (hdistinct : Distinct v.files) (position : ℕ) :
    Still (bootMonFsSetPosition handle position v).2 v := by
  unfold bootMonFsSetPosition
  cases hlookup : lookup handle v.files with
  | none => exact still_of_files (.refl v) rfl
  | some f =>
    dsimp only
    split
    · exact still_of_files (.refl v) rfl
    · exact still_put hdistinct hlookup (setPosition_samePlace position) _

lemma setInfo_still (handle : ℕ) (hdistinct : Distinct v.files) (args : SetInfoArgs) :
    Still (bootMonFsSetInfo handle args v).2 v := by
  unfold bootMonFsSetInfo
  cases hlookup : lookup handle v.files with
  | none => exact still_of_files (.refl v) rfl
  | some f =>
    dsimp only
    split
    · exact still_of_files (.refl v) rfl
    split
    · exact still_of_files (.refl v) rfl
    split
    · exact still_of_files (.refl v) rfl
    · exact still_put hdistinct hlookup (setFileInfo_samePlace v.cfg v.files args) _

/-- One call. -/
theorem perform_layout {env : Environment} {call : Call} (hinv : LayoutInv v)
    (hplain : v.media.Plain v.cfg.arch) (hfit : FlushesFit v (env, call)) :
    LayoutInv (perform call (v.enter env)).2 ∧
      (perform call (v.enter env)).2.media = v.media ∧
      (perform call (v.enter env)).2.cfg = v.cfg ∧
      WritesOwnBlocks v call (perform call (v.enter env)).2 := by
  have hinv' : LayoutInv (v.enter env) := hinv.still (still_of_files ⟨rfl, rfl, rfl, rfl⟩ rfl)
  cases call with
  | openFile name mode attributes =>
      obtain ⟨h, hmedia, hcfg⟩ := openFile_layout hinv' name mode attributes
      exact ⟨h, hmedia, hcfg, writesOwnBlocks_none rfl⟩
  | closeFile handle =>
      obtain ⟨hquiet, hroom⟩ := hfit handle rfl
      obtain ⟨h, hvolume, hwrites⟩ := closeFile_layout hinv' hplain hquiet hroom
      exact ⟨h, hvolume.media, hvolume.cfg, hwrites⟩
  | delete handle =>
      obtain ⟨h, hvolume⟩ := delete_layout handle hinv'
      exact ⟨h, hvolume.media, hvolume.cfg, writesOwnBlocks_none rfl⟩
  | readFile handle bufferSize =>
      obtain ⟨hquiet, hroom⟩ := hfit handle rfl
      obtain ⟨h, hvolume, hwrites⟩ := readFile_layout hinv' hplain hquiet hroom bufferSize
      exact ⟨h, hvolume.media, hvolume.cfg, hwrites⟩
  | writeFile handle buffer =>
      have hstill := writeFile_still handle hinv'.distinct buffer
      exact ⟨hinv'.still hstill, hstill.1.media, hstill.1.cfg, writesOwnBlocks_none rfl⟩
  | setPosition handle position =>
      have hstill := setPosition_still handle hinv'.distinct position
      exact ⟨hinv'.still hstill, hstill.1.media, hstill.1.cfg, writesOwnBlocks_none rfl⟩
  | setInfo handle args =>
      have hstill := setInfo_still handle hinv'.distinct args
      exact ⟨hinv'.still hstill, hstill.1.media, hstill.1.cfg, writesOwnBlocks_none rfl⟩
  | flushFile handle =>
      obtain ⟨hquiet, hroom⟩ := hfit handle rfl
      obtain ⟨h, hvolume, hwrites⟩ := flushFile_layout hinv' hplain hquiet hroom
      exact ⟨h, hvolume.media, hvolume.cfg, hwrites⟩

end Calls

/-! ## A volume that has just been initialised -/

section Initialize

variable {v v' : Volume}

/-- The files of a volume as discovery leaves them. -/
structure Discovered (v : Volume) : Prop where
  distinct : Distinct v.files
  fresh : ∀ f ∈ v.files, f.handle < v.nextHandle
  inside : ∀ f ∈ v.files, f.blockEnd ≤ v.media.lastBlock
  hwDescAddress : ∀ f ∈ v.files, f.hwDescAddress = descAddress v.cfg.arch v.media f.blockEnd

lemma Discovered.append (h : Discovered v) {f : File} (hhandle : f.handle = v.nextHandle)
    (hinside : f.blockEnd ≤ v.media.lastBlock)
    (haddress : f.hwDescAddress = descAddress v.cfg.arch v.media f.blockEnd)
    (hmedia : v'.media = v.media) (hcfg : v'.cfg = v.cfg) (hnext : v'.nextHandle = v.nextHandle + 1)
    (hfiles : v'.files = v.files ++ [f]) : Discovered v' := by
  have hmem : ∀ g ∈ v'.files, g ∈ v.files ∨ g = f := by
    intro g hg
    rw [hfiles] at hg
    simpa using hg
  refine ⟨?_, fun g hg => ?_, fun g hg => ?_, fun g hg => ?_⟩
  · rw [Distinct, hfiles, List.map_append, List.nodup_append]
    refine ⟨h.distinct, by simp, ?_⟩
    intro x hx y hy
    obtain ⟨g, hg, rfl⟩ := List.mem_map.mp hx
    have hlt := h.fresh g hg
    have hy' : y = f.handle := by simpa using hy
    show g.handle ≠ y
    omega
  · rcases hmem g hg with hg | rfl
    · have := h.fresh g hg
      omega
    · omega
  · rw [hmedia]
    rcases hmem g hg with hg | rfl
    · exact h.inside g hg
    · exact hinside
  · rw [hmedia, hcfg]
    rcases hmem g hg with hg | rfl
    · exact h.hwDescAddress g hg
    · exact haddress

section Plain

variable {arch : Arch} {media : Media} {lba : ℕ}

lemma Media.Plain.descOffset_eq (hplain : media.Plain arch) (hlba : lba ≤ media.lastBlock) :
    descOffset media lba = (lba + 1) * media.blockSize - sizeofHwImageDescription := by
  have hle : (lba + 1) * media.blockSize ≤ (media.lastBlock + 1) * media.blockSize :=
    Nat.mul_le_mul_right _ (by omega)
  have hone : 1 * media.blockSize ≤ (lba + 1) * media.blockSize :=
    Nat.mul_le_mul_right _ (by omega)
  have hdesc := media.description_lt
  have hbytes := hplain.bytes_lt
  have hwide := Nat.pow_le_pow_right Nat.two_pos arch.uintnBits_le
  rw [descOffset, uint64_of_lt (by omega), uint64Sub_of_le (by omega) (by omega)]

/-- On a media whose addresses fit a `UINTN` the address of a description is not cut. -/
lemma Media.Plain.descAddress_descOffset (hplain : media.Plain arch)
    (hlba : lba ≤ media.lastBlock) : descAddress arch media lba = descOffset media lba := by
  have hle : (lba + 1) * media.blockSize ≤ (media.lastBlock + 1) * media.blockSize :=
    Nat.mul_le_mul_right _ (by omega)
  have hbytes := hplain.bytes_lt
  rw [descAddress, Arch.uintn_of_lt]
  rw [hplain.descOffset_eq hlba]
  omega

lemma Media.Plain.descAddress_eq (hplain : media.Plain arch) (hlba : lba ≤ media.lastBlock) :
    descAddress arch media lba = (lba + 1) * media.blockSize - sizeofHwImageDescription := by
  rw [hplain.descAddress_descOffset hlba, hplain.descOffset_eq hlba]

end Plain

lemma initializeLoop_media (n lba : ℕ) (v : Volume) :
    (initializeLoop n lba v).2.media = v.media ∧ (initializeLoop n lba v).2.cfg = v.cfg :=
  initializeLoop_keeps (P := fun v' => v'.media = v.media ∧ v'.cfg = v.cfg)
    (fun _ _ _ _ h _ => h) (fun _ _ _ _ h _ _ => h) n lba ⟨rfl, rfl⟩

/-- Every image moves the loop on, so that it comes to the end of the media. -/
lemma initializeLoop_initialized (n lba : ℕ) (hlba : lba ≤ v.media.lastBlock + 1)
    (hn : v.media.lastBlock + 2 ≤ n + lba) (h : (initializeLoop n lba v).1 = .success) :
    (initializeLoop n lba v).2.initialized = true := by
  induction n generalizing lba v with
  | zero => omega
  | succ n ih =>
      rw [initializeLoop] at h ⊢
      unfold bootMonFsCreateFile at h ⊢
      cases halloc : v.services.allocatePool with
      | mk ok s =>
        simp only [halloc] at h ⊢
        cases ok with
        | false => cases h
        | true =>
          dsimp only at h ⊢
          generalize hfound : bootMonFsDiscoverNextImage v.cfg.arch v.media lba
            (File.created v.nextHandle) s = found at h ⊢
          by_cases herror : found.status.isError = true
          · rw [if_pos herror]
          · rw [if_neg herror] at h ⊢
            unfold bootMonFsDiscoverNextImage at hfound
            obtain ⟨l, d, s', hle, hlt, -, heq⟩ :=
              @discoverNextImage_found v.cfg.arch v.media lba _ lba
                (File.created v.nextHandle) s (by rw [hfound]; simpa using herror)
            rw [heq] at hfound
            subst hfound
            refine ih (l + 1) ?_ ?_ h
            · show l + 1 ≤ v.media.lastBlock + 1
              omega
            · show v.media.lastBlock + 2 ≤ n + (l + 1)
              omega

lemma initializeLoop_discovered (n lba : ℕ) (hv : Discovered v)
    (hlowest : v.media.lowestAlignedLba = 0) (hlast : v.media.lastBlock + 1 < 2 ^ 32) :
    Discovered (initializeLoop n lba v).2 := by
  refine (initializeLoop_keeps (P := fun v' => v'.media = v.media ∧ Discovered v') ?_ ?_ n lba
    ⟨rfl, hv⟩).2
  · rintro v' s nextHandle initialized ⟨hmedia, h⟩ hnext
    exact ⟨hmedia, h.distinct, fun f hf => Nat.lt_of_lt_of_le (h.fresh f hf) hnext, h.inside,
      h.hwDescAddress⟩
  · rintro v' s l d ⟨hmedia, h⟩ hl hends
    have hblock : uint64Sub l v'.media.lowestAlignedLba = l := by
      rw [hmedia] at hl ⊢
      rw [hlowest, uint64Sub_of_le (Nat.zero_le _) (by omega), Nat.sub_zero]
    rw [hblock, endsAt_iff] at hends
    have hblockEnd : d.blockEnd.toNat = l := hends.1
    refine ⟨hmedia, h.append rfl ?_ ?_ rfl rfl rfl rfl⟩
    · show d.blockEnd.toNat ≤ _
      omega
    · show descAddress v'.cfg.arch v'.media l = descAddress v'.cfg.arch v'.media d.blockEnd.toNat
      rw [hblockEnd]

/-- What discovery leaves keeps the invariant, if the files lie apart in disk order. -/
theorem Mounted.layoutInv (hmounted : Mounted v) (hplain : v.media.Plain v.cfg.arch)
    (hstart : v.NoOverlap) : LayoutInv v := by
  obtain ⟨v₀, hfiles, hinit⟩ := hmounted
  have hempty : Discovered v₀ := by
    refine ⟨?_, ?_, ?_, ?_⟩ <;> rw [hfiles] <;> simp [Distinct]
  have hmedia : v.media = v₀.media := by
    have h := (initializeLoop_media (v₀.media.lastBlock + 2) 0 v₀).1
    rw [bootMonFsInitialize] at hinit
    rwa [hinit] at h
  have hv := initializeLoop_discovered (v₀.media.lastBlock + 2) 0 hempty
    (hmedia ▸ hplain.lowestAlignedLba) (hmedia ▸ hplain.blocks_lt)
  have hinitialized := @initializeLoop_initialized v₀ (v₀.media.lastBlock + 2) 0 (Nat.zero_le _)
    (Nat.le_refl _)
  rw [bootMonFsInitialize] at hinit
  rw [hinit] at hv hinitialized
  replace hv : Discovered v := hv
  replace hinitialized : v.initialized = true := hinitialized rfl
  refine ⟨hinitialized, hv.distinct, hv.fresh, ?_, fun f hf hdisk => ?_⟩
  · have hboth := hstart.apart.and hstart.ordered
    refine hboth.imp_of_mem ?_
    rintro f g hf hg ⟨hapart, hordered⟩ hdisk hdisk'
    have hle := (hstart.inside g hg hdisk').1
    have hlt := hordered hdisk hdisk'
    rcases hapart hdisk hdisk' with h | h <;> omega
  · obtain ⟨hle, hlast⟩ := hstart.inside f hf hdisk
    refine ⟨hle, hlast, ?_⟩
    rw [hv.hwDescAddress f hf, hplain.descAddress_eq hlast]

end Initialize

/-! ## Runs -/

/-- The layout over a run whose flushes fit their rooms, with the writes of the next call. -/
theorem noOverlap_of_run {v₀ v : Volume} {calls : List (Environment × Call)}
    (hmounted : Mounted v₀) (hplain : v₀.media.Plain v₀.cfg.arch) (hstart : v₀.NoOverlap)
    (hrun : (driver.restrict FlushesFit).Run v₀ calls v) :
    v.NoOverlap ∧ ∀ env call, FlushesFit v (env, call) →
      WritesOwnBlocks v call (perform call (v.enter env)).2 := by
  have hinv : v.media.Plain v.cfg.arch ∧ LayoutInv v := by
    refine System.Run.invariant (P := fun v => v.media.Plain v.cfg.arch ∧ LayoutInv v) ?_ hrun
      ⟨hplain, hmounted.layoutInv hplain hstart⟩
    rintro s ⟨env, call⟩ t ⟨hs, hinv⟩ ⟨hfit, hstep⟩
    obtain ⟨hinv', hmedia, hcfg, -⟩ := perform_layout hinv hs hfit
    rw [show t = (perform call (s.enter env)).2 from hstep]
    exact ⟨by rw [hmedia, hcfg]; exact hs, hinv'⟩
  exact ⟨hinv.2.noOverlap, fun env call hfit => (perform_layout hinv.2 hinv.1 hfit).2.2.2⟩

/-! ## A second file -/

/-- A volume on a blank media of `lastBlock + 1` blocks of 512 bytes. -/
def blankVolume (lastBlock : ℕ) : Volume where
  cfg := ⟨.aarch64, 1000000⟩
  media := ⟨512, lastBlock, 0, wideMedia.description_lt, wideMedia.blockSize_lt⟩
  services := ⟨fun _ => 0, [], .good, 0⟩
  files := []
  initialized := false
  nextHandle := 0

/-- The names `A` and `B`. -/
def nameA : FileName := ⟨[0x41], by decide, by decide⟩
def nameB : FileName := ⟨[0x42], by decide, by decide⟩

/-- The calls that create the file `A` on a blank volume, where it gets handle 1, write `n`
bytes and flush it. -/
def writeA (n : ℕ) : List (Environment × Call) :=
  [(.good, .openFile nameA .readWriteCreate 0), (.good, .writeFile 1 (List.replicate n 7)),
    (.good, .flushFile 1)]

lemma mounted_of_success {u : Volume} (hfiles : u.files = [])
    (h : (bootMonFsInitialize u).1 = .success) : Mounted (bootMonFsInitialize u).2 :=
  ⟨u, hfiles, Prod.ext h rfl⟩

lemma blankVolume_mounted (lastBlock : ℕ)
    (h : (bootMonFsInitialize (blankVolume lastBlock)).1 = .success) :
    Mounted (bootMonFsInitialize (blankVolume lastBlock)).2 :=
  mounted_of_success rfl h

/-- The calls that then create the file `B`, with handle 2, behind `A`, and make `A` grow. -/
def growA : List (Environment × Call) :=
  [(.good, .openFile nameB .readWriteCreate 0), (.good, .writeFile 2 (List.replicate 100 8)),
    (.good, .flushFile 2), (.good, .writeFile 1 (List.replicate 500 9)), (.good, .flushFile 1)]

/-- On a media of two blocks `B` is put behind `A` but stays in front of it in the list, so that
`A` finds nothing behind it and grows over `B`. -/
theorem not_noOverlap_secondFile :
    ¬ ∀ v₀ calls v, Mounted v₀ → v₀.NoOverlap → driver.Run v₀ calls v → v.NoOverlap := by
  intro h
  have hmounted := blankVolume_mounted 1 (by decide)
  have hno : (runCalls (writeA 100 ++ growA) (bootMonFsInitialize (blankVolume 1)).2).NoOverlap :=
    h _ _ _ hmounted ⟨.nil, by decide, .nil⟩ (run_runCalls _ _)
  have hapart := hno.apart
  revert hapart
  decide +kernel

/-- The file `A` before its flush. -/
def queuedA (n : ℕ) : File :=
  { File.created 1 with
    info := some ⟨0, n, 0, List.replicate 48 0, 0, nameA⟩
    position := n
    regionToFlush := [⟨0, List.replicate n 7⟩]
    openMode := .readWriteCreate }

/-- The calls that create a file of 100 bytes, without a flush. -/
def createFile (name : FileName) (handle : ℕ) : List (Environment × Call) :=
  [(.good, .openFile name .readWriteCreate 0), (.good, .writeFile handle (List.replicate 100 7))]

/-- The calls after which block 0 of a blank media is free and the file `B`, with handle 2, lies
in block 1. -/
def freeFirstBlock : List (Environment × Call) :=
  createFile nameA 1 ++ [(.good, .flushFile 1)] ++ createFile nameB 2 ++
    [(.good, .flushFile 2), (.good, .delete 1)]

/-- A media on which the file `B` lies in block 1 of four and the other blocks are free. -/
def mediaB : Volume :=
  (runCalls freeFirstBlock (bootMonFsInitialize (blankVolume 3)).2).unmounted .good

/-- The volume that is discovered on it: `B` has handle 0. -/
def volumeB : Volume := (bootMonFsInitialize mediaB).2

/-- The calls that create `A`, with handle 2, in the gap in front of `B`, and then make `B` grow
into the block behind it. -/
def besideB : List (Environment × Call) :=
  untroubled [.openFile nameA .readWriteCreate 0, .writeFile 2 (List.replicate 100 9),
    .flushFile 2, .openFile nameB .readWrite 0, .setPosition 0 50,
    .writeFile 0 (List.replicate 500 8), .flushFile 0, .setPosition 0 0, .setPosition 2 0]

lemma volumeB_mounted : Mounted volumeB :=
  @mounted_of_success mediaB rfl (by decide +kernel)

lemma volumeB_noOverlap : volumeB.NoOverlap :=
  ⟨by decide +kernel, by decide +kernel, by decide +kernel⟩

/-- `A` in front of `B`, and `B` grown. -/
theorem noOverlap_of_run_besideB : (runCalls besideB volumeB).NoOverlap := by
  have hfit : AllMeet (fun v call => ∀ handle ∈ call.2.flushes, FlushInRoom v handle) besideB
      volumeB := by
    decide +kernel
  have hrun : (driver.restrict FlushesFit).Run volumeB besideB (runCalls besideB volumeB) :=
    (hfit.imp fun _ _ h handle hhandle => ⟨Environment.good_quiet, h handle hhandle⟩).run
  exact (noOverlap_of_run volumeB_mounted ⟨by decide +kernel, by decide +kernel, by decide +kernel⟩
    volumeB_noOverlap hrun).1

end BootMonFs

end MuPlatform
