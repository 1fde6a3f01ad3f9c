import MuPlatform.Base.LinkedList
import MuPlatform.BootMonFs.Overlap

/-!
# Flushing the volume

`BootMonFsFlushDirectory` goes through the list of files and flushes each.  A flush puts a new
file in front of the file behind its gap, and the loop goes on from there: it skips the files
between the old place and a new one further down, and comes to files again behind a new place
further up.

As long as each file that is moved is moved in front of the one that is next anyway, the loop
visits every file once and leaves nothing to write (`flushesAll_of_keepPlaces`).  Where the files
that have not been flushed stand at the front of the list, this is also necessary
(`flushesAll_iff`).
-/

namespace MuPlatform
namespace BootMonFs

open LinkedList

/-! ## BootMonFsFlushDirectory -/

/-- The nodes of the list linked to `RootFile`. -/
def Volume.handles (v : Volume) : List ℕ := v.files.map (·.handle)

/-- The `Flush` of a file of the list; its status is not looked at. -/
def Volume.flush (handle : ℕ) (v : Volume) : Volume := (bootMonFsFlushFile handle v).2

/-- `BootMonFsFlushDirectory`: the status, the files it visits and the volume it leaves, if its
loop ends within `n` rounds. -/
def bootMonFsFlushDirectory (n : ℕ) (v : Volume) : Option (EfiStatus × List ℕ × Volume) :=
  (walk Volume.handles Volume.flush n v.handles.head? v).map fun r => (.success, r.1, r.2)

/-! ## The statement -/

/-- The file is open for writing. -/
def File.isWritable (f : File) : Bool := f.info.isSome && f.openMode ≠ .read

/-- No file open for writing has a region that waits to be flushed. -/
def Volume.Saved (v : Volume) : Prop :=
  ∀ f ∈ v.files, f.isWritable = true → f.regionToFlush = []

/-- The call ends, visits every file once and leaves nothing to flush. -/
def FlushesAll (v : Volume) : Prop :=
  ∃ n visited v', bootMonFsFlushDirectory n v = some (.success, visited, v') ∧
    visited.Perm v.handles ∧ v'.Saved

/-- No flush of a file open for writing fails, when the files are flushed one after the
other: there is space, and no request to the disk fails. -/
def Flushable : List ℕ → Volume → Prop
  | [], _ => True
  | handle :: handles, v =>
      ((lookup handle v.files).any (·.isWritable) = true →
        (bootMonFsFlushFile handle v).1.isError = false) ∧ Flushable handles (v.flush handle)

/-- The file in front of which a flush puts the file behind the handle, if it moves it. -/
def Volume.movedBefore (v : Volume) (handle : ℕ) : Option ℕ :=
  match lookup handle v.files with
  | none => none
  | some f =>
    match f.info with
    | none => none
    | some info =>
      if f.openMode = .read ∨ f.onDisk = true then none
      else (findSpace v.cfg v.media (uint64 (info.fileSize + sizeofHwImageDescription))
        v.files 0).bind (·.2)

/-- A flush of the file leaves it in its place of the list. -/
def KeepsPlace (handle : ℕ) (v : Volume) : Prop :=
  v.movedBefore handle = none ∨ v.movedBefore handle = next handle v.handles

/-- Each file in turn keeps its place, when the files before it have been flushed. -/
def KeepPlaces : List ℕ → Volume → Prop
  | [], _ => True
  | handle :: handles, v => KeepsPlace handle v ∧ KeepPlaces handles (v.flush handle)

instance (handle : ℕ) (v : Volume) : Decidable (KeepsPlace handle v) :=
  inferInstanceAs (Decidable (_ ∨ _))

instance decidableFlushable : ∀ handles v, Decidable (Flushable handles v)
  | [], _ => .isTrue trivial
  | handle :: handles, v =>
      have := decidableFlushable handles (v.flush handle)
      inferInstanceAs (Decidable (((lookup handle v.files).any (·.isWritable) = true →
        (bootMonFsFlushFile handle v).1.isError = false) ∧ Flushable handles (v.flush handle)))

instance decidableKeepPlaces : ∀ handles v, Decidable (KeepPlaces handles v)
  | [], _ => .isTrue trivial
  | handle :: handles, v =>
      have := decidableKeepPlaces handles (v.flush handle)
      inferInstanceAs (Decidable (KeepsPlace handle v ∧ KeepPlaces handles (v.flush handle)))

/-- The files that have not been flushed stand in front of those that have. -/
def NewFilesFirst (v : Volume) : Prop :=
  v.files.Pairwise fun f g => f.onDisk = true → g.onDisk = true

/-! ## Handles -/

section Handles

variable {files : List File} {f g : File} {handle : ℕ}

lemma map_update : (update f files).map (·.handle) = files.map (·.handle) := by
  rw [update, List.map_map]
  refine List.map_congr_left fun g _ => ?_
  by_cases h : g.handle = f.handle
  · simp [h]
  · simp [h]

lemma map_insertBefore : (insertBefore f handle files).map (·.handle) =
    LinkedList.insertBefore f.handle handle (files.map (·.handle)) := by
  induction files with
  | nil => rfl
  | cons g files ih =>
      rw [insertBefore, List.map_cons, LinkedList.insertBefore]
      split
      · rfl
      · rw [List.map_cons, ih]

lemma map_relink : (relink f handle files).map (·.handle) =
    moveBefore f.handle handle (files.map (·.handle)) := by
  rw [relink, map_insertBefore, moveBefore, List.filter_map]
  rfl

lemma mem_insertBefore (h : g ∈ insertBefore f handle files) : g = f ∨ g ∈ files := by
  induction files with
  | nil => cases h
  | cons k files ih =>
      rw [insertBefore] at h
      split at h
      · exact List.mem_cons.mp h
      · rcases List.mem_cons.mp h with rfl | h
        · exact .inr List.mem_cons_self
        · exact (ih h).imp_right (List.mem_cons_of_mem _)

lemma mem_insertBefore_of_mem (h : g ∈ files) : g ∈ insertBefore f handle files := by
  induction files with
  | nil => cases h
  | cons k files ih =>
      rw [insertBefore]
      split
      · exact List.mem_cons_of_mem _ h
      · rcases List.mem_cons.mp h with rfl | h
        · exact List.mem_cons_self
        · exact List.mem_cons_of_mem _ (ih h)

lemma mem_update_of_mem (h : g ∈ files) (hne : g.handle ≠ f.handle) : g ∈ update f files :=
  List.mem_map.mpr ⟨g, h, if_neg hne⟩

lemma eq_of_mem_update (h : g ∈ update f files) (heq : g.handle = f.handle) : g = f := by
  obtain ⟨k, -, rfl⟩ := List.mem_map.mp h
  by_cases hk : k.handle = f.handle
  · exact if_pos hk
  · rw [if_neg hk] at heq
    exact absurd heq hk

lemma mem_relink (h : g ∈ relink f handle files) : g = f ∨ g ∈ files :=
  (mem_insertBefore h).imp_right fun hg => (List.mem_filter.mp hg).1

/-- A gap is in front of a file that has been flushed. -/
lemma findSpace_mem {cfg : BuildConfig} {media : Media} {fileSize start fileStart : ℕ}
    (h : findSpace cfg media fileSize files start = some (fileStart, some handle)) :
    ∃ g ∈ files, g.onDisk = true ∧ g.handle = handle := by
  induction files generalizing start with
  | nil =>
      rw [findSpace] at h
      split at h <;> cases h
  | cons g files ih =>
      rw [findSpace] at h
      have hrest : ∀ start, findSpace cfg media fileSize files start =
          some (fileStart, some handle) →
          ∃ k ∈ g :: files, k.onDisk = true ∧ k.handle = handle := by
        intro start h
        obtain ⟨k, hk, hboth⟩ := ih h
        exact ⟨k, List.mem_cons_of_mem _ hk, hboth⟩
      split at h
      · rename_i hdisk
        split at h
        · cases h
          exact ⟨g, List.mem_cons_self, hdisk, rfl⟩
        · exact hrest _ h
      · exact hrest _ h

/-- The list a flush goes on with is the one it found, or has the file moved. -/
lemma placeFile_files {cfg : BuildConfig} {media : Media} {fileSize fileStart : ℕ}
    {files' : List File}
    (h : placeFile cfg media f fileSize files = some (fileStart, files')) :
    files' = files ∨ ∃ place, files' = relink f place files := by
  unfold placeFile findSpaceForNewFile at h
  split at h
  · cases h
    exact .inl rfl
  split at h
  · cases h
    exact .inr ⟨_, rfl⟩
  · cases h
    exact .inl rfl
  · cases h

end Handles

/-! ## What a flush does to the file -/

/-- The file is open as it was, and on the media if it was. -/
structure StillOpen (f' f : File) : Prop where
  handle : f'.handle = f.handle
  isOpen : f'.info.isSome = f.info.isSome
  openMode : f'.openMode = f.openMode
  onDisk : f.onDisk = true → f'.onDisk = true

namespace StillOpen

variable {f f' f'' : File}

lemma refl (f : File) : StillOpen f f := ⟨rfl, rfl, rfl, id⟩

lemma trans (h : StillOpen f'' f') (h' : StillOpen f' f) : StillOpen f'' f :=
  ⟨h.handle.trans h'.handle, h.isOpen.trans h'.isOpen, h.openMode.trans h'.openMode,
    h.onDisk ∘ h'.onDisk⟩

lemma isWritable (h : StillOpen f' f) : f'.isWritable = f.isWritable := by
  rw [File.isWritable, File.isWritable, h.isOpen, h.openMode]

end StillOpen

section Flush

variable {f : File} {s : Services}

lemma writeFileDescription_stillOpen (cfg : BuildConfig) (media : Media) (name : FileName)
    (dataSize : UInt32) (fileStart : ℕ) :
    StillOpen (writeFileDescription cfg media f name dataSize fileStart s).2.1 f ∧
      (writeFileDescription cfg media f name dataSize fileStart s).2.1.regionToFlush =
        f.regionToFlush := by
  rw [writeFileDescription]
  split
  · have hdescribed := describe_onlyDescribed cfg media f name dataSize fileStart
    exact ⟨⟨hdescribed.handle, by rw [hdescribed.info], hdescribed.openMode,
      fun _ => by simp [File.onDisk, describe, layout]⟩, hdescribed.regionToFlush⟩
  · exact ⟨⟨rfl, rfl, rfl, fun _ => by simp [File.onDisk, layout]⟩, rfl⟩

lemma flushRegions_stillOpen (ctx : FlushContext) (regions : List FileRegion) :
    StillOpen (flushRegions ctx regions f s).2.1 f :=
  flushRegions_keeps (P := fun f' _ => StillOpen f' f) (fun _ _ h => h) (fun _ _ _ _ h => h)
    (fun _ _ dataSize h => (writeFileDescription_stillOpen ctx.cfg ctx.media ctx.asciiFileName
      dataSize ctx.fileStart).1.trans h) regions (.refl f)

/-- A flush that succeeds leaves no region. -/
lemma flushPlaced_stillOpen (ctx : FlushContext) {info : FileInfo} (hinfo : f.info = some info) :
    StillOpen (flushPlaced ctx info f s).2.1 f ∧
      ((flushPlaced ctx info f s).1.isError = false →
        (flushPlaced ctx info f s).2.1.regionToFlush = []) := by
  have hregions := @flushRegions_stillOpen f s ctx f.regionToFlush
  unfold flushPlaced
  generalize flushRegions ctx f.regionToFlush f s = flushed at hregions
  obtain ⟨status, f', s'⟩ := flushed
  dsimp only
  split
  · rename_i herror
    exact ⟨hregions, fun h => absurd h (by rw [herror]; simp)⟩
  have hfreed : StillOpen (freeFileRegions ctx.media f' info) f :=
    ⟨hregions.handle, by rw [hinfo]; rfl, hregions.openMode, hregions.onDisk⟩
  split
  · obtain ⟨hopen, hsame⟩ := @writeFileDescription_stillOpen (freeFileRegions ctx.media f' info) s'
      ctx.cfg ctx.media info.fileName (UInt32.ofNat info.fileSize) ctx.fileStart
    exact ⟨hopen.trans hfreed, fun _ => hsame⟩
  · exact ⟨hfreed, fun _ => rfl⟩

end Flush

/-! ## What a flush does to the list -/

section Step

variable {v : Volume} {f f' g : File} {handle h : ℕ}

lemma Distinct.handles_nodup (hdistinct : Distinct v.files) : v.handles.Nodup := hdistinct

/-- What a flush comes to: an error that leaves the volume as it is, or work on the one file,
which may move it. -/
inductive FlushStep (handle : ℕ) (v : Volume) : EfiStatus → Volume → Prop
  | refused {status} (herror : status.isError = true) (hstays : v.movedBefore handle = none) :
      FlushStep handle v status v
  | worked {f f' files status s} (hlookup : lookup handle v.files = some f)
      (hwritable : f.isWritable = true) (hopen : StillOpen f' f)
      (hfreed : status.isError = false → f'.regionToFlush = [])
      (hfiles : v.movedBefore handle = none ∧ files = v.files ∨
        ∃ g ∈ v.files, g.onDisk = true ∧ g.handle ≠ handle ∧
          v.movedBefore handle = some g.handle ∧ files = relink f g.handle v.files) :
      FlushStep handle v status { v with files := update f' files, services := s }

lemma flushFile_step (hdistinct : Distinct v.files) :
    FlushStep handle v (bootMonFsFlushFile handle v).1 (v.flush handle) := by
  unfold Volume.flush bootMonFsFlushFile
  cases hlookup : lookup handle v.files with
  | none => exact .refused rfl (by rw [Volume.movedBefore, hlookup])
  | some f =>
    dsimp only
    cases hinfo : f.info with
    | none => exact .refused rfl (by simp only [Volume.movedBefore, hlookup, hinfo])
    | some info =>
      dsimp only
      by_cases hmode : f.openMode = .read
      · rw [if_pos hmode]
        exact .refused rfl (by simp [Volume.movedBefore, hlookup, hinfo, hmode])
      have hwritable : f.isWritable = true := by simp [File.isWritable, hinfo, hmode]
      have hmoved : v.movedBefore handle = if f.onDisk = true then none else
          (findSpace v.cfg v.media (uint64 (info.fileSize + sizeofHwImageDescription))
            v.files 0).bind (·.2) := by
        simp only [Volume.movedBefore, hlookup, hinfo, hmode, false_or]
      have hwork : ∀ fileStart files,
          (v.movedBefore handle = none ∧ files = v.files ∨
            ∃ g ∈ v.files, g.onDisk = true ∧ g.handle ≠ handle ∧
              v.movedBefore handle = some g.handle ∧ files = relink f g.handle v.files) →
          FlushStep handle v
            (flushPlaced (flushContext v f info fileStart files) info f v.services).1
            { v with
              files := update
                (flushPlaced (flushContext v f info fileStart files) info f v.services).2.1 files
              services :=
                (flushPlaced (flushContext v f info fileStart files) info f v.services).2.2 } := by
        intro fileStart files hfiles
        obtain ⟨hopen, hfreed⟩ := @flushPlaced_stillOpen f v.services
          (flushContext v f info fileStart files) info hinfo
        exact .worked hlookup hwritable hopen hfreed hfiles
      rw [if_neg hmode, placeFile]
      by_cases hdisk : f.onDisk = true
      · rw [if_pos hdisk] at hmoved ⊢
        exact hwork _ _ (.inl ⟨hmoved, rfl⟩)
      rw [if_neg hdisk] at hmoved ⊢
      rw [findSpaceForNewFile]
      cases hspace : findSpace v.cfg v.media (uint64 (info.fileSize + sizeofHwImageDescription))
        v.files 0 with
      | none => exact .refused rfl (by rw [hmoved, hspace]; rfl)
      | some place =>
        obtain ⟨start, place⟩ := place
        rw [hspace] at hmoved
        cases place with
        | none => exact hwork _ _ (.inl ⟨hmoved, rfl⟩)
        | some place =>
            obtain ⟨g, hg, hgDisk, rfl⟩ := findSpace_mem hspace
            refine hwork _ _ (.inr ⟨g, hg, hgDisk, fun heq => hdisk ?_, hmoved, rfl⟩)
            -- the file is not in front of itself, since it has not been flushed
            obtain ⟨hf, hhandle⟩ := lookup_some hlookup
            rwa [hdistinct.eq_of_handle hf hg (hhandle.trans heq.symm)]

/-- The order a flush leaves. -/
lemma flush_handles (hdistinct : Distinct v.files) :
    v.movedBefore handle = none ∧ (v.flush handle).handles = v.handles ∨
      ∃ g ∈ v.files, g.onDisk = true ∧ g.handle ≠ handle ∧ handle ∈ v.handles ∧
        v.movedBefore handle = some g.handle ∧
        (v.flush handle).handles = moveBefore handle g.handle v.handles := by
  have hstep := @flushFile_step v handle hdistinct
  generalize v.flush handle = v', (bootMonFsFlushFile handle v).1 = status at hstep ⊢
  cases hstep with
  | refused _ hstays => exact .inl ⟨hstays, rfl⟩
  | worked hlookup _ _ _ hfiles =>
      rcases hfiles with ⟨hstays, rfl⟩ | ⟨g, hg, hdisk, hne, hmoved, rfl⟩
      · exact .inl ⟨hstays, map_update⟩
      · obtain ⟨hf, rfl⟩ := lookup_some hlookup
        exact .inr
          ⟨g, hg, hdisk, hne, List.mem_map_of_mem hf, hmoved, map_update.trans map_relink⟩

lemma flush_distinct (hdistinct : Distinct v.files) : Distinct (v.flush handle).files := by
  show (v.flush handle).handles.Nodup
  rcases flush_handles hdistinct with ⟨-, hsame⟩ | ⟨g, hg, -, hne, hmem, -, hmoved⟩
  · rw [hsame]
    exact hdistinct
  · rw [hmoved]
    exact (moveBefore_perm hdistinct hmem (List.mem_map_of_mem hg) hne).nodup_iff.mpr hdistinct

/-- The other files are as they were. -/
lemma mem_flush_iff (hdistinct : Distinct v.files) (hne : g.handle ≠ handle) :
    g ∈ (v.flush handle).files ↔ g ∈ v.files := by
  have hstep := @flushFile_step v handle hdistinct
  generalize v.flush handle = v', (bootMonFsFlushFile handle v).1 = status at hstep ⊢
  cases hstep with
  | refused => exact Iff.rfl
  | @worked f f' files _ s hlookup _ hopen _ hfiles =>
      obtain ⟨-, rfl⟩ := lookup_some hlookup
      have hne' : g.handle ≠ f'.handle := by rwa [hopen.handle]
      have hupdate : g ∈ update f' files ↔ g ∈ files :=
        ⟨fun h => (mem_update h).resolve_left fun heq => hne' (by rw [heq]),
          fun h => mem_update_of_mem h hne'⟩
      refine hupdate.trans ?_
      rcases hfiles with ⟨-, rfl⟩ | ⟨k, -, -, -, -, rfl⟩
      · exact Iff.rfl
      · exact ⟨fun h => (mem_relink h).resolve_left fun heq => hne (by rw [heq]),
          fun h => mem_insertBefore_of_mem (List.mem_filter.mpr ⟨h, decide_eq_true hne⟩)⟩

/-- The file that is flushed is open as it was, and has nothing left to flush if its flush
succeeds. -/
lemma of_mem_flush (hdistinct : Distinct v.files) (hg : g ∈ (v.flush handle).files)
    (hhandle : g.handle = handle) :
    ∃ f, lookup handle v.files = some f ∧ StillOpen g f ∧
      (f.isWritable = true → (bootMonFsFlushFile handle v).1.isError = false →
        g.regionToFlush = []) := by
  have hstep := @flushFile_step v handle hdistinct
  generalize v.flush handle = v' at hg hstep
  generalize (bootMonFsFlushFile handle v).1 = status at hstep ⊢
  cases hstep with
  | refused herror =>
      refine ⟨g, hhandle ▸ hdistinct.lookup hg, .refl g, fun _ hok => ?_⟩
      rw [herror] at hok
      cases hok
  | @worked f f' files _ s hlookup hwritable hopen hfreed =>
      have heq : g = f' := eq_of_mem_update hg
        (hhandle.trans ((lookup_some hlookup).2.symm.trans hopen.handle.symm))
      exact ⟨f, hlookup, heq ▸ hopen, fun _ hok => heq ▸ hfreed hok⟩

lemma KeepsPlace.handles (h : KeepsPlace handle v) (hdistinct : Distinct v.files) :
    (v.flush handle).handles = v.handles := by
  rcases flush_handles hdistinct with ⟨-, hsame⟩ | ⟨g, hg, -, hne, hmem, hmoved, hhandles⟩
  · exact hsame
  · have hnext : next handle v.handles = some g.handle := by
      rcases h with h | h
      · rw [hmoved] at h
        cases h
      · rw [← h, hmoved]
    rw [hhandles, moveBefore_next hdistinct.handles_nodup hnext hmem]

end Step

/-! ## The traversal -/

section Walk

variable {v v' : Volume} {f : File} {handle n : ℕ} {handles pre visited : List ℕ}

lemma KeepPlaces.inTurn (h : KeepPlaces handles v) (hdistinct : Distinct v.files) :
    InTurn Volume.handles Volume.flush handles v := by
  induction handles generalizing v with
  | nil => trivial
  | cons handle handles ih =>
      exact ⟨h.1.handles hdistinct, ih h.2 (flush_distinct hdistinct)⟩

lemma mem_visitAll_iff (hdistinct : Distinct v.files) (hne : f.handle ∉ handles) :
    f ∈ (visitAll Volume.flush handles v).files ↔ f ∈ v.files := by
  induction handles generalizing v with
  | nil => exact Iff.rfl
  | cons handle handles ih =>
      rw [List.mem_cons, not_or] at hne
      exact (ih (flush_distinct hdistinct) hne.2).trans (mem_flush_iff hdistinct hne.1)

/-- Files flushed one after the other have nothing left to flush. -/
lemma visitAll_saved (hdistinct : Distinct v.files) (hnodup : handles.Nodup)
    (hflushable : Flushable handles v) (hf : f ∈ (visitAll Volume.flush handles v).files)
    (hmem : f.handle ∈ handles) (hwritable : f.isWritable = true) : f.regionToFlush = [] := by
  induction handles generalizing v with
  | nil => cases hmem
  | cons handle handles ih =>
      obtain ⟨hnot, hnodup⟩ := List.nodup_cons.mp hnodup
      obtain ⟨hok, hrest⟩ := hflushable
      rcases List.mem_cons.mp hmem with heq | hmem
      · -- the flushes behind leave the file alone
        have hf' := (mem_visitAll_iff (flush_distinct hdistinct) (heq ▸ hnot)).mp hf
        obtain ⟨f₀, hlookup, hopen, hfreed⟩ := of_mem_flush hdistinct hf' heq
        have hwritable₀ : f₀.isWritable = true := hopen.isWritable ▸ hwritable
        exact hfreed hwritable₀ (hok (by rw [hlookup]; exact hwritable₀))
      · exact ih (flush_distinct hdistinct) hnodup hrest hf hmem

/-- Files that keep their places are each visited once. -/
theorem flushesAll_of_keepPlaces (hdistinct : Distinct v.files)
    (hflushable : Flushable v.handles v) (h : KeepPlaces v.handles v) : FlushesAll v := by
  have hturn := h.inTurn hdistinct
  have hwalk := walk_inTurn hdistinct.handles_nodup (List.nil_append _).symm hturn
  refine ⟨v.handles.length, v.handles, visitAll Volume.flush v.handles v, ?_, .refl _, ?_⟩
  · rw [bootMonFsFlushDirectory, hwalk]
    rfl
  · intro f hf hwritable
    have hmem : f.handle ∈ v.handles := hturn.order_visitAll ▸ List.mem_map_of_mem hf
    exact visitAll_saved hdistinct hdistinct hflushable hf hmem hwritable

/-- The file behind the handle has been flushed. -/
def Volume.OnDiskAt (v : Volume) (handle : ℕ) : Prop :=
  ∀ f ∈ v.files, f.handle = handle → f.onDisk = true

lemma onDiskAt_flush_iff (hdistinct : Distinct v.files) {h : ℕ} (hne : h ≠ handle) :
    (v.flush handle).OnDiskAt h ↔ v.OnDiskAt h := by
  constructor
  · intro hdisk f hf heq
    exact hdisk f ((mem_flush_iff hdistinct (heq ▸ hne)).mpr hf) heq
  · intro hdisk f hf heq
    exact hdisk f ((mem_flush_iff hdistinct (heq ▸ hne)).mp hf) heq

lemma OnDiskAt.flush (hdistinct : Distinct v.files) {h : ℕ} (hdisk : v.OnDiskAt h) :
    (v.flush handle).OnDiskAt h := by
  by_cases hne : h = handle
  · subst hne
    intro f hf heq
    obtain ⟨f₀, hlookup, hopen, -⟩ := of_mem_flush hdistinct hf heq
    obtain ⟨hf₀, hhandle⟩ := lookup_some hlookup
    exact hopen.onDisk (hdisk f₀ hf₀ hhandle)
  · exact (onDiskAt_flush_iff hdistinct hne).mpr hdisk

/-- A file that has been flushed before is not moved. -/
lemma keepsPlace_of_onDiskAt (hdisk : v.OnDiskAt handle) : KeepsPlace handle v := by
  refine .inl ?_
  rw [Volume.movedBefore]
  cases hlookup : lookup handle v.files with
  | none => rfl
  | some f =>
    obtain ⟨hf, hhandle⟩ := lookup_some hlookup
    simp only [hdisk f hf hhandle, or_true, if_true]
    cases f.info <;> rfl

lemma keepPlaces_of_onDiskAt (hdistinct : Distinct v.files)
    (hdisk : ∀ h ∈ handles, v.OnDiskAt h) : KeepPlaces handles v := by
  induction handles generalizing v with
  | nil => trivial
  | cons handle handles ih =>
      exact ⟨keepsPlace_of_onDiskAt (hdisk handle List.mem_cons_self),
        ih (flush_distinct hdistinct) fun h hh =>
          OnDiskAt.flush hdistinct (hdisk h (List.mem_cons_of_mem _ hh))⟩

/-- Where the first of the files that are left is moved past others, the walk does not come to
these: behind the place it goes on from there are only files that have been flushed before. -/
lemma keepsPlace_of_walk (hdistinct : Distinct v.files)
    (horder : v.handles = pre ++ handle :: handles)
    (hfirst : handles.Pairwise fun h h' => v.OnDiskAt h → v.OnDiskAt h')
    (hwalk : walk Volume.handles Volume.flush n (next handle (v.flush handle).handles)
      (v.flush handle) = some (visited, v'))
    (hpre : ∀ h ∈ visited, h ∉ pre) (hall : ∀ h ∈ handles, h ∈ visited) :
    KeepsPlace handle v := by
  have hnodup : (pre ++ handle :: handles).Nodup := horder ▸ hdistinct.handles_nodup
  rcases flush_handles hdistinct with ⟨hstays, -⟩ | ⟨g, hg, hdisk, hne, hmem, hmoved, hhandles⟩
  · exact .inl hstays
  have hgMem : g.handle ∈ v.handles := List.mem_map_of_mem hg
  rw [hhandles, next_moveBefore hdistinct.handles_nodup hmem hgMem hne] at hwalk
  rw [horder] at hgMem
  rcases List.mem_append.mp hgMem with hgPre | hgMem
  · -- it goes on with a file it has visited
    obtain ⟨_, r, -, hvisited, -⟩ := walk_some hwalk
    cases hvisited
    exact absurd hgPre (hpre g.handle List.mem_cons_self)
  obtain ⟨mid, post, rfl⟩ := List.append_of_mem ((List.mem_cons.mp hgMem).resolve_left hne)
  cases mid with
  | nil =>
      refine .inr ?_
      rw [hmoved, horder, next_split (notMem_left hnodup)]
      rfl
  | cons skipped mid =>
      exfalso
      have hgDisk : v.OnDiskAt g.handle := fun f hf heq => by
        rwa [hdistinct.eq_of_handle hf hg heq]
      have hpost := (List.pairwise_cons.mp (List.pairwise_append.mp hfirst).2.1).1
      have hdiskAt : ∀ h ∈ g.handle :: post, (v.flush handle).OnDiskAt h := by
        intro h hh
        rcases List.mem_cons.mp hh with rfl | hh
        · exact OnDiskAt.flush hdistinct hgDisk
        · exact OnDiskAt.flush hdistinct (hpost h hh hgDisk)
      have hdistinct' : Distinct (v.flush handle).files := flush_distinct hdistinct
      have hsplit : (v.flush handle).handles =
          (pre ++ skipped :: mid ++ [handle]) ++ g.handle :: post := by
        rw [hhandles, horder, moveBefore_forward hnodup]
        simp
      have hrest := walk_inTurn hdistinct'.handles_nodup hsplit
        ((keepPlaces_of_onDiskAt hdistinct' hdiskAt).inTurn hdistinct')
      have hvisited : visited = g.handle :: post := (Prod.ext_iff.mp (walk_unique hwalk hrest)).1
      have hskipped := hall skipped (by simp)
      rw [hvisited] at hskipped
      have hnodup' := (List.nodup_cons.mp (List.nodup_append.mp hnodup).2.1).2
      exact (List.nodup_cons.mp hnodup').1 (List.mem_append_right _ hskipped)

/-- A walk that visits the rest of the list, and no file a second time, moves no file, if the
new files stand in front. -/
lemma keepPlaces_of_walk (hdistinct : Distinct v.files) (horder : v.handles = pre ++ handles)
    (hfirst : handles.Pairwise fun h h' => v.OnDiskAt h → v.OnDiskAt h')
    (hwalk : walk Volume.handles Volume.flush n handles.head? v = some (visited, v'))
    (hnodup : visited.Nodup) (hpre : ∀ h ∈ visited, h ∉ pre)
    (hall : ∀ h ∈ handles, h ∈ visited) : KeepPlaces handles v := by
  induction handles generalizing v n visited pre with
  | nil => trivial
  | cons handle handles ih =>
      have horderNodup : (pre ++ handle :: handles).Nodup := horder ▸ hdistinct.handles_nodup
      have hnotRest : handle ∉ handles :=
        (List.nodup_cons.mp (List.nodup_append.mp horderNodup).2.1).1
      obtain ⟨n', ⟨visited', v''⟩, -, heq, hrest⟩ := walk_some hwalk
      cases heq
      obtain ⟨hnot, hnodup'⟩ := List.nodup_cons.mp hnodup
      have hfirst' := (List.pairwise_cons.mp hfirst).2
      have hall' : ∀ h ∈ handles, h ∈ visited' := fun h hh =>
        (List.mem_cons.mp (hall h (List.mem_cons_of_mem _ hh))).resolve_left
          fun heq : h = handle => hnotRest (heq ▸ hh)
      have hkeeps : KeepsPlace handle v := keepsPlace_of_walk hdistinct horder hfirst' hrest
        (fun h hh => hpre h (List.mem_cons_of_mem _ hh)) hall'
      have hsame := hkeeps.handles hdistinct
      have hsplit : (v.flush handle).handles = (pre ++ [handle]) ++ handles := by
        rw [hsame, horder]
        simp
      rw [hsame, horder, next_split (notMem_left horderNodup)] at hrest
      refine ⟨hkeeps, ih (flush_distinct hdistinct) hsplit ?_ hrest hnodup' ?_ hall'⟩
      · refine hfirst'.imp_of_mem fun {h h'} hh hh' hdisk => ?_
        rw [onDiskAt_flush_iff hdistinct (fun heq : h = handle => hnotRest (heq ▸ hh)),
          onDiskAt_flush_iff hdistinct (fun heq : h' = handle => hnotRest (heq ▸ hh'))]
        exact hdisk
      · intro h hh hmem
        rcases List.mem_append.mp hmem with hmem | hmem
        · exact hpre h (List.mem_cons_of_mem _ hh) hmem
        · exact hnot (List.mem_singleton.mp hmem ▸ hh)

lemma flushDirectory_unique {m : ℕ} {r : EfiStatus × List ℕ × Volume} {status : EfiStatus}
    (h : bootMonFsFlushDirectory n v = some (status, visited, v'))
    (h' : bootMonFsFlushDirectory m v = some r) : visited = r.2.1 := by
  obtain ⟨_, hwalk, heq⟩ := Option.map_eq_some_iff.mp h
  obtain ⟨_, hwalk', rfl⟩ := Option.map_eq_some_iff.mp h'
  cases heq
  rw [walk_unique hwalk hwalk']

/-- **When a flush of the volume flushes everything.** -/
theorem flushesAll_iff (hdistinct : Distinct v.files) (hflushable : Flushable v.handles v) :
    (KeepPlaces v.handles v → FlushesAll v) ∧
      (NewFilesFirst v → FlushesAll v → KeepPlaces v.handles v) := by
  refine ⟨flushesAll_of_keepPlaces hdistinct hflushable, ?_⟩
  rintro hfirst ⟨n, visited, v', hcall, hperm, -⟩
  rw [bootMonFsFlushDirectory, Option.map_eq_some_iff] at hcall
  obtain ⟨⟨visited', v''⟩, hwalk, heq⟩ := hcall
  cases heq
  refine keepPlaces_of_walk hdistinct (List.nil_append _).symm ?_ hwalk
    (hperm.nodup_iff.mpr hdistinct)
    (fun _ _ => List.not_mem_nil) fun h hh => hperm.mem_iff.mpr hh
  rw [Volume.handles, List.pairwise_map]
  refine List.Pairwise.imp_of_mem (fun {f g} hf hg hdisk hfDisk k hk heq => ?_) hfirst
  rw [hdistinct.eq_of_handle hk hg heq]
  exact hdisk (hfDisk f hf rfl)

end Walk

/-! ## Two new files -/

/-- The name `C`. -/
def nameC : FileName := ⟨[0x43], by decide, by decide⟩

/-- The calls after which the new files `C` and `A` stand in front of `B`. -/
def twoNewFiles : List (Environment × Call) :=
  freeFirstBlock ++ createFile nameA 3 ++ createFile nameC 4

/-- The volume on a blank media after some calls, at the start of the next one. -/
def volumeAfter (calls : List (Environment × Call)) : Volume :=
  (runCalls calls (bootMonFsInitialize (blankVolume 3)).2).enter .good

/-- Of the two new files, the first goes to block 0 and is put in front of
`B`, so that the loop goes on with `B` and does not come to the other. -/
theorem not_flushesAll_twoNewFiles :
    ¬ ∀ v₀ calls v env, Mounted v₀ → driver.Run v₀ calls v → Distinct v.files →
      Flushable (v.enter env).handles (v.enter env) → FlushesAll (v.enter env) := by
  intro h
  have hall : FlushesAll (volumeAfter twoNewFiles) := h _ _ _ .good
    (blankVolume_mounted 3 (by decide)) (run_runCalls twoNewFiles _)
    (by unfold Distinct; decide +kernel) (by decide +kernel)
  obtain ⟨n, visited, v', hcall, hperm, -⟩ := hall
  have hvisits : (bootMonFsFlushDirectory 10 (volumeAfter twoNewFiles)).map (·.2.1) =
      some [4, 2] := by decide +kernel
  obtain ⟨r, hcall', hr⟩ := Option.map_eq_some_iff.mp hvisits
  rw [flushDirectory_unique hcall hcall', hr] at hperm
  exact absurd hperm.length_eq (by decide +kernel)

/-- A single new file in front of `B` is put in front of `B`. -/
theorem flushesAll_iff_newFile :
    FlushesAll (volumeAfter (freeFirstBlock ++ createFile nameA 3)) :=
  (flushesAll_iff (by unfold Distinct; decide +kernel) (by decide +kernel)).1 (by decide +kernel)

end BootMonFs

end MuPlatform
