import MuPlatform.BootMonFs.Contents

/-!
# Reading what was written

A client thinks of a volume as of a set of byte files (`Contents`): what a call that succeeds
does to them is `Call.effect`, which knows nothing of blocks, descriptions or flushes.  The
driver keeps that picture (`Reflects`) over every run of calls that are `Careful`: the flushes
find room and lay no description over data, sizes stay below 4 GiB, and a resize or a deletion
succeeds.  `Reflects.perform` is one call.

A read flushes first, so every call but `Delete` can be the one that moves the bytes of a file
from memory to the media; `Reflects.flush` is the step that does the work.
-/

namespace MuPlatform
namespace BootMonFs

/-! ## The client's picture -/

/-- The files of a volume as a client sees them, by handle. -/
abbrev Contents := ℕ → Option ByteFile

/-- The picture with one file changed. -/
def Contents.change (contents : Contents) (handle : ℕ) (f : ByteFile → ByteFile) : Contents :=
  Function.update contents handle ((contents handle).map f)

/-- What a call that succeeds does to the files; `opened` is the handle an open returns. -/
def Call.effect (contents : Contents) (opened : Option ℕ) : Call → Contents
  | .openFile _ _ _ =>
      match opened with
      | some handle =>
          Function.update contents handle (some (((contents handle).getD .empty).seek 0))
      | none => contents
  | .closeFile _ | .flushFile _ => contents
  | .delete handle => Function.update contents handle none
  | .readFile handle n =>
      contents.change handle fun file => file.seek (file.position + file.available n)
  | .writeFile handle buffer => contents.change handle fun file => file.write buffer
  | .setPosition handle position =>
      contents.change handle fun file =>
        file.seek (if position = endOfFile then file.size else position)
  | .setInfo handle args => contents.change handle fun file => file.resize args.fileSize

/-- The handle a call returns. -/
def openedHandle (v : Volume) : Call → Option ℕ
  | .openFile name mode attributes => (bootMonFsOpenFile name mode attributes v).2.1
  | _ => none

/-- The driver with the client's picture beside it. -/
def pictured : System (Volume × Contents) (Environment × Call) where
  Init s := Mounted s.1
  Step s step t :=
    t.1 = (perform step.2 (s.1.enter step.1)).2 ∧
      t.2 = if (perform step.2 (s.1.enter step.1)).1.isError then s.2
        else step.2.effect s.2 (openedHandle (s.1.enter step.1) step.2)

/-- The picture of a volume that has just been initialised. -/
def Volume.contents (v : Volume) : Contents := fun handle =>
  (lookup handle v.files).map fun f =>
    ⟨f.dataSize, 0, f.stored v.services.content v.media, stored_below⟩

/-- The condition on a call. -/
structure Careful (v : Volume) (step : Environment × Call) : Prop where
  fits : FlushesFit v step
  spares : ∀ handle f, step.2.flushes = some handle → lookup handle v.files = some f →
    f.openMode ≠ .read → SparesData v.media f.dataSize f.dataSize f.regionToFlush
  hasSpace : ∀ handle, step.2.flushes = some handle →
    (bootMonFsFlushFile handle (v.enter step.1)).1 ≠ .volumeFull
  writes : ∀ handle buffer f, step.2 = .writeFile handle buffer →
    lookup handle v.files = some f → f.position + buffer.length < 2 ^ 32
  seeks : ∀ handle position, step.2 = .setPosition handle position → position < 2 ^ 64
  resizes : ∀ handle args, step.2 = .setInfo handle args →
    args.fileSize < 2 ^ 32 ∧ (perform step.2 (v.enter step.1)).1 = .success
  deletes : ∀ handle, step.2 = .delete handle → (perform step.2 (v.enter step.1)).1 = .success

/-! ## The invariant -/

/-- The file on the media is the file in memory. -/
structure File.Written (f : File) : Prop where
  regionToFlush : f.regionToFlush = []
  fileSize : ∀ info, f.info = some info → info.fileSize = f.dataSize

/-- The driver's file stands for the byte file. -/
structure File.Holds (content : ByteStore) (media : Media) (f : File) (file : ByteFile) :
    Prop where
  size : file.size = f.info.elim f.dataSize (·.fileSize)
  position : f.info.isSome = true → f.position = file.position ∧ file.position < endOfFile
  known : ∀ x byte, file.known x = some byte → f.current content media x = some byte
  written : f.info = none ∨ f.openMode = .read → f.Written
  size_lt : file.size < 2 ^ 32

/-- The picture is that of the volume. -/
structure Reflects (v : Volume) (contents : Contents) : Prop where
  layout : LayoutInv v
  sound : ∀ f ∈ v.files, f.Sound v.media
  holds : ∀ f ∈ v.files, ∃ file, contents f.handle = some file ∧
    f.Holds v.services.content v.media file
  fresh : ∀ handle, v.nextHandle ≤ handle → contents handle = none

section Holds

variable {content content' : ByteStore} {media : Media} {f f' : File} {file : ByteFile}

/-- A file that has nothing queued is what is stored. -/
lemma File.Written.current (h : f.Written) :
    f.current content media = f.stored content media := by
  rw [File.current, h.regionToFlush]
  rfl

/-- Bytes outside the blocks of a file do not matter to it. -/
lemma File.Holds.congr (h : f.Holds content media file) (hsound : f.Sound media)
    (hagree : ∀ y, (f.extent media).Has y → content' y = content y) :
    f.Holds content' media file := by
  refine ⟨h.size, h.position, ?_, h.written, h.size_lt⟩
  intro x byte hx
  rw [File.current, stored_congr hsound rfl hagree]
  exact h.known x byte hx

/-- What is stored depends on the description only. -/
lemma SamePlace.stored (h : SamePlace f' f) :
    f'.stored content media = f.stored content media := by
  unfold File.stored File.onDisk File.dataSize File.blockStart
  rw [h.hwDescription]

end Holds

/-! ## Flushes -/

/-- The bytes that no write touches. -/
lemma replay_off {content : ByteStore} {ws : List DiskWrite} {y : ℕ}
    (h : ∀ w ∈ ws, ¬ w.span.Has y) : replay content ws y = content y := by
  induction ws generalizing content with
  | nil => rfl
  | cons w ws ih =>
      rw [replay_cons, ih fun w' hw' => h w' (List.mem_cons_of_mem _ hw')]
      refine ByteStore.write_apply_off ?_
      have hw := h w List.mem_cons_self
      simp only [Span.Has, DiskWrite.span] at hw
      omega

/-- Flushed files lie apart. -/
lemma LayoutInv.extent_apart {v : Volume} (h : LayoutInv v) {f g : File} (hf : f ∈ v.files)
    (hg : g ∈ v.files) (hne : f.handle ≠ g.handle) {y : ℕ} (hy : (f.extent v.media).Has y) :
    ¬ (g.extent v.media).Has y := by
  have hdisk : ∀ {k : File}, (k.extent v.media).Has y → k.onDisk = true := by
    intro k hk
    by_contra hdisk
    rw [File.extent, if_neg hdisk] at hk
    exact absurd hk (by simp [Span.Has])
  have hspan : ∀ {k : File}, k ∈ v.files → (k.extent v.media).Has y →
      k.blockStart * v.media.blockSize ≤ y ∧ y < (k.blockEnd + 1) * v.media.blockSize := by
    intro k hk hy
    have hle := (h.placed k hk (hdisk hy)).le
    have hsum : (k.blockEnd + 1) * v.media.blockSize = k.blockStart * v.media.blockSize +
        (k.blockEnd + 1 - k.blockStart) * v.media.blockSize := by
      rw [← Nat.add_mul]
      congr 1
      omega
    rw [File.extent, if_pos (hdisk hy)] at hy
    obtain ⟨hlo, hhi⟩ := hy
    simp only at hlo hhi
    omega
  -- the blocks of the one end before those of the other begin
  have hlt : ∀ {k k' : File}, k ∈ v.files → k' ∈ v.files → Before k k' →
      (k.extent v.media).Has y → ¬ (k'.extent v.media).Has y := by
    intro k k' hk hk' hbefore hy hy'
    have hblocks := hbefore (hdisk hy) (hdisk hy')
    have hmul : (k.blockEnd + 1) * v.media.blockSize ≤ k'.blockStart * v.media.blockSize :=
      Nat.mul_le_mul_right _ hblocks
    have := (hspan hk hy).2
    have := (hspan hk' hy').1
    omega
  intro hy'
  obtain ⟨pre, post, hsplit⟩ := List.append_of_mem hf
  have hordered := h.ordered
  rw [hsplit, List.pairwise_append, List.pairwise_cons] at hordered
  rw [hsplit] at hg
  rcases List.mem_append.mp hg with hpre | hpost
  · exact hlt (hsplit ▸ List.mem_append_left _ hpre) hf
      (hordered.2.2 g hpre f List.mem_cons_self) hy' hy
  rcases List.mem_cons.mp hpost with rfl | hpost
  · exact hne rfl
  · exact hlt hf (hsplit ▸ List.mem_append_right _ (List.mem_cons_of_mem _ hpost))
      (hordered.2.1.1 g hpost) hy hy'

/-- A file that is not open for writing is not flushed. -/
lemma flushFile_refused {v : Volume} {handle : ℕ}
    (h : ¬ ∃ f info, lookup handle v.files = some f ∧ f.info = some info ∧ f.openMode ≠ .read) :
    (bootMonFsFlushFile handle v).2 = v := by
  unfold bootMonFsFlushFile
  cases hlookup : lookup handle v.files with
  | none => rfl
  | some f =>
    cases hinfo : f.info with
    | none =>
        dsimp only
        rw [hinfo]
    | some info =>
        have hmode : f.openMode = .read := by
          by_contra hmode
          exact h ⟨f, info, hlookup, hinfo, hmode⟩
        simp only [hinfo, if_pos hmode]

/-- A flush of a file that is open for writing finds it a place, or no space. -/
lemma flushFile_placed {v : Volume} {handle : ℕ} {f : File} {info : FileInfo}
    (hquiet : v.services.env.Quiet) (hlookup : lookup handle v.files = some f)
    (hinfo : f.info = some info) (hmode : f.openMode ≠ .read)
    (hstatus : (bootMonFsFlushFile handle v).1 ≠ .volumeFull) :
    ∃ fileStart files status f' ws s',
      placeFile v.cfg v.media f info.fileSize v.files = some (fileStart, files) ∧
      FlushOutcome (flushContext v f info fileStart files) info f status f' ws ∧
      status ≠ .volumeFull ∧ v.services.Wrote ws s' ∧
      (bootMonFsFlushFile handle v).2 = { v with files := update f' files, services := s' } := by
  unfold bootMonFsFlushFile at hstatus ⊢
  simp only [hlookup, hinfo, if_neg hmode] at hstatus ⊢
  cases hplace : placeFile v.cfg v.media f info.fileSize v.files with
  | none =>
      rw [hplace] at hstatus
      exact absurd rfl hstatus
  | some place =>
      obtain ⟨fileStart, files⟩ := place
      obtain ⟨status, f', ws, s', heq, houtcome, hwrote⟩ := flushPlaced_quiet hquiet
        (flushContext v f info fileStart files) info f
      simp only [hplace, heq] at hstatus ⊢
      exact ⟨fileStart, files, status, f', ws, s', rfl, houtcome, hstatus, hwrote, rfl⟩

namespace Reflects

variable {v : Volume} {contents : Contents} {handle : ℕ} {f : File}

/-- A flush that finds space stores its file, and keeps the picture. -/
theorem flush (h : Reflects v contents) (hplain : v.media.Plain v.cfg.arch)
    (hquiet : v.services.env.Quiet) (hroom : FlushInRoom v handle)
    (hspares : ∀ f, lookup handle v.files = some f → f.openMode ≠ .read →
      SparesData v.media f.dataSize f.dataSize f.regionToFlush)
    (hstatus : (bootMonFsFlushFile handle v).1 ≠ .volumeFull) :
    Reflects (bootMonFsFlushFile handle v).2 contents ∧
      ∀ f', lookup handle (bootMonFsFlushFile handle v).2.files = some f' → f'.Written := by
  obtain ⟨hlayout, -, -⟩ := flushFile_layout h.layout hplain hquiet hroom
  by_cases hopen : ∃ f info, lookup handle v.files = some f ∧ f.info = some info ∧
      f.openMode ≠ .read
  case neg =>
    rw [flushFile_refused hopen]
    refine ⟨h, fun f hlookup => ?_⟩
    obtain ⟨file, -, hholds⟩ := h.holds f (lookup_some hlookup).1
    refine hholds.written ?_
    by_contra hwritable
    rw [not_or] at hwritable
    obtain ⟨info, hinfo⟩ := Option.ne_none_iff_exists'.mp hwritable.1
    exact hopen ⟨f, info, hlookup, hinfo, hwritable.2⟩
  obtain ⟨f, info, hlookup, hinfo, hmode⟩ := hopen
  obtain ⟨fileStart, files, status, f', ws, s', hplaceFile, houtcome, hstatus, hwrote, hcall⟩ :=
    flushFile_placed hquiet hlookup hinfo hmode hstatus
  rw [hcall] at hlayout ⊢
  obtain ⟨hf, hhandle⟩ := lookup_some hlookup
  obtain ⟨pre, post, b, hplace⟩ := placeFile_placement h.layout hplain hf hplaceFile
  have hfits := hroom f info fileStart files hlookup hinfo hmode hplaceFile
  have hdistinct : Distinct (pre ++ f :: post) := hplace.split ▸ hplace.distinct
  have hbase := hplace.flushBase h.layout hplain hf info hfits.1
  have hafter : filesAfter handle files = post := by
    rw [hplace.split, ← hhandle, filesAfter_split hdistinct]
  rw [hafter] at hfits
  obtain ⟨-, hwrites⟩ := hbase.flushOutcome rfl hfits houtcome
  obtain ⟨hflushed, hstores⟩ := hbase.flushOutcome_stores v.services.content rfl
    (h.sound f hf) hfits (hspares f hlookup hmode) houtcome hstatus
  have hfiles : update f' files = pre ++ f' :: post := by
    rw [hplace.split, update_split hdistinct houtcome.handle]
  have hothers : ∀ g, g ∈ pre ++ post → g ∈ v.files ∧ g.handle ≠ f.handle := by
    intro g hg
    rw [hplace.others, List.mem_filter] at hg
    exact ⟨hg.1, of_decide_eq_true hg.2⟩
  have hmem : ∀ g, g ∈ update f' files ↔ g = f' ∨ g ∈ pre ++ post := by
    intro g
    rw [hfiles]
    simp only [List.mem_append, List.mem_cons]
    tauto
  obtain ⟨physicalSize, hopened⟩ := hflushed.opened
  have hwritten : f'.Written := ⟨hflushed.regionToFlush, fun info' hinfo' => by
    rw [hopened] at hinfo'
    rw [← Option.some.inj hinfo']
    exact hflushed.dataSize.symm⟩
  refine ⟨⟨hlayout, ?_, ?_, ?_⟩, ?_⟩
  · intro g hg
    rcases (hmem g).mp hg with rfl | hg
    · exact hflushed.sound
    · exact h.sound g (hothers g hg).1
  · intro g hg
    rcases (hmem g).mp hg with rfl | hgOther
    · -- the flushed file is on the media as it was in memory
      obtain ⟨file, hfile, hholds⟩ := h.holds f hf
      have hsize : file.size = info.fileSize := by rw [hholds.size, hinfo, Option.elim_some]
      refine ⟨file, by rw [hflushed.handle]; exact hfile, ?_, ?_, ?_, ?_, hholds.size_lt⟩
      · rw [hopened, Option.elim_some]
        exact hsize
      · intro _
        rw [hflushed.position]
        exact hholds.position (by rw [hinfo]; rfl)
      · intro x byte hx
        have hlt := file.inside.lt hx
        rw [hwritten.current, hwrote.content]
        exact hstores x byte (by omega) (hholds.known x byte hx)
      · exact fun _ => hwritten
    · obtain ⟨hgFiles, hne⟩ := hothers g hgOther
      obtain ⟨file, hfile, hholds⟩ := h.holds g hgFiles
      refine ⟨file, hfile, hholds.congr (h.sound g hgFiles) fun y hy => ?_⟩
      rw [hwrote.content]
      refine replay_off fun w hw hin => ?_
      rcases hwrites w hw with hold | hnew
      · exact h.layout.extent_apart hf hgFiles hne.symm (hold.has hin) hy
      · refine hlayout.extent_apart ((hmem f').mpr (.inl rfl)) hg ?_ (hnew.has hin) hy
        rw [houtcome.handle]
        exact hne.symm
  · exact h.fresh
  · intro f'' hlookup'
    have hlookupNew := hlayout.distinct.lookup ((hmem f').mpr (.inl rfl))
    rw [houtcome.handle, hhandle] at hlookupNew
    rw [hlookupNew] at hlookup'
    cases hlookup'
    exact hwritten

/-! ## The calls -/

/-- The byte file behind a handle. -/
lemma file (h : Reflects v contents) (hlookup : lookup handle v.files = some f) :
    ∃ file, contents handle = some file ∧ f.Holds v.services.content v.media file := by
  obtain ⟨hf, rfl⟩ := lookup_some hlookup
  exact h.holds f hf

/-- The firmware's part of a volume matters by the bytes of the media only. -/
lemma withServices (h : Reflects v contents) {s : Services}
    (hcontent : s.content = v.services.content) : Reflects { v with services := s } contents where
  layout := h.layout.still (still_of_files ⟨rfl, rfl, rfl, rfl⟩ rfl)
  sound := h.sound
  holds := by
    intro f hf
    obtain ⟨file, hfile, hholds⟩ := h.holds f hf
    exact ⟨file, hfile, by rw [hcontent]; exact hholds⟩
  fresh := h.fresh

/-- Work on one file that waits in memory. -/
lemma put (h : Reflects v contents) (hlookup : lookup handle v.files = some f) {f' : File}
    {file' : ByteFile} {s : Services} (hsame : SamePlace f' f)
    (hcontent : s.content = v.services.content)
    (hholds : f'.Holds v.services.content v.media file') :
    Reflects (v.put f' s) (Function.update contents handle (some file')) := by
  obtain ⟨hf, hhandle⟩ := lookup_some hlookup
  have hlayout := h.layout.still (still_put h.layout.distinct hlookup hsame s)
  have hnew : f' ∈ (v.put f' s).files :=
    (lookup_some (lookup_update hlookup (hsame.handle.trans hhandle))).1
  refine ⟨hlayout, ?_, ?_, ?_⟩
  · intro g hg
    rcases mem_update hg with rfl | hg
    · exact (h.sound f hf).congr hsame.hwDescription hsame.hwDescAddress
    · exact h.sound g hg
  · intro g hg
    by_cases hhandle' : g.handle = handle
    · have heq : g = f' := hlayout.distinct.eq_of_handle hg hnew
        (hhandle'.trans (hsame.handle.trans hhandle).symm)
      subst heq
      refine ⟨file', by rw [hhandle', Function.update_self], ?_⟩
      show g.Holds s.content v.media file'
      rw [hcontent]
      exact hholds
    · rcases mem_update hg with rfl | hg
      · exact absurd (hsame.handle.trans hhandle) hhandle'
      obtain ⟨file, hfile, hgHolds⟩ := h.holds g hg
      refine ⟨file, by rw [Function.update_of_ne hhandle', hfile], ?_⟩
      show g.Holds s.content v.media file
      rw [hcontent]
      exact hgHolds
  · intro k hk
    have hlt := h.layout.fresh f hf
    have hk' : v.nextHandle ≤ k := hk
    rw [Function.update_of_ne (by omega)]
    exact h.fresh k hk'

/-- Work on one file that leaves it as it is. -/
lemma putSame (h : Reflects v contents) (hlookup : lookup handle v.files = some f)
    {s : Services} (hcontent : s.content = v.services.content) :
    Reflects (v.put f s) contents := by
  obtain ⟨file, hfile, hholds⟩ := h.file hlookup
  have hput := h.put hlookup (.refl f) hcontent hholds
  rwa [← hfile, Function.update_eq_self] at hput

/-- Work on one file that changes it as the picture has it. -/
lemma putChange (h : Reflects v contents) (hlookup : lookup handle v.files = some f) {f' : File}
    {change : ByteFile → ByteFile} {s : Services} (hsame : SamePlace f' f)
    (hcontent : s.content = v.services.content)
    (hholds : ∀ file, f.Holds v.services.content v.media file →
      f'.Holds v.services.content v.media (change file)) :
    Reflects (v.put f' s) (contents.change handle change) := by
  obtain ⟨file, hfile, hfHolds⟩ := h.file hlookup
  rw [Contents.change, hfile]
  exact h.put hlookup hsame hcontent (hholds file hfHolds)

end Reflects

section Change

variable {content : ByteStore} {media : Media} {f : File} {info : FileInfo} {file : ByteFile}

/-- A write in memory. -/
lemma File.Holds.queue (h : f.Holds content media file) (hinfo : f.info = some info)
    (hmode : f.openMode ≠ .read) {buffer : List UInt8}
    (hlt : f.position + buffer.length < 2 ^ 32) :
    (f.queue info buffer).Holds content media (file.write buffer) := by
  obtain ⟨hposition, -⟩ := h.position (by rw [hinfo]; rfl)
  have hsize : file.size = info.fileSize := by rw [h.size, hinfo, Option.elim_some]
  have hwrap : uint64 (f.position + buffer.length) = f.position + buffer.length :=
    uint64_of_lt (by omega)
  refine ⟨?_, fun _ => ⟨?_, ?_⟩, ?_, ?_, ?_⟩
  · simp only [File.queue, ByteFile.write, Option.elim_some, hwrap, ← hposition, hsize]
    split <;> omega
  · show uint64 (f.position + buffer.length) = file.position + buffer.length
    rw [hwrap, hposition]
  · simp only [ByteFile.write, ← hposition, endOfFile]
    omega
  · intro x byte hx
    have hcurrent : (f.queue info buffer).current content media =
        (f.current content media).write f.position buffer := by
      rw [File.current, File.queue, queued, List.map_append, KnownBytes.writes_append]
      rfl
    rw [hcurrent, hposition]
    exact KnownBytes.write_mono h.known hx
  · rintro (hnone | hread)
    · cases hnone
    · exact absurd hread hmode
  · have := h.size_lt
    simp only [ByteFile.write, ← hposition]
    omega

/-- A new position. -/
lemma File.Holds.seek (h : f.Holds content media file) {f' : File} {position : ℕ}
    (hf' : f' = { f with position := position }) (hlt : position < endOfFile) :
    f'.Holds content media (file.seek position) := by
  subst hf'
  exact ⟨h.size, fun _ => ⟨rfl, hlt⟩, h.known, fun hor => ⟨(h.written hor).1, (h.written hor).2⟩,
    h.size_lt⟩

/-- Cutting the queued regions keeps them below the new size. -/
lemma writes_truncateRegions {known : KnownBytes} {newSize x : ℕ} (hx : x < newSize)
    (regions : List FileRegion) :
    known.writes (queued (truncateRegions newSize regions)) x =
      known.writes (queued regions) x := by
  induction regions generalizing known with
  | nil => rfl
  | cons region regions ih =>
      unfold truncateRegions at ih ⊢
      rw [queued, queued, List.map_cons, KnownBytes.writes_cons]
      by_cases hoffset : region.offset ≤ newSize
      · rw [List.filter_cons_of_pos (by simpa using hoffset), List.map_cons, List.map_cons,
          KnownBytes.writes_cons]
        refine (ih ..).trans (KnownBytes.writes_apply_congr _ ?_)
        exact KnownBytes.write_take_apply (show x < region.offset + (newSize - region.offset) by omega)
      · rw [List.filter_cons_of_neg (by simpa using hoffset)]
        refine (ih ..).trans (KnownBytes.writes_apply_congr _ ?_)
        exact (KnownBytes.write_off (by omega)).symm

/-- A file cut to a smaller size in memory. -/
lemma File.Holds.truncate (h : f.Holds content media file) (hinfo : f.info = some info)
    (hmode : f.openMode ≠ .read) {newSize : ℕ} (hlt : newSize < info.fileSize) :
    (({ f with regionToFlush := truncateRegions newSize f.regionToFlush } : File).setSize
      newSize).Holds content media (file.resize newSize) := by
  have hsize : file.size = info.fileSize := by rw [h.size, hinfo, Option.elim_some]
  have hopened : (({ f with regionToFlush := truncateRegions newSize f.regionToFlush } :
      File).setSize newSize).info = some { info with fileSize := newSize } := by
    simp only [File.setSize, hinfo, Option.map_some]
  refine ⟨?_, fun _ => h.position (by rw [hinfo]; rfl), ?_, ?_, ?_⟩
  · rw [hopened]
    rfl
  · intro x byte hx
    have hxNew := (file.resize newSize).inside.lt hx
    have hx' : file.known x = some byte := by
      simp only [ByteFile.resize] at hx hxNew
      rwa [if_pos hxNew, if_pos (by omega)] at hx
    rw [← h.known x byte hx']
    exact writes_truncateRegions hxNew f.regionToFlush
  · rintro (hnone | hread)
    · rw [hopened] at hnone
      cases hnone
    · exact absurd hread hmode
  · have := h.size_lt
    simp only [ByteFile.resize]
    omega

/-- A file filled up with zeros to a larger size in memory. -/
lemma File.Holds.extend (h : f.Holds content media file) (hinfo : f.info = some info)
    (hmode : f.openMode ≠ .read) {newSize : ℕ} (hlt : newSize < 2 ^ 32)
    (hgrows : info.fileSize < newSize) {f' : File}
    (hdescription : f'.hwDescription = f.hwDescription) (hposition : f'.position = f.position)
    (hopenMode : f'.openMode = f.openMode)
    (hopened : f'.info = some { info with fileSize := newSize })
    (hregions : f'.regionToFlush =
      f.regionToFlush ++ [⟨info.fileSize, List.replicate (newSize - info.fileSize) 0⟩]) :
    f'.Holds content media (file.resize newSize) := by
  have hsize : file.size = info.fileSize := by rw [h.size, hinfo, Option.elim_some]
  refine ⟨?_, ?_, ?_, ?_, hlt⟩
  · rw [hopened]
    rfl
  · intro _
    rw [hposition]
    exact h.position (by rw [hinfo]; rfl)
  · intro x byte hx
    have hxNew := (file.resize newSize).inside.lt hx
    simp only [ByteFile.resize] at hx hxNew
    rw [if_pos hxNew] at hx
    have hstored : f'.stored content media = f.stored content media := by
      unfold File.stored File.onDisk File.dataSize File.blockStart
      rw [hdescription]
    rw [File.current, hstored, hregions, queued, List.map_append, KnownBytes.writes_append]
    show KnownBytes.write (f.current content media) info.fileSize
      (List.replicate (newSize - info.fileSize) 0) x = some byte
    by_cases hold : x < file.size
    · rw [if_pos hold] at hx
      rw [KnownBytes.write_off (by omega)]
      exact h.known x byte hx
    · rw [if_neg hold] at hx
      rw [KnownBytes.write_on (by rw [List.length_replicate]; omega), ← hx]
      simp only [List.getElem?_replicate]
      rw [if_pos (by omega)]
  · rintro (hnone | hread)
    · rw [hopened] at hnone
      cases hnone
    · rw [hopenMode] at hread
      exact absurd hread hmode

/-- A write that succeeds queues its bytes. -/
lemma writeFile_ok {buffer : List UInt8} {s s' : Services} {status : EfiStatus} {f' : File}
    (h : BootMonFs.writeFile buffer f info s = (status, f', s')) (hok : status.isError = false) :
    f' = f.queue info buffer ∧ s'.content = s.content := by
  unfold BootMonFs.writeFile at h
  split at h
  · cases h
    cases hok
  unfold Services.allocatePool at h
  split at h
  · cases h
    cases hok
  rename_i hfirst
  split at h
  · cases h
    cases hok
  rename_i hsecond
  cases h
  exact ⟨rfl, (congrArg Services.content (Prod.ext_iff.mp hsecond).2).symm.trans
    (congrArg Services.content (Prod.ext_iff.mp hfirst).2).symm⟩

/-- `SetFileSize` where it succeeds. -/
lemma File.Holds.setFileSize (h : f.Holds content media file) (hinfo : f.info = some info)
    (hmode : f.openMode ≠ .read) {newSize : ℕ} (hlt : newSize < 2 ^ 32) {s s' : Services}
    {f' : File} {status : EfiStatus}
    (hset : BootMonFs.setFileSize newSize f info s = (status, f', s'))
    (hok : status.isError = false) :
    f'.Holds content media (file.resize newSize) ∧ s'.content = s.content ∧
      f'.info = some { info with fileSize := newSize } ∧ f'.openMode = f.openMode := by
  have hsize : file.size = info.fileSize := by rw [h.size, hinfo, Option.elim_some]
  have hsmall := h.size_lt
  have hold : info.fileSize % 2 ^ 32 = info.fileSize := Nat.mod_eq_of_lt (by omega)
  unfold BootMonFs.setFileSize at hset
  simp only [hold] at hset
  rcases Nat.lt_trichotomy newSize info.fileSize with hlow | hsame | hhigh
  · rw [if_pos hlow] at hset
    cases hset
    refine ⟨h.truncate hinfo hmode hlow, rfl, ?_, rfl⟩
    simp only [File.setSize, hinfo, Option.map_some]
  · rw [if_neg (by omega), if_neg (by omega)] at hset
    cases hset
    have hopened : (f.setSize newSize).info = some info := by
      rw [hsame, File.setSize, hinfo]
      rfl
    have hunchanged : f.setSize newSize = f := by
      rw [File.setSize, hinfo, hsame]
      obtain ⟨handle, address, description, _, position, regions, mode⟩ := f
      subst hinfo
      rfl
    rw [hunchanged]
    refine ⟨?_, rfl, by rw [hinfo, hsame], rfl⟩
    rw [hsame, ← hsize, ByteFile.resize_size]
    exact h
  · rw [if_neg (by omega), if_pos hhigh] at hset
    have hsmall' : info.fileSize ≠ endOfFile := by
      unfold endOfFile
      omega
    obtain ⟨hposition, hposition_lt⟩ := h.position (by rw [hinfo]; rfl)
    unfold Services.allocatePool at hset
    split at hset
    · cases hset
      cases hok
    rename_i s₁ hfirst
    have hs₁ : s₁.content = s.content := (congrArg Services.content (Prod.ext_iff.mp hfirst).2).symm
    generalize hwrite : BootMonFs.writeFile _ _ _ s₁ = written at hset
    obtain ⟨status, g, s₂⟩ := written
    dsimp only at hset
    split at hset
    · rename_i herror
      cases hset
      rw [herror] at hok
      cases hok
    rename_i hwritten
    obtain ⟨rfl, hs₂⟩ := writeFile_ok hwrite (by simpa using hwritten)
    have hend : uint64 (info.fileSize + (List.replicate (newSize - info.fileSize)
        (0 : UInt8)).length) = newSize := by
      rw [List.length_replicate, uint64_of_lt (by omega)]
      omega
    split at hset
    · rename_i hnone
      cases hnone
    rename_i info' hinfo'
    cases hset
    have hback : f.position ≠ endOfFile := by omega
    have hseek : f.setPosition info.fileSize info = { f with position := info.fileSize } := by
      rw [File.setPosition, if_neg hsmall']
    rw [hseek]
    refine ⟨h.extend hinfo hmode hlt hhigh rfl ?_ rfl ?_ rfl, hs₂.trans hs₁, ?_, rfl⟩
    · show (if f.position = endOfFile then _ else f.position) = f.position
      rw [if_neg hback]
    all_goals
      simp only [File.setSize, File.setPosition, File.queue, Option.map_some]

/-- A change of the information that keeps the size. -/
lemma File.Holds.note (h : f.Holds content media file) (hinfo : f.info = some info)
    {info' : FileInfo} (hsize : info'.fileSize = info.fileSize) :
    ({ f with info := some info' } : File).Holds content media file where
  size := by
    rw [h.size, hinfo]
    exact hsize.symm
  position := fun _ => h.position (by rw [hinfo]; rfl)
  known := h.known
  written := by
    rintro (hnone | hread)
    · cases hnone
    · obtain ⟨hregions, hfileSize⟩ := h.written (.inr hread)
      refine ⟨hregions, fun info'' hinfo'' => ?_⟩
      cases hinfo''
      exact hsize.trans (hfileSize info hinfo)
  size_lt := h.size_lt

/-- `SetFileInfo` behind its checks, where it succeeds. -/
lemma File.Holds.applyFileInfo (h : f.Holds content media file) (hinfo : f.info = some info)
    {cfg : BuildConfig} {files : List File} {args : SetInfoArgs} (hlt : args.fileSize < 2 ^ 32)
    (hwritable : f.openMode = .read → args.fileSize = info.fileSize) {s s' : Services}
    {f' : File} (hset : BootMonFs.applyFileInfo cfg files args f info s = (.success, f', s')) :
    f'.Holds content media (file.resize args.fileSize) ∧ s'.content = s.content := by
  have hsize : file.size = info.fileSize := by rw [h.size, hinfo, Option.elim_some]
  unfold BootMonFs.applyFileInfo at hset
  generalize hresize : (if args.fileSize ≠ info.fileSize then
    BootMonFs.setFileSize (cfg.arch.uintn args.fileSize) f info s else (.success, f, s)) =
      resized at hset
  obtain ⟨status, g, s₁⟩ := resized
  dsimp only at hset
  split at hset
  · rename_i herror
    cases hset
    cases herror
  rename_i hok
  have hresized : g.Holds content media (file.resize args.fileSize) ∧ s₁.content = s.content ∧
      g.info = some { info with fileSize := args.fileSize } := by
    by_cases hsame : args.fileSize = info.fileSize
    · rw [if_neg (not_not.mpr hsame)] at hresize
      cases hresize
      rw [hsame, ← hsize, ByteFile.resize_size, hsize]
      exact ⟨h, rfl, hinfo⟩
    · have harch : args.fileSize < 2 ^ cfg.arch.uintnBits :=
        Nat.lt_of_lt_of_le hlt (Nat.pow_le_pow_right (by decide) (by cases cfg.arch <;> decide))
      rw [if_pos hsame, Arch.uintn_of_lt harch] at hresize
      obtain ⟨hholds, hcontent, hopened, -⟩ := h.setFileSize hinfo
        (fun hmode => hsame (hwritable hmode)) hlt hresize (by simpa using hok)
      exact ⟨hholds, hcontent, hopened⟩
  obtain ⟨hholds, hcontent, hopened⟩ := hresized
  rw [hopened] at hset
  dsimp only at hset
  split at hset
  · unfold setFileName at hset
    cases hclash : fileFromAsciiFileName (unicodeStrToAsciiStrS
        (if args.fileName.head? = some 0x5C then args.fileName.tail else args.fileName)) files with
    | some clash =>
        simp only [hclash] at hset
        cases hset
    | none =>
        simp only [hclash] at hset
        cases hset
        exact ⟨hholds.note hopened rfl, hcontent⟩
  · cases hset
    exact ⟨hholds.note hopened rfl, hcontent⟩

end Change

namespace Reflects

variable {v : Volume} {contents : Contents} {handle : ℕ} {f : File}

theorem writeFile (h : Reflects v contents) {buffer : List UInt8}
    (hlt : ∀ f, lookup handle v.files = some f → f.position + buffer.length < 2 ^ 32) :
    Reflects (bootMonFsWriteFile handle buffer v).2
      (if (bootMonFsWriteFile handle buffer v).1.isError then contents
      else contents.change handle (·.write buffer)) := by
  generalize hcall : bootMonFsWriteFile handle buffer v = outcome
  unfold bootMonFsWriteFile at hcall
  split at hcall
  · subst hcall
    exact h
  rename_i f hlookup
  split at hcall
  · subst hcall
    exact h
  rename_i info hinfo
  unfold BootMonFs.writeFile at hcall
  by_cases hmode : f.openMode = .read
  · rw [if_pos hmode] at hcall
    subst hcall
    exact h.putSame hlookup rfl
  rw [if_neg hmode] at hcall
  cases h₁ : v.services.env.allocate v.services.requests with
  | false =>
      rw [Services.allocatePool_eq h₁] at hcall
      subst hcall
      exact h.putSame hlookup rfl
  | true =>
    rw [Services.allocatePool_eq h₁] at hcall
    dsimp only at hcall
    cases h₂ : v.services.env.allocate (v.services.requests + 1) with
    | false =>
        rw [Services.allocatePool_eq h₂] at hcall
        subst hcall
        exact h.putSame hlookup rfl
    | true =>
        rw [Services.allocatePool_eq h₂] at hcall
        subst hcall
        exact h.putChange hlookup ⟨rfl, rfl, rfl⟩ rfl
          fun file hholds => hholds.queue hinfo hmode (hlt f hlookup)

theorem setPosition (h : Reflects v contents) {position : ℕ} (hlt : position < 2 ^ 64) :
    Reflects (bootMonFsSetPosition handle position v).2
      (if (bootMonFsSetPosition handle position v).1.isError then contents
      else contents.change handle fun file =>
        file.seek (if position = endOfFile then file.size else position)) := by
  generalize hcall : bootMonFsSetPosition handle position v = outcome
  unfold bootMonFsSetPosition at hcall
  split at hcall
  · subst hcall
    exact h
  rename_i f hlookup
  split at hcall
  · subst hcall
    exact h
  rename_i info hinfo
  subst hcall
  refine h.putChange hlookup ⟨rfl, rfl, rfl⟩ rfl fun file hholds => ?_
  have hsize : file.size = info.fileSize := by rw [hholds.size, hinfo, Option.elim_some]
  refine hholds.seek ?_ ?_
  · rw [File.setPosition, hsize]
  · have := hholds.size_lt
    unfold endOfFile at *
    split <;> omega

theorem setInfo (h : Reflects v contents) {args : SetInfoArgs} (hlt : args.fileSize < 2 ^ 32)
    (hok : (bootMonFsSetInfo handle args v).1 = .success) :
    Reflects (bootMonFsSetInfo handle args v).2
      (contents.change handle (·.resize args.fileSize)) := by
  generalize hcall : bootMonFsSetInfo handle args v = outcome at hok ⊢
  unfold bootMonFsSetInfo at hcall
  split at hcall
  · subst hcall
    cases hok
  rename_i f hlookup
  split at hcall
  · subst hcall
    cases hok
  rename_i info hinfo
  split at hcall
  · subst hcall
    cases hok
  split at hcall
  · subst hcall
    cases hok
  have hplace := @setFileInfo_samePlace f info v.services v.cfg v.files args
  generalize hset : setFileInfo v.cfg v.files args f info v.services = set at hcall hplace
  obtain ⟨status, f', s'⟩ := set
  subst hcall
  obtain rfl : status = .success := hok
  unfold setFileInfo at hset
  dsimp only at hset
  split at hset
  · cases hset
  split at hset
  · cases hset
  rename_i hwritable
  split at hset
  · cases hset
  refine h.putChange hlookup hplace ?_ fun file hholds => ?_
  · obtain ⟨file, -, hholds⟩ := h.file hlookup
    refine (hholds.applyFileInfo hinfo hlt (fun hmode => ?_) hset).2
    by_contra hsame
    exact hwritable ⟨hmode, .inl hsame⟩
  · refine (hholds.applyFileInfo hinfo hlt (fun hmode => ?_) hset).1
    by_contra hsame
    exact hwritable ⟨hmode, .inl hsame⟩

/-- A file that is on the media as it is in memory may be closed. -/
lemma close (h : Reflects v contents)
    (hwritten : ∀ f, lookup handle v.files = some f → f.Written) :
    Reflects { v with files := v.files.map fun f => if f.handle = handle then f.close else f }
      contents := by
  refine ⟨h.layout.still (still_close handle v), ?_, ?_, h.fresh⟩
  · intro g hg
    obtain ⟨f, hf, rfl⟩ := List.mem_map.mp hg
    split
    · exact (h.sound f hf).congr rfl rfl
    · exact h.sound f hf
  · intro g hg
    obtain ⟨f, hf, rfl⟩ := List.mem_map.mp hg
    obtain ⟨file, hfile, hholds⟩ := h.holds f hf
    by_cases hhandle : f.handle = handle
    · obtain ⟨hregions, hfileSize⟩ := hwritten f (by rw [← hhandle]; exact h.layout.distinct.lookup hf)
      rw [if_pos hhandle]
      refine ⟨file, hfile, ?_, fun hopen => (by cases hopen), hholds.known,
        fun _ => ⟨hregions, fun info hinfo => (by cases hinfo)⟩, hholds.size_lt⟩
      rw [hholds.size]
      cases hinfo : f.info with
      | none => rfl
      | some info => exact hfileSize info hinfo
    · rw [if_neg hhandle]
      exact ⟨file, hfile, hholds⟩

theorem closeFile (h : Reflects v contents) (hplain : v.media.Plain v.cfg.arch)
    (hquiet : v.services.env.Quiet) (hroom : FlushInRoom v handle)
    (hspares : ∀ f, lookup handle v.files = some f → f.openMode ≠ .read →
      SparesData v.media f.dataSize f.dataSize f.regionToFlush)
    (hstatus : (bootMonFsFlushFile handle v).1 ≠ .volumeFull) :
    Reflects (bootMonFsCloseFile handle v).2 contents := by
  obtain ⟨hflushed, hwritten⟩ := h.flush hplain hquiet hroom hspares hstatus
  unfold bootMonFsCloseFile
  split
  · exact h
  · exact hflushed.close hwritten

/-- What is stored of a file is found from its first block on, and fits 64 bits. -/
lemma fileStart (h : Reflects v contents) (hplain : v.media.Plain v.cfg.arch)
    (hf : f ∈ v.files) (hdisk : f.onDisk = true) :
    uint64 ((v.media.lowestAlignedLba + f.blockStart) * v.media.blockSize) =
        f.blockStart * v.media.blockSize ∧
      f.blockStart * v.media.blockSize + f.dataSize < 2 ^ 64 := by
  have hplaced := h.layout.placed f hf hdisk
  have hle := hplaced.le
  have hfront := (h.sound f hf).inFront hdisk
  have hbytes : (f.blockEnd + 1) * v.media.blockSize ≤
      (v.media.lastBlock + 1) * v.media.blockSize :=
    Nat.mul_le_mul_right _ (by have := hplaced.inside; omega)
  have hsum : (f.blockEnd + 1) * v.media.blockSize = f.blockStart * v.media.blockSize +
      (f.blockEnd + 1 - f.blockStart) * v.media.blockSize := by
    rw [← Nat.add_mul]
    congr 1
    omega
  have hlt : (v.media.lastBlock + 1) * v.media.blockSize < 2 ^ 64 :=
    Nat.lt_of_lt_of_le hplain.bytes_lt
      (Nat.pow_le_pow_right (by decide) (by cases v.cfg.arch <;> decide))
  rw [hplain.lowestAlignedLba, Nat.zero_add]
  exact ⟨uint64_of_lt (by omega), by omega⟩

/-- A read of a file that is on the media as it is in memory. -/
lemma readStored (h : Reflects v contents) (hplain : v.media.Plain v.cfg.arch)
    {info : FileInfo} {file : ByteFile} (hf : f ∈ v.files) (hinfo : f.info = some info)
    (hwritten : f.Written) (hholds : f.Holds v.services.content v.media file) (n : ℕ)
    (hrest : f.position < info.fileSize) :
    file.Reads n (v.services.content.read
      (uint64 (uint64 ((v.media.lowestAlignedLba + f.blockStart) * v.media.blockSize) +
        f.position)) (file.available n)) := by
  have hsize := hwritten.fileSize info hinfo
  have hdisk : f.onDisk = true := by
    by_contra hdisk
    have := ((h.sound f hf).created (by simpa using hdisk)).1
    omega
  obtain ⟨hstart, hlt⟩ := h.fileStart hplain hf hdisk
  obtain ⟨hposition, -⟩ := hholds.position (by rw [hinfo]; rfl)
  rw [hstart, uint64_of_lt (by omega), hposition]
  refine ByteFile.reads_of_storedAt ?_ n
  intro x byte hx
  refine stored_storedAt x byte ?_
  rw [← hwritten.current]
  exact hholds.known x byte hx

theorem readFile (h : Reflects v contents) (hplain : v.media.Plain v.cfg.arch)
    (hquiet : v.services.env.Quiet) (hroom : FlushInRoom v handle)
    (hspares : ∀ f, lookup handle v.files = some f → f.openMode ≠ .read →
      SparesData v.media f.dataSize f.dataSize f.regionToFlush)
    (hstatus : (bootMonFsFlushFile handle v).1 ≠ .volumeFull) (n : ℕ) :
    Reflects (bootMonFsReadFile handle n v).2.2
        (if (bootMonFsReadFile handle n v).1.isError then contents
        else contents.change handle fun file => file.seek (file.position + file.available n)) ∧
      ((bootMonFsReadFile handle n v).1.isError = false →
        ∃ file, contents handle = some file ∧ file.Reads n (bootMonFsReadFile handle n v).2.1) := by
  obtain ⟨hflushed, hwritten⟩ := h.flush hplain hquiet hroom hspares hstatus
  obtain ⟨-, hsame, -⟩ := flushFile_layout h.layout hplain hquiet hroom
  rw [← hsame.media, ← hsame.cfg] at hplain
  generalize hcall : bootMonFsReadFile handle n v = outcome
  unfold bootMonFsReadFile at hcall
  split at hcall
  · subst hcall
    exact ⟨h, fun hok => (by cases hok)⟩
  dsimp only at hcall
  generalize (bootMonFsFlushFile handle v).2 = v' at hflushed hwritten hplain hcall
  split at hcall
  · subst hcall
    exact ⟨hflushed, fun hok => (by cases hok)⟩
  rename_i f hlookup
  split at hcall
  · subst hcall
    exact ⟨hflushed, fun hok => (by cases hok)⟩
  rename_i info hinfo
  obtain ⟨file, hfile, hholds⟩ := hflushed.file hlookup
  obtain ⟨hposition, -⟩ := hholds.position (by rw [hinfo]; rfl)
  have hsize : file.size = info.fileSize := by rw [hholds.size, hinfo, Option.elim_some]
  have hsize_lt := hholds.size_lt
  by_cases hrest : info.fileSize ≤ f.position
  · rw [if_pos hrest] at hcall
    subst hcall
    by_cases hbehind : info.fileSize < f.position
    · simp only [if_pos hbehind]
      exact ⟨hflushed, fun hok => (by cases hok)⟩
    · -- the position is at the end
      have hnone : file.available n = 0 := by
        rw [ByteFile.available]
        omega
      simp only [if_neg hbehind]
      refine ⟨?_, fun _ => ⟨file, hfile, by rw [hnone]; rfl, fun i b hi => (by simp at hi)⟩⟩
      have hstay : contents.change handle
          (fun file => file.seek (file.position + file.available n)) = contents := by
        rw [Contents.change, hfile, Option.map_some, hnone, Nat.add_zero]
        show Function.update contents handle (some file) = contents
        rw [← hfile, Function.update_eq_self]
      rw [hstay]
      exact hflushed
  · rw [if_neg hrest] at hcall
    have harch : info.fileSize - f.position < 2 ^ v'.cfg.arch.uintnBits :=
      Nat.lt_of_lt_of_le (by omega) (Nat.pow_le_pow_right (by decide)
        (show 32 ≤ v'.cfg.arch.uintnBits by cases v'.cfg.arch <;> decide))
    have havailable : min n (v'.cfg.arch.uintn (info.fileSize - f.position)) =
        file.available n := by
      rw [Arch.uintn_of_lt harch, ByteFile.available, hsize, hposition]
    rw [havailable] at hcall
    generalize hread : v'.services.readDisk = read at hcall
    obtain ⟨status, s'⟩ := read
    have hcontent : s'.content = v'.services.content :=
      (congrArg (·.2.content) hread).symm
    dsimp only at hcall
    by_cases herror : status.isError = true
    · rw [if_pos herror] at hcall
      subst hcall
      simp only [if_pos herror]
      exact ⟨hflushed.putSame hlookup hcontent, fun hok => absurd herror (by simp [hok])⟩
    · rw [if_neg herror] at hcall
      subst hcall
      have hreads := hflushed.readStored hplain (lookup_some hlookup).1 hinfo
        (hwritten f hlookup) hholds n (by omega)
      have hend : f.position + file.available n ≤ info.fileSize := by
        rw [ByteFile.available]
        omega
      refine ⟨?_, fun _ => ⟨file, hfile, by rw [hcontent]; exact hreads⟩⟩
      have hmoved : uint64 (f.position + file.available n) = file.position + file.available n := by
        rw [uint64_of_lt (by omega), hposition]
      have hholds' : ({ f with position := uint64 (f.position + file.available n) } :
          File).Holds v'.services.content v'.media
            (file.seek (file.position + file.available n)) :=
        hholds.seek (by rw [hmoved]) (by unfold endOfFile; omega)
      have hchange : contents.change handle
          (fun file => file.seek (file.position + file.available n)) =
          Function.update contents handle (some (file.seek (file.position + file.available n))) := by
        rw [Contents.change, hfile, Option.map_some]
      simp only [if_neg herror]
      rw [hchange]
      exact hflushed.put hlookup ⟨rfl, rfl, rfl⟩ hcontent hholds'

/-- What clearing a description writes, in any environment, goes where the description is. -/
lemma clear_off {s : Services} {y : ℕ} (hoff : ¬ f.descSpan.Has y) :
    (invalidateImageDescription f s).2.content y = s.content y := by
  unfold invalidateImageDescription
  cases halloc : s.env.allocate s.requests with
  | false =>
      rw [Services.allocatePool_eq halloc]
  | true =>
      rw [Services.allocatePool_eq halloc]
      refine ByteStore.write_apply_off ?_
      have hlength : (List.replicate sizeofHwImageDescription (0 : UInt8)).length =
          sizeofHwImageDescription := List.length_replicate
      simp only [File.descSpan, Span.Has] at hoff
      split
      · rw [List.length_take, hlength]
        omega
      · rw [hlength]
        omega

theorem delete (h : Reflects v contents) (hok : (bootMonFsDelete handle v).1 = .success) :
    Reflects (bootMonFsDelete handle v).2 (Function.update contents handle none) := by
  have hlayout := (delete_layout handle h.layout).1
  generalize hcall : bootMonFsDelete handle v = outcome at hok hlayout ⊢
  unfold bootMonFsDelete at hcall
  split at hcall
  · subst hcall
    cases hok
  rename_i f hlookup
  obtain ⟨hf, hhandle⟩ := lookup_some hlookup
  split at hcall
  · subst hcall
    cases hok
  -- only bytes of the file are written
  have hoff : ∀ y, ¬ (f.extent v.media).Has y →
      (if ({ f with regionToFlush := [] } : File).onDisk then
        invalidateImageDescription { f with regionToFlush := [] } v.services
      else (.success, v.services)).2.content y = v.services.content y := by
    intro y hy
    split
    · rename_i hdisk
      exact clear_off fun hin =>
        hy (((h.layout.placed f hf hdisk).descSpan_within hdisk).has hin)
    · rfl
  dsimp only at hcall
  generalize (if ({ f with regionToFlush := [] } : File).onDisk then
    invalidateImageDescription { f with regionToFlush := [] } v.services
  else (.success, v.services)) = cleared at hcall hoff
  split at hcall
  · subst hcall
    cases hok
  subst hcall
  have hothers : ∀ g, g ∈ v.files.filter (fun g => g.handle ≠ handle) →
      g ∈ v.files ∧ g.handle ≠ handle := by
    intro g hg
    rw [List.mem_filter] at hg
    exact ⟨hg.1, of_decide_eq_true hg.2⟩
  refine ⟨hlayout, fun g hg => h.sound g (hothers g hg).1, ?_, ?_⟩
  · intro g hg
    obtain ⟨hgFiles, hne⟩ := hothers g hg
    obtain ⟨file, hfile, hholds⟩ := h.holds g hgFiles
    refine ⟨file, by rw [Function.update_of_ne hne, hfile],
      hholds.congr (h.sound g hgFiles) fun y hy => hoff y ?_⟩
    exact h.layout.extent_apart hgFiles hf (by rw [hhandle]; exact hne) hy
  · intro k hk
    by_cases hkHandle : k = handle
    · rw [hkHandle, Function.update_self]
    · rw [Function.update_of_ne hkHandle]
      exact h.fresh k hk

/-- An open of a file that is there. -/
lemma openExisting (h : Reflects v contents) (hf : f ∈ v.files) (hinfo : f.info = none)
    (name : FileName) (mode : OpenMode) (attributes : ℕ) {s : Services}
    (hcontent : s.content = v.services.content) :
    Reflects (v.put (f.opened v.media name mode attributes) s)
      (Function.update contents f.handle
        (some (((contents f.handle).getD .empty).seek 0))) := by
  obtain ⟨file, hfile, hholds⟩ := h.holds f hf
  have hwritten := hholds.written (.inl hinfo)
  have hlength : f.imageLength.toNat = f.dataSize := by
    have hone := (h.sound f hf).oneRegion
    have hsizes : f.regionSizes = (f.hwDescription.region 0).size := by
      rw [File.regionSizes, hone 1 (by decide), hone 2 (by decide), hone 3 (by decide)]
      simp
    rw [File.imageLength, hwritten.regionToFlush, File.addRegions, hsizes, File.dataSize]
  have hsize : file.size = f.dataSize := by rw [hholds.size, hinfo, Option.elim_none]
  rw [hfile, Option.getD_some]
  refine h.put (h.layout.distinct.lookup hf) ⟨rfl, rfl, rfl⟩ hcontent ?_
  refine ⟨?_, fun _ => ⟨rfl, Nat.zero_lt_of_lt (Nat.lt_of_lt_of_le hholds.size_lt (by decide))⟩,
    hholds.known, fun _ => ⟨hwritten.regionToFlush, ?_⟩, hholds.size_lt⟩
  · exact hsize.trans hlength.symm
  · intro info hopened
    cases hopened
    exact hlength

/-- An open of a file that is not there. -/
lemma openNew (h : Reflects v contents) (name : FileName) (mode : OpenMode) (attributes : ℕ)
    {v' : Volume} (hcreates : Creates v ((File.created v.nextHandle).opened v.media name mode
      attributes) v') (hcontent : v'.services.content = v.services.content) :
    Reflects v' (Function.update contents v.nextHandle
      (some (((contents v.nextHandle).getD .empty).seek 0))) := by
  rw [h.fresh _ (Nat.le_refl _), Option.getD_none]
  refine ⟨h.layout.cons hcreates, ?_, ?_, ?_⟩
  · intro g hg
    rw [hcreates.files] at hg
    rw [hcreates.media]
    rcases List.mem_cons.mp hg with rfl | hg
    · exact ⟨fun hdisk => absurd hdisk (by rw [hcreates.onDisk]; decide), fun _ => ⟨rfl, rfl⟩,
        fun i _ => rfl⟩
    · exact h.sound g hg
  · intro g hg
    rw [hcreates.files] at hg
    rw [hcreates.media, hcontent]
    rcases List.mem_cons.mp hg with rfl | hg
    · refine ⟨_, by rw [hcreates.handle, Function.update_self], rfl, fun _ => ⟨rfl, by decide⟩,
        fun x byte hx => (by cases hx), fun _ => ⟨rfl, ?_⟩, by decide⟩
      intro info hopened
      cases hopened
      rfl
    · have hlt := h.layout.fresh g hg
      obtain ⟨file, hfile, hholds⟩ := h.holds g hg
      exact ⟨file, by rw [Function.update_of_ne (by omega), hfile], hholds⟩
  · intro k hk
    have hnext := hcreates.nextHandle
    rw [Function.update_of_ne (by omega)]
    exact h.fresh k (by omega)

theorem openFile (h : Reflects v contents) (name : FileName) (mode : OpenMode)
    (attributes : ℕ) :
    Reflects (bootMonFsOpenFile name mode attributes v).2.2
      (if (bootMonFsOpenFile name mode attributes v).1.isError then contents
      else (Call.openFile name mode attributes).effect contents
        (bootMonFsOpenFile name mode attributes v).2.1) := by
  rw [bootMonFsOpenFile, if_pos h.layout.initialized]
  generalize hcall : openInRoot name mode attributes v = outcome
  unfold openInRoot at hcall
  split at hcall
  · subst hcall
    exact h
  unfold Services.allocatePool at hcall
  split at hcall
  · rename_i hpool
    subst hcall
    exact h.withServices (congrArg (·.2.content) hpool).symm
  rename_i s hpool
  have hcontent : s.content = v.services.content := (congrArg (·.2.content) hpool).symm
  split at hcall
  · rename_i f hfound
    split at hcall
    · subst hcall
      exact h.withServices hcontent
    · rename_i hclosed
      subst hcall
      exact h.openExisting (List.mem_of_find?_eq_some hfound) (by simpa using hclosed) name mode 0
        hcontent
  · split at hcall
    · unfold bootMonFsCreateFile Services.allocatePool at hcall
      split at hcall
      · rename_i hnone
        split at hnone
        · cases hnone
        rename_i hsecond
        cases hnone
        subst hcall
        exact h.withServices ((congrArg (·.2.content) hsecond).symm.trans hcontent)
      · rename_i f v' hsome
        split at hsome
        · rename_i s' hsecond
          cases hsome
          subst hcall
          exact h.openNew name mode attributes ⟨rfl, rfl, rfl, rfl, rfl, rfl, rfl, rfl⟩
            ((congrArg (·.2.content) hsecond).symm.trans hcontent)
        · cases hsome
    · subst hcall
      exact h.withServices hcontent

/-- One call. -/
theorem perform (h : Reflects v contents) (hplain : v.media.Plain v.cfg.arch)
    {step : Environment × Call} (hcareful : Careful v step) :
    Reflects (BootMonFs.perform step.2 (v.enter step.1)).2
      (if (BootMonFs.perform step.2 (v.enter step.1)).1.isError then contents
      else step.2.effect contents (openedHandle (v.enter step.1) step.2)) := by
  obtain ⟨env, call⟩ := step
  have henter : Reflects (v.enter env) contents := h.withServices rfl
  cases call with
  | openFile name mode attributes => exact henter.openFile name mode attributes
  | closeFile handle =>
      obtain ⟨hquiet, hroom⟩ := hcareful.fits handle rfl
      have hclosed := henter.closeFile hplain hquiet hroom
        (fun f => hcareful.spares handle f rfl) (hcareful.hasSpace handle rfl)
      show Reflects _ (if _ then contents else contents)
      rwa [ite_self]
  | flushFile handle =>
      obtain ⟨hquiet, hroom⟩ := hcareful.fits handle rfl
      have hflushed := (henter.flush hplain hquiet hroom
        (fun f => hcareful.spares handle f rfl) (hcareful.hasSpace handle rfl)).1
      show Reflects _ (if _ then contents else contents)
      rwa [ite_self]
  | delete handle =>
      have hok := hcareful.deletes handle rfl
      have hdeleted := henter.delete hok
      rw [hok]
      exact hdeleted
  | readFile handle n =>
      obtain ⟨hquiet, hroom⟩ := hcareful.fits handle rfl
      exact (henter.readFile hplain hquiet hroom
        (fun f => hcareful.spares handle f rfl) (hcareful.hasSpace handle rfl) n).1
  | writeFile handle buffer =>
      exact henter.writeFile fun f => hcareful.writes handle buffer f rfl
  | setPosition handle position =>
      exact henter.setPosition (hcareful.seeks handle position rfl)
  | setInfo handle args =>
      obtain ⟨hlt, hok⟩ := hcareful.resizes handle args rfl
      have hresized := henter.setInfo hlt hok
      rw [hok]
      exact hresized

end Reflects

end BootMonFs

end MuPlatform
