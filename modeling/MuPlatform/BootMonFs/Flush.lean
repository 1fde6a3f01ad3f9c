import MuPlatform.BootMonFs.OpenClose

/-!
# What a flush writes

Where the firmware refuses nothing (`Environment.Quiet`), a flush is determined by the file, its
place and its neighbour.  `RegionLoop` is the region loop without the services: how it changes
the file, which writes it makes and whether it gets through or stops for lack of space.
`flushPlaced_quiet` states a whole flush in these terms, and the results on layout, content and
remount are inductions on `RegionLoop`.
-/

namespace MuPlatform
namespace BootMonFs

/-! ## Quiet firmware -/

/-- No allocation and no write of the call fails. -/
def Environment.Quiet (env : Environment) : Prop :=
  ∀ n, env.allocate n = true ∧ (env.writeDisk n).isError = false

lemma Environment.good_quiet : Environment.good.Quiet := fun _ => ⟨rfl, rfl⟩

/-- The bytes of the media after some writes. -/
def replay (content : ByteStore) (writes : List DiskWrite) : ByteStore :=
  writes.foldl (fun content write => content.write write.address write.bytes) content

@[simp] lemma replay_nil (content : ByteStore) : replay content [] = content := rfl

@[simp] lemma replay_cons (content : ByteStore) (write : DiskWrite) (writes : List DiskWrite) :
    replay content (write :: writes) =
      replay (content.write write.address write.bytes) writes := rfl

lemma replay_append (content : ByteStore) (writes writes' : List DiskWrite) :
    replay content (writes ++ writes') = replay (replay content writes) writes' :=
  List.foldl_append

/-- `s'` is `s` after successful writes. -/
structure Services.Wrote (s : Services) (writes : List DiskWrite) (s' : Services) : Prop where
  content : s'.content = replay s.content writes
  log : s'.log = s.log ++ writes
  env : s'.env = s.env

namespace Services.Wrote

variable {s s' s'' : Services} {ws ws' : List DiskWrite}

lemma refl (s : Services) : s.Wrote [] s := ⟨rfl, by simp, rfl⟩

lemma trans (h : s.Wrote ws s') (h' : s'.Wrote ws' s'') : s.Wrote (ws ++ ws') s'' where
  content := by rw [h'.content, h.content, replay_append]
  log := by rw [h'.log, h.log, List.append_assoc]
  env := h'.env.trans h.env

lemma quiet (h : s.Wrote ws s') (hquiet : s.env.Quiet) : s'.env.Quiet := h.env ▸ hquiet

end Services.Wrote

variable {s : Services}

lemma allocatePool_quiet (hquiet : s.env.Quiet) :
    ∃ s', s.allocatePool = (true, s') ∧ s.Wrote [] s' :=
  ⟨{ s with requests := s.requests + 1 }, by rw [Services.allocatePool, (hquiet _).1],
    rfl, by simp, rfl⟩

lemma writeDisk_quiet (hquiet : s.env.Quiet) (kind : WriteKind) (address : ℕ)
    (bytes : List UInt8) :
    ∃ status s', s.writeDisk kind address bytes = (status, s') ∧ status.isError = false ∧
      s.Wrote [⟨kind, address, bytes⟩] s' := by
  have hok := (hquiet s.requests).2
  refine ⟨_, _, rfl, hok, ?_, rfl, rfl⟩
  simp only [hok, Bool.false_eq_true, if_false, replay_cons, replay_nil]

/-- The write that clears the description of a file. -/
def clearing (f : File) : DiskWrite :=
  ⟨.description, f.hwDescAddress, List.replicate sizeofHwImageDescription 0⟩

/-- The write of the description of a file. -/
def describing (f : File) : DiskWrite :=
  ⟨.description, f.hwDescAddress, f.hwDescription.bytes⟩

lemma invalidateImageDescription_quiet (hquiet : s.env.Quiet) (f : File) :
    ∃ status s', invalidateImageDescription f s = (status, s') ∧ status.isError = false ∧
      s.Wrote [clearing f] s' := by
  obtain ⟨s₁, halloc, hwrote₁⟩ := allocatePool_quiet hquiet
  obtain ⟨status, s₂, hwrite, hok, hwrote₂⟩ := writeDisk_quiet (hwrote₁.quiet hquiet)
    .description f.hwDescAddress (List.replicate sizeofHwImageDescription 0)
  exact ⟨status, s₂, by rw [invalidateImageDescription, halloc]; exact hwrite, hok,
    hwrote₁.trans hwrote₂⟩

lemma writeFileDescription_quiet (hquiet : s.env.Quiet) (cfg : BuildConfig) (media : Media)
    (f : File) (name : FileName) (dataSize : UInt32) (fileStart : ℕ) :
    ∃ status s', writeFileDescription cfg media f name dataSize fileStart s =
        (status, describe cfg media f name dataSize fileStart, s') ∧ status.isError = false ∧
      s.Wrote [describing (describe cfg media f name dataSize fileStart)] s' := by
  obtain ⟨s₁, halloc, hwrote₁⟩ := allocatePool_quiet hquiet
  obtain ⟨status, s₂, hwrite, hok, hwrote₂⟩ := writeDisk_quiet (hwrote₁.quiet hquiet)
    .description (describe cfg media f name dataSize fileStart).hwDescAddress
    (describe cfg media f name dataSize fileStart).hwDescription.bytes
  refine ⟨status, s₂, ?_, hok, hwrote₁.trans hwrote₂⟩
  simp only [writeFileDescription, halloc, hwrite]

/-! ## The region loop -/

namespace FlushContext

variable (ctx : FlushContext)

/-- The write of the data of a region. -/
def storing (region : FileRegion) : DiskWrite :=
  ⟨.data, ctx.regionStart region, region.buffer⟩

/-- The region ends before the end of the data, and is written in place. -/
abbrev InPlace (region : FileRegion) : Prop := ctx.regionEnd region < ctx.fileEnd

/-- The file after a region that moved the end of the data. -/
def grown (f : File) (region : FileRegion) : File :=
  describe ctx.cfg ctx.media f ctx.asciiFileName (UInt32.ofNat (ctx.newDataSize region))
    ctx.fileStart

/-- The writes of the description that is no longer true, of the data, and of the new
description. -/
def growing (f : File) (region : FileRegion) : List DiskWrite :=
  (if f.hwDescAddress = 0 then [] else [clearing f]) ++
    [ctx.storing region, describing (ctx.grown f region)]

end FlushContext

/-- The region loop on a file: whether it gets through all regions, the file it leaves and the
writes it makes. -/
inductive RegionLoop (ctx : FlushContext) :
    List FileRegion → File → Bool → File → List DiskWrite → Prop
  | done (f : File) : RegionLoop ctx [] f true f []
  | empty {region regions f through f' ws} (hsize : region.size = 0)
      (hrest : RegionLoop ctx regions f through f' ws) :
      RegionLoop ctx (region :: regions) f through f' ws
  | inPlace {region regions f through f' ws} (hsize : region.size ≠ 0)
      (hplace : ctx.InPlace region) (hrest : RegionLoop ctx regions f through f' ws) :
      RegionLoop ctx (region :: regions) f through f' (ctx.storing region :: ws)
  | grow {region regions f through f' ws} (hsize : region.size ≠ 0)
      (hplace : ¬ ctx.InPlace region) (hspace : ctx.hasSpace f region = true)
      (hrest : RegionLoop ctx regions (ctx.grown f region) through f' ws) :
      RegionLoop ctx (region :: regions) f through f' (ctx.growing f region ++ ws)
  | full {region regions f} (hsize : region.size ≠ 0) (hplace : ¬ ctx.InPlace region)
      (hspace : ctx.hasSpace f region = false) :
      RegionLoop ctx (region :: regions) f false f []

lemma appendRegion_quiet (hquiet : s.env.Quiet) (ctx : FlushContext) (region : FileRegion)
    (f : File) :
    ∃ status s', appendRegion ctx region f s = (status, ctx.grown f region, s') ∧
      status.isError = false ∧ s.Wrote (ctx.growing f region) s' := by
  obtain ⟨status₁, s₁, hclear, hok₁, hwrote₁⟩ : ∃ status₁ s₁,
      (if f.hwDescAddress = 0 then (.success, s) else invalidateImageDescription f s) =
        (status₁, s₁) ∧ status₁.isError = false ∧
      s.Wrote (if f.hwDescAddress = 0 then [] else [clearing f]) s₁ := by
    by_cases haddress : f.hwDescAddress = 0
    · rw [if_pos haddress, if_pos haddress]
      exact ⟨.success, s, rfl, rfl, .refl s⟩
    · rw [if_neg haddress, if_neg haddress]
      exact invalidateImageDescription_quiet hquiet f
  obtain ⟨status₂, s₂, hwrite, hok₂, hwrote₂⟩ := writeDisk_quiet (hwrote₁.quiet hquiet) .data
    (ctx.regionStart region) region.buffer
  have hquiet₂ := (hwrote₁.trans hwrote₂).quiet hquiet
  obtain ⟨status₃, s₃, hdescribe, hok₃, hwrote₃⟩ := writeFileDescription_quiet hquiet₂ ctx.cfg
    ctx.media f ctx.asciiFileName (UInt32.ofNat (ctx.newDataSize region)) ctx.fileStart
  refine ⟨status₃, s₃, ?_, hok₃, hwrote₁.trans (hwrote₂.trans hwrote₃)⟩
  simp only [appendRegion, hclear, hok₁, hwrite, hok₂, hdescribe, Bool.false_eq_true, if_false]
  rfl

/-- The region loop of the code is `RegionLoop`; the only status it fails with is
`EFI_VOLUME_FULL`. -/
lemma flushRegions_quiet (ctx : FlushContext) (regions : List FileRegion) (f : File) (s : Services)
    (hquiet : s.env.Quiet) :
    ∃ through f' ws s',
      flushRegions ctx regions f s = (if through then .success else .volumeFull, f', s') ∧
      RegionLoop ctx regions f through f' ws ∧ s.Wrote ws s' := by
  induction regions generalizing f s with
  | nil => exact ⟨true, f, [], s, rfl, .done f, .refl s⟩
  | cons region regions ih =>
      rw [flushRegions]
      by_cases hsize : region.size = 0
      · obtain ⟨through, f', ws, s', heq, hloop, hwrote⟩ := ih f s hquiet
        have hbody : flushRegion ctx region f s = (.success, f, s) := if_pos hsize
        exact ⟨through, f', ws, s', by rw [hbody]; exact heq, .empty hsize hloop, hwrote⟩
      by_cases hplace : ctx.InPlace region
      · obtain ⟨status, s₁, hwrite, hok, hwrote₁⟩ := writeDisk_quiet hquiet .data
          (ctx.regionStart region) region.buffer
        have hbody : flushRegion ctx region f s = (status, f, s₁) := by
          rw [flushRegion, if_neg hsize, if_pos hplace, hwrite]
        obtain ⟨through, f', ws, s', heq, hloop, hwrote⟩ := ih f s₁ (hwrote₁.quiet hquiet)
        refine ⟨through, f', _, s', ?_, .inPlace hsize hplace hloop, hwrote₁.trans hwrote⟩
        simp only [hbody, hok, Bool.false_eq_true, if_false, heq]
      by_cases hspace : ctx.hasSpace f region = true
      · obtain ⟨status, s₁, happend, hok, hwrote₁⟩ := appendRegion_quiet hquiet ctx region f
        have hbody : flushRegion ctx region f s = (status, ctx.grown f region, s₁) := by
          rw [flushRegion, if_neg hsize, if_neg hplace, if_pos hspace, happend]
        obtain ⟨through, f', ws, s', heq, hloop, hwrote⟩ :=
          ih (ctx.grown f region) s₁ (hwrote₁.quiet hquiet)
        refine ⟨through, f', _, s', ?_, .grow hsize hplace hspace hloop, hwrote₁.trans hwrote⟩
        simp only [hbody, hok, Bool.false_eq_true, if_false, heq]
      · have hbody : flushRegion ctx region f s = (.volumeFull, f, s) := by
          rw [flushRegion, if_neg hsize, if_neg hplace, if_neg hspace]
        refine ⟨false, f, [], s, ?_, .full hsize hplace (by simpa using hspace), .refl s⟩
        rw [hbody]
        rfl

/-! ## A flush -/

/-- What a flush of the file `f` comes to: it stops for lack of space, or it gets through and
finds the last description it wrote in order, or it writes one more. -/
inductive FlushOutcome (ctx : FlushContext) (info : FileInfo) (f : File) :
    EfiStatus → File → List DiskWrite → Prop
  | full {f' ws} (hloop : RegionLoop ctx f.regionToFlush f false f' ws) :
      FlushOutcome ctx info f .volumeFull f' ws
  | settled {f' ws} (hloop : RegionLoop ctx f.regionToFlush f true f' ws)
      (hneeds : needsDescription (freeFileRegions ctx.media f' info) info = false) :
      FlushOutcome ctx info f .success (freeFileRegions ctx.media f' info) ws
  | described {f' ws} (hloop : RegionLoop ctx f.regionToFlush f true f' ws)
      (hneeds : needsDescription (freeFileRegions ctx.media f' info) info = true) :
      FlushOutcome ctx info f .success
        (describe ctx.cfg ctx.media (freeFileRegions ctx.media f' info) info.fileName
          (UInt32.ofNat info.fileSize) ctx.fileStart)
        (ws ++ [describing (describe ctx.cfg ctx.media (freeFileRegions ctx.media f' info)
          info.fileName (UInt32.ofNat info.fileSize) ctx.fileStart)])

/-- A flush in a quiet environment. -/
theorem flushPlaced_quiet (hquiet : s.env.Quiet) (ctx : FlushContext) (info : FileInfo)
    (f : File) :
    ∃ status f' ws s', flushPlaced ctx info f s = (status, f', s') ∧
      FlushOutcome ctx info f status f' ws ∧ s.Wrote ws s' := by
  obtain ⟨through, f₁, ws, s₁, hloopEq, hloop, hwrote⟩ :=
    flushRegions_quiet ctx f.regionToFlush f s hquiet
  unfold flushPlaced
  rw [hloopEq]
  cases through with
  | false => exact ⟨.volumeFull, f₁, ws, s₁, rfl, .full hloop, hwrote⟩
  | true =>
      by_cases hneeds : needsDescription (freeFileRegions ctx.media f₁ info) info = true
      · obtain ⟨status, s₂, hdescribe, hok, hwrote₂⟩ := writeFileDescription_quiet
          (hwrote.quiet hquiet) ctx.cfg ctx.media (freeFileRegions ctx.media f₁ info)
          info.fileName (UInt32.ofNat info.fileSize) ctx.fileStart
        refine ⟨.success, _, _, s₂, ?_, .described hloop hneeds, hwrote.trans hwrote₂⟩
        simp only [if_true, EfiStatus.isError_success, Bool.false_eq_true, if_false, hneeds,
          hdescribe, hok]
      · refine ⟨.success, _, _, s₁, ?_, .settled hloop (by simpa using hneeds), hwrote⟩
        simp only [if_true, EfiStatus.isError_success, Bool.false_eq_true, if_false, hneeds]

/-- Only the description of the file and its address differ. -/
structure OnlyDescribed (f' f : File) : Prop where
  handle : f'.handle = f.handle
  info : f'.info = f.info
  position : f'.position = f.position
  regionToFlush : f'.regionToFlush = f.regionToFlush
  openMode : f'.openMode = f.openMode

lemma OnlyDescribed.refl (f : File) : OnlyDescribed f f := ⟨rfl, rfl, rfl, rfl, rfl⟩

lemma OnlyDescribed.trans {f f' f'' : File} (h : OnlyDescribed f'' f') (h' : OnlyDescribed f' f) :
    OnlyDescribed f'' f :=
  ⟨h.handle.trans h'.handle, h.info.trans h'.info, h.position.trans h'.position,
    h.regionToFlush.trans h'.regionToFlush, h.openMode.trans h'.openMode⟩

lemma describe_onlyDescribed (cfg : BuildConfig) (media : Media) (f : File) (name : FileName)
    (dataSize : UInt32) (fileStart : ℕ) :
    OnlyDescribed (describe cfg media f name dataSize fileStart) f := by
  unfold describe
  exact ⟨rfl, rfl, rfl, rfl, rfl⟩

lemma RegionLoop.onlyDescribed {ctx : FlushContext} {regions : List FileRegion} {f f' : File}
    {through : Bool} {ws : List DiskWrite} (h : RegionLoop ctx regions f through f' ws) :
    OnlyDescribed f' f := by
  induction h with
  | done f => exact .refl f
  | empty _ _ ih => exact ih
  | inPlace _ _ _ ih => exact ih
  | grow _ _ _ _ ih => exact ih.trans (describe_onlyDescribed ..)
  | full => exact .refl _

lemma FlushOutcome.handle {ctx : FlushContext} {info : FileInfo} {f f' : File}
    {status : EfiStatus} {ws : List DiskWrite} (h : FlushOutcome ctx info f status f' ws) :
    f'.handle = f.handle := by
  cases h with
  | full hloop => exact hloop.onlyDescribed.handle
  | settled hloop _ => exact hloop.onlyDescribed.handle
  | described hloop _ =>
      exact (describe_onlyDescribed ..).handle.trans hloop.onlyDescribed.handle

/-- What `BootMonFsFlushFile` comes to: an error that leaves the volume as it is, or the flush
of a file that has been placed. -/
inductive FlushCall (handle : ℕ) (v : Volume) : EfiStatus → Volume → Prop
  | refused {status} (herror : status.isError = true) : FlushCall handle v status v
  | flushed {f info fileStart files status f' ws s'} (hlookup : lookup handle v.files = some f)
      (hinfo : f.info = some info) (hmode : f.openMode ≠ .read)
      (hplace : placeFile v.cfg v.media f info.fileSize v.files = some (fileStart, files))
      (houtcome : FlushOutcome (flushContext v f info fileStart files) info f status f' ws)
      (hwrote : v.services.Wrote ws s') :
      FlushCall handle v status { v with files := update f' files, services := s' }

theorem bootMonFsFlushFile_quiet {v : Volume} (hquiet : v.services.env.Quiet) (handle : ℕ) :
    FlushCall handle v (bootMonFsFlushFile handle v).1 (bootMonFsFlushFile handle v).2 := by
  unfold bootMonFsFlushFile
  cases hlookup : lookup handle v.files with
  | none => exact .refused rfl
  | some f =>
    cases hinfo : f.info with
    | none =>
        simp only [hinfo]
        exact .refused rfl
    | some info =>
      by_cases hmode : f.openMode = .read
      · simp only [hinfo, if_pos hmode]
        exact .refused rfl
      · cases hplace : placeFile v.cfg v.media f info.fileSize v.files with
        | none =>
            simp only [hinfo, if_neg hmode, hplace]
            exact .refused rfl
        | some place =>
            obtain ⟨fileStart, files⟩ := place
            obtain ⟨status, f', ws, s', heq, houtcome, hwrote⟩ := flushPlaced_quiet hquiet
              (flushContext v f info fileStart files) info f
            simp only [hinfo, if_neg hmode, hplace, heq]
            exact .flushed hlookup hinfo hmode hplace houtcome hwrote

end BootMonFs

end MuPlatform
