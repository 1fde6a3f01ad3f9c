import MuPlatform.BootMonFs.Delete
import MuPlatform.BootMonFs.Interrupted
import MuPlatform.BootMonFs.Rename

/-!
# A flush that fails

`BootMonFsReadFile` and `BootMonFsCloseFile` do not look at the status of the flush they make.
`flushHarmless_when` says for which files no failure of a flush does harm: those of which a flush
only writes data again inside the data they have on the media.  A file that grows is read behind
its data, and one that has not been placed yet is read from block 0 and stays in the list without
a name.
-/

namespace MuPlatform
namespace BootMonFs

/-! ## The statement -/

/-- Two flushes leave the same file, and the same bytes on the media. -/
structure SameFlush (handle : ℕ) (flushed again : Volume) : Prop where
  file : lookup handle again.files = lookup handle flushed.files
  content : again.services.content = flushed.services.content

/-- What a flush that has failed and left the volume `v'` has to leave as it is, whatever fails in
the calls behind it. -/
structure Harmless (handle : ℕ) (v v' : Volume) : Prop where
  /-- A read returns data of the file, from its own blocks. -/
  read : ∀ env position bufferSize r,
    bootMonFsReadFile handle bufferSize
      (bootMonFsSetPosition handle position (v'.enter env)).2 = r →
    r.1.isError = false → r.2.1 ≠ [] → ∃ g, lookup handle r.2.2.files = some g ∧
      g.onDisk = true ∧ position + r.2.1.length ≤ g.dataSize ∧
      r.2.1 = r.2.2.services.content.read (g.start v.media + position) r.2.1.length
  /-- A close leaves an entry with a place and a name of its own. -/
  close : ∀ env v'', (bootMonFsCloseFile handle (v'.enter env)).2 = v'' →
    ∃ g, lookup handle v''.files = some g ∧ g.onDisk = true ∧ g.asciiName ≠ [] ∧
      ∀ k ∈ v''.files, k.handle ≠ handle → k.asciiName ≠ g.asciiName
  others : ∀ g, g.handle ≠ handle → (g ∈ v'.files ↔ g ∈ v.files)
  content : ∀ g ∈ v.files, g.handle ≠ handle → ∀ a, (g.extent v.media).Has a →
    v'.services.content a = v.services.content a
  /-- A flush that is tried again and succeeds does what the first one would have done. -/
  retried : ∀ env env₀, (bootMonFsFlushFile handle (v'.enter env)).1.isError = false →
    (bootMonFsFlushFile handle (v.enter env₀)).1.isError = false →
    SameFlush handle ((v.enter env₀).flush handle) ((v'.enter env).flush handle)

/-- Every failure of a flush is harmless. -/
def FlushHarmless (handle : ℕ) (v : Volume) : Prop :=
  ∀ env, (bootMonFsFlushFile handle (v.enter env)).1.isError = true →
    Harmless handle v ((v.enter env).flush handle)

/-- The flush of the file has nothing to do, or stays in the data the file has on the media. -/
def SafeToFlush (v : Volume) (f : File) (info : FileInfo) : Prop :=
  (f.onDisk = true ∧ needsDescription f info = false ∧
    ∀ region ∈ f.regionToFlush, region.size = 0) ∨
  StaysInside v f info

/-! ## Inside the data -/

section Inside

variable {v v₁ : Volume} {f g : File} {info : FileInfo} {handle : ℕ} {content : ByteStore}

/-- The file after a flush. -/
lemma Resumes.file (h : StaysInside v f info) (hinfo : g.info = some info) {status : EfiStatus}
    {g' : File} {content' : ByteStore}
    (hresumes : Resumes v f info g content status g' content') :
    Redescribed v f info g' ∧ g'.handle = g.handle ∧ g'.position = g.position ∧
      ∃ info', g'.info = some info' ∧ info'.fileSize = f.dataSize := by
  cases hresumes with
  | stopped _ hmid honly =>
      exact ⟨hmid.described, honly.handle, honly.position, info, honly.info.trans hinfo,
        h.size_eq⟩
  | settled hmid honly _ =>
      exact ⟨hmid.described.congr rfl rfl, honly.handle, honly.position, _, rfl, h.size_eq⟩

/-- A read returns data of the file. -/
lemma Stopped.readFile (hstopped : Stopped handle v f info v₁ g) (h : StaysInside v f info)
    {bufferSize : ℕ} {r : EfiStatus × List UInt8 × Volume}
    (hread : bootMonFsReadFile handle bufferSize v₁ = r) (hsome : r.2.1 ≠ []) :
    ∃ k, lookup handle r.2.2.files = some k ∧ k.onDisk = true ∧
      g.position < info.fileSize ∧ g.position + r.2.1.length ≤ k.dataSize ∧
      r.2.1 = r.2.2.services.content.read (k.start v.media + g.position) r.2.1.length := by
  obtain ⟨status, g', s, hflush, hresumes⟩ := flush_resumes h hstopped
  obtain ⟨-, hmedia, hlookup, hinfo, -⟩ := hstopped
  obtain ⟨hdescribed, hhandle, hposition, info', hinfo', hsize⟩ := hresumes.file h hinfo
  have hg : g'.handle = handle := hhandle.trans (lookup_some hlookup).2
  have hlookup' : lookup handle (update g' v₁.files) = some g' :=
    lookup_update hlookup hg
  simp only [bootMonFsReadFile, hlookup, Option.bind_some, hinfo, hflush, hlookup', hinfo',
    hposition] at hread
  by_cases hend : info'.fileSize ≤ g.position
  · rw [if_pos hend] at hread
    exact absurd (hread ▸ rfl) hsome
  rw [if_neg hend] at hread
  rcases hdisk : s.readDisk with ⟨status', s'⟩
  simp only [hdisk] at hread
  by_cases herror : status'.isError = true
  · rw [if_pos herror] at hread
    exact absurd (hread ▸ rfl) hsome
  rw [if_neg herror] at hread
  subst hread
  have hlt : g.position < f.dataSize := by omega
  have hroom := h.room_end_lt.2
  have hholds := h.holds
  have hstart : g'.start v.media = f.start v.media := by
    rw [File.start, hdescribed.blockStart h, File.start]
  have hbegin : uint64 ((v₁.media.lowestAlignedLba + g'.blockStart) * v₁.media.blockSize) =
      f.start v.media := by
    rw [hmedia, h.unshifted, Nat.zero_add, hdescribed.blockStart h]
    exact uint64_of_lt (by rw [← File.start]; omega)
  have haddress : uint64 (f.start v.media + g.position) = f.start v.media + g.position :=
    uint64_of_lt (by omega)
  have hlen := v₁.cfg.arch.uintn_le (info'.fileSize - g.position)
  refine ⟨_, lookup_update hlookup' hg, (show g'.onDisk = true from hdescribed.onDisk h), ?_, ?_,
    ?_⟩
  · rwa [h.size_eq]
  · have hdata : g'.dataSize = f.dataSize := hdescribed.dataSize h
    show g.position + (ByteStore.read ..).length ≤ g'.dataSize
    rw [ByteStore.length_read, hdata]
    omega
  · show ByteStore.read .. = ByteStore.read _ (g'.start v.media + g.position) _
    rw [ByteStore.length_read, hbegin, hstart, haddress]
    rfl

/-- The file that is closed is found in the list without its `Info`. -/
lemma lookup_close {files : List File} (hlookup : lookup handle files = some g) :
    lookup handle (files.map fun k => if k.handle = handle then k.close else k) =
      some g.close := by
  induction files with
  | nil => cases hlookup
  | cons k files ih =>
      rw [lookup, List.find?_cons] at hlookup
      rw [List.map_cons, lookup, List.find?_cons]
      by_cases hk : k.handle = handle
      · have hclosed : k.close.handle = handle := hk
        rw [decide_eq_true hk] at hlookup
        rw [if_pos hk, decide_eq_true hclosed]
        exact congrArg (Option.map File.close) hlookup
      · rw [decide_eq_false hk] at hlookup
        rw [if_neg hk, decide_eq_false hk]
        exact ih hlookup

/-- A close leaves the file with its name. -/
lemma Stopped.closeFile (hstopped : Stopped handle v f info v₁ g) (h : StaysInside v f info) :
    ∃ k, lookup handle (bootMonFsCloseFile handle v₁).2.files = some k ∧
      k.onDisk = true ∧ (k.asciiName = f.hwDescription.footer.name ∨
        k.asciiName = info.fileName.chars) ∧
      ∀ k' ∈ (bootMonFsCloseFile handle v₁).2.files, k'.handle ≠ handle → k' ∈ v.files := by
  obtain ⟨status, g', s, hflush, hresumes⟩ := flush_resumes h hstopped
  obtain ⟨-, -, hlookup, hinfo, -, -, -, hothers⟩ := hstopped
  obtain ⟨hdescribed, hhandle, -, info', hinfo', hsize⟩ := hresumes.file h hinfo
  have hg : g'.handle = handle := hhandle.trans (lookup_some hlookup).2
  have hlookup' : lookup handle (update g' v₁.files) = some g' :=
    lookup_update hlookup hg
  have hfiles : (bootMonFsCloseFile handle v₁).2.files =
      (update g' v₁.files).map fun k => if k.handle = handle then k.close else k := by
    simp only [bootMonFsCloseFile, hlookup, Option.bind_some, hinfo, hflush]
  rw [hfiles]
  have hclosed : Redescribed v f info g'.close := hdescribed.congr rfl rfl
  refine ⟨g'.close, lookup_close hlookup', hclosed.onDisk h, hclosed.name h, ?_⟩
  · intro k' hk' hne
    obtain ⟨k, hk, rfl⟩ := List.mem_map.mp hk'
    by_cases hsame : k.handle = handle
    · rw [if_pos hsame] at hne
      exact absurd hsame hne
    · rw [if_neg hsame]
      exact (hothers k hsame).mp ((mem_update hk).resolve_left fun heq => hsame (heq ▸ hg))

/-- A failure of a flush that stays in the data of the file is harmless. -/
lemma StaysInside.harmless (h : StaysInside v f info)
    (hlookup : lookup handle v.files = some f) (hinfo : f.info = some info)
    (hmode : f.openMode ≠ .read) : FlushHarmless handle v := by
  intro env herror
  have hsame : f.handle = handle := (lookup_some hlookup).2
  obtain ⟨g, hstopped, honly⟩ := (Stopped.start hlookup hinfo hmode env).flush h herror
  constructor
  case read =>
    intro env' position bufferSize r hread _ hsome
    obtain ⟨k, hk, hdisk, hlt, hlen, hbytes⟩ :=
      ((hstopped.enter env').setPosition position).readFile h hread hsome
    have hposition : (g.setPosition position info).position = position := by
      by_cases hend : position = endOfFile
      · rw [File.setPosition, if_pos hend] at hlt
        exact absurd hlt (Nat.lt_irrefl _)
      · exact if_neg hend
    rw [hposition] at hlen hbytes
    exact ⟨k, hk, hdisk, hlen, hbytes⟩
  case close =>
    rintro env' _ rfl
    obtain ⟨k, hk, hdisk, hname, hothers⟩ := (hstopped.enter env').closeFile h
    refine ⟨k, hk, hdisk, ?_, fun k' hk' hne => ?_⟩
    · rcases hname with hold | hnew
      · exact hold ▸ h.named.1
      · exact hnew ▸ h.named.2
    · have hunique := h.unique k' (hothers k' hk' hne) (hsame.symm ▸ hne)
      rcases hname with hold | hnew
      · exact hold ▸ hunique.1
      · exact hnew ▸ hunique.2
  case others => exact hstopped.others
  case content =>
    intro k hk hne a ha
    refine hstopped.midway.kept a fun region hmem htouches => ?_
    have hapart := h.apart k hk (hsame.symm ▸ hne)
    exact hapart.not_has (h.touches_extent hmem htouches) ha
  case retried =>
    intro env' env₀ hok hok₀
    obtain ⟨hfile, hcontent⟩ := (hstopped.enter env').settle h honly hok
    obtain ⟨hfile₀, hcontent₀⟩ :=
      (Stopped.start hlookup hinfo hmode env₀).settle h (.refl f) hok₀
    exact ⟨hfile.trans hfile₀.symm, hcontent.trans hcontent₀.symm⟩

end Inside

/-! ## Flushes that make few requests -/

section Requests

variable {ctx : FlushContext} {f : File} {s : Services} {regions : List FileRegion}

/-- Regions without bytes and regions that are written in place leave the file as it is. -/
lemma flushRegions_inPlace (hregions : ∀ region ∈ regions, region.size ≠ 0 →
    ctx.InPlace region ∧ ∀ n, (s.env.writeDisk n).isError = false) :
    ∃ s', flushRegions ctx regions f s = (.success, f, s') ∧ s'.env = s.env := by
  induction regions generalizing s with
  | nil => exact ⟨s, rfl, rfl⟩
  | cons region regions ih =>
      rw [flushRegions, flushRegion]
      by_cases hsize : region.size = 0
      · rw [if_pos hsize]
        exact ih fun k hk => hregions k (List.mem_cons_of_mem _ hk)
      · obtain ⟨hplace, hok⟩ := hregions region List.mem_cons_self hsize
        rw [if_neg hsize, if_pos hplace]
        have hwritten : (s.writeDisk .data (ctx.regionStart region) region.buffer).1.isError =
            false := hok s.requests
        dsimp only
        rw [hwritten, if_neg Bool.false_ne_true]
        exact ih fun k hk => hregions k (List.mem_cons_of_mem _ hk)

lemma flushRegions_empty (hregions : ∀ region ∈ regions, region.size = 0) :
    flushRegions ctx regions f s = (.success, f, s) := by
  induction regions with
  | nil => rfl
  | cons region regions ih =>
      rw [flushRegions, flushRegion, if_pos (hregions region List.mem_cons_self)]
      exact ih fun k hk => hregions k (List.mem_cons_of_mem _ hk)

/-- A flush that has nothing to write succeeds. -/
lemma flush_nothing {v : Volume} {info : FileInfo} {handle : ℕ}
    (hlookup : lookup handle v.files = some f) (hinfo : f.info = some info)
    (hmode : f.openMode ≠ .read) (hdisk : f.onDisk = true)
    (hsettled : needsDescription f info = false)
    (hregions : ∀ region ∈ f.regionToFlush, region.size = 0) :
    bootMonFsFlushFile handle v = (.success,
      { v with files := update (freeFileRegions v.media f info) v.files }) := by
  have hplace : placeFile v.cfg v.media f info.fileSize v.files =
      some (v.cfg.arch.uintn (f.blockStart * v.media.blockSize), v.files) := if_pos hdisk
  have hneeds : needsDescription (freeFileRegions v.media f info) info = false := hsettled
  simp only [bootMonFsFlushFile, hlookup, hinfo, if_neg hmode, hplace, flushPlaced,
    flushRegions_empty hregions, EfiStatus.isError_success, Bool.false_eq_true, if_false,
    flushContext, hneeds]

/-- Where no write succeeds, a region that has bytes stops the flush, and the file has not
changed. -/
lemma flushRegion_writeFails (henv : s.env = .writeFails) {region : FileRegion}
    (hsize : region.size ≠ 0) :
    ∃ status s', flushRegion ctx region f s = (status, f, s') ∧ status.isError = true := by
  have hwrite : ∀ kind a bytes, (s.writeDisk kind a bytes).1.isError = true := by
    intro kind a bytes
    rw [Services.writeDisk, henv]
    rfl
  rw [flushRegion, if_neg hsize]
  split
  · exact ⟨_, _, rfl, hwrite ..⟩
  split
  · rw [appendRegion]
    by_cases haddress : f.hwDescAddress = 0
    · rw [if_pos haddress]
      dsimp only
      rw [EfiStatus.isError_success, if_neg Bool.false_ne_true,
        if_pos (hwrite .data (ctx.regionStart region) region.buffer)]
      exact ⟨_, _, rfl, hwrite ..⟩
    · have hclear : (invalidateImageDescription f s).1.isError = true := by
        rw [invalidateImageDescription, Services.allocatePool, henv]
        rfl
      rw [if_neg haddress]
      dsimp only
      rw [if_pos hclear]
      exact ⟨_, _, rfl, hclear⟩
  · exact ⟨.volumeFull, s, rfl, rfl⟩

lemma flushRegions_writeFails (henv : s.env = .writeFails)
    (hregions : ∃ region ∈ regions, region.size ≠ 0) :
    ∃ status s', flushRegions ctx regions f s = (status, f, s') ∧ status.isError = true := by
  induction regions with
  | nil =>
      obtain ⟨region, hmem, -⟩ := hregions
      cases hmem
  | cons region regions ih =>
      rw [flushRegions]
      by_cases hsize : region.size = 0
      · have hrest : ∃ k ∈ regions, k.size ≠ 0 := by
          obtain ⟨k, hk, hksize⟩ := hregions
          rcases List.mem_cons.mp hk with rfl | hk
          · exact absurd hsize hksize
          · exact ⟨k, hk, hksize⟩
        rw [flushRegion, if_pos hsize]
        exact ih hrest
      · obtain ⟨status, s', hregion, herror⟩ := @flushRegion_writeFails ctx f s henv region hsize
        rw [hregion]
        dsimp only
        rw [if_pos herror]
        exact ⟨status, s', rfl, herror⟩

end Requests

/-! ## What a file of which no failure does harm has to have -/

section Exposed

variable {v : Volume} {f : File} {info : FileInfo} {handle : ℕ}

/-- A flush goes on in the environment it began in. -/
lemma flush_env (handle : ℕ) (v : Volume) :
    (v.flush handle).cfg = v.cfg ∧ (v.flush handle).services.env = v.services.env := by
  rw [Volume.flush]
  rcases flushFile_cases handle v with ⟨status, -, hflush⟩ |
    ⟨f, info, fileStart, files, -, -, -, -, hflush⟩
  · rw [hflush]
    exact ⟨rfl, rfl⟩
  rw [hflush]
  have hwrite : ∀ (s : Services) kind a bytes, (s.writeDisk kind a bytes).2.env = s.env :=
    fun _ _ _ _ => rfl
  refine ⟨rfl, @flushPlaced_keeps (fun _ s => s.env = v.services.env) _ f v.services info
    (fun f s h => ?_) (fun _ _ _ _ h => h) (fun f s name dataSize h => ?_) (fun _ _ h => h) rfl⟩
  · rcases halloc : s.allocatePool with ⟨ok, s'⟩
    have hsame : s'.env = s.env := (congrArg (·.2.env) halloc).symm
    rw [invalidateImageDescription, halloc]
    cases ok with
    | false => exact hsame.trans h
    | true => exact (hwrite ..).trans (hsame.trans h)
  · rcases halloc : s.allocatePool with ⟨ok, s'⟩
    have hsame : s'.env = s.env := (congrArg (·.2.env) halloc).symm
    rw [writeFileDescription, halloc]
    cases ok with
    | false => exact hsame.trans h
    | true => exact (hwrite ..).trans (hsame.trans h)

/-- A flush of which no write succeeds fails at the first region that has bytes, and leaves the
file. -/
lemma flush_writeFails (hdistinct : Distinct v.files) (hlookup : lookup handle v.files = some f)
    (hinfo : f.info = some info) (hregions : ∃ region ∈ f.regionToFlush, region.size ≠ 0) :
    (bootMonFsFlushFile handle (v.enter .writeFails)).1.isError = true ∧
      lookup handle ((v.enter .writeFails).flush handle).files = some f := by
  have hsame : f.handle = handle := (lookup_some hlookup).2
  have hdistinct' : Distinct (v.enter .writeFails).files := hdistinct
  obtain ⟨f', hf', hname⟩ := flush_name hdistinct' hlookup hinfo
  rcases flushFile_cases handle (v.enter .writeFails) with ⟨status, herror, hflush⟩ |
    ⟨g, info', fileStart, files, hlookup', hinfo', -, -, hflush⟩
  · rw [Volume.flush, hflush]
    exact ⟨herror, hlookup⟩
  obtain rfl : f = g := Option.some.inj (hlookup.symm.trans hlookup')
  obtain rfl : info = info' := Option.some.inj (hinfo.symm.trans hinfo')
  obtain ⟨status, s, hloop, herror⟩ := @flushRegions_writeFails
    (flushContext (v.enter .writeFails) f info fileStart files) f (v.enter .writeFails).services
    f.regionToFlush rfl hregions
  have hplaced : flushPlaced (flushContext (v.enter .writeFails) f info fileStart files) info f
      (v.enter .writeFails).services = (status, f, s) := by
    rw [flushPlaced, hloop]
    dsimp only
    rw [if_pos herror]
  rw [hplaced] at hflush
  rw [hflush]
  refine ⟨herror, ?_⟩
  have hf : f' = f := by
    rw [Volume.flush, hflush] at hf'
    exact eq_of_mem_update hf' hname.handle
  have hfound := (@flush_distinct _ handle hdistinct').lookup hf'
  rwa [hf, hsame] at hfound

/-- The close behind it leaves the file as it is in its description. -/
lemma FlushHarmless.placed (h : FlushHarmless handle v) (hdistinct : Distinct v.files)
    (hlookup : lookup handle v.files = some f) (hinfo : f.info = some info)
    (hregions : ∃ region ∈ f.regionToFlush, region.size ≠ 0) :
    f.onDisk = true ∧ f.hwDescription.footer.name ≠ [] ∧
      ∀ k ∈ v.files, k.handle ≠ handle → k.asciiName ≠ f.hwDescription.footer.name := by
  obtain ⟨herror, hlookup₁⟩ := flush_writeFails hdistinct hlookup hinfo hregions
  have hharmless := h .writeFails herror
  have hothers := hharmless.others
  set v₁ := (v.enter .writeFails).flush handle with hv₁
  have hdistinct₁ : Distinct v₁.files := flush_distinct hdistinct
  obtain ⟨-, hlookup₂⟩ := flush_writeFails hdistinct₁ hlookup₁ hinfo hregions
  have hfiles : (bootMonFsCloseFile handle (v₁.enter .writeFails)).2.files =
      ((v₁.enter .writeFails).flush handle).files.map
        fun k => if k.handle = handle then k.close else k := by
    have hopened : lookup handle (v₁.enter .writeFails).files = some f := hlookup₁
    simp only [bootMonFsCloseFile, hopened, Option.bind_some, hinfo]
    rfl
  obtain ⟨g, hg, hdisk, hname, hunique⟩ := hharmless.close .writeFails _ rfl
  rw [hfiles] at hg hunique
  obtain rfl : f.close = g := Option.some.inj ((lookup_close hlookup₂).symm.trans hg)
  refine ⟨hdisk, hname, fun k hk hne => hunique k (List.mem_map.mpr ⟨k, ?_, if_neg hne⟩) hne⟩
  have hdistinct₂ : Distinct (v₁.enter .writeFails).files := hdistinct₁
  exact (mem_flush_iff hdistinct₂ hne).mpr ((hothers k hne).mpr hk)

/-- There is a position at which a read would return bytes behind the data. -/
lemma exists_position_behind {arch : Arch} {dataSize fileSize : ℕ} (hdata : dataSize < 2 ^ 32)
    (hlt : dataSize < fileSize) :
    ∃ position, dataSize ≤ position ∧ position < fileSize ∧ position ≠ endOfFile ∧
      arch.uintn (fileSize - position) ≠ 0 := by
  have htwo : 2 < 2 ^ arch.uintnBits := by cases arch <;> decide
  by_cases hend : fileSize = 2 ^ 64
  · refine ⟨fileSize - 2, by omega, by omega, by unfold endOfFile; omega, ?_⟩
    rw [Arch.uintn_of_lt (by omega)]
    omega
  · refine ⟨fileSize - 1, by omega, by omega, by unfold endOfFile; omega, ?_⟩
    rw [Arch.uintn_of_lt (by omega)]
    omega

/-- A read behind it finds no more than the data of the file. -/
lemma FlushHarmless.fileSize_le (h : FlushHarmless handle v) (hdistinct : Distinct v.files)
    (hlookup : lookup handle v.files = some f) (hinfo : f.info = some info)
    (hregions : ∃ region ∈ f.regionToFlush, region.size ≠ 0) : info.fileSize ≤ f.dataSize := by
  by_contra hlt
  obtain ⟨position, hle, hposition, hne, hsome⟩ := @exists_position_behind v.cfg.arch f.dataSize
    info.fileSize (f.hwDescription.region 0).size.toNat_lt (by omega)
  have hsame : f.handle = handle := (lookup_some hlookup).2
  obtain ⟨herror, hlookup₁⟩ := flush_writeFails hdistinct hlookup hinfo hregions
  have hharmless := h .writeFails herror
  set v₁ := (v.enter .writeFails).flush handle with hv₁
  have hdistinct₁ : Distinct v₁.files := flush_distinct hdistinct
  -- the file at the position
  have hseek : bootMonFsSetPosition handle position (v₁.enter .writeFails) =
      (.success, (v₁.enter .writeFails).put (f.setPosition position info)
        (v₁.enter .writeFails).services) := by
    have hopened : lookup handle (v₁.enter .writeFails).files = some f := hlookup₁
    simp only [bootMonFsSetPosition, hopened, hinfo]
  have hat : (f.setPosition position info).position = position := if_neg hne
  set v₂ := (v₁.enter .writeFails).put (f.setPosition position info)
    (v₁.enter .writeFails).services with hv₂
  have hdistinct₂ : Distinct v₂.files := by
    rw [Distinct, hv₂, Volume.put, map_update]
    exact hdistinct₁
  have hlookup₂ : lookup handle v₂.files = some (f.setPosition position info) :=
    lookup_update hlookup₁ hsame
  have hinfo₂ : (f.setPosition position info).info = some info := hinfo
  have hflushed : lookup handle (bootMonFsFlushFile handle v₂).2.files =
      some (f.setPosition position info) :=
    (flush_writeFails hdistinct₂ hlookup₂ hinfo₂ hregions).2
  -- the read of one byte
  have hcfg : (bootMonFsFlushFile handle v₂).2.cfg = v.cfg := by
    have hcfg₁ : v₂.cfg = v.cfg := (flush_env handle (v.enter .writeFails)).1
    exact (flush_env handle v₂).1.trans hcfg₁
  have hdisk : (bootMonFsFlushFile handle v₂).2.services.readDisk.1.isError = false := by
    have henv : (bootMonFsFlushFile handle v₂).2.services.env = .writeFails :=
      (flush_env handle v₂).2
    rw [Services.readDisk, henv]
    rfl
  have hread := hharmless.read .writeFails position 1 _ rfl
  rw [hseek] at hread
  simp only [bootMonFsReadFile, hlookup₂, Option.bind_some, hinfo₂, hflushed, hat,
    if_neg (Nat.not_le.mpr hposition), hdisk, Bool.false_eq_true, if_false, hcfg,
    ByteStore.length_read] at hread
  have hlen : min 1 (v.cfg.arch.uintn (info.fileSize - position)) = 1 := by omega
  rw [hlen] at hread
  obtain ⟨g, hg, -, hdata, -⟩ := hread trivial (by simp [ByteStore.read])
  obtain ⟨hmem, hhandle⟩ := lookup_some hg
  obtain rfl := eq_of_mem_update hmem (hhandle.trans hsame.symm)
  have hsize : position + 1 ≤ f.dataSize := hdata
  omega

/-- A flush of regions in place that ends with a description, in any environment in which the data
is written: it writes the description, or stops for want of memory with one that is only laid out
in the file. -/
lemma flush_inPlace {env : Environment} {fileStart : ℕ} {files : List File}
    (hlookup : lookup handle v.files = some f) (hinfo : f.info = some info)
    (hmode : f.openMode ≠ .read)
    (hplace : placeFile v.cfg v.media f info.fileSize v.files = some (fileStart, files))
    (hregions : ∀ region ∈ f.regionToFlush, region.size ≠ 0 →
      (flushContext v f info fileStart files).InPlace region)
    (hneeds : needsDescription f info = true) (hwrite : ∀ n, (env.writeDisk n).isError = false) :
    ∃ s, s.env = env ∧ ∀ status f' s', writeFileDescription v.cfg v.media
        (freeFileRegions v.media f info) info.fileName (UInt32.ofNat info.fileSize) fileStart s =
          (status, f', s') →
      bootMonFsFlushFile handle (v.enter env) = (if status.isError then status else .success,
        { v.enter env with files := update f' files, services := s' }) := by
  obtain ⟨s, hloop, henv⟩ := @flushRegions_inPlace
    (flushContext (v.enter env) f info fileStart files) f (v.enter env).services f.regionToFlush
    fun region hmem hsize => ⟨hregions region hmem hsize, hwrite⟩
  refine ⟨s, henv, fun status f' s' hwritten => ?_⟩
  have hlookup' : lookup handle (v.enter env).files = some f := hlookup
  have hplace' : placeFile (v.enter env).cfg (v.enter env).media f info.fileSize
      (v.enter env).files = some (fileStart, files) := hplace
  have hplaced : flushPlaced (flushContext (v.enter env) f info fileStart files) info f
      (v.enter env).services = (if status.isError then status else .success, f', s') := by
    have hneeds' : needsDescription (freeFileRegions (flushContext (v.enter env) f info fileStart
      files).media f info) info = true := hneeds
    have hwritten' : writeFileDescription (flushContext (v.enter env) f info fileStart files).cfg
        (flushContext (v.enter env) f info fileStart files).media
        (freeFileRegions (flushContext (v.enter env) f info fileStart files).media f info)
        info.fileName (UInt32.ofNat info.fileSize)
        (flushContext (v.enter env) f info fileStart files).fileStart s = (status, f', s') :=
      hwritten
    simp only [flushPlaced, hloop, EfiStatus.isError_success, Bool.false_eq_true, if_false,
      hneeds', if_true, hwritten']
  simp only [bootMonFsFlushFile, hlookup', hinfo, if_neg hmode, hplace', hplaced]

/-- The environment in which every allocation fails. -/
def Environment.starved : Environment :=
  { Environment.good with allocate := fun _ => false }

/-- A flush that goes wrong at its last description is taken for done when it is tried again: it
leaves what is to be left only if the description is on the media already. -/
lemma FlushHarmless.described (h : FlushHarmless handle v) (hdistinct : Distinct v.files)
    (hlookup : lookup handle v.files = some f) (hinfo : f.info = some info)
    (hmode : f.openMode ≠ .read) (hfileSize : info.fileSize < 2 ^ 32) {fileStart : ℕ}
    {files : List File}
    (hplace : placeFile v.cfg v.media f info.fileSize v.files = some (fileStart, files))
    (hregions : ∀ region ∈ f.regionToFlush, region.size ≠ 0 →
      (flushContext v f info fileStart files).InPlace region)
    (hneeds : needsDescription f info = true) :
    ((v.enter .starved).flush handle).services.content =
      ((v.enter .good).flush handle).services.content := by
  -- the flush that gets its memory succeeds
  have hok : (bootMonFsFlushFile handle (v.enter .good)).1.isError = false := by
    obtain ⟨s, henv, hflush⟩ := @flush_inPlace v f info handle .good fileStart files hlookup hinfo
      hmode hplace hregions hneeds fun _ => rfl
    obtain ⟨status, s', hwritten, hstatus, -⟩ := writeFileDescription_quiet (s := s)
      (by rw [henv]; exact Environment.good_quiet) v.cfg v.media (freeFileRegions v.media f info)
      info.fileName (UInt32.ofNat info.fileSize) fileStart
    rw [hflush _ _ _ hwritten, hstatus]
    rfl
  -- the one that does not leaves the file with a description that is only laid out
  obtain ⟨s, henv, hflush⟩ := @flush_inPlace v f info handle .starved fileStart files hlookup hinfo
    hmode hplace hregions hneeds fun _ => rfl
  obtain ⟨s', hwritten⟩ : ∃ s', writeFileDescription v.cfg v.media (freeFileRegions v.media f info)
      info.fileName (UInt32.ofNat info.fileSize) fileStart s = (.outOfResources,
        { freeFileRegions v.media f info with
          hwDescription := layout v.cfg v.media f.hwDescription info.fileName
            (UInt32.ofNat info.fileSize) fileStart }, s') := by
    rw [writeFileDescription, Services.allocatePool, henv]
    exact ⟨_, rfl⟩
  have hstarved := hflush _ _ _ hwritten
  set g : File := { freeFileRegions v.media f info with
    hwDescription := layout v.cfg v.media f.hwDescription info.fileName
      (UInt32.ofNat info.fileSize) fileStart } with hg
  have hsame : f.handle = handle := (lookup_some hlookup).2
  have hharmless := h .starved (by rw [hstarved]; rfl)
  have hdistinct' : Distinct (v.enter .starved).files := hdistinct
  have hfound : lookup handle ((v.enter .starved).flush handle).files = some g := by
    obtain ⟨g', hg', hname⟩ := flush_name hdistinct' hlookup hinfo
    have hlooked := (@flush_distinct _ handle hdistinct').lookup hg'
    rw [hname.handle, hsame] at hlooked
    rw [hlooked]
    rw [Volume.flush, hstarved] at hg'
    exact congrArg some (eq_of_mem_update hg' hname.handle)
  -- tried again, it has nothing to write
  have hneedless : needsDescription g { info with physicalSize := f.physicalSize v.media } =
      false := by
    have hname : g.hwDescription.footer.name = info.fileName.chars := layout_name ..
    have hsize : g.dataSize = info.fileSize := by
      rw [File.dataSize, hg]
      simp only [layout, Function.update_self]
      rw [UInt32.toNat_ofNat', Nat.mod_eq_of_lt hfileSize]
    rw [needsDescription, hname, hsize]
    simp
  have hwaiting : ∀ region ∈ g.regionToFlush, region.size = 0 := by
    intro region hmem
    cases hmem
  have hagain := @flush_nothing g (((v.enter .starved).flush handle).enter .good) _ handle hfound
    rfl hmode rfl hneedless hwaiting
  have hsameFlush := hharmless.retried .good .good (by rw [hagain]; rfl) hok
  have hcontent := hsameFlush.content
  rw [Volume.flush, hagain] at hcontent
  exact hcontent

end Exposed

/-! ## When no failure does harm -/

/-- What a file has to have if no failure of a flush is to do harm. -/
structure StandsFailure (handle : ℕ) (v : Volume) (f : File) (info : FileInfo) : Prop where
  placed : (∃ region ∈ f.regionToFlush, region.size ≠ 0) →
    f.onDisk = true ∧ info.fileSize ≤ f.dataSize
  named : (∃ region ∈ f.regionToFlush, region.size ≠ 0) →
    f.hwDescription.footer.name ≠ [] ∧
      ∀ k ∈ v.files, k.handle ≠ handle → k.asciiName ≠ f.hwDescription.footer.name
  /-- A description that a flush writes behind regions in place is on the media already. -/
  described : info.fileSize < 2 ^ 32 → needsDescription f info = true → ∀ fileStart files,
    placeFile v.cfg v.media f info.fileSize v.files = some (fileStart, files) →
    (∀ region ∈ f.regionToFlush, region.size ≠ 0 →
      (flushContext v f info fileStart files).InPlace region) →
    ((v.enter .starved).flush handle).services.content =
      ((v.enter .good).flush handle).services.content

/-- A flush that has nothing to do or stays in the data of the file does no harm when it fails,
and one that places the file, or is to make it grow, to rename or to cut it, does. -/
theorem flushHarmless_when (v : Volume) (handle : ℕ) (f : File) (info : FileInfo)
    (hdistinct : Distinct v.files) (hlookup : lookup handle v.files = some f)
    (hinfo : f.info = some info) (hmode : f.openMode ≠ .read) :
    (SafeToFlush v f info → FlushHarmless handle v) ∧
      (FlushHarmless handle v → StandsFailure handle v f info) := by
  constructor
  · rintro (⟨hdisk, hsettled, hregions⟩ | hinside)
    · intro env herror
      have hlookup' : lookup handle (v.enter env).files = some f := hlookup
      rw [flush_nothing hlookup' hinfo hmode hdisk hsettled hregions] at herror
      cases herror
    · exact hinside.harmless hlookup hinfo hmode
  · intro h
    exact
      { placed := fun hregions => ⟨(h.placed hdistinct hlookup hinfo hregions).1,
          h.fileSize_le hdistinct hlookup hinfo hregions⟩
        named := fun hregions => (h.placed hdistinct hlookup hinfo hregions).2
        described := fun hsize hneeds fileStart files hplace hregions =>
          h.described hdistinct hlookup hinfo hmode hsize hplace hregions hneeds }

/-- The calls that overwrite the last ten of the hundred bytes of `A`. -/
def overwriteA : List (Environment × Call) :=
  writeA 100 ++ [(.good, .setPosition 1 90), (.good, .writeFile 1 (List.replicate 10 8))]

/-- A file of 100 bytes, of which the last ten are written again. -/
theorem flushHarmless_when_overwritten : FlushHarmless 1 (volumeAfter overwriteA) := by
  have hfile : (lookup 1 (volumeAfter overwriteA).files).map
      (fun f => (f.onDisk, f.blockStart, f.blockEnd, f.dataSize, f.hwDescAddress)) =
        some (true, 0, 0, 100, 376) := by
    decide +kernel
  obtain ⟨f, hlookup, hf⟩ := Option.map_eq_some_iff.mp hfile
  simp only [Prod.mk.injEq] at hf
  obtain ⟨hdisk, hstart, hend, hsize, haddress⟩ := hf
  have hopen : (lookup 1 (volumeAfter overwriteA).files).map (fun f =>
      (f.regionToFlush, f.hwDescription.footer.name, f.openMode)) =
        some ([⟨90, List.replicate 10 8⟩], [0x41], .readWriteCreate) := by
    decide +kernel
  have hnamed : ((lookup 1 (volumeAfter overwriteA).files).bind (·.info)).map (fun info =>
      (info.fileSize, info.fileName.chars)) = some (100, [0x41]) := by
    decide +kernel
  rw [hlookup] at hopen hnamed
  simp only [Option.map_some, Option.some.injEq, Prod.mk.injEq, Option.bind_some,
    Option.map_eq_some_iff] at hopen hnamed
  obtain ⟨hregions, hname, hmode⟩ := hopen
  obtain ⟨info, hinfo, hfileSize, hchars⟩ := hnamed
  have honly : ∀ g ∈ (volumeAfter overwriteA).files, g.handle = 1 := by decide +kernel
  have hdistinct : Distinct (volumeAfter overwriteA).files := by
    unfold Distinct
    decide +kernel
  have hhandle : f.handle = 1 := (lookup_some hlookup).2
  have hblock : (volumeAfter overwriteA).media.blockSize = 512 := by decide +kernel
  have hroom : f.room (volumeAfter overwriteA).media = 512 := by
    rw [File.room, hstart, hend, hblock]
  have hbegin : f.start (volumeAfter overwriteA).media = 0 := by
    rw [File.start, hstart, Nat.zero_mul]
  refine (flushHarmless_when (volumeAfter overwriteA) 1 f info hdistinct hlookup hinfo
    (by rw [hmode]; decide)).1 (.inr ?_)
  have hplain : (volumeAfter overwriteA).media.lowestAlignedLba = 0 ∧
      512 < 2 ^ (volumeAfter overwriteA).cfg.arch.uintnBits := by decide +kernel
  have hregion : ∀ region ∈ f.regionToFlush, region.ending = 100 := by
    rw [hregions]
    decide
  exact
    { onDisk := hdisk
      unshifted := hplain.1
      le := by rw [hstart, hend]
      bytes_lt := by rw [hend, hblock]; exact hplain.2
      holds := by rw [hsize, hroom]; decide
      apart := fun g hg hne => absurd (honly g hg) (hhandle ▸ hne)
      size_eq := hfileSize.trans hsize.symm
      name := .inl (hname.trans hchars.symm)
      inside := fun region hmem _ => by rw [hregion region hmem, hsize]
      rewritable := fun region _ _ =>
        { fits := by rw [hsize, hroom]; decide
          room_lt := by rw [hroom]; decide
          block_lt := by rw [hend]; decide
          within := fun _ => by
            rw [File.extent, if_pos hdisk, File.descSpan, haddress, hstart, hend, hblock]
            decide
          covered := fun _ x hx => .inl (by
            have hlo := hx.1
            rw [File.descSpan, haddress] at hlo
            rw [hbegin, hsize]
            exact Nat.le_trans (by decide) hlo) }
      named := ⟨by rw [hname]; decide, by rw [hchars]; decide⟩
      unique := fun g hg hne => absurd (honly g hg) (hhandle ▸ hne) }

/-- The flush of a new file fails, and a close leaves it in the list without a place and without a
name. -/
theorem not_flushHarmless_newFile :
    ¬ ∀ v₀ calls v handle f info, Mounted v₀ → driver.Run v₀ calls v → Distinct v.files →
      lookup handle v.files = some f → f.info = some info → f.openMode ≠ .read →
        FlushHarmless handle v := by
  intro h
  have hfile : (lookup 1 (volumeAfter (createFile nameA 1)).files).map
      (fun f => (f.onDisk, f.openMode, f.info.isSome, f.regionToFlush.map (·.size))) =
        some (false, .readWriteCreate, true, [100]) := by
    decide +kernel
  obtain ⟨f, hlookup, hf⟩ := Option.map_eq_some_iff.mp hfile
  simp only [Prod.mk.injEq] at hf
  obtain ⟨hdisk, hmode, hopen, hregions⟩ := hf
  obtain ⟨info, hinfo⟩ := Option.isSome_iff_exists.mp hopen
  have hdistinct : Distinct (volumeAfter (createFile nameA 1)).files := by
    unfold Distinct
    decide +kernel
  have hwaiting : ∃ region ∈ f.regionToFlush, region.size ≠ 0 := by
    obtain ⟨region, hmem, hsize⟩ := List.mem_map.mp
      (show 100 ∈ f.regionToFlush.map (·.size) by rw [hregions]; exact List.mem_singleton_self 100)
    exact ⟨region, hmem, by rw [hsize]; decide⟩
  have hharmless := h _ _ _ 1 f info (blankVolume_mounted 3 (by decide))
    (run_runCalls (createFile nameA 1) _) hdistinct hlookup hinfo (by rw [hmode]; decide)
  have hplaced := (hharmless.placed hdistinct hlookup hinfo hwaiting).1
  rw [hdisk] at hplaced
  cases hplaced

end BootMonFs

end MuPlatform
