import MuPlatform.BootMonFs.FlushDirectory
import MuPlatform.BootMonFs.ReadAfterWrite

/-!
# Sessions

What a client gets out of the driver over a whole run.

* `reads_contents`: a read returns the bytes of the client's picture, over every run of careful
  calls, whether they succeed or fail.
* `readsBack_of_run`: the condition is met before the call (`KeepsBytes`) where all calls of the
  run succeed, and then no read fails that starts inside its file.

Without the condition the driver loses bytes: the description that a flush writes behind a short
region may lie over a longer one that has been written before (`not_readsBack_overlaid`).
-/

namespace MuPlatform
namespace BootMonFs

/-! ## The condition before the call -/

/-- Every region that the region loop appends finds space. -/
def FlushContext.HasRoom (ctx : FlushContext) : List FileRegion → File → Prop
  | [], _ => True
  | region :: regions, f =>
      if region.size = 0 ∨ ctx.InPlace region then ctx.HasRoom regions f
      else ctx.hasSpace f region = true ∧ ctx.HasRoom regions (ctx.grown f region)

instance decidableHasRoom (ctx : FlushContext) : ∀ regions f, Decidable (ctx.HasRoom regions f)
  | [], _ => .isTrue trivial
  | region :: regions, f =>
      have := decidableHasRoom ctx regions f
      have := decidableHasRoom ctx regions (ctx.grown f region)
      inferInstanceAs (Decidable (if region.size = 0 ∨ ctx.InPlace region then
          ctx.HasRoom regions f
        else ctx.hasSpace f region = true ∧ ctx.HasRoom regions (ctx.grown f region)))

/-- A flush of the file behind the handle stores every byte: it finds a place, fits its room, has
space for each region and writes no description over data. -/
def FlushKeeps (v : Volume) (handle : ℕ) : Prop :=
  ∀ f ∈ lookup handle v.files, f.openMode ≠ .read →
    SparesData v.media f.dataSize f.dataSize f.regionToFlush ∧
      ∀ info ∈ f.info, ∃ place ∈ placeFile v.cfg v.media f info.fileSize v.files,
        FlushFits (flushContext v f info place.1 place.2) f info (filesAfter handle place.2) ∧
          (flushContext v f info place.1 place.2).HasRoom f.regionToFlush f

instance (v : Volume) (handle : ℕ) : Decidable (FlushKeeps v handle) :=
  inferInstanceAs (Decidable (∀ f ∈ lookup handle v.files, f.openMode ≠ .read → _ ∧ _))

/-- The condition on a call and the volume it finds. -/
def Call.Keeps (v : Volume) : Call → Prop
  | .closeFile handle | .readFile handle _ | .flushFile handle => FlushKeeps v handle
  | .writeFile handle buffer =>
      ∀ f ∈ lookup handle v.files, f.position + buffer.length < 2 ^ 32
  | .setPosition _ position => position < 2 ^ 64
  | .setInfo _ args => args.fileSize < 2 ^ 32
  | .openFile _ _ _ | .delete _ => True

instance (v : Volume) : ∀ call : Call, Decidable (call.Keeps v)
  | .closeFile handle | .readFile handle _ | .flushFile handle =>
      inferInstanceAs (Decidable (FlushKeeps v handle))
  | .writeFile handle buffer =>
      inferInstanceAs (Decidable (∀ f ∈ lookup handle v.files,
        f.position + buffer.length < 2 ^ 32))
  | .setPosition _ position => inferInstanceAs (Decidable (position < 2 ^ 64))
  | .setInfo _ args => inferInstanceAs (Decidable (args.fileSize < 2 ^ 32))
  | .openFile _ _ _ | .delete _ => .isTrue trivial

/-- The same with the environment: where the call flushes, the firmware refuses nothing. -/
structure KeepsBytes (v : Volume) (step : Environment × Call) : Prop where
  quiet : step.2.flushes.isSome = true → step.1.Quiet
  keeps : step.2.Keeps v

/-- The call succeeds. -/
def Succeeds (v : Volume) (step : Environment × Call) : Prop :=
  (perform step.2 (v.enter step.1)).1 = .success

instance (v : Volume) (step : Environment × Call) : Decidable (Succeeds v step) :=
  inferInstanceAs (Decidable (_ = _))

section Keeps

variable {v : Volume} {handle : ℕ}

/-- The region loop gets through where every region finds space. -/
lemma RegionLoop.through {ctx : FlushContext} {regions : List FileRegion} {f f' : File}
    {through : Bool} {ws : List DiskWrite} (h : RegionLoop ctx regions f through f' ws)
    (hroom : ctx.HasRoom regions f) : through = true := by
  induction h with
  | done f => rfl
  | empty hsize _ ih =>
      rw [FlushContext.HasRoom, if_pos (.inl hsize)] at hroom
      exact ih hroom
  | inPlace _ hplace _ ih =>
      rw [FlushContext.HasRoom, if_pos (.inr hplace)] at hroom
      exact ih hroom
  | grow hsize hplace _ _ ih =>
      rw [FlushContext.HasRoom, if_neg (not_or.mpr ⟨hsize, hplace⟩)] at hroom
      exact ih hroom.2
  | full hsize hplace hspace =>
      rw [FlushContext.HasRoom, if_neg (not_or.mpr ⟨hsize, hplace⟩), hspace] at hroom
      cases hroom.1

lemma FlushOutcome.status_ne {ctx : FlushContext} {info : FileInfo} {f f' : File}
    {status : EfiStatus} {ws : List DiskWrite} (h : FlushOutcome ctx info f status f' ws)
    (hroom : ctx.HasRoom f.regionToFlush f) : status ≠ .volumeFull := by
  cases h with
  | full hloop => cases hloop.through hroom
  | settled => decide
  | described => decide

lemma FlushKeeps.flushInRoom (h : FlushKeeps v handle) : FlushInRoom v handle := by
  intro f info fileStart files hlookup hinfo hmode hplace
  obtain ⟨place, hplace', hfits, -⟩ := (h f hlookup hmode).2 info hinfo
  obtain rfl := Option.some.inj (hplace'.symm.trans hplace)
  exact hfits

/-- The flush finds space. -/
lemma FlushKeeps.hasSpace (h : FlushKeeps v handle) (hquiet : v.services.env.Quiet) :
    (bootMonFsFlushFile handle v).1 ≠ .volumeFull := by
  unfold bootMonFsFlushFile
  cases hlookup : lookup handle v.files with
  | none => simp
  | some f =>
    cases hinfo : f.info with
    | none => simp only [hinfo]; decide
    | some info =>
      by_cases hmode : f.openMode = .read
      · simp only [hinfo, if_pos hmode]
        decide
      obtain ⟨⟨fileStart, files⟩, hplace, -, hroom⟩ := (h f hlookup hmode).2 info hinfo
      obtain ⟨status, f', ws, s', heq, houtcome, -⟩ := flushPlaced_quiet hquiet
        (flushContext v f info fileStart files) info f
      simp only [hinfo, if_neg hmode, Option.mem_def.mp hplace, heq]
      exact houtcome.status_ne hroom

/-- A call that succeeds and meets the condition is careful. -/
lemma KeepsBytes.careful {step : Environment × Call} (h : KeepsBytes v step)
    (hok : step.2.flushes = none → Succeeds v step) : Careful v step := by
  obtain ⟨env, call⟩ := step
  have hflush : ∀ handle, call.flushes = some handle → env.Quiet ∧ FlushKeeps v handle := by
    intro handle hflushes
    refine ⟨h.quiet (by rw [hflushes]; rfl), ?_⟩
    have hkeeps := h.keeps
    cases call <;> cases hflushes <;> exact hkeeps
  constructor
  · intro handle hflushes
    obtain ⟨hquiet, hkeeps⟩ := hflush handle hflushes
    exact ⟨hquiet, hkeeps.flushInRoom⟩
  · intro handle f hflushes hlookup hmode
    exact ((hflush handle hflushes).2 f hlookup hmode).1
  · intro handle hflushes
    obtain ⟨hquiet, hkeeps⟩ := hflush handle hflushes
    have henter : FlushKeeps (v.enter env) handle := hkeeps
    exact henter.hasSpace hquiet
  · rintro handle buffer f rfl hlookup
    exact h.keeps f hlookup
  · rintro handle position rfl
    exact h.keeps
  · rintro handle args rfl
    exact ⟨h.keeps, hok rfl⟩
  · rintro handle rfl
    exact hok rfl

end Keeps

/-! ## Runs -/

/-- The picture after some calls. -/
def pictureAfter : List (Environment × Call) → Volume → Contents → Contents
  | [], _, contents => contents
  | step :: steps, v, contents =>
      let outcome := perform step.2 (v.enter step.1)
      pictureAfter steps outcome.2
        (if outcome.1.isError then contents
        else step.2.effect contents (openedHandle (v.enter step.1) step.2))

/-- A run of the driver, with the picture beside it. -/
lemma run_pictured {C : Volume → Environment × Call → Prop} {v v' : Volume}
    {steps : List (Environment × Call)} (h : (driver.restrict C).Run v steps v')
    (contents : Contents) :
    (pictured.restrict fun s => C s.1).Run (v, contents) steps
      (v', pictureAfter steps v contents) := by
  induction h generalizing contents with
  | nil v => exact .nil (v, contents)
  | cons hstep _ ih =>
      obtain ⟨hC, rfl⟩ := hstep
      exact .cons (t := (_, _)) ⟨hC, rfl, rfl⟩ (ih _)

/-- A run whose calls succeed and keep the bytes is a run of careful calls. -/
lemma careful_run {s t : Volume × Contents} {steps : List (Environment × Call)}
    (h : (pictured.restrict fun s step => Succeeds s.1 step ∧ KeepsBytes s.1 step).Run s steps t) :
    (pictured.restrict fun s => Careful s.1).Run s steps t :=
  h.restrict_mono (P := fun _ => True) (fun _ _ _ _ _ => trivial)
    (fun _ _ _ h => h.2.careful fun _ => h.1) trivial

/-- The files discovery makes have nothing in memory. -/
lemma Mounted.closed {v : Volume} (hmounted : Mounted v) :
    ∀ f ∈ v.files, f.info = none ∧ f.regionToFlush = [] := by
  obtain ⟨v₀, hfiles, hinit⟩ := hmounted
  have hkeeps := initializeLoop_keeps
    (P := fun v => ∀ f ∈ v.files, f.info = none ∧ f.regionToFlush = [])
    (fun _ _ _ _ h _ => h) (fun v s l d h _ _ f hf => ?_) (v₀.media.lastBlock + 2) 0
    (v := v₀) (by rw [hfiles]; simp)
  · rw [bootMonFsInitialize] at hinit
    rwa [hinit] at hkeeps
  · rcases List.mem_append.mp hf with hf | hf
    · exact h f hf
    · rw [List.mem_singleton.mp hf]
      exact ⟨rfl, rfl⟩

/-- The picture right after the volume has been initialised. -/
lemma Mounted.reflects {v : Volume} (hmounted : Mounted v) (hplain : v.media.Plain v.cfg.arch)
    (hstart : v.NoOverlap) (hsound : ∀ f ∈ v.files, f.Sound v.media) :
    Reflects v v.contents := by
  have hlayout := hmounted.layoutInv hplain hstart
  refine ⟨hlayout, hsound, fun f hf => ?_, fun handle hhandle => ?_⟩
  · obtain ⟨hinfo, hregions⟩ := hmounted.closed f hf
    have hwritten : f.Written := ⟨hregions, fun info h => (by rw [hinfo] at h; cases h)⟩
    refine ⟨_, by rw [Volume.contents, hlayout.distinct.lookup hf, Option.map_some], ?_⟩
    refine ⟨by rw [hinfo, Option.elim_none], fun h => ?_, fun x byte hx => ?_, fun _ => hwritten,
      UInt32.toNat_lt _⟩
    · rw [hinfo] at h
      cases h
    rw [hwritten.current]
    exact hx
  · rw [Volume.contents, Option.map_eq_none_iff]
    cases hlookup : lookup handle v.files with
    | none => rfl
    | some f =>
        obtain ⟨hf, rfl⟩ := lookup_some hlookup
        have := hlayout.fresh f hf
        omega

/-- Over every run of careful calls the driver keeps the picture. -/
theorem reflects_of_run {v₀ v : Volume} {contents : Contents} {steps : List (Environment × Call)}
    (hmounted : Mounted v₀) (hplain : v₀.media.Plain v₀.cfg.arch) (hstart : v₀.NoOverlap)
    (hsound : ∀ f ∈ v₀.files, f.Sound v₀.media)
    (hrun : (pictured.restrict fun s => Careful s.1).Run (v₀, v₀.contents) steps (v, contents)) :
    Reflects v contents ∧ v.media.Plain v.cfg.arch := by
  refine System.Run.invariant (P := fun s => Reflects s.1 s.2 ∧ s.1.media.Plain s.1.cfg.arch)
    ?_ hrun ⟨hmounted.reflects hplain hstart hsound, hplain⟩
  rintro ⟨s, contents⟩ step ⟨t, contents'⟩ ⟨hs, hplain⟩ ⟨hcareful, hvolume, hcontents⟩
  obtain ⟨-, hmedia, hcfg, -⟩ := @perform_layout s step.1 step.2 hs.layout hplain hcareful.fits
  rw [show t = _ from hvolume, show contents' = _ from hcontents]
  exact ⟨hs.perform hplain hcareful, by rw [hmedia, hcfg]; exact hplain⟩

/-- Over every run of careful calls a read returns the bytes of the client's picture. -/
theorem reads_contents {v₀ v : Volume} {contents : Contents} {steps : List (Environment × Call)}
    (hmounted : Mounted v₀) (hplain : v₀.media.Plain v₀.cfg.arch) (hstart : v₀.NoOverlap)
    (hsound : ∀ f ∈ v₀.files, f.Sound v₀.media)
    (hrun : (pictured.restrict fun s => Careful s.1).Run (v₀, v₀.contents) steps (v, contents))
    (env : Environment) (handle n : ℕ) (hcareful : Careful v (env, .readFile handle n))
    (hok : (bootMonFsReadFile handle n (v.enter env)).1.isError = false) :
    ∃ file, contents handle = some file ∧
      file.Reads n (bootMonFsReadFile handle n (v.enter env)).2.1 := by
  obtain ⟨h, hplain⟩ := reflects_of_run hmounted hplain hstart hsound hrun
  have henter : Reflects (v.enter env) contents := h.withServices rfl
  obtain ⟨hquiet, hroom⟩ := hcareful.fits handle rfl
  exact (henter.readFile hplain hquiet hroom (fun f => hcareful.spares handle f rfl)
    (hcareful.hasSpace handle rfl) n).2 hok

/-! ## Two files -/

lemma volumeB_plain : volumeB.media.Plain volumeB.cfg.arch :=
  ⟨by decide +kernel, by decide +kernel, by decide +kernel⟩

lemma volumeB_sound : ∀ f ∈ volumeB.files, f.Sound volumeB.media := by decide +kernel

/-- Each of the calls beside `B` succeeds and keeps the bytes. -/
lemma besideB_keeps :
    AllMeet (fun v step => Succeeds v step ∧ KeepsBytes v step) besideB volumeB := by
  have hkeeps : AllMeet (fun v step => Succeeds v step ∧ step.2.Keeps v) besideB volumeB := by
    decide +kernel
  exact hkeeps.imp fun _ _ h => ⟨h.1, fun _ => Environment.good_quiet, h.2⟩

lemma besideB_reads : (Call.readFile 0 600).Keeps (runCalls besideB volumeB) ∧
    (Call.readFile 2 600).Keeps (runCalls besideB volumeB) := by decide +kernel

/-- What the two reads return: 100 bytes of the file in the gap, and 550 of the file that has
grown, the first 50 of them from before. -/
theorem reads_contents_besideB :
    ∃ a b : ByteFile, a.size = 100 ∧ a.known 0 = some 9 ∧
      a.Reads 600 (bootMonFsReadFile 2 600 ((runCalls besideB volumeB).enter .good)).2.1 ∧
      b.size = 550 ∧ b.known 49 = some 7 ∧ b.known 50 = some 8 ∧
      b.Reads 600 (bootMonFsReadFile 0 600 ((runCalls besideB volumeB).enter .good)).2.1 := by
  have hrun := careful_run (run_pictured besideB_keeps.run volumeB.contents)
  obtain ⟨hgrown, hgap⟩ := besideB_reads
  have hcareful : ∀ {handle : ℕ}, (Call.readFile handle 600).Keeps (runCalls besideB volumeB) →
      Careful (runCalls besideB volumeB) (.good, .readFile handle 600) := fun hkeeps =>
    KeepsBytes.careful ⟨fun _ => Environment.good_quiet, hkeeps⟩ fun h => (by cases h)
  obtain ⟨a, ha, hreadsA⟩ := reads_contents volumeB_mounted volumeB_plain volumeB_noOverlap
    volumeB_sound hrun .good 2 600 (hcareful hgap) (by decide +kernel)
  obtain ⟨b, hb, hreadsB⟩ := reads_contents volumeB_mounted volumeB_plain volumeB_noOverlap
    volumeB_sound hrun .good 0 600 (hcareful hgrown) (by decide +kernel)
  have hpictureA : (pictureAfter besideB volumeB volumeB.contents 2).map
      (fun file => (file.size, file.known 0)) = some (100, some 9) := by decide +kernel
  have hpictureB : (pictureAfter besideB volumeB volumeB.contents 0).map
      (fun file => (file.size, file.known 49, file.known 50)) = some (550, some 7, some 8) := by
    decide +kernel
  rw [ha] at hpictureA
  rw [hb] at hpictureB
  obtain ⟨hsizeA, hknownA⟩ := Prod.mk.inj (Option.some.inj hpictureA)
  obtain ⟨hsizeB, hknownB⟩ := Prod.mk.inj (Option.some.inj hpictureB)
  obtain ⟨hbefore, hgrew⟩ := Prod.mk.inj hknownB
  exact ⟨a, b, hsizeA, hknownA, hreadsA, hsizeB, hbefore, hgrew, hreadsB⟩

/-! ## Runs of calls that succeed -/

/-- The flushed file stays in the list, open as it was. -/
lemma lookup_flush {v : Volume} {handle : ℕ} {f : File} (hdistinct : Distinct v.files)
    (hlookup : lookup handle v.files = some f) :
    ∃ f', lookup handle (bootMonFsFlushFile handle v).2.files = some f' ∧ StillOpen f' f := by
  have hmem : handle ∈ (v.flush handle).handles := by
    obtain ⟨hf, rfl⟩ := lookup_some hlookup
    rcases flush_handles hdistinct with ⟨-, hsame⟩ | ⟨g, hg, -, hne, hmem, -, hmoved⟩
    · rw [hsame]
      exact List.mem_map_of_mem hf
    · rw [hmoved]
      exact (LinkedList.moveBefore_perm hdistinct hmem (List.mem_map_of_mem hg) hne).mem_iff.mpr
        hmem
  obtain ⟨f', hf', hhandle⟩ := List.mem_map.mp hmem
  obtain ⟨f₀, hlookup₀, hopen, -⟩ := of_mem_flush hdistinct hf' hhandle
  rw [hlookup] at hlookup₀
  obtain rfl := Option.some.inj hlookup₀
  exact ⟨f', hhandle ▸ (@flush_distinct v handle hdistinct).lookup hf', hopen⟩

lemma flushFile_env {v : Volume} {handle : ℕ} (hquiet : v.services.env.Quiet) :
    (bootMonFsFlushFile handle v).2.services.env = v.services.env := by
  have hcall := bootMonFsFlushFile_quiet hquiet handle
  generalize (bootMonFsFlushFile handle v).2 = v', (bootMonFsFlushFile handle v).1 = status at hcall
  cases hcall with
  | refused => rfl
  | flushed _ _ _ _ _ hwrote => exact hwrote.env

/-- Where no request to the disk fails, a read of an open file fails only behind its end. -/
lemma readFile_error {v : Volume} {handle n : ℕ} {f : File} {info : FileInfo}
    (hopen : (lookup handle v.files).bind (·.info) ≠ none)
    (hlookup : lookup handle (bootMonFsFlushFile handle v).2.files = some f)
    (hinfo : f.info = some info)
    (hdisk : ∀ request,
      ((bootMonFsFlushFile handle v).2.services.env.readDisk request).isError = false)
    (herror : (bootMonFsReadFile handle n v).1.isError = true) :
    (bootMonFsReadFile handle n v).2.1 = [] ∧ info.fileSize < f.position := by
  unfold bootMonFsReadFile at herror ⊢
  split at herror
  · next hnone => exact absurd hnone hopen
  simp only [hlookup, hinfo, Services.readDisk, hdisk, Bool.false_eq_true, if_false] at herror ⊢
  by_cases hend : info.fileSize ≤ f.position
  · rw [if_pos hend] at herror ⊢
    refine ⟨rfl, ?_⟩
    by_contra hle
    rw [if_neg hle] at herror
    cases herror
  · rw [if_neg hend, hdisk] at herror
    cases herror

/-- A read returns the bytes of the picture, and fails only behind the end of the file. -/
def ReadsBack (v : Volume) (contents : Contents) (env : Environment) (handle n : ℕ) : Prop :=
  ∃ file, contents handle = some file ∧
    file.Reads n (bootMonFsReadFile handle n (v.enter env)).2.1 ∧
    ((bootMonFsReadFile handle n (v.enter env)).1.isError = true → file.size < file.position)

/-- **Read after write.** -/
theorem readsBack_of_run {v₀ v : Volume} {contents : Contents} {steps : List (Environment × Call)}
    (hmounted : Mounted v₀) (hplain : v₀.media.Plain v₀.cfg.arch) (hstart : v₀.NoOverlap)
    (hsound : ∀ f ∈ v₀.files, f.Sound v₀.media)
    (hrun : (pictured.restrict fun s step => Succeeds s.1 step ∧ KeepsBytes s.1 step).Run
      (v₀, v₀.contents) steps (v, contents))
    {env : Environment} {handle n : ℕ} (hkeeps : KeepsBytes v (env, .readFile handle n))
    (hopen : (lookup handle v.files).bind (·.info) ≠ none)
    (hdisk : ∀ request, (env.readDisk request).isError = false) :
    ReadsBack v contents env handle n := by
  obtain ⟨hreflects, hplain⟩ := reflects_of_run hmounted hplain hstart hsound (careful_run hrun)
  have henter : Reflects (v.enter env) contents := hreflects.withServices rfl
  have hcareful := hkeeps.careful fun h => (by cases h)
  obtain ⟨hquiet, hroom⟩ := hcareful.fits handle rfl
  obtain ⟨hflushed, -⟩ := henter.flush hplain hquiet hroom (fun f => hcareful.spares handle f rfl)
    (hcareful.hasSpace handle rfl)
  have hreads := (henter.readFile hplain hquiet hroom (fun f => hcareful.spares handle f rfl)
    (hcareful.hasSpace handle rfl) n).2
  obtain ⟨info, hinfo⟩ := Option.ne_none_iff_exists'.mp hopen
  obtain ⟨f, hlookup, hinfo⟩ := Option.bind_eq_some_iff.mp hinfo
  obtain ⟨f', hlookup', hstill⟩ := lookup_flush (v := v.enter env) henter.layout.distinct hlookup
  obtain ⟨info', hinfo'⟩ := Option.isSome_iff_exists.mp (hstill.isOpen.trans (by rw [hinfo]; rfl))
  obtain ⟨file, hfile, hholds⟩ := hflushed.file hlookup'
  obtain ⟨hposition, -⟩ := hholds.position (by rw [hinfo']; rfl)
  have hsize : file.size = info'.fileSize := by rw [hholds.size, hinfo', Option.elim_some]
  by_cases hok : (bootMonFsReadFile handle n (v.enter env)).1.isError = true
  · obtain ⟨hnone, hbehind⟩ := readFile_error (v := v.enter env) hopen hlookup' hinfo'
      (fun request => by rw [flushFile_env hquiet]; exact hdisk request) hok
    have hlt : file.size < file.position := by omega
    refine ⟨file, hfile, ?_, fun _ => hlt⟩
    rw [hnone]
    refine ⟨?_, fun i b hi => absurd hi (Nat.not_lt_zero i)⟩
    rw [ByteFile.available, List.length_nil]
    omega
  · obtain ⟨file', hfile', hbytes⟩ := hreads (by simpa using hok)
    exact ⟨file', hfile', hbytes, fun herror => absurd herror hok⟩

/-- Both files read back, the one in the gap and the one that has grown. -/
theorem readsBack_of_run_besideB :
    ReadsBack (runCalls besideB volumeB) (pictureAfter besideB volumeB volumeB.contents) .good
        0 600 ∧
      ReadsBack (runCalls besideB volumeB) (pictureAfter besideB volumeB volumeB.contents) .good
        2 600 := by
  have hrun := run_pictured besideB_keeps.run volumeB.contents
  obtain ⟨hgrown, hgap⟩ := besideB_reads
  constructor
  · exact readsBack_of_run volumeB_mounted volumeB_plain volumeB_noOverlap volumeB_sound hrun
      ⟨fun _ => Environment.good_quiet, hgrown⟩ (by decide +kernel) fun _ => rfl
  · exact readsBack_of_run volumeB_mounted volumeB_plain volumeB_noOverlap volumeB_sound hrun
      ⟨fun _ => Environment.good_quiet, hgap⟩ (by decide +kernel) fun _ => rfl

/-- The calls that write 50 bytes at 400 and then 100 bytes at 0 to the new file `A`, flush it and
go back to 400. -/
def overlaid : List (Environment × Call) :=
  untroubled [.openFile nameA .readWriteCreate 0, .setPosition 1 400,
    .writeFile 1 (List.replicate 50 8), .setPosition 1 0, .writeFile 1 (List.replicate 100 7),
    .flushFile 1, .setPosition 1 400]

/-- The description behind the second region lies over the data of the first, and is cleared. -/
theorem not_readsBack_overlaid :
    ¬ ∀ v₀ steps v contents handle n, Mounted v₀ → v₀.NoOverlap →
      (∀ f ∈ v₀.files, f.Sound v₀.media) →
      (pictured.restrict fun s => Succeeds s.1).Run (v₀, v₀.contents) steps (v, contents) →
      (lookup handle v.files).bind (·.info) ≠ none → ReadsBack v contents .good handle n := by
  intro h
  have hall : AllMeet Succeeds overlaid (bootMonFsInitialize (blankVolume 1)).2 := by
    decide +kernel
  obtain ⟨file, hfile, hreads, -⟩ := h _ _ _ _ 1 50 (blankVolume_mounted 1 (by decide))
    ⟨.nil, by decide, .nil⟩ (fun f hf => absurd hf List.not_mem_nil)
    (run_pictured hall.run _) (by decide +kernel)
  have hpicture : (pictureAfter overlaid (bootMonFsInitialize (blankVolume 1)).2
      (bootMonFsInitialize (blankVolume 1)).2.contents 1).map
        (fun file => (file.position, file.known 400)) = some (400, some 8) := by
    decide +kernel
  rw [hfile] at hpicture
  obtain ⟨hposition, hknown⟩ := Prod.mk.inj (Option.some.inj hpicture)
  have hbytes : (bootMonFsReadFile 1 50 ((runCalls overlaid
      (bootMonFsInitialize (blankVolume 1)).2).enter .good)).2.1 = List.replicate 50 0 := by
    decide +kernel
  rw [hbytes] at hreads
  have hfirst := hreads.known 0 8 (by decide) (by rw [hposition]; exact hknown)
  cases hfirst

end BootMonFs

end MuPlatform
