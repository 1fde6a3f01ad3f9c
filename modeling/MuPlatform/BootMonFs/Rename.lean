import MuPlatform.BootMonFs.Description
import MuPlatform.BootMonFs.FlushDirectory
import MuPlatform.BootMonFs.SetInfo

/-!
# Renaming a file

While a file is open it is known by the name in `Info`, and once it is closed by the name in its
description, which a flush brings up to date.  `SetFileName` copies the new name into `Info` with
a bound that it computes from `Info->Size`, and does not look at the status of the copy.

`renameTakesEffect_iff` says when a file is found under the new name, and only under it, at both
times.
-/

namespace MuPlatform
namespace BootMonFs

/-! ## Names -/

/-- The file with the given handle is found under the name `name`, and not under `old`. -/
structure Renamed (handle : ℕ) (name old : FileName) (files : List File) : Prop where
  found : ∃ f, fileFromAsciiFileName name files = some f ∧ f.handle = handle
  gone : ∀ f, fileFromAsciiFileName old files = some f → f.handle ≠ handle

/-- A rename takes effect at once, for `GetInfo` too, and still after a flush that succeeds and a
close. -/
structure RenameTakesEffect (handle : ℕ) (args : SetInfoArgs) (name old : FileName)
    (v : Volume) : Prop where
  renamed : Renamed handle name old (bootMonFsSetInfo handle args v).2.files
  reported : ∀ bufferSize, fileInfoSize name.chars ≤ bufferSize →
    (bootMonFsGetFileInfo handle bufferSize (bootMonFsSetInfo handle args v).2).1.info.map
      (·.fileName) = some name
  closed : ∀ env env',
    (bootMonFsFlushFile handle ((bootMonFsSetInfo handle args v).2.enter env)).1.isError = false →
    Renamed handle name old (bootMonFsCloseFile handle
      ((((bootMonFsSetInfo handle args v).2.enter env).flush handle).enter env')).2.files

section Lookup

variable {files : List File} {f : File} {handle : ℕ} {name old : FileName}

lemma fileFromAsciiFileName_some (h : fileFromAsciiFileName name files = some f) :
    f ∈ files ∧ f.asciiName = name.chars :=
  ⟨List.mem_of_find?_eq_some h, by simpa using List.find?_some h⟩

/-- The one file of a name is found under it. -/
lemma renamed_of_named (hf : f ∈ files) (hhandle : f.handle = handle)
    (hname : f.asciiName = name.chars) (hne : name ≠ old) (hdistinct : Distinct files)
    (hother : ∀ g ∈ files, g.handle ≠ handle → g.asciiName ≠ name.chars) :
    Renamed handle name old files := by
  constructor
  case found =>
    obtain ⟨g, hg⟩ : ∃ g, fileFromAsciiFileName name files = some g := by
      rw [fileFromAsciiFileName, ← Option.isSome_iff_exists, List.find?_isSome]
      exact ⟨f, hf, by simpa using hname⟩
    obtain ⟨hmem, hgname⟩ := fileFromAsciiFileName_some hg
    exact ⟨g, hg, not_not.mp fun hdiffers => hother g hmem hdiffers hgname⟩
  case gone =>
    intro g hg hsame
    obtain ⟨hmem, hgname⟩ := fileFromAsciiFileName_some hg
    rw [hdistinct.eq_of_handle hmem hf (hsame.trans hhandle.symm), hname] at hgname
    exact hne (FileName.eq_of_chars hgname)

end Lookup

/-! ## The name in the description -/

/-- The description of the file has kept its name or taken the given one. -/
structure NamedBy (name : FileName) (f' f : File) : Prop where
  handle : f'.handle = f.handle
  info : f'.info = f.info
  description : f'.hwDescription.footer.name = f.hwDescription.footer.name ∨
    f'.hwDescription.footer.name = name.chars

namespace NamedBy

variable {name : FileName} {f f' f'' : File}

lemma refl (name : FileName) (f : File) : NamedBy name f f := ⟨rfl, rfl, .inl rfl⟩

end NamedBy

section Flush

variable {f : File} {s : Services}

lemma layout_name (cfg : BuildConfig) (media : Media) (d : HwImageDescription) (name : FileName)
    (dataSize : UInt32) (fileStart : ℕ) :
    (layout cfg media d name dataSize fileStart).footer.name = name.chars :=
  HwImageFooter.name_setName
    { (layout cfg media d name dataSize fileStart).footer with filename := d.footer.filename } name

/-- A description that is written, or was to be, has the given name. -/
lemma writeFileDescription_name (cfg : BuildConfig) (media : Media) (name : FileName)
    (dataSize : UInt32) (fileStart : ℕ) :
    (writeFileDescription cfg media f name dataSize fileStart s).2.1.handle = f.handle ∧
      (writeFileDescription cfg media f name dataSize fileStart s).2.1.info = f.info ∧
      (writeFileDescription cfg media f name dataSize fileStart s).2.1.hwDescription.footer.name =
        name.chars := by
  have hdescribed := describe_onlyDescribed cfg media f name dataSize fileStart
  rw [writeFileDescription]
  split
  · exact ⟨hdescribed.handle, hdescribed.info, describe_name⟩
  · exact ⟨rfl, rfl, layout_name cfg media f.hwDescription name dataSize fileStart⟩

lemma flushRegions_namedBy (ctx : FlushContext) (regions : List FileRegion) :
    NamedBy ctx.asciiFileName (flushRegions ctx regions f s).2.1 f := by
  refine flushRegions_keeps (P := fun f' _ => NamedBy ctx.asciiFileName f' f) (fun _ _ h => h)
    (fun _ _ _ _ h => h) (fun f' s' dataSize h => ?_) regions (.refl _ f)
  obtain ⟨hhandle, hinfo, hname⟩ := @writeFileDescription_name f' s' ctx.cfg ctx.media
    ctx.asciiFileName dataSize ctx.fileStart
  exact ⟨hhandle.trans h.handle, hinfo.trans h.info, .inr hname⟩

/-- A flush of `f` that ends with `status` leaves `f'`: it keeps the name in `Info`, and the
description keeps its name or takes that one, which it has if the flush succeeds. -/
structure FlushedName (info : FileInfo) (f : File) (status : EfiStatus) (f' : File) : Prop where
  handle : f'.handle = f.handle
  isOpen : ∃ info', f'.info = some info' ∧ info'.fileName = info.fileName
  description : f'.hwDescription.footer.name = f.hwDescription.footer.name ∨
    f'.hwDescription.footer.name = info.fileName.chars
  named : status.isError = false → f'.hwDescription.footer.name = info.fileName.chars

lemma FlushedName.of_error {info : FileInfo} (hinfo : f.info = some info) {status : EfiStatus}
    (herror : status.isError = true) : FlushedName info f status f :=
  ⟨rfl, ⟨info, hinfo, rfl⟩, .inl rfl, fun hok => by rw [herror] at hok; cases hok⟩

lemma flushPlaced_name (ctx : FlushContext) {info : FileInfo} (hinfo : f.info = some info)
    (hctx : ctx.asciiFileName = info.fileName) :
    FlushedName info f (flushPlaced ctx info f s).1 (flushPlaced ctx info f s).2.1 := by
  have hregions := @flushRegions_namedBy f s ctx f.regionToFlush
  rw [hctx] at hregions
  unfold flushPlaced
  generalize flushRegions ctx f.regionToFlush f s = flushed at hregions
  obtain ⟨status, f', s'⟩ := flushed
  dsimp only at hregions ⊢
  split
  · next herror =>
    exact ⟨hregions.handle, ⟨info, hregions.info.trans hinfo, rfl⟩, hregions.description,
      fun hok => by rw [herror] at hok; cases hok⟩
  split
  · obtain ⟨hhandle, hinfo', hname⟩ := @writeFileDescription_name
      (freeFileRegions ctx.media f' info) s' ctx.cfg ctx.media info.fileName
      (UInt32.ofNat info.fileSize) ctx.fileStart
    exact ⟨hhandle.trans hregions.handle, ⟨_, hinfo', rfl⟩, .inr hname, fun _ => hname⟩
  · next hneeds =>
    have hname : f'.hwDescription.footer.name = info.fileName.chars := by
      by_contra hdiffers
      exact hneeds (Bool.or_eq_true_iff.mpr (.inl (decide_eq_true hdiffers)))
    exact ⟨hregions.handle, ⟨_, rfl, rfl⟩, hregions.description, fun _ => hname⟩

end Flush

section Volume

variable {v : Volume} {f : File} {info : FileInfo} {handle : ℕ}

/-- A flush of an open file on a volume. -/
lemma flush_name (hdistinct : Distinct v.files) (hlookup : lookup handle v.files = some f)
    (hinfo : f.info = some info) :
    ∃ f' ∈ (v.flush handle).files,
      FlushedName info f (bootMonFsFlushFile handle v).1 f' := by
  obtain ⟨hf, hhandle⟩ := lookup_some hlookup
  obtain ⟨f', hf', hsame⟩ : ∃ f' ∈ (v.flush handle).files, f'.handle = handle := by
    have hmem : handle ∈ (v.flush handle).handles := by
      have hold : handle ∈ v.handles := hhandle ▸ List.mem_map_of_mem hf
      rcases flush_handles hdistinct with ⟨-, heq⟩ | ⟨g, hg, -, hne, -, -, heq⟩
      · rwa [heq]
      · rw [heq]
        have hperm := LinkedList.moveBefore_perm hdistinct hold (List.mem_map_of_mem hg) hne
        exact hperm.mem_iff.mpr hold
    obtain ⟨f', hf', hsame⟩ := List.mem_map.mp hmem
    exact ⟨f', hf', hsame⟩
  rcases flushFile_cases handle v with ⟨status, herror, hflush⟩ |
    ⟨g, info', fileStart, files, hlookup', hinfo', -, -, hflush⟩
  · rw [Volume.flush, hflush]
    exact ⟨f, hf, .of_error hinfo herror⟩
  · obtain rfl : f = g := Option.some.inj (hlookup.symm.trans hlookup')
    obtain rfl : info = info' := Option.some.inj (hinfo.symm.trans hinfo')
    have hname := @flushPlaced_name f v.services (flushContext v f info fileStart files) info
      hinfo rfl
    rw [Volume.flush, hflush] at hf' ⊢
    have heq : f' = (flushPlaced (flushContext v f info fileStart files) info f
        v.services).2.1 := by
      obtain ⟨g, hg, hupdate⟩ := List.mem_map.mp hf'
      by_cases hgHandle : g.handle = (flushPlaced (flushContext v f info fileStart files) info f
          v.services).2.1.handle
      · rwa [if_pos hgHandle, eq_comm] at hupdate
      · rw [if_neg hgHandle] at hupdate
        exact absurd (hupdate ▸ hsame.trans (hname.handle.trans hhandle).symm) hgHandle
    exact ⟨_, heq ▸ hf', hname⟩

/-- A close leaves the file in the list without its `Info`, with the name in its description. -/
lemma closeFile_renamed {name old : FileName} (hdistinct : Distinct v.files)
    (hlookup : lookup handle v.files = some f) (hinfo : f.info = some info)
    (hname : info.fileName = name) (hdescribed : f.hwDescription.footer.name = name.chars)
    (hne : name ≠ old)
    (hother : ∀ g ∈ v.files, g.handle ≠ handle → g.asciiName ≠ name.chars) :
    Renamed handle name old (bootMonFsCloseFile handle v).2.files := by
  obtain ⟨f', hf', hflushed⟩ := flush_name hdistinct hlookup hinfo
  have hhandle : f'.handle = handle := hflushed.handle.trans (lookup_some hlookup).2
  have hfiles : (bootMonFsCloseFile handle v).2.files =
      (v.flush handle).files.map fun g => if g.handle = handle then g.close else g := by
    simp only [bootMonFsCloseFile, hlookup, Option.bind_some, hinfo]
    rfl
  rw [hfiles]
  have hclosedName : f'.close.asciiName = name.chars := by
    rcases hflushed.description with hsame | hnamed
    · exact hsame.trans hdescribed
    · exact hnamed.trans (by rw [hname])
  have hmap : ((v.flush handle).files.map fun g => if g.handle = handle then g.close else g).map
      (·.handle) = (v.flush handle).files.map (·.handle) := by
    rw [List.map_map]
    refine List.map_congr_left fun g _ => ?_
    simp only [Function.comp_apply]
    split <;> rfl
  refine renamed_of_named (f := f'.close) ?_ hhandle hclosedName hne ?_ ?_
  · exact List.mem_map.mpr ⟨f', hf', if_pos hhandle⟩
  · rw [Distinct, hmap]
    exact flush_distinct hdistinct
  · intro g hg hgHandle
    obtain ⟨k, hk, rfl⟩ := List.mem_map.mp hg
    by_cases hkHandle : k.handle = handle
    · rw [if_pos hkHandle] at hgHandle
      exact absurd hkHandle hgHandle
    · rw [if_neg hkHandle]
      exact hother k ((mem_flush_iff hdistinct hkHandle).mp hk) hkHandle

/-! ## The rename -/

variable {args : SetInfoArgs} {name : FileName}

lemma stripSeparator_request (hseparator : name.chars.head? ≠ some 0x5C)
    (hrequest : args.fileName = name.chars ∨ args.fileName = 0x5C :: name.chars) :
    stripSeparator args.fileName = name.chars := by
  rcases hrequest with hplain | hslash
  · rw [hplain, stripSeparator, if_neg hseparator]
  · rw [hslash, stripSeparator, if_pos List.head?_cons, List.tail_cons]

/-- A rename to a name no other file has takes effect exactly where the comparison sees it and
the bound lets the name be copied. -/
theorem renameTakesEffect_iff (handle : ℕ) (args : SetInfoArgs) (name : FileName) (v : Volume)
    (f : File) (info : FileInfo) (hdistinct : Distinct v.files)
    (hinitialized : v.initialized = true) (hlookup : lookup handle v.files = some f)
    (hinfo : f.info = some info) (hseparator : name.chars.head? ≠ some 0x5C)
    (hrequest : args.fileName = name.chars ∨ args.fileName = 0x5C :: name.chars)
    (hnew : name ≠ info.fileName)
    (hother : ∀ g ∈ v.files, g.handle ≠ handle → g.asciiName ≠ name.chars)
    (hok : (bootMonFsSetInfo handle args v).1.isError = false) :
    RenameTakesEffect handle args name info.fileName v ↔
      args.NameDiffers info ∧ args.NameFits v.cfg info := by
  obtain ⟨f', info', s, hcall, hhandle, hinfo', hchanged, hkept⟩ :=
    setInfo_success hlookup hinfo hok
  have hstripped := stripSeparator_request hseparator hrequest
  have hlookup' : lookup handle (v.put f' s).files = some f' :=
    lookup_update hlookup (hhandle.trans (lookup_some hlookup).2)
  constructor
  · intro h
    have hreported := h.reported (max (fileInfoSize name.chars)
      (fileInfoSize info'.fileName.chars)) (Nat.le_max_left _ _)
    have hname : info'.fileName = name := by
      rw [hcall, bootMonFsGetFileInfo, hlookup', Option.bind_some, hinfo'] at hreported
      simp only [Volume.put, hinitialized, if_true, getFileInfo] at hreported
      rw [if_neg (Nat.not_lt_of_le (Nat.le_max_right _ _))] at hreported
      exact Option.some.inj hreported
    have hdiffers : args.NameDiffers info := by
      intro hsame
      exact hnew (hname.symm.trans (hkept (not_not_intro hsame)))
    obtain ⟨hfree, hstored⟩ := hchanged hdiffers
    refine ⟨hdiffers, (storedName_iff v.cfg (lookup_some hlookup).1 hinfo hfree).mp ?_⟩
    rw [← hstored, hname, hstripped]
  · rintro ⟨hdiffers, hfits⟩
    obtain ⟨hfree, hstored⟩ := hchanged hdiffers
    have hname : info'.fileName = name := by
      have hchars := (storedName_iff v.cfg (lookup_some hlookup).1 hinfo hfree).mpr hfits
      exact FileName.eq_of_chars (by rw [hstored, hchars, hstripped])
    have hdistinct' : Distinct (v.put f' s).files := by
      rw [Distinct, Volume.put, map_update]
      exact hdistinct
    have hother' : ∀ g ∈ (v.put f' s).files, g.handle ≠ handle → g.asciiName ≠ name.chars := by
      intro g hg hne
      rcases mem_update hg with rfl | hold
      · exact absurd (hhandle.trans (lookup_some hlookup).2) hne
      · exact hother g hold hne
    constructor
    case renamed =>
      rw [hcall]
      refine renamed_of_named (lookup_some hlookup').1 (lookup_some hlookup').2 ?_ hnew
        hdistinct' hother'
      simp only [File.asciiName, hinfo', hname]
    case reported =>
      intro bufferSize hsize
      rw [hcall, bootMonFsGetFileInfo, hlookup', Option.bind_some, hinfo']
      simp only [Volume.put, hinitialized, if_true, getFileInfo]
      rw [hname, if_neg (Nat.not_lt_of_le hsize)]
      rfl
    case closed =>
      intro env env' hflush
      rw [hcall] at hflush ⊢
      obtain ⟨f'', hf'', hflushed⟩ := @flush_name ((v.put f' s).enter env) f' info' handle
        hdistinct' hlookup' hinfo'
      obtain ⟨info'', hinfo'', hname''⟩ := hflushed.isOpen
      have hhandle'' : f''.handle = handle :=
        hflushed.handle.trans (lookup_some hlookup').2
      have hdistinct'' := @flush_distinct ((v.put f' s).enter env) handle hdistinct'
      refine closeFile_renamed hdistinct'' (hhandle'' ▸ hdistinct''.lookup hf'') hinfo''
        (hname''.trans hname) ((hflushed.named hflush).trans (by rw [hname])) hnew ?_
      intro g hg hne
      exact hother' g ((mem_flush_iff (v := (v.put f' s).enter env) hdistinct' hne).mp hg) hne

end Volume

/-- The file `A` is renamed to `B`, on a build without a limit on strings. -/
theorem renameTakesEffect_iff_noLimit :
    RenameTakesEffect 0 (namedArgs 0 [0x42]) nameB nameA
      { volumeAB with files := [emptyOpen 0 nameA], cfg := ⟨.aarch64, 0⟩ } :=
  (renameTakesEffect_iff 0 (namedArgs 0 [0x42]) nameB
    { volumeAB with files := [emptyOpen 0 nameA], cfg := ⟨.aarch64, 0⟩ } (emptyOpen 0 nameA)
    ⟨0, 0, 0, List.replicate 48 0, 0, nameA⟩ (List.nodup_singleton 0) rfl rfl rfl (by decide)
    (.inl rfl) (by decide) (by decide) (by decide)).mpr
    ⟨by decide, ⟨by decide, by decide⟩, by decide, fun h => absurd rfl h⟩

/-- A file that has just been opened has `Info->Size` 0, from which the bound wraps to a number
above every limit: `SetInfo` succeeds, and the file is still called `A`. -/
theorem not_renameTakesEffect_justOpened :
    ¬ RenameTakesEffect 0 (namedArgs 0 [0x42]) nameB nameA
        { volumeAB with files := [emptyOpen 0 nameA] } := by
  intro h
  obtain ⟨f, hf, -⟩ := h.renamed.found
  have hnone : fileFromAsciiFileName nameB (bootMonFsSetInfo 0 (namedArgs 0 [0x42])
      { volumeAB with files := [emptyOpen 0 nameA] }).2.files = none := by
    decide
  rw [hnone] at hf
  cases hf

end BootMonFs

end MuPlatform
