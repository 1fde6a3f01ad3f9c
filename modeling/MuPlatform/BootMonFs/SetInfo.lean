import MuPlatform.BootMonFs.Overlap

/-!
# The information of a file

`BootMonFsGetInfo` copies `Info` out.  `BootMonFsSetInfo` changes the size, then the attributes and
then the name of a file, and each of the steps behind the first can fail.  `setInfoAtomic_iff` says
when a call that fails leaves the file as it was and one that succeeds makes all the changes it was
asked for.
-/

namespace MuPlatform
namespace BootMonFs

/-! ## GetInfo -/

/-- What `GetInfo` answers for `gEfiFileInfoGuid`: the status, `*BufferSize` and what is in the
buffer. -/
structure FileInfoReply where
  status : EfiStatus
  bufferSize : ℕ
  info : Option FileInfo

/-- The size of the information of a file with the given name. -/
def fileInfoSize (name : List UInt8) : ℕ := sizeOfEfiFileInfo + 2 * (name.length + 1)

/-- `GetFileInfo`. -/
def getFileInfo (info : FileInfo) (bufferSize : ℕ) : FileInfoReply :=
  let resultSize := fileInfoSize info.fileName.chars
  if bufferSize < resultSize then ⟨.bufferTooSmall, resultSize, none⟩
  else ⟨.success, resultSize, some { info with size := resultSize }⟩

/-- `BootMonFsGetInfo` with `gEfiFileInfoGuid`. -/
def bootMonFsGetFileInfo (handle bufferSize : ℕ) (v : Volume) : FileInfoReply × Volume :=
  match (lookup handle v.files).bind (·.info) with
  | none => (⟨.invalidParameter, bufferSize, none⟩, v)
  | some info =>
    if v.initialized then (getFileInfo info bufferSize, v)
    else
      match bootMonFsInitialize v with
      | (status, v') =>
        if status.isError then (⟨status, bufferSize, none⟩, v')
        else (getFileInfo info bufferSize, v')

/-! ## Requests -/

/-- The name without the `\` the EFI Shell may put in front of it. -/
def stripSeparator (fileName : List UInt8) : List UInt8 :=
  if fileName.head? = some 0x5C then fileName.tail else fileName

namespace SetInfoArgs

variable (args : SetInfoArgs)

/-- The name a request asks for. -/
def requestedName (info : FileInfo) : List UInt8 :=
  if args.fileName = info.fileName.chars then args.fileName else stripSeparator args.fileName

/-- `FileNameIsDifferent`. -/
abbrev NameDiffers (info : FileInfo) : Prop :=
  args.fileName.take (maxNameLength - 1) ≠ info.fileName.chars

/-- The request gets through the checks of `BootMonFsSetInfo` and `SetFileInfo` that come before
the first change. -/
structure Accepted (f : File) (info : FileInfo) : Prop where
  size : sizeOfEfiFileInfo + 2 * (args.fileName.length + 1) ≤ args.size
  bufferSize : args.size ≤ args.bufferSize
  directory : isDirectory args.attributes = isDirectory info.attributes
  writable : f.openMode = .read → args.fileSize = info.fileSize ∧ ¬ args.NameDiffers info
  times : args.times = info.times

/-- An allocation of the write that makes the file longer fails. -/
def Starved (arch : Arch) (info : FileInfo) (s : Services) : Prop :=
  args.fileSize ≠ info.fileSize ∧ info.fileSize % 2 ^ 32 < arch.uintn args.fileSize ∧
    ¬ ∀ k < 3, s.env.allocate (s.requests + k) = true

/-- A file has the name already. -/
def Clashes (files : List File) : Prop :=
  (fileFromAsciiFileName (unicodeStrToAsciiStrS (stripSeparator args.fileName)) files).isSome

/-- The name can be stored, and the bound computed from `Info->Size` lets it be copied. -/
structure NameFits (cfg : BuildConfig) (info : FileInfo) : Prop where
  stored : 0 ∉ stripSeparator args.fileName ∧
    (stripSeparator args.fileName).length < maxNameLength
  bound : (stripSeparator args.fileName).length <
    cfg.arch.uintn (uint64Sub info.size sizeOfEfiFileInfo / 2)
  limit : cfg.maximumUnicodeStringLength ≠ 0 →
    cfg.arch.uintn (uint64Sub info.size sizeOfEfiFileInfo / 2) ≤ cfg.maximumUnicodeStringLength

end SetInfoArgs

/-- The information has everything a request asks for. -/
structure FileInfo.Applied (info' : FileInfo) (args : SetInfoArgs) (info : FileInfo) : Prop where
  fileSize : info'.fileSize = args.fileSize
  attributes : info'.attributes = args.attributes
  times : info'.times = args.times
  fileName : info'.fileName.chars = args.requestedName info

/-- A call that fails leaves the file as it was, and one that succeeds makes all the changes. -/
structure SetInfoAtomic (handle : ℕ) (args : SetInfoArgs) (v : Volume) (info : FileInfo) :
    Prop where
  failed : (bootMonFsSetInfo handle args v).1.isError = true →
    lookup handle (bootMonFsSetInfo handle args v).2.files = lookup handle v.files
  succeeded : (bootMonFsSetInfo handle args v).1.isError = false →
    ∃ f' info', lookup handle (bootMonFsSetInfo handle args v).2.files = some f' ∧
      f'.info = some info' ∧ info'.Applied args info

/-- What has to hold of an accepted request for the call to be atomic. -/
structure SettlesWhole (v : Volume) (args : SetInfoArgs) (f : File) (info : FileInfo) :
    Prop where
  /-- Without memory the file stays at its end. -/
  starved : args.Starved v.cfg.arch info v.services → f.position = info.fileSize % 2 ^ 32
  /-- The name is refused behind the changes of the size and the attributes. -/
  clash : ¬ args.Starved v.cfg.arch info v.services → args.NameDiffers info →
    args.Clashes v.files → args.attributes = info.attributes ∧
      (args.fileSize ≠ info.fileSize →
        v.cfg.arch.uintn args.fileSize = info.fileSize ∧ info.fileSize < 2 ^ 32)
  size : ¬ args.Starved v.cfg.arch info v.services →
    ¬ (args.NameDiffers info ∧ args.Clashes v.files) →
    args.fileSize ≠ info.fileSize → args.fileSize < 2 ^ v.cfg.arch.uintnBits
  rename : ¬ args.Starved v.cfg.arch info v.services → args.NameDiffers info →
    ¬ args.Clashes v.files → args.NameFits v.cfg info
  /-- The comparison looks at thirty-one characters. -/
  unnoticed : ¬ args.Starved v.cfg.arch info v.services → ¬ args.NameDiffers info →
    args.requestedName info = info.fileName.chars

/-! ## The size -/

section Size

variable {f : File} {info : FileInfo} {s : Services}

/-- A write without memory for one of its two allocations. -/
lemma writeFile_starved (hmode : f.openMode ≠ .read) (buffer : List UInt8)
    (hstarved : ¬ ∀ k < 2, s.env.allocate (s.requests + k) = true) :
    ∃ s', writeFile buffer f info s = (.outOfResources, f, s') := by
  unfold writeFile
  rw [if_neg hmode]
  cases h₀ : s.env.allocate s.requests with
  | false =>
      rw [Services.allocatePool_eq h₀]
      exact ⟨_, rfl⟩
  | true =>
      rw [Services.allocatePool_eq h₀]
      have h₁ : s.env.allocate (s.requests + 1) = false := by
        rw [← Bool.not_eq_true]
        intro h₁
        refine hstarved fun k hk => ?_
        match k, hk with
        | 0, _ => exact h₀
        | 1, _ => exact h₁
      simp only [Services.allocatePool, h₁]
      exact ⟨_, rfl⟩

lemma writeFile_success (hmode : f.openMode ≠ .read) (buffer : List UInt8)
    (hfed : ∀ k < 2, s.env.allocate (s.requests + k) = true) :
    ∃ s', writeFile buffer f info s = (.success, f.queue info buffer, s') := by
  have h₀ : s.env.allocate s.requests = true := hfed 0 (by decide)
  have h₁ : s.env.allocate (s.requests + 1) = true := hfed 1 (by decide)
  unfold writeFile
  rw [if_neg hmode]
  simp only [Services.allocatePool, h₀, h₁]
  exact ⟨_, rfl⟩

/-- A write whose three allocations do not all succeed leaves the file at its end. -/
lemma setFileSize_starved (hmode : f.openMode ≠ .read) {newSize : ℕ}
    (hgrows : info.fileSize % 2 ^ 32 < newSize)
    (hstarved : ¬ ∀ k < 3, s.env.allocate (s.requests + k) = true) :
    ∃ s', setFileSize newSize f info s =
      (.outOfResources, { f with position := info.fileSize % 2 ^ 32 }, s') := by
  have hseeked : f.setPosition (info.fileSize % 2 ^ 32) info =
      { f with position := info.fileSize % 2 ^ 32 } := by
    have hne : info.fileSize % 2 ^ 32 ≠ endOfFile := by
      unfold endOfFile
      omega
    rw [File.setPosition, if_neg hne]
  unfold setFileSize
  rw [if_neg (Nat.not_lt_of_lt hgrows), if_pos hgrows, hseeked]
  cases h₀ : s.env.allocate s.requests with
  | false =>
      rw [Services.allocatePool_eq h₀]
      exact ⟨_, rfl⟩
  | true =>
      rw [Services.allocatePool_eq h₀]
      have hwrite : ¬ ∀ k < 2, s.env.allocate (s.requests + 1 + k) = true := by
        intro hfed
        refine hstarved fun k hk => ?_
        match k, hk with
        | 0, _ => exact h₀
        | 1, _ => exact hfed 0 (by decide)
        | 2, _ => exact hfed 1 (by decide)
      obtain ⟨s', hwrite⟩ := @writeFile_starved { f with position := info.fileSize % 2 ^ 32 } info
        { s with requests := s.requests + 1 } hmode
        (List.replicate (newSize - info.fileSize % 2 ^ 32) 0) hwrite
      simp only [hwrite]
      exact ⟨s', rfl⟩

/-- Otherwise the size is set, and the file is what it was only if it had that size. -/
lemma setFileSize_success (hinfo : f.info = some info) (hmode : f.openMode ≠ .read)
    {newSize : ℕ}
    (hfed : info.fileSize % 2 ^ 32 < newSize → ∀ k < 3, s.env.allocate (s.requests + k) = true) :
    ∃ f' s', setFileSize newSize f info s = (.success, f', s') ∧ f'.handle = f.handle ∧
      f'.info = some { info with fileSize := newSize } ∧
      (f' = f ↔ newSize = info.fileSize ∧ info.fileSize < 2 ^ 32) := by
  unfold setFileSize
  rcases Nat.lt_trichotomy newSize (info.fileSize % 2 ^ 32) with hlow | hsame | hhigh
  · rw [if_pos hlow]
    refine ⟨_, _, rfl, rfl, by simp only [File.setSize, hinfo, Option.map_some], ?_⟩
    have hne : newSize ≠ info.fileSize := by
      have := Nat.mod_le info.fileSize (2 ^ 32)
      omega
    refine iff_of_false (fun heq => hne ?_) (fun h => hne h.1)
    have hinfo' := congrArg File.info heq
    simp only [File.setSize, hinfo, Option.map_some, Option.some.injEq] at hinfo'
    exact congrArg FileInfo.fileSize hinfo'
  · rw [if_neg (by omega), if_neg (by omega)]
    refine ⟨_, _, rfl, rfl, by simp only [File.setSize, hinfo, Option.map_some], ?_⟩
    constructor
    · intro heq
      have hinfo' := congrArg File.info heq
      simp only [File.setSize, hinfo, Option.map_some, Option.some.injEq] at hinfo'
      have hsize : newSize = info.fileSize := congrArg FileInfo.fileSize hinfo'
      exact ⟨hsize, by omega⟩
    · rintro ⟨rfl, -⟩
      simp only [File.setSize, hinfo, Option.map_some]
      rw [← hinfo]
  · have halloc := hfed hhigh
    rw [if_neg (by omega), if_pos hhigh]
    rw [Services.allocatePool_eq (halloc 0 (by decide))]
    obtain ⟨s', hwrite⟩ := @writeFile_success (f.setPosition (info.fileSize % 2 ^ 32) info) info
      { s with requests := s.requests + 1 } hmode
      (List.replicate (newSize - info.fileSize % 2 ^ 32) 0) fun k hk => by
        rw [Nat.add_assoc, Nat.add_comm 1 k]
        exact halloc (k + 1) (Nat.succ_lt_succ hk)
    simp only [hwrite, EfiStatus.isError_success, Bool.false_eq_true, if_false]
    refine ⟨_, s', rfl, rfl, rfl, ?_⟩
    refine iff_of_false (fun heq => ?_) (fun h => ?_)
    · have hregions := congrArg (fun g => g.regionToFlush.length) heq
      simp only [File.setSize, File.setPosition, File.queue, List.length_append,
        List.length_singleton] at hregions
      omega
    · rw [Nat.mod_eq_of_lt h.2] at hhigh
      omega

end Size

/-! ## The name -/

/-- The name `SetFileName` leaves in `Info`. -/
def SetInfoArgs.storedName (args : SetInfoArgs) (cfg : BuildConfig) (info : FileInfo) : FileName :=
  asciiStrToUnicodeStrS cfg (unicodeStrToAsciiStrS (stripSeparator args.fileName)) info.fileName
    (cfg.arch.uintn (uint64Sub info.size sizeOfEfiFileInfo / 2))

section Name

variable {cfg : BuildConfig} {args : SetInfoArgs} {files : List File} {f : File}
  {info : FileInfo}

lemma requestedName_eq (h : args.NameDiffers info) :
    args.requestedName info = stripSeparator args.fileName := by
  refine if_neg fun heq => h ?_
  rw [heq]
  exact List.take_of_length_le (Nat.le_sub_one_of_lt info.fileName.length_lt)

lemma setFileName_clash (hclash : args.Clashes files) :
    setFileName cfg files args.fileName f info = (.accessDenied, f) := by
  obtain ⟨same, hsame⟩ := Option.isSome_iff_exists.mp hclash
  unfold setFileName
  rw [← stripSeparator]
  simp only [hsame]

lemma setFileName_free (hfree : ¬ args.Clashes files) :
    setFileName cfg files args.fileName f info =
      (.success, { f with info := some { info with fileName := args.storedName cfg info } }) := by
  have hnone : fileFromAsciiFileName
      (unicodeStrToAsciiStrS (stripSeparator args.fileName)) files = none :=
    Option.not_isSome_iff_eq_none.mp hfree
  unfold setFileName
  rw [← stripSeparator]
  simp only [hnone]
  rfl

/-- A free name gets stored exactly where it fits. -/
lemma storedName_iff (cfg : BuildConfig) (hmem : f ∈ files) (hinfo : f.info = some info)
    (hfree : ¬ args.Clashes files) :
    (args.storedName cfg info).chars = stripSeparator args.fileName ↔
      args.NameFits cfg info := by
  constructor
  · intro hname
    have hstored : 0 ∉ stripSeparator args.fileName ∧
        (stripSeparator args.fileName).length < maxNameLength := by
      rw [← hname]
      exact ⟨FileName.chars_ne_zero _, FileName.length_lt _⟩
    have hascii : (unicodeStrToAsciiStrS (stripSeparator args.fileName)).chars =
        stripSeparator args.fileName := by
      rw [unicodeStrToAsciiStrS, dif_pos hstored]
    -- the name the file has is not free
    have hold : info.fileName.chars ≠ stripSeparator args.fileName := by
      intro heq
      refine hfree (List.find?_isSome.mpr ⟨f, hmem, ?_⟩)
      rw [decide_eq_true_eq, hascii, ← heq, File.asciiName, hinfo]
    unfold SetInfoArgs.storedName asciiStrToUnicodeStrS at hname
    split at hname
    · exact absurd hname hold
    split at hname
    · exact absurd hname hold
    split at hname
    · exact absurd hname hold
    · next hlimit hbound =>
      rw [hascii] at hbound
      exact ⟨hstored, Nat.lt_of_not_le hbound, fun hne => by
        by_contra hlarge
        exact hlimit ⟨hne, Nat.lt_of_not_le hlarge⟩⟩
  · rintro ⟨hstored, hbound, hlimit⟩
    have hascii : (unicodeStrToAsciiStrS (stripSeparator args.fileName)).chars =
        stripSeparator args.fileName := by
      rw [unicodeStrToAsciiStrS, dif_pos hstored]
    have hlimited : ¬ (cfg.maximumUnicodeStringLength ≠ 0 ∧ cfg.maximumUnicodeStringLength <
        cfg.arch.uintn (uint64Sub info.size sizeOfEfiFileInfo / 2)) :=
      fun h => absurd (hlimit h.1) (Nat.not_le_of_lt h.2)
    rw [SetInfoArgs.storedName, asciiStrToUnicodeStrS, if_neg (by omega), if_neg hlimited,
      if_neg (by rw [hascii]; omega), hascii]

end Name

/-! ## The call -/

section Call

variable {handle : ℕ} {args : SetInfoArgs} {v : Volume} {f f' : File} {info : FileInfo}
  {status : EfiStatus} {s : Services}

/-- The call is atomic if the work on the file is. -/
lemma setInfoAtomic_put (hlookup : lookup handle v.files = some f)
    (hcall : bootMonFsSetInfo handle args v = (status, v.put f' s))
    (hhandle : f'.handle = f.handle) :
    SetInfoAtomic handle args v info ↔ (status.isError = true → f' = f) ∧
      (status.isError = false → ∃ info', f'.info = some info' ∧ info'.Applied args info) := by
  have hfound : lookup handle (v.put f' s).files = some f' :=
    lookup_update hlookup (hhandle.trans (lookup_some hlookup).2)
  constructor
  · rintro ⟨hfailed, hsucceeded⟩
    rw [hcall, hfound] at hfailed hsucceeded
    refine ⟨fun herror => ?_, fun hok => ?_⟩
    · exact Option.some.inj ((hfailed herror).trans hlookup)
    · obtain ⟨g, info', hg, hinfo', happlied⟩ := hsucceeded hok
      exact ⟨info', Option.some.inj hg ▸ hinfo', happlied⟩
  · rintro ⟨hfailed, hsucceeded⟩
    constructor
    case failed =>
      rw [hcall, hfound, hlookup]
      exact fun herror => congrArg some (hfailed herror)
    case succeeded =>
      rw [hcall, hfound]
      intro hok
      obtain ⟨info', hinfo', happlied⟩ := hsucceeded hok
      exact ⟨f', info', rfl, hinfo', happlied⟩

/-- A request that does not get through the checks fails and changes nothing. -/
lemma bootMonFsSetInfo_refused (hlookup : lookup handle v.files = some f)
    (hinfo : f.info = some info) (hrefused : ¬ args.Accepted f info) :
    (bootMonFsSetInfo handle args v).1.isError = true ∧
      lookup handle (bootMonFsSetInfo handle args v).2.files = lookup handle v.files := by
  by_cases hsize : args.size < sizeOfEfiFileInfo + 2 * (args.fileName.length + 1)
  · have hcall : bootMonFsSetInfo handle args v = (.invalidParameter, v) := by
      simp only [bootMonFsSetInfo, hlookup, hinfo, if_pos hsize]
    rw [hcall]
    exact ⟨rfl, rfl⟩
  by_cases hbuffer : args.bufferSize < args.size
  · have hcall : bootMonFsSetInfo handle args v = (.badBufferSize, v) := by
      simp only [bootMonFsSetInfo, hlookup, hinfo, if_neg hsize, if_pos hbuffer]
    rw [hcall]
    exact ⟨rfl, rfl⟩
  obtain ⟨status, herror, hset⟩ : ∃ status, EfiStatus.isError status = true ∧
      setFileInfo v.cfg v.files args f info v.services = (status, f, v.services) := by
    unfold setFileInfo
    by_cases hdirectory : isDirectory args.attributes = isDirectory info.attributes
    · rw [if_neg (not_not_intro hdirectory)]
      split
      · exact ⟨.accessDenied, rfl, rfl⟩
      · next hwritable =>
        split
        · exact ⟨.writeProtected, rfl, rfl⟩
        · next htimes =>
          refine absurd ⟨Nat.le_of_not_lt hsize, Nat.le_of_not_lt hbuffer, hdirectory,
            fun hmode => ⟨?_, fun hname => ?_⟩, not_not.mp htimes⟩ hrefused
          · by_contra hne
            exact hwritable ⟨hmode, .inl hne⟩
          · exact hwritable ⟨hmode, .inr (.inl hname)⟩
    · rw [if_pos hdirectory]
      exact ⟨.accessDenied, rfl, rfl⟩
  have hcall : bootMonFsSetInfo handle args v = (status, v.put f v.services) := by
    simp only [bootMonFsSetInfo, hlookup, hinfo, if_neg hsize, if_neg hbuffer, hset]
  rw [hcall, hlookup]
  exact ⟨herror, lookup_update hlookup (lookup_some hlookup).2⟩

/-- An accepted request is carried out. -/
lemma bootMonFsSetInfo_accepted (hlookup : lookup handle v.files = some f)
    (hinfo : f.info = some info) (haccepted : args.Accepted f info) {outcome}
    (hset : applyFileInfo v.cfg v.files args f info v.services = outcome) :
    bootMonFsSetInfo handle args v = (outcome.1, v.put outcome.2.1 outcome.2.2) := by
  have hsize : ¬ args.size < sizeOfEfiFileInfo + 2 * (args.fileName.length + 1) :=
    Nat.not_lt_of_le haccepted.size
  have hwritable : ¬ (f.openMode = .read ∧ (args.fileSize ≠ info.fileSize ∨
      args.fileName.take (maxNameLength - 1) ≠ info.fileName.chars ∨ args.times ≠ info.times)) := by
    rintro ⟨hmode, hdiffers⟩
    obtain ⟨hsame, hname⟩ := haccepted.writable hmode
    rcases hdiffers with h | h | h
    · exact h hsame
    · exact hname h
    · exact h haccepted.times
  have hchecked : setFileInfo v.cfg v.files args f info v.services = outcome := by
    unfold setFileInfo
    rw [if_neg (not_not_intro haccepted.directory), if_neg hwritable,
      if_neg (not_not_intro haccepted.times), hset]
  simp only [bootMonFsSetInfo, hlookup, hinfo, if_neg hsize,
    if_neg (Nat.not_lt_of_le haccepted.bufferSize), hchecked]

/-- The size a request leaves in `Info`. -/
def SetInfoArgs.resized (args : SetInfoArgs) (arch : Arch) (info : FileInfo) : ℕ :=
  if args.fileSize ≠ info.fileSize then arch.uintn args.fileSize else info.fileSize

/-- The information with the size and the attributes of the request. -/
def SetInfoArgs.noted (args : SetInfoArgs) (arch : Arch) (info : FileInfo) : FileInfo :=
  { info with fileSize := args.resized arch info, attributes := args.attributes }

lemma SetInfoArgs.resized_eq_iff (arch : Arch) (info : FileInfo) :
    args.resized arch info = args.fileSize ↔
      (args.fileSize ≠ info.fileSize → args.fileSize < 2 ^ arch.uintnBits) := by
  unfold SetInfoArgs.resized
  by_cases hsize : args.fileSize ≠ info.fileSize
  · rw [if_pos hsize]
    constructor
    · intro heq _
      rw [← heq]
      exact arch.uintn_lt _
    · exact fun hlt => Arch.uintn_of_lt (hlt hsize)
  · rw [if_neg hsize]
    exact iff_of_true (not_not.mp hsize).symm fun h => absurd h hsize

/-- With memory for it the size is set, and the file is what it was only if it had that size. -/
lemma resize_fed (hinfo : f.info = some info) (haccepted : args.Accepted f info)
    (hfed : ¬ args.Starved v.cfg.arch info v.services) :
    ∃ g s, (if args.fileSize ≠ info.fileSize then
        setFileSize (v.cfg.arch.uintn args.fileSize) f info v.services
      else (.success, f, v.services)) = (.success, g, s) ∧ g.handle = f.handle ∧
      g.info = some { info with fileSize := args.resized v.cfg.arch info } ∧
      (g = f ↔ (args.fileSize ≠ info.fileSize →
        v.cfg.arch.uintn args.fileSize = info.fileSize ∧ info.fileSize < 2 ^ 32)) := by
  by_cases hsize : args.fileSize ≠ info.fileSize
  · have hmode : f.openMode ≠ .read := fun hmode => hsize (haccepted.writable hmode).1
    obtain ⟨g, s, hset, hhandle, hginfo, hsame⟩ := setFileSize_success (s := v.services) hinfo
      hmode fun hgrows => not_not.mp fun hstarved => hfed ⟨hsize, hgrows, hstarved⟩
    rw [if_pos hsize]
    refine ⟨g, s, hset, hhandle, ?_, ?_⟩
    · rw [SetInfoArgs.resized, if_pos hsize, hginfo]
    · rw [hsame]
      exact ⟨fun h _ => h, fun h => h hsize⟩
  · rw [if_neg hsize]
    refine ⟨f, v.services, rfl, rfl, ?_, iff_of_true rfl fun h => absurd h hsize⟩
    rw [SetInfoArgs.resized, if_neg hsize, hinfo]

/-- Without memory for the size the file is left at its end. -/
lemma applyFileInfo_starved (haccepted : args.Accepted f info)
    (hstarved : args.Starved v.cfg.arch info v.services) :
    ∃ s, applyFileInfo v.cfg v.files args f info v.services =
      (.outOfResources, { f with position := info.fileSize % 2 ^ 32 }, s) := by
  obtain ⟨hsize, hgrows, halloc⟩ := hstarved
  have hmode : f.openMode ≠ .read := fun hmode => hsize (haccepted.writable hmode).1
  obtain ⟨s, hset⟩ := setFileSize_starved (s := v.services) hmode hgrows halloc
  refine ⟨s, ?_⟩
  unfold applyFileInfo
  rw [if_pos hsize, hset]
  rfl

/-- What `SetFileInfo` makes of the file behind its checks, with memory for the size. -/
lemma applyFileInfo_fed {g : File} (hginfo : g.info =
      some { info with fileSize := args.resized v.cfg.arch info })
    (hresize : (if args.fileSize ≠ info.fileSize then
        setFileSize (v.cfg.arch.uintn args.fileSize) f info v.services
      else (.success, f, v.services)) = (.success, g, s)) :
    (args.NameDiffers info → args.Clashes v.files →
      applyFileInfo v.cfg v.files args f info v.services =
        (.accessDenied, { g with info := some (args.noted v.cfg.arch info) }, s)) ∧
    (args.NameDiffers info → ¬ args.Clashes v.files →
      applyFileInfo v.cfg v.files args f info v.services =
        (.success, { g with
          info := some { args.noted v.cfg.arch info with
            fileName := args.storedName v.cfg info } }, s)) ∧
    (¬ args.NameDiffers info → applyFileInfo v.cfg v.files args f info v.services =
      (.success, { g with info := some (args.noted v.cfg.arch info) }, s)) := by
  refine ⟨fun hname hclash => ?_, fun hname hfree => ?_, fun hname => ?_⟩
  · unfold applyFileInfo
    simp only [hresize, EfiStatus.isError_success, Bool.false_eq_true, if_false, hginfo]
    rw [if_pos hname, setFileName_clash hclash]
    rfl
  · unfold applyFileInfo
    simp only [hresize, EfiStatus.isError_success, Bool.false_eq_true, if_false, hginfo]
    rw [if_pos hname, setFileName_free hfree]
    rfl
  · unfold applyFileInfo
    simp only [hresize, EfiStatus.isError_success, Bool.false_eq_true, if_false, hginfo]
    rw [if_neg hname]
    rfl

/-- What a call that succeeds makes of the name. -/
lemma setInfo_success (hlookup : lookup handle v.files = some f) (hinfo : f.info = some info)
    (hok : (bootMonFsSetInfo handle args v).1.isError = false) :
    ∃ f' info' s, bootMonFsSetInfo handle args v = (.success, v.put f' s) ∧
      f'.handle = f.handle ∧ f'.info = some info' ∧
      (args.NameDiffers info → ¬ args.Clashes v.files ∧
        info'.fileName = args.storedName v.cfg info) ∧
      (¬ args.NameDiffers info → info'.fileName = info.fileName) := by
  have haccepted : args.Accepted f info := by
    by_contra hrefused
    rw [(bootMonFsSetInfo_refused hlookup hinfo hrefused).1] at hok
    cases hok
  have hfed : ¬ args.Starved v.cfg.arch info v.services := by
    intro hstarved
    obtain ⟨s, happly⟩ := applyFileInfo_starved haccepted hstarved
    rw [bootMonFsSetInfo_accepted hlookup hinfo haccepted happly] at hok
    cases hok
  obtain ⟨g, s, hresize, hhandle, hginfo, -⟩ := resize_fed hinfo haccepted hfed
  obtain ⟨hclash, hrename, hkeep⟩ := applyFileInfo_fed hginfo hresize
  by_cases hname : args.NameDiffers info
  · have hfree : ¬ args.Clashes v.files := by
      intro hclashes
      rw [bootMonFsSetInfo_accepted hlookup hinfo haccepted (hclash hname hclashes)] at hok
      cases hok
    exact ⟨_, _, s, bootMonFsSetInfo_accepted hlookup hinfo haccepted (hrename hname hfree),
      hhandle, rfl, fun _ => ⟨hfree, rfl⟩, fun h => absurd hname h⟩
  · exact ⟨_, _, s, bootMonFsSetInfo_accepted hlookup hinfo haccepted (hkeep hname), hhandle,
      rfl, fun h => absurd h hname, fun _ => rfl⟩

/-- `BootMonFsSetInfo` on an open file is atomic exactly where an accepted request settles. -/
theorem setInfoAtomic_iff (handle : ℕ) (args : SetInfoArgs) (v : Volume) (f : File)
    (info : FileInfo) (hlookup : lookup handle v.files = some f) (hinfo : f.info = some info) :
    SetInfoAtomic handle args v info ↔
      (args.Accepted f info → SettlesWhole v args f info) := by
  by_cases haccepted : args.Accepted f info
  case neg =>
    obtain ⟨herror, hsame⟩ := bootMonFsSetInfo_refused hlookup hinfo haccepted
    refine iff_of_true ⟨fun _ => hsame, fun hok => ?_⟩ fun h => absurd h haccepted
    rw [herror] at hok
    cases hok
  by_cases hstarved : args.Starved v.cfg.arch info v.services
  case pos =>
    obtain ⟨s, happly⟩ := applyFileInfo_starved (v := v) haccepted hstarved
    rw [setInfoAtomic_put hlookup (bootMonFsSetInfo_accepted hlookup hinfo haccepted happly) rfl]
    constructor
    · rintro ⟨hfailed, -⟩ -
      have hposition : info.fileSize % 2 ^ 32 = f.position :=
        congrArg File.position (hfailed rfl)
      have hfed : ∀ {p : Prop}, ¬ args.Starved v.cfg.arch info v.services → p :=
        fun h => absurd hstarved h
      exact ⟨fun _ => hposition.symm, hfed, hfed, hfed, hfed⟩
    · intro h
      have hposition := (h haccepted).starved hstarved
      exact ⟨fun _ => by rw [← hposition], fun hok => by cases hok⟩
  obtain ⟨g, s, hresize, hhandle, hginfo, hsame⟩ := resize_fed hinfo haccepted hstarved
  obtain ⟨hclash, hrename, hkeep⟩ := applyFileInfo_fed hginfo hresize
  by_cases hname : args.NameDiffers info
  case neg =>
    rw [setInfoAtomic_put hlookup
      (bootMonFsSetInfo_accepted hlookup hinfo haccepted (hkeep hname)) hhandle]
    constructor
    · rintro ⟨-, hsucceeded⟩ -
      obtain ⟨_, ⟨⟩, happlied⟩ := hsucceeded rfl
      exact ⟨fun h => absurd h hstarved, fun _ h => absurd h hname,
        fun _ _ => (args.resized_eq_iff _ _).mp happlied.fileSize, fun _ h => absurd h hname,
        fun _ _ => happlied.fileName.symm⟩
    · intro h
      obtain ⟨-, -, hsize, -, hunnoticed⟩ := h haccepted
      refine ⟨fun herror => (by cases herror), fun _ => ⟨_, rfl, ?_, rfl, haccepted.times.symm, ?_⟩⟩
      · exact (args.resized_eq_iff _ _).mpr (hsize hstarved fun h => hname h.1)
      · exact (hunnoticed hstarved hname).symm
  by_cases hclashes : args.Clashes v.files
  case pos =>
    rw [setInfoAtomic_put hlookup
      (bootMonFsSetInfo_accepted hlookup hinfo haccepted (hclash hname hclashes)) hhandle]
    constructor
    · rintro ⟨hfailed, -⟩ -
      have heq := hfailed rfl
      have hnoted : args.noted v.cfg.arch info = info :=
        Option.some.inj ((congrArg File.info heq).trans hinfo)
      have hsize : args.resized v.cfg.arch info = info.fileSize := congrArg FileInfo.fileSize hnoted
      have hg : g = f := by
        rw [hsize] at hginfo
        rw [← heq, hnoted, ← hginfo]
      exact ⟨fun h => absurd h hstarved,
        fun _ _ _ => ⟨congrArg FileInfo.attributes hnoted, hsame.mp hg⟩,
        fun _ h => absurd ⟨hname, hclashes⟩ h, fun _ _ h => absurd hclashes h,
        fun _ h => absurd hname h⟩
    · intro h
      obtain ⟨hattributes, hsize⟩ := (h haccepted).clash hstarved hname hclashes
      obtain rfl := hsame.mpr hsize
      have hresized : args.resized v.cfg.arch info = info.fileSize :=
        congrArg FileInfo.fileSize (Option.some.inj (hginfo.symm.trans hinfo))
      refine ⟨fun _ => ?_, fun hok => by cases hok⟩
      rw [SetInfoArgs.noted, hresized, hattributes, ← hinfo]
  case neg =>
    rw [setInfoAtomic_put hlookup
      (bootMonFsSetInfo_accepted hlookup hinfo haccepted (hrename hname hclashes)) hhandle]
    have hstored := storedName_iff v.cfg (lookup_some hlookup).1 hinfo hclashes
    constructor
    · rintro ⟨-, hsucceeded⟩ -
      obtain ⟨_, ⟨⟩, happlied⟩ := hsucceeded rfl
      exact ⟨fun h => absurd h hstarved, fun _ _ h => absurd h hclashes,
        fun _ _ => (args.resized_eq_iff _ _).mp happlied.fileSize,
        fun _ _ _ => hstored.mp (happlied.fileName.trans (requestedName_eq hname)),
        fun _ h => absurd hname h⟩
    · intro h
      obtain ⟨-, -, hsize, hfits, -⟩ := h haccepted
      refine ⟨fun herror => (by cases herror), fun _ => ⟨_, rfl, ?_, rfl, haccepted.times.symm, ?_⟩⟩
      · exact (args.resized_eq_iff _ _).mpr (hsize hstarved fun h => hclashes h.2)
      · exact (hstored.mpr (hfits hstarved hname hclashes)).trans (requestedName_eq hname).symm

end Call

/-! ## A name that is taken -/

/-- An empty file that is open for writing. -/
def emptyOpen (handle : ℕ) (name : FileName) : File :=
  (File.created handle).opened (blankVolume 3).media name .readWrite 0

/-- The two open files `A` and `B`. -/
def volumeAB : Volume :=
  { blankVolume 3 with files := [emptyOpen 0 nameA, emptyOpen 1 nameB], initialized := true }

/-- The request for a name and some attributes. -/
def namedArgs (attributes : ℕ) (fileName : List UInt8) : SetInfoArgs :=
  ⟨200, 200, 0, List.replicate 48 0, attributes, fileName⟩

/-- `A` is to have ten bytes, be read-only and be called `C`, on a build without a limit on
strings. -/
theorem setInfoAtomic_iff_noLimit :
    SetInfoAtomic 0 ⟨200, 200, 10, List.replicate 48 0, 1, [0x43]⟩
      { volumeAB with cfg := ⟨.aarch64, 0⟩ } ⟨0, 0, 0, List.replicate 48 0, 0, nameA⟩ := by
  refine (setInfoAtomic_iff 0 ⟨200, 200, 10, List.replicate 48 0, 1, [0x43]⟩
    { volumeAB with cfg := ⟨.aarch64, 0⟩ } (emptyOpen 0 nameA)
    ⟨0, 0, 0, List.replicate 48 0, 0, nameA⟩ rfl rfl).mpr fun _ => ?_
  constructor
  case starved => exact fun h => absurd (fun _ _ => rfl) h.2.2
  case clash => exact fun _ _ h => absurd h (by unfold SetInfoArgs.Clashes; decide)
  case size => exact fun _ _ _ => by decide
  case rename => exact fun _ _ _ => ⟨by decide, by decide, fun h => absurd rfl h⟩
  case unnoticed => exact fun _ h => absurd (by decide) h

/-- `A` is to be read-only and called `B`: the call fails, and `A` is read-only. -/
theorem not_setInfoAtomic_takenName :
    ¬ SetInfoAtomic 0 (namedArgs 1 [0x42]) volumeAB
      ⟨0, 0, 0, List.replicate 48 0, 0, nameA⟩ := by
  intro h
  have hsame := congrArg (fun f => (f.bind (·.info)).map (·.attributes)) (h.failed (by decide))
  revert hsame
  decide

end BootMonFs

end MuPlatform
