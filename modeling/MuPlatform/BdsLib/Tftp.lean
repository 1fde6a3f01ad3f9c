import MuPlatform.Base.ByteStore
import MuPlatform.Efi.Pages

/-!
# Loading an image from a TFTP server

`BdsTftpLoadImage` (`BdsFilePath.c`) opens and configures the network protocols, asks the server for
the size of the file, and downloads it into pages.  A file that turns out larger than its buffer is
downloaded again into a larger one, up to `MAX_TFTP_FILE_SIZE`.

A `TftpEnvironment` says how the firmware and the server answer the requests of a call.  The loop
is given a number of rounds and comes to `none` where it takes more; `download_returns` says that
three are enough.  The status with which the loop is entered is that of the configuration before
it, so a file that is reported too large for any round is reported as loaded: `reportsDownload_iff`
says that this is the only fault.
-/

namespace MuPlatform
namespace BdsLib

/-! ## The environment -/

/-- `MAX_TFTP_FILE_SIZE`. -/
def maxTftpFileSize : ℕ := 0x01000000

/-- `SIZE_16MB`. -/
def size16MB : ℕ := 0x01000000

/-- What `ReadFile` does with a buffer of `bufferSize` bytes: it receives the file, or it fails and
leaves some bytes behind. -/
inductive ReadFileOutcome (bufferSize : ℕ)
  | received (file : List UInt8) (fits : file.length ≤ bufferSize)
  | failed (status : EfiError) (leftover : List UInt8) (fits : leftover.length ≤ bufferSize)

/-- `EFI_MTFTP4_OPTION`. -/
structure Mtftp4Option where
  optionStr : List UInt8
  valueStr : List UInt8

/-- How the firmware and the server answer the requests of a call. -/
structure TftpEnvironment where
  createDhcp4Child : Except EfiError Unit
  openDhcp4 : Except EfiError Unit
  createMtftp4Child : Except EfiError Unit
  openMtftp4 : Except EfiError Unit
  configureDhcp4 : Except EfiError Unit
  startDhcp4 : Except EfiError Unit
  /-- Whether the state of the DHCP client is `Dhcp4Bound`. -/
  getModeData : Except EfiError Bool
  configureMtftp4 : Except EfiError Unit
  getInfo : Except EfiError Unit
  parseOptions : Except EfiError (List Mtftp4Option)
  asciiStrDecimalToUint64 : List UInt8 → UInt64
  /-- The pool for the context of the download. -/
  allocateContext : Bool
  /-- `AllocatePages` and `ReadFile`, by their round; the pages are asked for with a type, a number
  and the address in `*Image`. -/
  allocatePages : ℕ → AllocateType → ℕ → ℕ → Except EfiError ℕ
  readFile : ℕ → (bufferSize : ℕ) → ReadFileOutcome bufferSize

section Model

variable (env : TftpEnvironment)

/-- An error other than one that is acceptable. -/
def tolerate (acceptable : EfiStatus) : Except EfiError Unit → Except EfiError Unit
  | .ok () => .ok ()
  | .error status => if status.val = acceptable then .ok () else .error status

/-- The part of `BdsTftpLoadImage` that opens and configures the protocols. -/
def configureTftp (staticIpAddress : Bool) : Except EfiError Unit := do
  if !staticIpAddress then
    env.createDhcp4Child
    env.openDhcp4
  env.createMtftp4Child
  env.openMtftp4
  if !staticIpAddress then
    tolerate .accessDenied env.configureDhcp4
    tolerate .alreadyStarted env.startDhcp4
    let bound ← env.getModeData
    if !bound then throw ⟨.timeout, rfl⟩
  env.configureMtftp4

/-- `"tsize"`. -/
def tsize : List UInt8 := [0x74, 0x73, 0x69, 0x7A, 0x65]

/-- `Mtftp4GetFileSize`, where it is a success. -/
def mtftp4GetFileSize : Option UInt64 :=
  match env.getInfo, env.parseOptions with
  | .ok (), .ok tableOfOptions =>
      (tableOfOptions.find? fun option => option.optionStr.take 5 = tsize).map fun option =>
        env.asciiStrDecimalToUint64 option.valueStr
  | _, _ => none

/-- The first `TftpBufferSize`. -/
def firstBufferSize : ℕ :=
  match mtftp4GetFileSize env with
  | some fileSize => fileSize.toNat
  | none => size16MB

/-- The next `TftpBufferSize`: `(TftpBufferSize + SIZE_16MB) & ~(SIZE_16MB - 1)`. -/
def nextBufferSize (tftpBufferSize : ℕ) : ℕ := (tftpBufferSize + size16MB) / size16MB * size16MB

/-- The state of a call: `*Image`, `*ImageSize` where it has been set, what `ReadFile` has received,
memory, and the pages that were granted and released. -/
structure TftpState where
  image : ℕ
  imageSize : Option ℕ
  received : Option (List UInt8)
  mem : ByteStore
  ledger : List (Entry PageRun)

/-- The loop of `BdsTftpLoadImage`, entered with `status`. -/
def download (type : AllocateType) :
    ℕ → ℕ → EfiStatus → ℕ → TftpState → Option (EfiStatus × TftpState)
  | 0, _, _, _, _ => none
  | rounds + 1, round, status, tftpBufferSize, s =>
    if maxTftpFileSize < tftpBufferSize then some (status, s)
    else
      let pages := efiSizeToPages tftpBufferSize
      match env.allocatePages round type pages s.image with
      | .error status => some (status.val, s)
      | .ok image =>
        let granted := s.ledger ++ [.granted ⟨image, pages⟩]
        match env.readFile round tftpBufferSize with
        | .received file _ =>
            some (.success,
              { image := image
                imageSize := some file.length
                received := some file
                mem := s.mem.write image file
                ledger := granted })
        | .failed status leftover _ =>
            let s' : TftpState :=
              { s with
                image := image
                mem := s.mem.write image leftover
                ledger := granted ++ [.released ⟨image, pages⟩] }
            if status.val = .bufferTooSmall then
              download type rounds (round + 1) status.val (nextBufferSize tftpBufferSize) s'
            else some (status.val, s')

/-- The part behind the label `Error`, as far as it concerns the image. -/
def finishTftp : EfiStatus × TftpState → EfiStatus × TftpState
  | (status, s) => (status, if status.isError then { s with image := 0 } else s)

/-- `BdsTftpLoadImage`, with `*Image` as it is passed in. -/
def bdsTftpLoadImage (staticIpAddress : Bool) (type : AllocateType) (image : ℕ) (mem : ByteStore)
    (rounds : ℕ) : Option (EfiStatus × TftpState) :=
  let s : TftpState := ⟨image, none, none, mem, []⟩
  match configureTftp env staticIpAddress with
  | .error status => some (finishTftp (status.val, s))
  | .ok () =>
    if env.allocateContext then
      -- `Status` is that of the last configuration step
      (download env type rounds 0 .success (firstBufferSize env) s).map finishTftp
    else some (finishTftp (.outOfResources, s))

end Model

/-! ## What a call reports -/

/-- The outcome of a call says what happened.  A success has received a file, which lies in pages
that are still allocated; anything else is an error, with no image and no pages left. -/
structure DownloadReported (status : EfiStatus) (s : TftpState) : Prop where
  success : status = .success → ∃ file pages, s.received = some file ∧
    Ledger.Follows 0 s.ledger {⟨s.image, pages⟩} ∧ file.length ≤ pages * pageBytes ∧
    s.mem.read s.image file.length = file ∧ s.imageSize = some file.length
  otherwise : status ≠ .success →
    status.isError = true ∧ s.image = 0 ∧ Ledger.Follows 0 s.ledger 0

/-- A call returns, and its outcome says what happened. -/
def ReportsDownload (env : TftpEnvironment) (staticIpAddress : Bool) (type : AllocateType)
    (image : ℕ) (mem : ByteStore) : Prop :=
  ∃ rounds status s, bdsTftpLoadImage env staticIpAddress type image mem rounds = some (status, s) ∧
    DownloadReported status s

/-- The call gets to the loop with a reported size above `MAX_TFTP_FILE_SIZE`. -/
def ReportedTooLarge (env : TftpEnvironment) (staticIpAddress : Bool) : Prop :=
  configureTftp env staticIpAddress = .ok () ∧ env.allocateContext = true ∧
    ∃ fileSize, mtftp4GetFileSize env = some fileSize ∧ maxTftpFileSize < fileSize.toNat

section Download

variable {env : TftpEnvironment} {type : AllocateType} {s t : TftpState}
  {rounds round tftpBufferSize : ℕ} {status status' : EfiStatus}

/-- A buffer that is not too large has one round after it at most. -/
lemma nextBufferSize_next (n : ℕ) : maxTftpFileSize < nextBufferSize (nextBufferSize n) := by
  unfold nextBufferSize size16MB maxTftpFileSize
  omega

/-- No pages are held where the loop is entered, and none but those of the image where it is left
with success. -/
structure LeftLoop (status : EfiStatus) (t : TftpState) : Prop where
  success : status = .success → ∃ file pages, t.received = some file ∧
    Ledger.Follows 0 t.ledger {⟨t.image, pages⟩} ∧ file.length ≤ pages * pageBytes ∧
    t.mem.read t.image file.length = file ∧ t.imageSize = some file.length
  otherwise : status ≠ .success → status.isError = true ∧ Ledger.Follows 0 t.ledger 0

lemma LeftLoop.of_error (herror : status.isError = true) (hnone : Ledger.Follows 0 t.ledger 0) :
    LeftLoop status t :=
  ⟨fun h => absurd h (EfiStatus.ne_success_of_isError herror), fun _ => ⟨herror, hnone⟩⟩

/-- The loop behind its first test, or entered with an error. -/
lemma download_leftLoop (hnone : Ledger.Follows 0 s.ledger 0)
    (henter : tftpBufferSize ≤ maxTftpFileSize ∨ status.isError = true)
    (hrun : download env type rounds round status tftpBufferSize s = some (status', t)) :
    LeftLoop status' t := by
  induction rounds generalizing round status tftpBufferSize s with
  | zero => cases hrun
  | succ rounds ih =>
      rw [download] at hrun
      split at hrun
      · next hlarge =>
        obtain ⟨rfl, rfl⟩ := Prod.mk.inj (Option.some.inj hrun)
        exact .of_error (henter.resolve_left (Nat.not_le.mpr hlarge)) hnone
      · simp only at hrun
        split at hrun
        · next status₀ _ =>
          obtain ⟨rfl, rfl⟩ := Prod.mk.inj (Option.some.inj hrun)
          exact .of_error status₀.property hnone
        · next image _ =>
          have hgranted : Ledger.Follows 0
              (s.ledger ++ [.granted ⟨image, efiSizeToPages tftpBufferSize⟩])
              {⟨image, efiSizeToPages tftpBufferSize⟩} :=
            hnone.append ⟨Multiset.notMem_zero _, rfl⟩
          split at hrun
          · next file hfits _ =>
            obtain ⟨rfl, rfl⟩ := Prod.mk.inj (Option.some.inj hrun)
            refine ⟨fun _ => ⟨file, _, rfl, hgranted, ?_, ByteStore.read_write_same, rfl⟩,
              fun h => absurd rfl h⟩
            exact hfits.trans (le_efiSizeToPages _)
          · next status₀ leftover _ _ =>
            have hreleased : Ledger.Follows 0
                (s.ledger ++ [.granted ⟨image, efiSizeToPages tftpBufferSize⟩] ++
                  [.released ⟨image, efiSizeToPages tftpBufferSize⟩]) 0 :=
              hgranted.append ⟨Multiset.mem_singleton_self _, by simp [Ledger.Follows]⟩
            split at hrun
            · exact ih hreleased (.inr status₀.property) hrun
            · obtain ⟨rfl, rfl⟩ := Prod.mk.inj (Option.some.inj hrun)
              exact .of_error status₀.property hreleased

lemma download_large (h : maxTftpFileSize < tftpBufferSize) :
    download env type (rounds + 1) round status tftpBufferSize s = some (status, s) :=
  if_pos h

lemma download_isSome (h : ∀ round status s,
      (download env type rounds round status (nextBufferSize tftpBufferSize) s).isSome) :
    (download env type (rounds + 1) round status tftpBufferSize s).isSome := by
  rw [download]
  split
  · rfl
  · simp only
    split
    · rfl
    · split
      · rfl
      · split
        · exact h _ _ _
        · rfl

/-- Three rounds are enough, the last of which only tests the size. -/
lemma download_returns : (download env type 3 round status tftpBufferSize s).isSome :=
  download_isSome fun _ _ _ => download_isSome fun _ _ _ => by
    rw [download_large (nextBufferSize_next _)]
    rfl

/-- Behind the label `Error` an error has no image. -/
lemma LeftLoop.reported (h : LeftLoop status t) :
    DownloadReported (finishTftp (status, t)).1 (finishTftp (status, t)).2 := by
  refine ⟨fun hsuccess => ?_, fun hne => ?_⟩
  · obtain rfl : status = .success := hsuccess
    exact h.success rfl
  · obtain ⟨herror, hnone⟩ := h.otherwise hne
    refine ⟨herror, ?_⟩
    simp only [finishTftp, herror, if_true]
    exact ⟨trivial, hnone⟩

end Download

section Reports

variable {env : TftpEnvironment} {staticIpAddress : Bool} {type : AllocateType} {image : ℕ}
  {mem : ByteStore}

/-- A size that is not reported, or fits, gives the loop a round. -/
lemma firstBufferSize_le (hconfigured : configureTftp env staticIpAddress = .ok ())
    (hcontext : env.allocateContext = true) (h : ¬ ReportedTooLarge env staticIpAddress) :
    firstBufferSize env ≤ maxTftpFileSize := by
  unfold firstBufferSize
  cases hsize : mtftp4GetFileSize env with
  | none => exact Nat.le_refl _
  | some fileSize =>
      by_contra hlarge
      exact h ⟨hconfigured, hcontext, fileSize, hsize, Nat.lt_of_not_le hlarge⟩

/-- The call that gets to the loop. -/
lemma bdsTftpLoadImage_loop (hconfigured : configureTftp env staticIpAddress = .ok ())
    (hcontext : env.allocateContext = true) (rounds : ℕ) :
    bdsTftpLoadImage env staticIpAddress type image mem rounds =
      (download env type rounds 0 .success (firstBufferSize env)
        ⟨image, none, none, mem, []⟩).map finishTftp := by
  rw [bdsTftpLoadImage, hconfigured]
  exact if_pos hcontext

/-- A file that is reported too large has no round: the call succeeds without an image. -/
lemma ReportedTooLarge.run (h : ReportedTooLarge env staticIpAddress) (rounds : ℕ) :
    bdsTftpLoadImage env staticIpAddress type image mem (rounds + 1) =
      some (.success, ⟨image, none, none, mem, []⟩) := by
  obtain ⟨hconfigured, hcontext, fileSize, hsize, hlarge⟩ := h
  have hfirst : maxTftpFileSize < firstBufferSize env := by
    rw [firstBufferSize, hsize]
    exact hlarge
  rw [bdsTftpLoadImage_loop hconfigured hcontext, download_large hfirst]
  rfl

lemma ReportedTooLarge.not_reportsDownload (h : ReportedTooLarge env staticIpAddress) :
    ¬ ReportsDownload env staticIpAddress type image mem := by
  rintro ⟨rounds, status, s, hrun, hreported⟩
  cases rounds with
  | zero =>
      rw [bdsTftpLoadImage_loop h.1 h.2.1] at hrun
      cases hrun
  | succ rounds =>
      rw [h.run] at hrun
      obtain ⟨rfl, rfl⟩ := Prod.mk.inj (Option.some.inj hrun)
      obtain ⟨file, pages, hreceived, -⟩ := hreported.success rfl
      cases hreceived

lemma reportsDownload_of_not_large (h : ¬ ReportedTooLarge env staticIpAddress) :
    ReportsDownload env staticIpAddress type image mem := by
  have hnone : Ledger.Follows (0 : Multiset PageRun) [] 0 := rfl
  cases hconfigured : configureTftp env staticIpAddress with
  | error status =>
      have hleft : LeftLoop status.val ⟨image, none, none, mem, []⟩ :=
        .of_error status.property hnone
      refine ⟨0, _, _, ?_, hleft.reported⟩
      rw [bdsTftpLoadImage, hconfigured]
  | ok =>
      by_cases hcontext : env.allocateContext = true
      · obtain ⟨⟨status, t⟩, hrun⟩ := Option.isSome_iff_exists.mp
          (@download_returns env type ⟨image, none, none, mem, []⟩ 0 (firstBufferSize env) .success)
        have hfits := firstBufferSize_le hconfigured hcontext h
        have hleft := download_leftLoop hnone (.inl hfits) hrun
        refine ⟨3, _, _, ?_, hleft.reported⟩
        rw [bdsTftpLoadImage_loop hconfigured hcontext, hrun]
        rfl
      · have hleft : LeftLoop .outOfResources ⟨image, none, none, mem, []⟩ := .of_error rfl hnone
        refine ⟨0, _, _, ?_, hleft.reported⟩
        rw [bdsTftpLoadImage, hconfigured]
        exact if_neg hcontext

/-- A call reports what happened, unless the server reports a size above `MAX_TFTP_FILE_SIZE` and
the call gets that far. -/
theorem reportsDownload_iff : ReportsDownload env staticIpAddress type image mem ↔
    ¬ ReportedTooLarge env staticIpAddress :=
  ⟨fun h hlarge => hlarge.not_reportsDownload h, reportsDownload_of_not_large⟩

end Reports

/-! ## A large file -/

/-- A server that reports 32 MB, on a network that works. -/
def largeFileServer : TftpEnvironment where
  createDhcp4Child := .ok ()
  openDhcp4 := .ok ()
  createMtftp4Child := .ok ()
  openMtftp4 := .ok ()
  configureDhcp4 := .ok ()
  startDhcp4 := .ok ()
  getModeData := .ok true
  configureMtftp4 := .ok ()
  getInfo := .ok ()
  parseOptions := .ok [⟨tsize, [0x33, 0x33, 0x35, 0x35, 0x34, 0x34, 0x33, 0x32]⟩]
  asciiStrDecimalToUint64 digits :=
    digits.foldl (fun value digit => 10 * value + (digit - 0x30).toUInt64) 0
  allocateContext := true
  allocatePages _ _ _ _ := .ok 0x80000000
  readFile _ _ := .failed ⟨.bufferTooSmall, rfl⟩ [] (Nat.zero_le _)

lemma largeFileServer_large : ReportedTooLarge largeFileServer false :=
  ⟨rfl, rfl, 33554432, by decide, by decide⟩

/-- The call succeeds without a `ReadFile`, and `*Image` is what was passed in. -/
theorem not_reportsDownload_large :
    bdsTftpLoadImage largeFileServer false .anyPages 0x1234 (fun _ => 0) 1 =
        some (.success, ⟨0x1234, none, none, fun _ => 0, []⟩) ∧
      ¬ ReportsDownload largeFileServer false .anyPages 0x1234 fun _ => 0 :=
  ⟨largeFileServer_large.run 0, largeFileServer_large.not_reportsDownload⟩

end BdsLib
end MuPlatform
