import MuPlatform.Base.ByteStore
import MuPlatform.Efi.Pages

/-!
# Installing a device tree

`InstallFdt` (`FdtPlatform.c`) loads the file that a device path in text form leads to, checks the
header of the device tree in it, copies the file into pages of its own and installs these in the
configuration table.

An `FdtAttempt` says how the firmware answers one call.  `installFdt_installed` says what a call
leaves allocated: the table it has installed, and the image where the label `Error` does not give it
back.  That frees `NumPages` pages, which is set behind the check of the header only, and none where
the image is at address zero.
-/

namespace MuPlatform
namespace FdtPlatform

/-! ## What is allocated -/

/-- Pages and pool. -/
inductive FdtResource
  | pages (run : PageRun)
  | pool (address : ℕ)
  deriving DecidableEq, Repr

/-- The pages of a run, of which there may be none. -/
def pagesOf (run : PageRun) : Multiset FdtResource :=
  if run.pages = 0 then 0 else {.pages run}

/-- The entry of an allocation of pages. -/
def grantPages (run : PageRun) : List (Entry FdtResource) :=
  if run.pages = 0 then [] else [.granted (.pages run)]

/-- The entry of `FreePages`, which frees nothing where it is asked for no pages. -/
def freePages (run : PageRun) : List (Entry FdtResource) :=
  if run.pages = 0 then [] else [.released (.pages run)]

section Pages

variable {run : PageRun} {held : Multiset FdtResource}

lemma leaves_grantPages : Ledger.Leaves held (grantPages run) (held + pagesOf run) := by
  unfold grantPages pagesOf
  split
  · simp [Ledger.Leaves]
  · rw [add_comm, Multiset.singleton_add]
    exact Ledger.Leaves.grant

lemma leaves_freePages : Ledger.Leaves (held + pagesOf run) (freePages run) held := by
  unfold freePages pagesOf
  split
  · simp [Ledger.Leaves]
  · rw [add_comm, Multiset.singleton_add]
    exact Ledger.Leaves.release

lemma pagesOf_eq_zero : pagesOf run = 0 ↔ run.pages = 0 := by
  unfold pagesOf
  split <;> simp_all

end Pages

/-! ## The installer -/

/-- `BdsLoadImage` puts a file into pages, or fails and allocates none. -/
inductive LoadOutcome
  | loaded (base : ℕ) (file : List UInt8)
  | failed (status : EfiError) (base : ℕ)

/-- How the firmware answers the requests made for one device path. -/
structure FdtAttempt where
  /-- The pool for the text of the path. -/
  allocateText : Option ℕ
  locateProtocol : Except EfiError Unit
  convertTextToDevicePath : Option ℕ
  loadImage : LoadOutcome
  /-- Whether `fdt_check_header` returns zero. -/
  fdtCheckHeader : Bool
  fdtTotalsize : ℕ
  allocatePages : Except EfiError ℕ
  installConfigurationTable : Except EfiError Unit

/-- Memory, the device tree in the configuration table, and what was allocated and freed. -/
structure FdtState where
  mem : ByteStore
  table : Option ℕ
  ledger : List (Entry FdtResource)

/-- The state with more in its ledger. -/
def FdtState.log (s : FdtState) (entries : List (Entry FdtResource)) : FdtState :=
  { s with ledger := s.ledger ++ entries }

@[simp] lemma FdtState.log_mem (s : FdtState) (entries : List (Entry FdtResource)) :
    (s.log entries).mem = s.mem := rfl

@[simp] lemma FdtState.log_table (s : FdtState) (entries : List (Entry FdtResource)) :
    (s.log entries).table = s.table := rfl

/-- The image passes the check of its header and of its size. -/
def FdtAttempt.accepts (a : FdtAttempt) (file : List UInt8) : Bool :=
  a.fdtCheckHeader && decide (a.fdtTotalsize ≤ file.length)

/-- The part of `InstallFdt` behind the label `Error`. -/
def installFdtError (fdtBlobBase numPages devicePath : ℕ) (s : FdtState) : FdtState :=
  (if fdtBlobBase ≠ 0 then s.log (freePages ⟨fdtBlobBase, numPages⟩) else s).log
    [.released (.pool devicePath)]

/-- The part of `InstallFdt` behind the load. -/
def installImage (a : FdtAttempt) (fdtBlobBase : ℕ) (file : List UInt8) (devicePath : ℕ)
    (s : FdtState) : EfiStatus × FdtState :=
  -- `NumPages` is still zero here
  if a.accepts file = false then (.loadError, installFdtError fdtBlobBase 0 devicePath s)
  else
    let numPages := efiSizeToPages file.length
    match a.allocatePages with
    | .error status => (status.val, installFdtError fdtBlobBase numPages devicePath s)
    | .ok fdtConfigurationTableBase =>
      let copied := { s with
        mem := s.mem.write fdtConfigurationTableBase (s.mem.read fdtBlobBase file.length) }.log
          (grantPages ⟨fdtConfigurationTableBase, numPages⟩)
      match a.installConfigurationTable with
      | .error status =>
          (status.val, installFdtError fdtBlobBase numPages devicePath
            (copied.log (freePages ⟨fdtConfigurationTableBase, numPages⟩)))
      | .ok () =>
          (.success, installFdtError fdtBlobBase numPages devicePath
            { copied with table := some fdtConfigurationTableBase })

/-- `InstallFdt`. -/
def installFdt (a : FdtAttempt) (s : FdtState) : EfiStatus × FdtState :=
  match a.locateProtocol with
  | .error status => (status.val, s)
  | .ok () =>
    match a.convertTextToDevicePath with
    | none => (.invalidParameter, s)
    | some devicePath =>
      let s := s.log [.granted (.pool devicePath)]
      match a.loadImage with
      | .failed status fdtBlobBase =>
          (status.val, installFdtError fdtBlobBase 0 devicePath s)
      | .loaded fdtBlobBase file =>
          installImage a fdtBlobBase file devicePath
            ({ s with mem := s.mem.write fdtBlobBase file }.log
              (grantPages ⟨fdtBlobBase, efiSizeToPages file.length⟩))

/-! ## What a call leaves -/

/-- Load, check, allocation and installation succeed, with this file in these pages. -/
structure FdtAttempt.Works (a : FdtAttempt) (file : List UInt8) (table : ℕ) : Prop where
  located : a.locateProtocol = .ok ()
  converted : a.convertTextToDevicePath.isSome
  loaded : ∃ base, a.loadImage = .loaded base file
  accepted : a.accepts file = true
  allocated : a.allocatePages = .ok table
  installed : a.installConfigurationTable = .ok ()

/-- A file that is not empty is loaded and rejected, or lies at address zero. -/
def FdtAttempt.StrandsImage (a : FdtAttempt) : Prop :=
  a.locateProtocol = .ok () ∧ a.convertTextToDevicePath.isSome ∧
    ∃ base file, a.loadImage = .loaded base file ∧ file ≠ [] ∧ (base = 0 ∨ a.accepts file = false)

/-- The pages of the image that a call does not give back. -/
def FdtAttempt.stranded (a : FdtAttempt) : Multiset FdtResource :=
  match a.locateProtocol, a.convertTextToDevicePath, a.loadImage with
  | .ok (), some _, .loaded base file =>
      if base = 0 ∨ a.accepts file = false then pagesOf ⟨base, efiSizeToPages file.length⟩ else 0
  | _, _, _ => 0

section Attempt

variable {a : FdtAttempt} {s t : FdtState} {held : Multiset FdtResource}
  {file file' : List UInt8} {table table' base devicePath numPages : ℕ}

lemma FdtAttempt.stranded_eq_zero : a.stranded = 0 ↔ ¬ a.StrandsImage := by
  unfold stranded StrandsImage
  cases hlocated : a.locateProtocol with
  | error status => simp
  | ok =>
      cases hconverted : a.convertTextToDevicePath with
      | none => simp
      | some devicePath =>
          cases hload : a.loadImage with
          | failed status base => simp
          | loaded base file =>
              have hpages : efiSizeToPages file.length = 0 ↔ file = [] := by
                refine ⟨fun hzero => ?_, fun hnil => hnil ▸ rfl⟩
                by_contra hne
                have hpos := efiSizeToPages_pos (List.length_pos_iff.mpr hne)
                omega
              by_cases hbad : base = 0 ∨ a.accepts file = false
              · simp [hbad, pagesOf_eq_zero, hpages]
              · simp [hbad]

lemma FdtAttempt.Works.unique (h : a.Works file table) (h' : a.Works file' table') :
    file = file' ∧ table = table' := by
  obtain ⟨base, hload⟩ := h.loaded
  obtain ⟨base', hload'⟩ := h'.loaded
  rw [hload] at hload'
  injection hload' with _ hfile
  exact ⟨hfile, Except.ok.inj (h.allocated.symm.trans h'.allocated)⟩

/-- The label `Error`, with the page count of the image. -/
lemma leaves_installFdtError
    (h : Ledger.Leaves 0 s.ledger
      (.pool devicePath ::ₘ (held + pagesOf ⟨base, numPages⟩))) :
    Ledger.Leaves 0 (installFdtError base numPages devicePath s).ledger
      (held + if base = 0 then pagesOf ⟨base, numPages⟩ else 0) := by
  unfold installFdtError
  by_cases hbase : base = 0
  · rw [if_neg (not_not.mpr hbase), if_pos hbase]
    exact h.append .release
  · rw [if_pos hbase, if_neg hbase, add_zero]
    rw [← Multiset.cons_add] at h
    exact (h.append leaves_freePages).append .release

/-- The label `Error`, with no page count. -/
lemma leaves_installFdtError_zero
    (h : Ledger.Leaves 0 s.ledger (.pool devicePath ::ₘ held)) :
    Ledger.Leaves 0 (installFdtError base 0 devicePath s).ledger held := by
  have hpages : pagesOf ⟨base, 0⟩ = 0 := rfl
  simpa [hpages] using @leaves_installFdtError s held base devicePath 0 (by simpa [hpages] using h)

@[simp] lemma installFdtError_mem : (installFdtError base numPages devicePath s).mem = s.mem := by
  unfold installFdtError
  split <;> rfl

@[simp] lemma installFdtError_table :
    (installFdtError base numPages devicePath s).table = s.table := by
  unfold installFdtError
  split <;> rfl

/-- What a call comes to: an installed copy of the file, or an error; the image is given back, as
far as it is not stranded. -/
structure Installed (a : FdtAttempt) (held : Multiset FdtResource) (status : EfiStatus)
    (t : FdtState) : Prop where
  success : status = .success → ∃ file table, a.Works file table ∧ t.table = some table ∧
    t.mem.read table file.length = file ∧
    Ledger.Leaves 0 t.ledger (held + a.stranded + pagesOf ⟨table, efiSizeToPages file.length⟩)
  otherwise : status ≠ .success → status.isError = true ∧ (¬ ∃ file table, a.Works file table) ∧
    Ledger.Leaves 0 t.ledger (held + a.stranded)

lemma Installed.of_error {status : EfiError} (hworks : ¬ ∃ file table, a.Works file table)
    (hleaves : Ledger.Leaves 0 t.ledger (held + a.stranded)) : Installed a held status.val t :=
  ⟨fun h => absurd h (EfiStatus.ne_success_of_isError status.property),
    fun _ => ⟨status.property, hworks, hleaves⟩⟩

section Image

variable (hlocated : a.locateProtocol = .ok ())
  (hconverted : a.convertTextToDevicePath = some devicePath)
  (hload : a.loadImage = .loaded base file)
include hlocated hconverted hload

lemma stranded_of_loaded : a.stranded =
    if base = 0 ∨ a.accepts file = false then pagesOf ⟨base, efiSizeToPages file.length⟩
    else 0 := by
  simp only [FdtAttempt.stranded, hlocated, hconverted, hload]

/-- An image that is rejected is stranded. -/
lemma installImage_rejected (haccepts : a.accepts file = false)
    (hledger : Ledger.Leaves 0 s.ledger
      (.pool devicePath ::ₘ (held + pagesOf ⟨base, efiSizeToPages file.length⟩))) :
    Installed a held (installImage a base file devicePath s).1
      (installImage a base file devicePath s).2 := by
  rw [installImage, if_pos haccepts]
  refine @Installed.of_error a _ held ⟨.loadError, rfl⟩ ?_ ?_
  · rintro ⟨file', table, hworks⟩
    obtain ⟨base', hload'⟩ := hworks.loaded
    obtain ⟨rfl, rfl⟩ : base = base' ∧ file = file' := by simpa [hload] using hload'
    simp [hworks.accepted] at haccepts
  · rw [stranded_of_loaded hlocated hconverted hload, if_pos (.inr haccepts)]
    exact leaves_installFdtError_zero hledger

/-- One that is accepted is given back, unless it is at address zero. -/
lemma leaves_of_accepted (haccepts : a.accepts file = true)
    (h : Ledger.Leaves 0 s.ledger
      (.pool devicePath ::ₘ (held + pagesOf ⟨base, efiSizeToPages file.length⟩))) :
    Ledger.Leaves 0 (installFdtError base (efiSizeToPages file.length) devicePath s).ledger
      (held + a.stranded) := by
  have hstranded : a.stranded =
      if base = 0 then pagesOf ⟨base, efiSizeToPages file.length⟩ else 0 := by
    simpa [haccepts] using stranded_of_loaded hlocated hconverted hload
  rw [hstranded]
  exact leaves_installFdtError h

lemma installImage_accepted (haccepts : a.accepts file = true)
    (hfile : s.mem.read base file.length = file)
    (hledger : Ledger.Leaves 0 s.ledger
      (.pool devicePath ::ₘ (held + pagesOf ⟨base, efiSizeToPages file.length⟩))) :
    Installed a held (installImage a base file devicePath s).1
      (installImage a base file devicePath s).2 := by
  rw [installImage, if_neg (by simp [haccepts])]
  cases hallocated : a.allocatePages with
  | error status =>
      refine .of_error ?_ (leaves_of_accepted hlocated hconverted hload haccepts hledger)
      rintro ⟨file', table, hworks⟩
      simp [hworks.allocated] at hallocated
  | ok table =>
      -- the table pages lie over what was held before
      have hcopied : Ledger.Leaves 0
          (s.ledger ++ grantPages ⟨table, efiSizeToPages file.length⟩)
          (.pool devicePath ::ₘ (held + pagesOf ⟨table, efiSizeToPages file.length⟩ +
            pagesOf ⟨base, efiSizeToPages file.length⟩)) := by
        rw [add_right_comm, ← Multiset.cons_add]
        exact hledger.append leaves_grantPages
      cases hinstalled : a.installConfigurationTable with
      | error status =>
          refine .of_error ?_ (leaves_of_accepted hlocated hconverted hload haccepts
            (hcopied.append ?_))
          · rintro ⟨file', table', hworks⟩
            simp [hworks.installed] at hinstalled
          · rw [add_right_comm, ← Multiset.cons_add]
            exact leaves_freePages
      | ok =>
          refine ⟨fun _ => ⟨file, table, ?_, installFdtError_table, ?_, ?_⟩,
            fun hne => absurd rfl hne⟩
          · exact
              { located := hlocated
                converted := by rw [hconverted]; rfl
                loaded := ⟨base, hload⟩
                accepted := haccepts
                allocated := hallocated
                installed := hinstalled }
          · simp only [installFdtError_mem, FdtState.log_mem, hfile]
            exact ByteStore.read_write_same
          · rw [add_right_comm]
            exact leaves_of_accepted hlocated hconverted hload haccepts hcopied

/-- The part of a call behind the load. -/
lemma installImage_installed (hfile : s.mem.read base file.length = file)
    (hledger : Ledger.Leaves 0 s.ledger
      (.pool devicePath ::ₘ (held + pagesOf ⟨base, efiSizeToPages file.length⟩))) :
    Installed a held (installImage a base file devicePath s).1
      (installImage a base file devicePath s).2 := by
  cases haccepts : a.accepts file with
  | false => exact installImage_rejected hlocated hconverted hload haccepts hledger
  | true => exact installImage_accepted hlocated hconverted hload haccepts hfile hledger

end Image

/-- A call, whatever is held before it. -/
lemma installFdt_installed (hledger : Ledger.Leaves 0 s.ledger held) :
    Installed a held (installFdt a s).1 (installFdt a s).2 := by
  unfold installFdt
  cases hlocated : a.locateProtocol with
  | error status =>
      refine .of_error ?_ ?_
      · rintro ⟨file, table, hworks⟩
        simp [hworks.located] at hlocated
      · simpa [FdtAttempt.stranded, hlocated] using hledger
  | ok =>
      cases hconverted : a.convertTextToDevicePath with
      | none =>
          refine @Installed.of_error a _ held ⟨.invalidParameter, rfl⟩ ?_ ?_
          · rintro ⟨file, table, hworks⟩
            simpa [hconverted] using hworks.converted
          · simpa [FdtAttempt.stranded, hlocated, hconverted] using hledger
      | some devicePath =>
          have hpath : Ledger.Leaves 0 (s.ledger ++ [.granted (.pool devicePath)])
              (.pool devicePath ::ₘ held) := hledger.append .grant
          cases hload : a.loadImage with
          | failed status base =>
              refine .of_error ?_ ?_
              · rintro ⟨file, table, hworks⟩
                obtain ⟨base', hload'⟩ := hworks.loaded
                simp [hload] at hload'
              · rw [show a.stranded = 0 by simp [FdtAttempt.stranded, hlocated, hconverted, hload],
                  add_zero]
                exact leaves_installFdtError_zero hpath
          | loaded base file =>
              refine installImage_installed hlocated hconverted hload ByteStore.read_write_same ?_
              rw [← Multiset.cons_add]
              exact hpath.append leaves_grantPages

end Attempt

end FdtPlatform
end MuPlatform
