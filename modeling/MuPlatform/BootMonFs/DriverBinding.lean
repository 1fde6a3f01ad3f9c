import Mathlib.Data.List.Nodup
import Mathlib.Logic.Function.Basic
import MuPlatform.Efi.Pages

/-!
# Starting and stopping the driver

`BootMonFsDriverStart` and `BootMonFsDriverStop` (`BootMonFsEntryPoint.c`) keep an instance for each
controller the driver manages, in the list `mInstances`.

A call comes to `none` where an assertion fails or a freed instance is used.  `Tracks` is what the
list is for.  The error path of a start does not close what it has opened by driver, and a stop
leaves the freed instance in the list: `instancesFollow_iff` says that these are the only faults.
-/

namespace MuPlatform
namespace BootMonFs

/-! ## The driver -/

/-- The agents of open protocols: the image of the driver, and the null handle, which is the
`ImageHandle` of `mBootMonFsDriverBinding`. -/
inductive Agent
  | image
  | null
  deriving DecidableEq, Repr

/-- What the driver allocates, by the address of the instance it is for. -/
inductive PoolObject
  | instance (address : ℕ)
  | rootFile (address : ℕ)
  | info (address : ℕ)
  | file (address number : ℕ)
  deriving DecidableEq, Repr

/-- The instance an object is for. -/
def PoolObject.owner : PoolObject → ℕ
  | .instance address => address
  | .rootFile address => address
  | .info address => address
  | .file address _ => address

/-- The driver: what is allocated, `ControllerHandle` of the instances, `mInstances`, the protocols
that are open by driver, and the address of the next instance.  None is handed out twice. -/
structure DriverState where
  pool : List PoolObject
  controllerHandle : ℕ → ℕ
  instances : List ℕ
  openedByDriver : List (Agent × ℕ)
  nextAddress : ℕ

/-- The driver behind its entry point. -/
def DriverState.initial : DriverState := ⟨[], fun _ => 0, [], [], 0⟩

namespace DriverState

/-- `AllocateZeroPool`. -/
def allocate (x : PoolObject) (s : DriverState) : DriverState := { s with pool := x :: s.pool }

/-- `FreePool`. -/
def free (x : PoolObject) (s : DriverState) : DriverState := { s with pool := s.pool.erase x }

/-- The next instance. -/
def withInstance (s : DriverState) : DriverState :=
  { s.allocate (.instance s.nextAddress) with nextAddress := s.nextAddress + 1 }

/-- `CloseProtocol` of a protocol that is open by driver. -/
def close (agent : Agent) (controller : ℕ) (s : DriverState) : DriverState :=
  { s with openedByDriver := s.openedByDriver.erase (agent, controller) }

end DriverState

/-- How the services answer a start. -/
structure StartOutcomes where
  allocateInstance : Bool
  openBlockIo : Except EfiError Unit
  openDiskIo : Except EfiError Unit
  createRootFile : Bool
  allocateInfo : Bool
  openDevicePath : Except EfiError Unit
  installFs : Except EfiError Unit

section Model

variable (controller : ℕ)

/-- `OpenProtocol` by driver, which the driver can do once. -/
def openByDriver (outcome : Except EfiError Unit) (s : DriverState) :
    Except EfiError DriverState :=
  if (Agent.image, controller) ∈ s.openedByDriver then .error ⟨.alreadyStarted, rfl⟩
  else outcome.map fun _ =>
    { s with openedByDriver := (.image, controller) :: s.openedByDriver }

/-- The part of `BootMonFsDriverStart` behind the open `DiskIo`. -/
def startVolume (o : StartOutcomes) (address : ℕ) (s : DriverState) : EfiStatus × DriverState :=
  let s := { s with
    controllerHandle := Function.update s.controllerHandle address controller }
  if o.createRootFile = false then (.outOfResources, s)
  else
    let s := s.allocate (.rootFile address)
    if o.allocateInfo = false then (.outOfResources, s)
    else
      let s := s.allocate (.info address)
      match o.openDevicePath with
      | .error status => (status.val, s)
      | .ok () =>
        match o.installFs with
        | .error status => (status.val, s)
        | .ok () => (.success, s)

/-- The part of `BootMonFsDriverStart` between the allocation of the instance and its insertion. -/
def startInstance (o : StartOutcomes) (address : ℕ) (s : DriverState) : EfiStatus × DriverState :=
  match o.openBlockIo with
  | .error status => (status.val, s)
  | .ok () =>
    match openByDriver controller o.openDiskIo s with
    | .error status => (status.val, s)
    | .ok s => startVolume controller o address s

/-- The part of `BootMonFsDriverStart` behind the label `Error`.  What is not allocated is not
freed. -/
def startError (address : ℕ) (s : DriverState) : DriverState :=
  ((s.free (.info address)).free (.rootFile address)).free (.instance address)

/-- `InsertTailList`, which writes to the last entry. -/
def insertInstance (address : ℕ) (s : DriverState) : Option DriverState :=
  match s.instances.getLast? with
  | some last =>
      if .instance last ∈ s.pool then some { s with instances := s.instances ++ [address] }
      else none
  | none => some { s with instances := [address] }

/-- `BootMonFsDriverStart`. -/
def bootMonFsDriverStart (o : StartOutcomes) (s : DriverState) :
    Option (EfiStatus × DriverState) :=
  if o.allocateInstance = false then some (.outOfResources, s)
  else
    let address := s.nextAddress
    match startInstance controller o address s.withInstance with
    | (status, s) =>
      if status.isError then some (status, startError address s)
      else (insertInstance address s).map fun s => (.success, s)

/-- The loop of `BootMonFsDriverStop`, over the entries that are left: the instance of the
controller, or `some none` behind the last entry. -/
def findInstance (s : DriverState) : List ℕ → Option (Option ℕ)
  | [] => some none
  | address :: rest =>
      if .instance address ∈ s.pool then
        if s.controllerHandle address = controller then some (some address)
        else findInstance s rest
      else none

/-- `BootMonFsDriverStop`, with the status of `UninstallMultipleProtocolInterfaces`. -/
def bootMonFsDriverStop (uninstallFs : EfiStatus) (s : DriverState) :
    Option (EfiStatus × DriverState) :=
  match findInstance controller s s.instances with
  | some (some address) =>
      -- of the protocols that are closed only `DiskIo` was opened by driver, and by another agent
      let s := s.close .null controller
      some (uninstallFs,
        ((s.free (.info address)).free (.rootFile address)).free (.instance address))
  -- `ASSERT (InstanceFound == TRUE)`
  | some none => none
  | none => none

end Model

/-- What happens to the driver: its own calls, and the use of a volume, which adds files to its
list. -/
inductive DriverCall
  | start (controller : ℕ) (o : StartOutcomes)
  | stop (controller : ℕ) (uninstallFs : EfiStatus)
  | addFiles (address count : ℕ)

/-- A call, with its status. -/
def DriverCall.perform : DriverCall → DriverState → Option (EfiStatus × DriverState)
  | .start controller o, s => bootMonFsDriverStart controller o s
  | .stop controller uninstallFs, s => bootMonFsDriverStop controller uninstallFs s
  | .addFiles address count, s =>
      if .instance address ∈ s.pool then
        some (.success, { s with pool := (List.range count).map (.file address) ++ s.pool })
      else some (.notFound, s)

/-! ## What the list is for -/

/-- The controllers that are started, after a call. -/
def DriverCall.started (status : EfiStatus) : DriverCall → List ℕ → List ℕ
  | .start controller _, cs => if status.isError then cs else cs ++ [controller]
  | .stop controller _, cs => cs.erase controller
  | .addFiles _ _, cs => cs

/-- The list has one entry for each started controller, and none that is freed. -/
structure Tracks (started : List ℕ) (s : DriverState) : Prop where
  entries : s.instances.map s.controllerHandle = started
  nodup : started.Nodup
  allocated : ∀ address ∈ s.instances, .instance address ∈ s.pool

/-- What is said of one call: the list still tracks the controllers, a start that fails leaves the
list and the open protocols as they were, and a stop finds the instance of its controller and
releases what it has. -/
structure CallFollows (started : List ℕ) (s : DriverState) (call : DriverCall) (status : EfiStatus)
    (s' : DriverState) : Prop where
  tracks : Tracks (call.started status started) s'
  failedStart : ∀ controller o, call = .start controller o → status.isError = true →
    s'.instances = s.instances ∧ s'.openedByDriver = s.openedByDriver
  stop : ∀ controller uninstallFs, call = .stop controller uninstallFs →
    ∃ address ∈ s.instances, s.controllerHandle address = controller ∧
      ∀ x ∈ s'.pool, x.owner ≠ address

/-- Every call of a run comes back and does what is said of it. -/
def InstancesFollow : List ℕ → DriverState → List DriverCall → Prop
  | started, s, [] => Tracks started s
  | started, s, call :: calls =>
      Tracks started s ∧ ∃ status s', call.perform s = some (status, s') ∧
        CallFollows started s call status s' ∧
          InstancesFollow (call.started status started) s' calls

/-- A start gets to the open `DiskIo`. -/
structure StartOutcomes.OpensDiskIo (o : StartOutcomes) (controller : ℕ) (s : DriverState) :
    Prop where
  allocateInstance : o.allocateInstance = true
  openBlockIo : o.openBlockIo = .ok ()
  openDiskIo : o.openDiskIo = .ok ()
  closed : (Agent.image, controller) ∉ s.openedByDriver

/-- Nothing fails behind it. -/
structure StartOutcomes.Completes (o : StartOutcomes) : Prop where
  createRootFile : o.createRootFile = true
  allocateInfo : o.allocateInfo = true
  openDevicePath : o.openDevicePath = .ok ()
  installFs : o.installFs = .ok ()

/-- A call that is not a stop, nor a start that fails with `DiskIo` open. -/
def DriverCall.Harmless (s : DriverState) : DriverCall → Prop
  | .start controller o => o.OpensDiskIo controller s → o.Completes
  | .stop _ _ => False
  | .addFiles _ _ => True

/-- Every call of a run is harmless. -/
def AllHarmless : DriverState → List DriverCall → Prop
  | _, [] => True
  | s, call :: calls =>
      call.Harmless s ∧ ∀ status s', call.perform s = some (status, s') → AllHarmless s' calls

/-! ## Starting -/

section Start

variable {controller address : ℕ} {o : StartOutcomes} {s s' : DriverState} {status : EfiStatus}

/-- What building the instance at an address leaves alone. -/
structure Keeps (address : ℕ) (s s' : DriverState) : Prop where
  instances : s'.instances = s.instances
  nextAddress : s'.nextAddress = s.nextAddress
  handles : ∀ other, other ≠ address → s'.controllerHandle other = s.controllerHandle other
  allocated : ∀ other, PoolObject.instance other ∈ s'.pool ↔ .instance other ∈ s.pool

lemma startVolume_spec (hrun : startVolume controller o address s = (status, s')) :
    Keeps address s s' ∧ s'.openedByDriver = s.openedByDriver ∧
      s'.controllerHandle address = controller ∧
      (status = .success ∧ o.Completes ∨ status.isError = true ∧ ¬ o.Completes) := by
  have hhandles : ∀ other, other ≠ address →
      Function.update s.controllerHandle address controller other = s.controllerHandle other :=
    fun other hne => Function.update_of_ne hne ..
  have hhandle : Function.update s.controllerHandle address controller address = controller :=
    Function.update_self ..
  unfold startVolume at hrun
  simp only [DriverState.allocate] at hrun
  split at hrun
  · next hroot =>
    obtain ⟨rfl, rfl⟩ := Prod.mk.inj hrun
    exact ⟨⟨rfl, rfl, hhandles, fun _ => Iff.rfl⟩, rfl, hhandle,
      .inr ⟨rfl, fun h => by simp [h.createRootFile] at hroot⟩⟩
  next hroot =>
  split at hrun
  · next hinfo =>
    obtain ⟨rfl, rfl⟩ := Prod.mk.inj hrun
    exact ⟨⟨rfl, rfl, hhandles, fun _ => by simp⟩, rfl, hhandle,
      .inr ⟨rfl, fun h => by simp [h.allocateInfo] at hinfo⟩⟩
  next hinfo =>
  split at hrun
  · next error hpath =>
    obtain ⟨rfl, rfl⟩ := Prod.mk.inj hrun
    exact ⟨⟨rfl, rfl, hhandles, fun _ => by simp⟩, rfl, hhandle,
      .inr ⟨error.property, fun h => by simp [h.openDevicePath] at hpath⟩⟩
  next hpath =>
  split at hrun
  · next error hfs =>
    obtain ⟨rfl, rfl⟩ := Prod.mk.inj hrun
    exact ⟨⟨rfl, rfl, hhandles, fun _ => by simp⟩, rfl, hhandle,
      .inr ⟨error.property, fun h => by simp [h.installFs] at hfs⟩⟩
  · next hfs =>
    obtain ⟨rfl, rfl⟩ := Prod.mk.inj hrun
    exact ⟨⟨rfl, rfl, hhandles, fun _ => by simp⟩, rfl, hhandle,
      .inl ⟨rfl, ⟨by simpa using hroot, by simpa using hinfo, hpath, hfs⟩⟩⟩

/-- What a start has come to, with its instance in the pool. -/
inductive StartResult (o : StartOutcomes) (controller address : ℕ) (s : DriverState)
    (status : EfiStatus) (s' : DriverState) : Prop
  | completed (hstatus : status = .success) (hopens : o.OpensDiskIo controller s)
      (hcompletes : o.Completes)
      (hopened : s'.openedByDriver = (.image, controller) :: s.openedByDriver)
      (hhandle : s'.controllerHandle address = controller)
  | failedOpen (herror : status.isError = true) (hopens : o.OpensDiskIo controller s)
      (hcompletes : ¬ o.Completes)
      (hopened : s'.openedByDriver = (.image, controller) :: s.openedByDriver)
  | failed (herror : status.isError = true) (hopens : ¬ o.OpensDiskIo controller s)
      (hopened : s'.openedByDriver = s.openedByDriver)

lemma startInstance_spec (hallocate : o.allocateInstance = true)
    (hrun : startInstance controller o address s = (status, s')) :
    Keeps address s s' ∧ StartResult o controller address s status s' := by
  have hsame : Keeps address s s := ⟨rfl, rfl, fun _ _ => rfl, fun _ => Iff.rfl⟩
  unfold startInstance at hrun
  split at hrun
  · next error hblockIo =>
    obtain ⟨rfl, rfl⟩ := Prod.mk.inj hrun
    exact ⟨hsame, .failed error.property (fun h => by simp [h.openBlockIo] at hblockIo) rfl⟩
  next hblockIo =>
  split at hrun
  · next error hdiskIo =>
    obtain ⟨rfl, rfl⟩ := Prod.mk.inj hrun
    refine ⟨hsame, .failed error.property (fun h => ?_) rfl⟩
    simp [openByDriver, h.closed, h.openDiskIo, Except.map] at hdiskIo
  · next opened hdiskIo =>
    have hopens : o.OpensDiskIo controller s ∧
        opened = { s with openedByDriver := (.image, controller) :: s.openedByDriver } := by
      unfold openByDriver at hdiskIo
      split at hdiskIo
      · cases hdiskIo
      · next hclosed =>
        cases hok : o.openDiskIo with
        | error error => simp [hok, Except.map] at hdiskIo
        | ok =>
            simp only [hok, Except.map, Except.ok.injEq] at hdiskIo
            exact ⟨⟨hallocate, hblockIo, hok, hclosed⟩, hdiskIo.symm⟩
    obtain ⟨hopens, rfl⟩ := hopens
    obtain ⟨hkeeps, hopened, hhandle, hresult⟩ := startVolume_spec hrun
    refine ⟨⟨hkeeps.instances, hkeeps.nextAddress, hkeeps.handles, hkeeps.allocated⟩, ?_⟩
    rcases hresult with ⟨hstatus, hcompletes⟩ | ⟨herror, hcompletes⟩
    · exact .completed hstatus hopens hcompletes hopened hhandle
    · exact .failedOpen herror hopens hcompletes hopened

/-- `InsertTailList` behind an entry that is allocated. -/
lemma insertInstance_eq (h : ∀ other ∈ s.instances, .instance other ∈ s.pool) :
    insertInstance address s = some { s with instances := s.instances ++ [address] } := by
  unfold insertInstance
  cases hlast : s.instances.getLast? with
  | none => simp [List.getLast?_eq_none_iff.mp hlast]
  | some last => exact if_pos (h last (List.mem_of_getLast? hlast))

lemma bootMonFsDriverStart_eq (hallocate : o.allocateInstance = true)
    (hrun : startInstance controller o s.nextAddress s.withInstance = (status, s')) :
    bootMonFsDriverStart controller o s =
      if status.isError then some (status, startError s.nextAddress s')
      else (insertInstance s.nextAddress s').map fun s => (.success, s) := by
  rw [bootMonFsDriverStart, if_neg (by simp [hallocate])]
  simp only [hrun]

/-- The other instances are not freed. -/
lemma instance_mem_startError {other : ℕ} (hne : other ≠ address)
    (h : PoolObject.instance other ∈ s.pool) : .instance other ∈ (startError address s).pool := by
  have hother : PoolObject.instance other ≠ .instance address := fun heq =>
    hne (PoolObject.instance.inj heq)
  simp only [startError, DriverState.free]
  rw [List.mem_erase_of_ne hother, List.mem_erase_of_ne (by simp), List.mem_erase_of_ne (by simp)]
  exact h

end Start

/-! ## Runs -/

section Runs

variable {controller : ℕ} {o : StartOutcomes} {started : List ℕ} {s s' : DriverState}
  {status : EfiStatus} {call : DriverCall} {calls : List DriverCall}

/-- What is kept of the driver without stops. -/
structure Starting (started : List ℕ) (s : DriverState) : Prop where
  tracks : Tracks started s
  opened : ∀ controller ∈ started, (Agent.image, controller) ∈ s.openedByDriver
  fresh : ∀ address ∈ s.instances, address < s.nextAddress

lemma starting_initial : Starting [] .initial where
  tracks := ⟨rfl, List.nodup_nil, fun _ h => absurd h List.not_mem_nil⟩
  opened _ h := absurd h List.not_mem_nil
  fresh _ h := absurd h List.not_mem_nil

/-- The entries are as they were, with other memory and open protocols. -/
lemma Starting.of_same (h : Starting started s) (hinstances : s'.instances = s.instances)
    (hhandles : ∀ address ∈ s.instances, s'.controllerHandle address = s.controllerHandle address)
    (hallocated : ∀ address ∈ s.instances, PoolObject.instance address ∈ s.pool →
      .instance address ∈ s'.pool)
    (hopened : s'.openedByDriver = s.openedByDriver) (hnext : s.nextAddress ≤ s'.nextAddress) :
    Starting started s' where
  tracks :=
    { entries := by
        rw [hinstances, List.map_congr_left hhandles]
        exact h.tracks.entries
      nodup := h.tracks.nodup
      allocated := fun address haddress => by
        rw [hinstances] at haddress
        exact hallocated address haddress (h.tracks.allocated address haddress) }
  opened := fun controller hcontroller => hopened ▸ h.opened controller hcontroller
  fresh := fun address haddress => by
    rw [hinstances] at haddress
    exact (h.fresh address haddress).trans_le hnext

lemma Starting.ne_next (h : Starting started s) :
    ∀ address ∈ s.instances, address ≠ s.nextAddress :=
  fun address haddress => (h.fresh address haddress).ne

lemma Starting.handles_eq (h : Starting started s) {t : DriverState}
    (hkeeps : Keeps s.nextAddress s.withInstance t) :
    ∀ address ∈ s.instances, t.controllerHandle address = s.controllerHandle address :=
  fun address haddress => hkeeps.handles address (h.ne_next address haddress)

lemma Starting.mem_pool (h : Starting started s) {t : DriverState}
    (hkeeps : Keeps s.nextAddress s.withInstance t) :
    ∀ address ∈ s.instances, PoolObject.instance address ∈ t.pool :=
  fun address haddress => (hkeeps.allocated address).mpr
    (List.mem_cons_of_mem _ (h.tracks.allocated address haddress))

/-- The new instance behind the others. -/
lemma Starting.insert (h : Starting started s) (hnew : controller ∉ started) {t : DriverState}
    (hkeeps : Keeps s.nextAddress s.withInstance t)
    (hopened : t.openedByDriver = (.image, controller) :: s.openedByDriver)
    (hhandle : t.controllerHandle s.nextAddress = controller) :
    Starting (started ++ [controller])
      { t with instances := s.instances ++ [s.nextAddress] } where
  tracks :=
    { entries := by
        simp only [List.map_append, List.map_cons, List.map_nil]
        rw [List.map_congr_left (h.handles_eq hkeeps), h.tracks.entries, hhandle]
      nodup := by
        rw [← List.concat_eq_append]
        exact h.tracks.nodup.concat hnew
      allocated := fun address haddress => by
        rcases List.mem_append.mp haddress with haddress | haddress
        · exact h.mem_pool hkeeps address haddress
        · rw [List.mem_singleton.mp haddress]
          exact (hkeeps.allocated _).mpr List.mem_cons_self }
  opened c hc := by
    rw [show _ = _ from hopened]
    rcases List.mem_append.mp hc with hc | hc
    · exact List.mem_cons_of_mem _ (h.opened c hc)
    · rw [List.mem_singleton.mp hc]
      exact List.mem_cons_self
  fresh address haddress := by
    show address < t.nextAddress
    rw [hkeeps.nextAddress]
    rcases List.mem_append.mp haddress with haddress | haddress
    · exact (h.fresh address haddress).trans (Nat.lt_succ_self _)
    · rw [List.mem_singleton.mp haddress]
      exact Nat.lt_succ_self _

/-- A start that does not fail with `DiskIo` open. -/
lemma Starting.start (h : Starting started s)
    (hharmless : o.OpensDiskIo controller s → o.Completes) :
    ∃ status s', bootMonFsDriverStart controller o s = some (status, s') ∧
      (status.isError = true → s'.instances = s.instances ∧
        s'.openedByDriver = s.openedByDriver) ∧
      Starting (if status.isError then started else started ++ [controller]) s' := by
  by_cases hallocate : o.allocateInstance = true
  · generalize hrun : startInstance controller o s.nextAddress s.withInstance = outcome
    obtain ⟨status, t⟩ := outcome
    obtain ⟨hkeeps, hresult⟩ := startInstance_spec hallocate hrun
    have hpool := h.mem_pool hkeeps
    rw [bootMonFsDriverStart_eq hallocate hrun]
    cases hresult with
    | completed hstatus hopens hcompletes hopened hhandle =>
        subst hstatus
        have hnew : controller ∉ started := fun hmem => hopens.closed (h.opened controller hmem)
        have hinsert := @insertInstance_eq s.nextAddress t (by rwa [hkeeps.instances])
        rw [hkeeps.instances] at hinsert
        refine ⟨.success, _, ?_, fun herror => absurd herror Bool.false_ne_true,
          h.insert hnew hkeeps hopened hhandle⟩
        rw [if_neg (by simp), hinsert]
        rfl
    | failedOpen herror hopens hcompletes =>
        exact absurd (hharmless ⟨hopens.1, hopens.2, hopens.3, hopens.4⟩) hcompletes
    | failed herror hopens hopened =>
        refine ⟨status, _, if_pos herror, fun _ => ⟨hkeeps.instances, hopened⟩, ?_⟩
        rw [if_pos herror]
        have hhandles := h.handles_eq hkeeps
        refine h.of_same hkeeps.instances (fun address haddress => hhandles address haddress)
          (fun address haddress _ =>
            instance_mem_startError (h.ne_next address haddress) (hpool address haddress))
          hopened ?_
        exact (Nat.le_succ _).trans hkeeps.nextAddress.ge
  · refine ⟨.outOfResources, s, ?_, fun _ => ⟨rfl, rfl⟩, h⟩
    rw [bootMonFsDriverStart, if_pos (by simpa using hallocate)]

/-- A start that fails with `DiskIo` open leaves it open. -/
lemma start_leavesOpen (hopens : o.OpensDiskIo controller s) (hfails : ¬ o.Completes)
    (hrun : bootMonFsDriverStart controller o s = some (status, s')) :
    status.isError = true ∧ s'.openedByDriver = (.image, controller) :: s.openedByDriver := by
  generalize hstart : startInstance controller o s.nextAddress s.withInstance = outcome at hrun
  obtain ⟨status', t⟩ := outcome
  obtain ⟨-, hresult⟩ := startInstance_spec hopens.allocateInstance hstart
  rw [bootMonFsDriverStart_eq hopens.allocateInstance hstart] at hrun
  cases hresult with
  | completed _ _ hcompletes => exact absurd hcompletes hfails
  | failed _ hnot => exact absurd ⟨hopens.1, hopens.2, hopens.3, hopens.4⟩ hnot
  | failedOpen herror _ _ hopened =>
      rw [if_pos herror] at hrun
      obtain ⟨rfl, rfl⟩ := Prod.mk.inj (Option.some.inj hrun)
      exact ⟨herror, hopened⟩

/-- A stop that comes back leaves every entry where it is. -/
lemma stop_keeps {uninstallFs : EfiStatus}
    (hrun : bootMonFsDriverStop controller uninstallFs s = some (status, s')) :
    s'.instances = s.instances ∧ s'.controllerHandle = s.controllerHandle := by
  unfold bootMonFsDriverStop at hrun
  split at hrun
  · obtain ⟨-, rfl⟩ := Prod.mk.inj (Option.some.inj hrun)
    exact ⟨rfl, rfl⟩
  · cases hrun
  · cases hrun

/-- So the list does not track the controllers behind it. -/
lemma stop_not_follows {uninstallFs : EfiStatus} (htracks : Tracks started s)
    (hrun : bootMonFsDriverStop controller uninstallFs s = some (status, s')) :
    ¬ CallFollows started s (.stop controller uninstallFs) status s' := by
  intro h
  obtain ⟨hinstances, hhandles⟩ := stop_keeps hrun
  obtain ⟨address, haddress, hcontroller, -⟩ := h.stop controller uninstallFs rfl
  have hentries : started = started.erase controller := by
    have hafter := h.tracks.entries
    rw [hinstances, hhandles, htracks.entries] at hafter
    exact hafter
  have hmem : controller ∈ started := by
    rw [← htracks.entries, ← hcontroller]
    exact List.mem_map_of_mem haddress
  have hlength := congrArg List.length hentries
  rw [List.length_erase_of_mem hmem] at hlength
  have hpos := List.length_pos_of_mem hmem
  omega

/-- One harmless call. -/
lemma Starting.perform (h : Starting started s) (hharmless : call.Harmless s) :
    ∃ status s', call.perform s = some (status, s') ∧ CallFollows started s call status s' ∧
      Starting (call.started status started) s' := by
  cases call with
  | start controller o =>
      obtain ⟨status, s', hrun, hfailed, hstarting⟩ := h.start hharmless
      refine ⟨status, s', hrun, ⟨hstarting.tracks, ?_, ?_⟩, hstarting⟩
      · rintro _ _ ⟨⟩ herror
        exact hfailed herror
      · rintro _ _ ⟨⟩
  | stop controller uninstallFs => exact hharmless.elim
  | addFiles address count =>
      have hsame : ∃ status s',
          (DriverCall.addFiles address count).perform s = some (status, s') ∧
            Starting started s' := by
        by_cases hlive : PoolObject.instance address ∈ s.pool
        · exact ⟨_, _, if_pos hlive, h.of_same rfl (fun _ _ => rfl)
            (fun _ _ hmem => List.mem_append_right _ hmem) rfl (Nat.le_refl _)⟩
        · exact ⟨_, _, if_neg hlive, h⟩
      obtain ⟨status, s', hrun, hstarting⟩ := hsame
      refine ⟨status, s', hrun, ⟨hstarting.tracks, ?_, ?_⟩, hstarting⟩
      · rintro _ _ ⟨⟩
      · rintro _ _ ⟨⟩

/-- Harmless calls, one after the other. -/
lemma Starting.instancesFollow (h : Starting started s) (hharmless : AllHarmless s calls) :
    InstancesFollow started s calls := by
  induction calls generalizing started s with
  | nil => exact h.tracks
  | cons call calls ih =>
      obtain ⟨hcall, hrest⟩ := hharmless
      obtain ⟨status, s', hrun, hfollows, hstarting⟩ := h.perform hcall
      exact ⟨h.tracks, status, s', hrun, hfollows, ih hstarting (hrest status s' hrun)⟩

/-- A call that is not harmless does not do what is said of it. -/
lemma harmless_of_follows (htracks : Tracks started s) (hrun : call.perform s = some (status, s'))
    (hfollows : CallFollows started s call status s') : call.Harmless s := by
  cases call with
  | start controller o =>
      intro hopens
      by_contra hfails
      obtain ⟨herror, hopened⟩ := start_leavesOpen hopens hfails hrun
      have hsame := (hfollows.failedStart controller o rfl herror).2
      rw [hopened] at hsame
      exact List.cons_ne_self _ _ hsame
  | stop controller uninstallFs => exact (stop_not_follows htracks hrun hfollows).elim
  | addFiles address count => trivial

lemma allHarmless_of_instancesFollow (h : InstancesFollow started s calls) :
    AllHarmless s calls := by
  induction calls generalizing started s with
  | nil => trivial
  | cons call calls ih =>
      obtain ⟨htracks, status, s', hrun, hfollows, hrest⟩ := h
      refine ⟨harmless_of_follows htracks hrun hfollows, fun status' s'' hrun' => ?_⟩
      obtain ⟨rfl, rfl⟩ := Prod.mk.inj (Option.some.inj (hrun.symm.trans hrun'))
      exact ih hrest

/-- The instances follow their controllers exactly in the runs without a stop and without a start
that fails when it has opened `DiskIo`. -/
theorem instancesFollow_iff :
    InstancesFollow [] .initial calls ↔ AllHarmless .initial calls :=
  ⟨allHarmless_of_instancesFollow, starting_initial.instancesFollow⟩

end Runs

/-! ## A controller that is started and stopped -/

/-- A start in which nothing fails. -/
def startWorks : StartOutcomes where
  allocateInstance := true
  openBlockIo := .ok ()
  openDiskIo := .ok ()
  createRootFile := true
  allocateInfo := true
  openDevicePath := .ok ()
  installFs := .ok ()

/-- Behind the stop the list still has the entry, which is freed, and the next start, of another
controller, uses it. -/
theorem not_instancesFollow_stopped :
    ((DriverCall.start 1 startWorks).perform .initial).bind (fun r =>
        (DriverCall.stop 1 .success).perform r.2) =
      some (.success, ⟨[], Function.update (fun _ => 0) 0 1, [0], [(.image, 1)], 1⟩) ∧
    (DriverCall.start 2 startWorks).perform
        ⟨[], Function.update (fun _ => 0) 0 1, [0], [(.image, 1)], 1⟩ = none ∧
      ¬ InstancesFollow [] .initial [.start 1 startWorks, .stop 1 .success] := by
  refine ⟨rfl, rfl, fun h => ?_⟩
  exact ((allHarmless_of_instancesFollow h).2 _ _ rfl).1

end BootMonFs
end MuPlatform
