import MuPlatform.SdMmc.DriverStop

/-!
# Starting the driver

`SdMmcDriverStart` opens the SDHC protocol of a controller by driver, lets `CreateSdhcInstance`
build an instance, and inserts it.  `CreateSdhcInstance` frees what it allocated and returns `NULL`
when an allocation fails or the host has too small blocks, and then the caller still holds the
status of `OpenProtocol`: it logs the failure and returns success, with the protocol open.

`Transactional` is what starting a controller means for the pool, the open protocols, the memory
and the instance counter, and `driverStarts_iff` says when the driver does it.  Where an instance is
created the pool goes through the start of `poolSystem` (`sdMmcDriverStart_created`).
-/

namespace MuPlatform
namespace SdMmc

open Prog

variable {H B : Type}

/-! ## The code -/

/-- What `SdMmcDriverStart` tells apart of a `RemainingDevicePath`. -/
inductive RemainingDevicePath
  | null
  | endNode
  | node
  deriving DecidableEq, Repr

/-- What the boot services answer during a start: the status of `OpenProtocol` and the addresses
of the memory for the instance and for its media. -/
structure StartAnswers where
  openStatus : EfiStatus
  instAddress : Option ℕ
  media : Option ℕ

/-- The driver with its pool, `gNextSdhcInstanceId`, the controllers whose SDHC protocol it has open
by driver, and the addresses it has allocated. -/
structure DriverState (H B : Type) extends Pool H B where
  nextSdhcInstanceId : UInt32
  openedByDriver : List ℕ
  allocated : List ℕ

namespace DriverState

/-- A call of the pool. -/
def onPool {α : Type} (call : Prog (Pool H B) α) : Prog (DriverState H B) α := fun s =>
  (call s.toPool).map fun r => (r.1, { s with toPool := r.2 })

/-- `OpenProtocol` by driver. -/
def openProtocol (controller : ℕ) (status : EfiStatus) : Prog (DriverState H B) EfiStatus :=
  step fun s => (status, if status.isError then s
    else { s with openedByDriver := controller :: s.openedByDriver })

/-- `AllocateZeroPool` and `AllocateCopyPool`. -/
def allocatePool (address : Option ℕ) : Prog (DriverState H B) (Option ℕ) :=
  step fun s => (address, { s with allocated := address.toList ++ s.allocated })

/-- `FreePool`. -/
def freePool (address : ℕ) : Prog (DriverState H B) Unit :=
  modify fun s => { s with allocated := s.allocated.erase address }

/-- `CreateSdhcInstance`, with the address of the instance; `none` is `NULL`. -/
def createSdhcInstance (caps : SdhcCapabilities) (answers : StartAnswers) :
    Prog (DriverState H B) (Option ℕ) := do
  match ← allocatePool answers.instAddress with
  | none => return none
  | some address =>
      if caps.maximumBlockSize.toNat < sdBlockLengthBytes then
        freePool address
        return none
      else
        match ← allocatePool answers.media with
        | none =>
            freePool address
            return none
        | some _ =>
            modify fun s => { s with nextSdhcInstanceId := s.nextSdhcInstanceId + 1 }
            return some address

/-- `SdMmcDriverStart`. -/
def sdMmcDriverStart (hosts : ℕ → SdhcHost H) (boot : BootServices B) (answers : StartAnswers)
    (controller : ℕ) (path : RemainingDevicePath) : Prog (DriverState H B) EfiStatus :=
  if path = .endNode then return .success
  else do
    let status ← openProtocol controller answers.openStatus
    if status.isError then return if status = .alreadyStarted then .success else status
    else
      let caps := (hosts controller).capabilities
      match ← createSdhcInstance caps answers with
      | some address =>
          modify fun s => { s with toPool := s.insert address controller caps }
          onPool (checkCardsCallback hosts boot)
          return status
      | none => return status

end DriverState

/-! ## What a start is for -/

/-- An instance for the controller is in the pool, and its SDHC protocol is open by driver. -/
def DriverState.Started (s : DriverState H B) (controller : ℕ) : Prop :=
  (∃ a ∈ s.listed, s.IsOf controller a) ∧ controller ∈ s.openedByDriver

/-- The controller has neither an instance in the pool nor its SDHC protocol open. -/
structure DriverState.NotStarted (s : DriverState H B) (controller : ℕ) : Prop where
  noInstance : ∀ a ∈ s.listed, ¬ s.IsOf controller a
  closed : controller ∉ s.openedByDriver

/-- The boot services can give these answers: `OpenProtocol` reports a controller as started only if
the driver has it open, and memory that is allocated was not in use. -/
structure StartAnswers.Possible (answers : StartAnswers) (boot : BootServices B) (controller : ℕ)
    (s : DriverState H B) : Prop where
  alreadyStarted : answers.openStatus = .alreadyStarted → controller ∈ s.openedByDriver
  free : ∀ a, answers.instAddress = some a → s.Free boot a

/-- A start that returned has either started the controller, or it returns an error and everything
is as it was before. -/
structure Transactional (controller : ℕ) (s : DriverState H B) (status : EfiStatus)
    (s' : DriverState H B) : Prop where
  success_iff : status.isError = false ↔ s'.Started controller
  closed : status.isError = true → s'.openedByDriver = s.openedByDriver
  allocated : status.isError = true → s'.allocated = s.allocated
  pool : status.isError = true → s'.live = s.live ∧ s'.listed = s.listed
  counter : status.isError = true → s'.nextSdhcInstanceId = s.nextSdhcInstanceId

/-- `SdMmcDriverStart` comes back and is transactional. -/
def DriverStarts (hosts : ℕ → SdhcHost H) (boot : BootServices B) (answers : StartAnswers)
    (controller : ℕ) (path : RemainingDevicePath) (s : DriverState H B) : Prop :=
  ∃ status s',
    DriverState.sdMmcDriverStart hosts boot answers controller path s = some (status, s') ∧
      Transactional controller s status s'

/-- The conditions of `CreateSdhcInstance`: both allocations succeed, and the host has blocks of
512 bytes. -/
def StartAnswers.Creates (answers : StartAnswers) (caps : SdhcCapabilities) : Prop :=
  answers.instAddress ≠ none ∧ sdBlockLengthBytes ≤ caps.maximumBlockSize.toNat ∧
    answers.media ≠ none

/-! ## The instance -/

section Create

variable {caps : SdhcCapabilities} {answers : StartAnswers} {s : DriverState H B}

lemma allocatePool_apply (address : Option ℕ) (s : DriverState H B) :
    DriverState.allocatePool address s =
      some (address, { s with allocated := address.toList ++ s.allocated }) := rfl

/-- Memory that was allocated last is freed. -/
lemma freePool_apply (address : ℕ) (s : DriverState H B) :
    DriverState.freePool address { s with allocated := address :: s.allocated } =
      some ((), s) := by
  simp [DriverState.freePool]

/-- A constructor that succeeds has allocated the instance and its media, and counted it. -/
lemma createSdhcInstance_created {address media : ℕ} (haddress : answers.instAddress = some address)
    (hsize : sdBlockLengthBytes ≤ caps.maximumBlockSize.toNat) (hmedia : answers.media = some media) :
    DriverState.createSdhcInstance caps answers s = some (some address,
      { s with
        nextSdhcInstanceId := s.nextSdhcInstanceId + 1
        allocated := media :: address :: s.allocated }) := by
  unfold DriverState.createSdhcInstance
  rw [haddress, hmedia, bind_of_eq_some (allocatePool_apply _ s)]
  simp only
  rw [if_neg (by omega), bind_of_eq_some (allocatePool_apply _ _)]
  rfl

/-- A constructor that fails has changed nothing. -/
lemma createSdhcInstance_failed (hfail : ¬ answers.Creates caps) :
    DriverState.createSdhcInstance caps answers s = some (none, s) := by
  unfold DriverState.createSdhcInstance
  rw [bind_of_eq_some (allocatePool_apply _ s)]
  cases haddress : answers.instAddress with
  | none => rfl
  | some address =>
      simp only [Option.toList_some, List.singleton_append]
      by_cases hsize : caps.maximumBlockSize.toNat < sdBlockLengthBytes
      · rw [if_pos hsize, bind_of_eq_some (freePool_apply address s)]
        rfl
      · have hmedia : answers.media = none := by
          by_contra hsome
          exact hfail ⟨by simp [haddress], by omega, hsome⟩
        rw [if_neg hsize, hmedia, bind_of_eq_some (allocatePool_apply _ _)]
        simp only [Option.toList_none, List.nil_append]
        rw [bind_of_eq_some (freePool_apply address s)]
        rfl

end Create

/-! ## The presence check -/

section Pool

variable {hosts : ℕ → SdhcHost H} {boot : BootServices B}

/-- A visit of `CheckCardsCallback` leaves an instance with its controller. -/
lemma checkCard_isOf (controller a address : ℕ) :
    Preserves (fun p : Pool H B => p.IsOf controller a)
      (onInstance hosts boot address .checkCard) := by
  rintro p ⟨c, hc, hhandle⟩ r p' hrun
  obtain ⟨d, w, hd, hcall, rfl⟩ := onInstance_eq_some.mp hrun
  rcases eq_or_ne a address with rfl | hne
  · obtain rfl : d = c := Option.some.inj (hd.symm.trans hc)
    obtain ⟨status, hcheck, -⟩ := map_eq_some.mp hcall
    have hlater := DriverProg.later checkCard_built hcheck
    exact ⟨w.toController, Function.update_self .., hlater.mmcHandle.trans hhandle⟩
  · exact ⟨c, (Function.update_of_ne hne ..).trans hc, hhandle⟩

lemma checkCards_isOf (controller a : ℕ) (addresses : List ℕ) :
    Preserves (fun p : Pool H B => p.IsOf controller a) (checkCards hosts boot addresses) := by
  induction addresses with
  | nil => exact Triple.pure fun p hp => hp
  | cons address rest ih =>
      exact Triple.bind (checkCard_isOf controller a address) fun _ => ih

/-- The start of the pool, where the host has blocks of 512 bytes: it comes back with the instance
in the pool. -/
lemma sdMmcDriverStart_isOf {p : Pool H B} (hL : Listed p) {controller address : ℕ}
    (hfree : p.Free boot address)
    (hsize : sdBlockLengthBytes ≤ (hosts controller).capabilities.maximumBlockSize.toNat) :
    ∃ q, sdMmcDriverStart hosts boot controller address p = some ((), q) ∧
      address ∈ q.listed ∧ q.IsOf controller address := by
  have hnew := hL.insert hfree.1 controller (hosts controller).capabilities
  obtain ⟨q, hq, -, hlisted, -⟩ := @Listed.checkCards H B hosts boot _ _ hnew fun _ ha => ha
  refine ⟨q, ?_, ?_, ?_⟩
  · unfold sdMmcDriverStart
    rw [if_pos hfree, if_neg (by omega)]
    exact hq
  · rw [hlisted]
    simp [Pool.insert]
  · refine checkCards_isOf controller address _ _ ?_ () q hq
    exact ⟨_, Function.update_self .., rfl⟩

end Pool

/-! ## The driver -/

section Driver

variable {hosts : ℕ → SdhcHost H} {boot : BootServices B} {answers : StartAnswers} {controller : ℕ}
  {path : RemainingDevicePath} {s : DriverState H B}

lemma openProtocol_apply (status : EfiStatus) (s : DriverState H B) :
    DriverState.openProtocol controller status s = some (status, if status.isError then s
      else { s with openedByDriver := controller :: s.openedByDriver }) := rfl

/-- Where the protocol cannot be opened, nothing is done. -/
lemma sdMmcDriverStart_closed (hpath : path ≠ .endNode) (herr : answers.openStatus.isError = true)
    (hstatus : answers.openStatus ≠ .alreadyStarted) :
    DriverState.sdMmcDriverStart hosts boot answers controller path s =
      some (answers.openStatus, s) := by
  unfold DriverState.sdMmcDriverStart
  rw [if_neg hpath, bind_of_eq_some (openProtocol_apply _ s)]
  simp only [herr, if_true, if_neg hstatus]
  rfl

/-- Where the constructor fails, the status is that of `OpenProtocol` and the protocol stays
open. -/
lemma sdMmcDriverStart_failed (hpath : path ≠ .endNode)
    (hopen : answers.openStatus.isError = false)
    (hfail : ¬ answers.Creates (hosts controller).capabilities) :
    DriverState.sdMmcDriverStart hosts boot answers controller path s =
      some (answers.openStatus, { s with openedByDriver := controller :: s.openedByDriver }) := by
  unfold DriverState.sdMmcDriverStart
  rw [if_neg hpath, bind_of_eq_some (openProtocol_apply _ s)]
  simp only [hopen, Bool.false_eq_true, if_false]
  rw [bind_of_eq_some (createSdhcInstance_failed hfail)]
  rfl

/-- Where the constructor succeeds, the pool goes through its own start. -/
lemma sdMmcDriverStart_created {address media : ℕ} {q : Pool H B} (hpath : path ≠ .endNode)
    (hopen : answers.openStatus.isError = false) (haddress : answers.instAddress = some address)
    (hsize : sdBlockLengthBytes ≤ (hosts controller).capabilities.maximumBlockSize.toNat)
    (hmedia : answers.media = some media) (hfree : s.Free boot address)
    (hpool : sdMmcDriverStart hosts boot controller address s.toPool = some ((), q)) :
    DriverState.sdMmcDriverStart hosts boot answers controller path s =
      some (answers.openStatus,
        { toPool := q
          nextSdhcInstanceId := s.nextSdhcInstanceId + 1
          openedByDriver := controller :: s.openedByDriver
          allocated := media :: address :: s.allocated }) := by
  unfold sdMmcDriverStart at hpool
  rw [if_pos hfree, if_neg (by omega)] at hpool
  unfold DriverState.sdMmcDriverStart
  rw [if_neg hpath, bind_of_eq_some (openProtocol_apply _ s)]
  simp only [hopen, Bool.false_eq_true, if_false]
  rw [bind_of_eq_some (createSdhcInstance_created haddress hsize hmedia)]
  simp only
  rw [bind_of_eq_some (modify_apply _ _), bind_of_eq_some (t := _) (a := ()) ?_]
  · rfl
  · simp [DriverState.onPool, hpool]

/-- A start that fails to open the protocol is undone. -/
lemma driverStarts_of_closed (hnot : s.NotStarted controller) (hpath : path ≠ .endNode)
    (herr : answers.openStatus.isError = true) (hstatus : answers.openStatus ≠ .alreadyStarted) :
    DriverStarts hosts boot answers controller path s := by
  refine ⟨answers.openStatus, s, sdMmcDriverStart_closed hpath herr hstatus, ?_, fun _ => rfl,
    fun _ => rfl, fun _ => ⟨rfl, rfl⟩, fun _ => rfl⟩
  refine iff_of_false (ne_false_of_eq_true herr) ?_
  rintro ⟨-, hopened⟩
  exact hnot.closed hopened

/-- A start that creates the instance has started the controller. -/
lemma driverStarts_of_created (hL : Listed s.toPool) (hanswers : answers.Possible boot controller s)
    (hpath : path ≠ .endNode) (hopen : answers.openStatus.isError = false)
    (hcreates : answers.Creates (hosts controller).capabilities) :
    DriverStarts hosts boot answers controller path s := by
  obtain ⟨hinst, hsize, hmedia⟩ := hcreates
  obtain ⟨address, haddress⟩ := Option.ne_none_iff_exists'.mp hinst
  obtain ⟨media, hmedia⟩ := Option.ne_none_iff_exists'.mp hmedia
  have hfree := hanswers.free address haddress
  obtain ⟨q, hpool, hlisted, hof⟩ := sdMmcDriverStart_isOf hL hfree hsize
  have hok : answers.openStatus.isError ≠ true := ne_true_of_eq_false hopen
  refine ⟨_, _, sdMmcDriverStart_created hpath hopen haddress hsize hmedia hfree hpool, ?_,
    fun herr => absurd herr hok, fun herr => absurd herr hok, fun herr => absurd herr hok,
    fun herr => absurd herr hok⟩
  exact iff_of_true hopen ⟨⟨address, hlisted, hof⟩, List.mem_cons_self⟩

/-- A start that fails to create the instance returns success without an instance. -/
lemma not_driverStarts_of_failed (hnot : s.NotStarted controller) (hpath : path ≠ .endNode)
    (hopen : answers.openStatus.isError = false)
    (hfail : ¬ answers.Creates (hosts controller).capabilities) :
    ¬ DriverStarts hosts boot answers controller path s := by
  rintro ⟨status, s', hrun, htrans⟩
  obtain ⟨rfl, rfl⟩ := Prod.mk.inj (Option.some.inj
    ((sdMmcDriverStart_failed hpath hopen hfail).symm.trans hrun))
  obtain ⟨⟨a, hlisted, hof⟩, -⟩ := htrans.success_iff.mp hopen
  exact hnot.noInstance a hlisted hof

/-- For a controller that is not started and a device path that does not end at once, a start is
transactional exactly where the protocol cannot be opened or the instance is created. -/
theorem driverStarts_iff (h : (poolSystem hosts boot).Reachable s.toPool)
    (hnot : s.NotStarted controller) (hpath : path ≠ .endNode)
    (hanswers : answers.Possible boot controller s) :
    DriverStarts hosts boot answers controller path s ↔
      answers.openStatus.isError = true ∨ answers.Creates (hosts controller).capabilities := by
  have hL := listed_of_reachable h
  have hstatus : answers.openStatus ≠ .alreadyStarted := fun heq =>
    hnot.closed (hanswers.alreadyStarted heq)
  constructor
  · intro hstarts
    by_contra hneither
    obtain ⟨hopen, hfail⟩ := not_or.mp hneither
    exact not_driverStarts_of_failed hnot hpath (eq_false_of_ne_true hopen) hfail hstarts
  · intro hcase
    by_cases herr : answers.openStatus.isError = true
    · exact driverStarts_of_closed hnot hpath herr hstatus
    · have hcreates := hcase.resolve_left herr
      exact driverStarts_of_created hL hanswers hpath (eq_false_of_ne_true herr) hcreates

end Driver

/-! ## A scripted controller -/

/-- The scripted driver before its first start. -/
def scriptedDriver : DriverState ScriptedCard (ℕ × List Published) where
  toPool := scriptedPool
  nextSdhcInstanceId := 0
  openedByDriver := []
  allocated := []

lemma scriptedDriver_notStarted (controller : ℕ) : scriptedDriver.NotStarted controller :=
  ⟨fun _ hmem => absurd hmem List.not_mem_nil, List.not_mem_nil⟩

/-- Both allocations succeed. -/
def allocates : StartAnswers := ⟨.success, some 1, some 2⟩

lemma allocates_possible (o : Script) (controller : ℕ) :
    allocates.Possible (scriptedBoot o) controller scriptedDriver where
  alreadyStarted heq := by cases heq
  free a _ := ⟨rfl, fun _ hmem => absurd hmem List.not_mem_nil⟩

theorem driverStarts_iff_scriptedDriver :
    DriverStarts (fun _ => scriptedHost (.quiet true)) (scriptedBoot (.quiet true)) allocates 7 .null
        scriptedDriver ↔
      allocates.openStatus.isError = true ∨
        allocates.Creates (scriptedHost (.quiet true)).capabilities :=
  driverStarts_iff (.init (scriptedPool_init (.quiet true))) (scriptedDriver_notStarted 7)
    (by decide) (allocates_possible (.quiet true) 7)

/-- There is memory for the instance and none for its media. -/
def outOfMemory : StartAnswers := ⟨.success, some 1, none⟩

lemma outOfMemory_possible (o : Script) (controller : ℕ) :
    outOfMemory.Possible (scriptedBoot o) controller scriptedDriver where
  alreadyStarted heq := by cases heq
  free a _ := ⟨rfl, fun _ hmem => absurd hmem List.not_mem_nil⟩

/-- The start returns success, with the protocol open and no instance. -/
theorem not_driverStarts_outOfMemory :
    scriptedDriver.NotStarted 7 ∧
      outOfMemory.Possible (scriptedBoot (.quiet true)) 7 scriptedDriver ∧
      ¬ DriverStarts (fun _ => scriptedHost (.quiet true)) (scriptedBoot (.quiet true)) outOfMemory
        7 .null scriptedDriver := by
  refine ⟨scriptedDriver_notStarted 7, outOfMemory_possible _ 7, ?_⟩
  exact not_driverStarts_of_failed (scriptedDriver_notStarted 7) (by decide) rfl
    fun hcreates => hcreates.2.2 rfl

end SdMmc
end MuPlatform
