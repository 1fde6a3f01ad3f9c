import Mathlib.Tactic.IntervalCases
import MuPlatform.AuthVar.ServiceCalls
import MuPlatform.Optee.SharedMemory

/-!
# The life of the variable driver

`VariableAuthOpteeRuntimeInitialize` with `TaOpenSession`, the services behind `gRT` and the
notification of `ExitBootServices` (`AuthVarsDxe.c`), over the shared-memory calls of
`OpteeClientApiLib.c` and the allocator below them.

The initialisation is a list of steps, each of which goes on to the next or to `Exit`.  In
`lifecycleSystem` service calls and the other clients of the allocator come between any two of
them, as the notifications of `InstallProtocolInterface` do, and a TA may answer anything.

`lifecycleSafe_of_reachable` says what holds over every run: with a session open, the published
services have both transport buffers, and otherwise a call leaves the buffers and the TA alone,
in particular once `ExitBootServices` has been notified.
-/

namespace MuPlatform
namespace AuthVar

open Optee

/-! ## Shared memory -/

/-- A build of the driver: a transport buffer, with the header and the alignment of its block,
is inside the address space. -/
structure DriverConfig extends AuthVarConfig where
  shm : ShmConfig
  shm_arch : shm.arch = arch
  blockSize_lt : arch.headerSize + toAuthVarConfig.memSize + (opteeShmAllocAlign - 1) <
    2 ^ arch.uintnBits

section Transport

variable (cfg : ShmConfig) (mem : TeecSharedMemory) (shm : ShmWorld)

/-- `TEEC_AllocateSharedMemory` on a transport record; a success is a new block. -/
def allocateTransport (gcdAnswer : Option ℕ) : TeecResult × TeecSharedMemory × ShmWorld :=
  match mem.allocate cfg gcdAnswer shm.state with
  | (result, mem', s) =>
    let block := if result = teecSuccess then
      gcdAnswer.map fun base => ⟨base, mem'.buffer, mem.size⟩ else none
    (result, mem', ⟨s, block.toList ++ shm.live⟩)

/-- `TEEC_ReleaseSharedMemory` on a transport record; the block is back once the record forgets
it. -/
def releaseTransport (free : Span → List Span → EfiStatus × List Span) :
    TeecSharedMemory × ShmWorld :=
  match mem.release cfg free shm.state with
  | (mem', s) =>
    (mem', ⟨s, if mem.shadowBuffer ≠ 0 ∧ mem'.shadowBuffer = 0 then
      shm.live.eraseP (·.user = mem.shadowBuffer) else shm.live⟩)

end Transport

/-! ## The driver -/

/-- Whose function a pointer of `gRT` points to. -/
inductive ServiceOwner
  | other | driver
  deriving DecidableEq

/-- The variable services of `gRT`. -/
structure RuntimeServices where
  getVariable : ServiceOwner
  getNextVariableName : ServiceOwner
  setVariable : ServiceOwner
  queryVariableInfo : ServiceOwner
  deriving DecidableEq

/-- The services of this driver. -/
def RuntimeServices.ofDriver : RuntimeServices := ⟨.driver, .driver, .driver, .driver⟩

/-- The call goes to this driver. -/
def ServiceCall.Published (gRT : RuntimeServices) : ServiceCall → Prop
  | .getVariable _ => gRT.getVariable = .driver
  | .getNextVariableName _ => gRT.getNextVariableName = .driver
  | .setVariable _ => gRT.setVariable = .driver
  | .queryVariableInfo _ => gRT.queryVariableInfo = .driver

/-- Some service of `gRT` is one of this driver. -/
def RuntimeServices.Published (gRT : RuntimeServices) : Prop :=
  ∃ call : ServiceCall, call.Published gRT

/-- The driver with its TA, the allocator, and what it has put into the system. -/
structure DriverState (σ : Type*) where
  ta : σ
  shm : ShmWorld
  mVariableParamMem : TeecSharedMemory
  mVariableResultMem : TeecSharedMemory
  /-- What the two buffers hold. -/
  param : ByteStore
  result : ByteStore
  /-- `EfiAtRuntime`. -/
  atRuntime : Bool
  mTeecSessionOpened : Bool
  sessionId : UInt32
  /-- Whether the session that `TEEC_OpenSession` opened is open. -/
  taSession : Bool
  gRT : RuntimeServices
  variableArch : Bool
  variableWriteArch : Bool
  /-- Whether `OpteeRuntimeOnExitBootServices` is registered. -/
  exitBootServiceEvent : Bool
  measurements : List Measurement

namespace DriverState

variable {σ : Type*}

/-- What the services work on. -/
def services (st : DriverState σ) : AuthVarState σ where
  ta := st.ta
  param := st.param
  result := st.result
  buffersAllocated := st.mVariableParamMem.buffer ≠ 0 && st.mVariableResultMem.buffer ≠ 0
  atRuntime := st.atRuntime
  mTeecSessionOpened := st.mTeecSessionOpened
  sessionId := st.sessionId
  variableArchInstalled := st.variableArch
  measurements := st.measurements

/-- The driver after a service. -/
def withServices (st : DriverState σ) (s : AuthVarState σ) : DriverState σ :=
  { st with
    ta := s.ta
    param := s.param
    result := s.result
    atRuntime := s.atRuntime
    mTeecSessionOpened := s.mTeecSessionOpened
    sessionId := s.sessionId
    measurements := s.measurements }

/-- Nothing is lost on the way: the services keep what `withServices` leaves out. -/
lemma services_withServices {st : DriverState σ} {s : AuthVarState σ}
    (h : Keeps st.services s) : (st.withServices s).services = s := by
  obtain ⟨hbuffers, -, -, harch⟩ := h
  cases s
  simp only [services, withServices, AuthVarState.mk.injEq, true_and, and_true] at hbuffers harch ⊢
  exact ⟨hbuffers.symm, harch.symm⟩

/-- A service call. -/
def call (cfg : AuthVarConfig) (c : ServiceCall) (ta : Ta σ) (hook : HookEnv σ)
    (st : DriverState σ) : DriverState σ :=
  st.withServices (c.run cfg ta hook st.services).2

end DriverState

/-! ## VariableAuthOpteeRuntimeInitialize -/

/-- What the boot services and the client library return here: `EFI_SUCCESS` or an error. -/
abbrev CallStatus := { status : EfiStatus // status = .success ∨ status.isError = true }

/-- The outcomes of the steps of the initialisation. -/
structure DriverEnv (σ : Type*) where
  opteeClientApiInitialize : CallStatus
  teecInitializeContext : TeecResult
  teecOpenSession : TeecResult
  sessionId : UInt32
  /-- What `AllocateMemorySpace` answers for the two buffers. -/
  paramAnswer : Option ℕ
  resultAnswer : Option ℕ
  secureBoot : SecureBootEnv σ
  installVariableArch : CallStatus
  installVariableWriteArch : CallStatus
  createEvent : CallStatus

/-- The steps of `VariableAuthOpteeRuntimeInitialize` and `TaOpenSession`. -/
inductive InitStep
  | opteeClientApiInitialize
  | teecInitializeContext
  | teecOpenSession
  | allocateParam
  | allocateResult
  | initSecureBootVariables
  | publishServices
  | installVariableArch
  | installVariableWriteArch
  | createEvent
  deriving DecidableEq

/-- `EFI_ERROR (Status)`, with the status to leave with. -/
def exitOnError (status : EfiStatus) : Option EfiStatus :=
  if status.isError then some status else none

section Init

variable {σ : Type*} (cfg : DriverConfig) (env : DriverEnv σ)

/-- A step: the status it goes to `Exit` with, none if it goes on, and the state it leaves. -/
def InitStep.run : InitStep → DriverState σ → Option EfiStatus × DriverState σ
  | .opteeClientApiInitialize, st => (exitOnError env.opteeClientApiInitialize.val, st)
  | .teecInitializeContext, st =>
    -- the result is not converted: `Status` is still that of `OpteeClientApiInitialize`
    if env.teecInitializeContext ≠ teecSuccess then (some env.opteeClientApiInitialize.val, st)
    else (none, st)
  | .teecOpenSession, st =>
    if env.teecOpenSession ≠ teecSuccess then (some .protocolError, st)
    else (none, { st with
      sessionId := env.sessionId
      taSession := true
      mTeecSessionOpened := true })
  | .allocateParam, st =>
    match allocateTransport cfg.shm { st.mVariableParamMem with size := cfg.memSize } st.shm
        env.paramAnswer with
    | (result, mem, shm) =>
      (if result ≠ teecSuccess then some .outOfResources else none,
        { st with mVariableParamMem := mem, shm := shm })
  | .allocateResult, st =>
    match allocateTransport cfg.shm
        { st.mVariableResultMem with size := st.mVariableParamMem.size } st.shm
        env.resultAnswer with
    | (result, mem, shm) =>
      (if result ≠ teecSuccess then some .outOfResources else none,
        { st with mVariableResultMem := mem, shm := shm })
  | .initSecureBootVariables, st =>
    match env.secureBoot.initSecureBootVariables cfg.toAuthVarConfig st.services with
    | (status, s) => (exitOnError status, st.withServices s)
  | .publishServices, st => (none, { st with gRT := .ofDriver })
  | .installVariableArch, st =>
    (exitOnError env.installVariableArch.val,
      if env.installVariableArch.val.isError then st else { st with variableArch := true })
  | .installVariableWriteArch, st =>
    (exitOnError env.installVariableWriteArch.val,
      if env.installVariableWriteArch.val.isError then st
      else { st with variableWriteArch := true })
  | .createEvent, st =>
    (exitOnError env.createEvent.val,
      if env.createEvent.val.isError then st else { st with exitBootServiceEvent := true })

/-- The steps of `TaOpenSession`. -/
def taOpenSession : List InitStep := [.teecOpenSession, .allocateParam, .allocateResult]

/-- The steps of `VariableAuthOpteeRuntimeInitialize`, in their order. -/
def initSteps : List InitStep :=
  [.opteeClientApiInitialize, .teecInitializeContext] ++ taOpenSession ++
    [.initSecureBootVariables, .publishServices, .installVariableArch,
      .installVariableWriteArch, .createEvent]

/-- The steps one after the other, up to the first that goes to `Exit`. -/
def runSteps : List InitStep → DriverState σ → EfiStatus × DriverState σ
  | [], st => (.success, st)
  | step :: steps, st =>
    match step.run cfg env st with
    | (some status, st) => (status, st)
    | (none, st) => runSteps steps st

/-- `VariableAuthOpteeRuntimeInitialize`. -/
def variableAuthOpteeRuntimeInitialize (st : DriverState σ) : EfiStatus × DriverState σ :=
  runSteps cfg env initSteps st

/-- The static data of the driver, with the services and protocols of others in the system. -/
structure DriverState.Fresh (st : DriverState σ) : Prop where
  param : st.mVariableParamMem = ⟨0, 0, 0, 0⟩
  result : st.mVariableResultMem = ⟨0, 0, 0, 0⟩
  session : st.mTeecSessionOpened = false
  taSession : st.taSession = false
  gRT : ¬ st.gRT.Published
  variableArch : st.variableArch = false
  variableWriteArch : st.variableWriteArch = false
  exitBootServiceEvent : st.exitBootServiceEvent = false

end Init

/-! ## OpteeRuntimeOnExitBootServices -/

section Exit

variable {σ : Type*} (cfg : DriverConfig) (free : Span → List Span → EfiStatus × List Span)

/-- `TEEC_CloseSession` of an open session. -/
def DriverState.closeSession (st : DriverState σ) : DriverState σ :=
  if st.mTeecSessionOpened then { st with taSession := false, mTeecSessionOpened := false }
  else st

/-- The release of both transport buffers. -/
def DriverState.releaseBuffers (st : DriverState σ) : DriverState σ :=
  match releaseTransport cfg.shm st.mVariableParamMem st.shm free with
  | (param, shm) =>
    match releaseTransport cfg.shm st.mVariableResultMem shm free with
    | (result, shm) =>
      { st with mVariableParamMem := param, mVariableResultMem := result, shm := shm }

/-- `OpteeRuntimeOnExitBootServices`.  A failed signal resets the system; where `ResetSystem`
returns, the handler goes on. -/
def opteeRuntimeOnExitBootServices (ta : Ta σ) (st : DriverState σ) : DriverState σ :=
  -- without buffers of its own the signal passes four bytes of the transport's
  match opteeRuntimeVariableInvokeCommand ta .vsSignalExitBootServicesOp 4 4 st.services with
  | (_, _, s) => (st.withServices s).closeSession.releaseBuffers cfg free

end Exit

/-! ## Runs -/

/-- The driver, and the steps its initialisation has yet to make. -/
structure Lifecycle (σ : Type*) where
  driver : DriverState σ
  pending : List InitStep

/-- What happens to the driver. -/
inductive LifecycleOp (σ : Type*)
  | init (env : DriverEnv σ)
  | call (c : ServiceCall) (ta : Ta σ) (hook : HookEnv σ)
  | exitBootServices (ta : Ta σ) (free : Span → List Span → EfiStatus × List Span)
  | enterRuntime
  | shm (op : ShmOp)

/-- The GCD answers an allocation of a transport buffer as it may. -/
def MayAnswer (cfg : DriverConfig) (shm : ShmWorld) (gcdAnswer : Option ℕ) : Prop :=
  ∀ base, gcdAnswer = some base →
    GcdMayReturn cfg.shm shm.state.gcd base (allocBlockSize cfg.shm.arch cfg.memSize)

/-- The outcome of a step is one it may have. -/
def InitStep.Allowed {σ : Type*} (cfg : DriverConfig) (env : DriverEnv σ) (st : DriverState σ) :
    InitStep → Prop
  | .allocateParam => MayAnswer cfg st.shm env.paramAnswer
  | .allocateResult => MayAnswer cfg st.shm env.resultAnswer
  | _ => True

/-- The initialisation after its next step. -/
def Lifecycle.advance {σ : Type*} (cfg : DriverConfig) (env : DriverEnv σ) (s : Lifecycle σ)
    (step : InitStep) (rest : List InitStep) : Lifecycle σ :=
  match step.run cfg env s.driver with
  | (some _, st) => ⟨st, []⟩
  | (none, st) => ⟨st, rest⟩

/-- The driver from its load on.  The other clients of the allocator do not release the
buffers of the driver. -/
def lifecycleSystem {σ : Type*} (cfg : DriverConfig) :
    System (Lifecycle σ) (LifecycleOp σ) where
  Init s := s.driver.Fresh ∧ (shmSystem cfg.shm).Reachable s.driver.shm ∧ s.pending = initSteps
  Step
    | s, .init env, s' => ∃ step rest, s.pending = step :: rest ∧
        step.Allowed cfg env s.driver ∧ s' = s.advance cfg env step rest
    | s, .call c ta hook, s' => c.Published s.driver.gRT ∧
        s' = { s with driver := s.driver.call cfg.toAuthVarConfig c ta hook }
    | s, .exitBootServices ta free, s' => s.driver.exitBootServiceEvent = true ∧ GcdFrees free ∧
        s' = { s with driver := opteeRuntimeOnExitBootServices cfg free ta s.driver }
    | s, .enterRuntime, s' => s' = { s with driver := { s.driver with atRuntime := true } }
    | s, .shm op, s' => op.Allowed cfg.shm s.driver.shm ∧
        ¬ op.Releases s.driver.mVariableParamMem.buffer ∧
        ¬ op.Releases s.driver.mVariableResultMem.buffer ∧
        s' = { s with driver := { s.driver with shm := s.driver.shm.apply cfg.shm op } }

/-! ## The buffers -/

/-- The record has a live block of its size. -/
def Held (shm : ShmWorld) (mem : TeecSharedMemory) : Prop :=
  mem.buffer ≠ 0 ∧ mem.shadowBuffer = mem.buffer ∧
    ∃ b ∈ shm.live, b.user = mem.buffer ∧ b.size = mem.size

/-- Both transport buffers are there, with their recorded sizes, which are those that the
services check against. -/
structure DriverState.BuffersHeld {σ : Type*} (cfg : DriverConfig) (st : DriverState σ) :
    Prop where
  param : Held st.shm st.mVariableParamMem
  result : Held st.shm st.mVariableResultMem
  ne : st.mVariableParamMem.buffer ≠ st.mVariableResultMem.buffer
  paramSize : st.mVariableParamMem.size = cfg.memSize
  resultSize : st.mVariableResultMem.size = cfg.memSize

section Shm

variable {cfg : DriverConfig} {shm : ShmWorld} {mem : TeecSharedMemory} {b : ShmBlock}
  {gcdAnswer : Option ℕ} {op : ShmOp} {free : Span → List Span → EfiStatus × List Span}

/-- A block stays until its own pointer is released. -/
lemma mem_live_apply (hb : b ∈ shm.live) (hop : ¬ op.Releases b.user) :
    b ∈ (shm.apply cfg.shm op).live := by
  cases op with
  | memAlloc size gcdAnswer =>
      cases gcdAnswer with
      | none => exact hb
      | some base =>
          simp only [ShmWorld.apply, ShmWorld.allocated]
          split
          · exact hb
          · exact List.mem_cons_of_mem _ hb
  | alignedMemAlloc size byteAlignment gcdAnswer =>
      cases gcdAnswer with
      | none => exact hb
      | some base =>
          simp only [ShmWorld.apply, ShmWorld.allocated]
          split
          · exact hb
          · exact List.mem_cons_of_mem _ hb
  | memFree ptr free =>
      have hne : b.user ≠ ptr := fun h => hop ⟨free, by rw [h]⟩
      simp only [ShmWorld.apply]
      split
      · exact hb
      · exact (List.mem_eraseP_of_neg (by simpa using hne)).mpr hb
  | clientWrite b offset bytes => exact hb

lemma Held.apply (h : Held shm mem) (hop : ¬ op.Releases mem.buffer) :
    Held (shm.apply cfg.shm op) mem := by
  obtain ⟨hbuffer, hshadow, b, hb, huser, hsize⟩ := h
  exact ⟨hbuffer, hshadow, b, mem_live_apply hb (by rwa [huser]), huser, hsize⟩

lemma DriverConfig.fits (cfg : DriverConfig) : BlockFits cfg.shm cfg.memSize := by
  have hlt := cfg.blockSize_lt
  rwa [← cfg.shm_arch] at hlt

/-- The size of a transport block is not zero. -/
lemma MayAnswer.answers (h : MayAnswer cfg shm gcdAnswer) :
    GcdAnswers cfg.shm shm.state cfg.memSize gcdAnswer := by
  refine fun base hbase => ⟨?_, h base hbase⟩
  rw [allocBlockSize, Arch.uintn_of_lt cfg.fits]
  simp only [opteeShmAllocAlign, efiPageSize]
  omega

/-- With a range from the GCD the record gets a block that is new to the allocator. -/
lemma allocateTransport_some {base : ℕ} (h : ShmInv cfg.shm shm False)
    (hanswer : MayAnswer cfg shm (some base)) (hsize : mem.size = cfg.memSize)
    (hflags : mem.flags = 0) :
    allocateTransport cfg.shm mem shm (some base) = (teecSuccess,
        { mem with buffer := base + efiPageSize, shadowBuffer := base + efiPageSize },
        shm.apply cfg.shm (.memAlloc mem.size (some base))) ∧
      (shm.apply cfg.shm (.memAlloc mem.size (some base))).live =
        ⟨base, base + efiPageSize, mem.size⟩ :: shm.live ∧
      ShmInv cfg.shm (shm.apply cfg.shm (.memAlloc mem.size (some base))) False := by
  obtain ⟨huser, -, hinv⟩ := h.memAlloc_some cfg.fits hanswer.answers
  rw [← hsize] at huser hinv
  have hne : base + efiPageSize ≠ 0 := by
    rw [efiPageSize]
    omega
  have hworld : shm.apply cfg.shm (.memAlloc mem.size (some base)) =
      ⟨(opteeClientMemAlloc cfg.shm (some base) mem.size shm.state).2,
        ⟨base, base + efiPageSize, mem.size⟩ :: shm.live⟩ := by
    simp only [ShmWorld.apply, ShmWorld.allocated, huser, hne, if_false]
  rw [hworld]
  refine ⟨?_, rfl, hinv⟩
  have hsome := hne
  rw [← huser] at hsome
  simp only [allocateTransport, allocate_succeeded hflags hsome, if_true, Option.map_some, huser]
  rfl

/-- Without one nothing happens but that the record is cleared. -/
lemma allocateTransport_none (hflags : mem.flags = 0) :
    allocateTransport cfg.shm mem shm none =
      (teecErrorOutOfMemory, { mem with buffer := 0, shadowBuffer := 0 }, shm) := by
  have hnone : opteeClientMemAlloc cfg.shm none mem.size shm.state = (0, shm.state) := by
    simp only [opteeClientMemAlloc, internalMemAlloc, badAlignment_byteAlignment,
      Bool.false_eq_true, if_false]
  simp only [allocateTransport, allocate_failed hflags (congrArg Prod.fst hnone), rejected_ne.2,
    if_false, hnone]
  rfl

/-- What `TEEC_AllocateSharedMemory` makes of an answer of the GCD: nothing, or a block of the
size that is new to the allocator. -/
lemma allocateTransport_spec (h : ShmInv cfg.shm shm False)
    (hanswer : MayAnswer cfg shm gcdAnswer) (hsize : mem.size = cfg.memSize)
    (hflags : mem.flags = 0) :
    ∃ result mem' shm', allocateTransport cfg.shm mem shm gcdAnswer = (result, mem', shm') ∧
      ShmInv cfg.shm shm' False ∧ (∀ b ∈ shm.live, b ∈ shm'.live) ∧
      mem'.size = mem.size ∧ mem'.flags = mem.flags ∧
      (result = teecSuccess → Held shm' mem' ∧ ∀ b ∈ shm.live, b.user ≠ mem'.buffer) := by
  cases gcdAnswer with
  | none =>
      exact ⟨_, _, _, allocateTransport_none hflags, h, fun _ => id, rfl, rfl,
        fun hres => absurd hres rejected_ne.2⟩
  | some base =>
      obtain ⟨hrun, hlive, hinv⟩ := allocateTransport_some h hanswer hsize hflags
      have hblock : ⟨base, base + efiPageSize, mem.size⟩ ∈
          (shm.apply cfg.shm (.memAlloc mem.size (some base))).live := by
        rw [hlive]
        exact List.mem_cons_self
      have hold : ∀ b ∈ shm.live,
          b ∈ (shm.apply cfg.shm (.memAlloc mem.size (some base))).live := by
        intro b hb
        rw [hlive]
        exact List.mem_cons_of_mem _ hb
      refine ⟨_, _, _, hrun, hinv, hold, rfl, rfl, fun _ => ⟨⟨?_, rfl, _, hblock, rfl, rfl⟩,
        fun b hb heq => ?_⟩⟩
      · simp only [efiPageSize]
        omega
      · -- two blocks with one pointer are one, and twice among the live ones
        obtain rfl := hinv.eq_of_user (hold b hb) hblock heq
        have hapart := hinv.apart
        rw [hlive] at hapart
        have hself := (List.pairwise_cons.mp hapart).1 _ hb
        have hpos := (hanswer.answers base rfl).1
        rw [← hsize] at hpos
        simp only [Span.Apart, ShmBlock.span] at hself
        omega

/-- `TEEC_ReleaseSharedMemory` of a record that has its block: the block goes, or both stay. -/
lemma releaseTransport_held (h : ShmInv cfg.shm shm False) (hmem : Held shm mem)
    (hfree : GcdFrees free) :
    ∃ mem', releaseTransport cfg.shm mem shm free =
        (mem', shm.apply cfg.shm (.memFree mem.buffer free)) ∧
      (mem'.buffer = 0 ∨
        mem' = mem ∧ Held (shm.apply cfg.shm (.memFree mem.buffer free)) mem) ∧
      ShmInv cfg.shm (shm.apply cfg.shm (.memFree mem.buffer free)) False := by
  obtain ⟨hbuffer, hshadow, b, hb, huser, hsize⟩ := hmem
  have hinv := h.memFree ⟨.inl ⟨b, hb, huser⟩, hfree⟩
  by_cases herror :
      (opteeClientMemFree cfg.shm free mem.buffer shm.state).1.isError = true
  · have hlive : (shm.apply cfg.shm (.memFree mem.buffer free)).live = shm.live := if_pos herror
    refine ⟨mem, ?_, .inr ⟨rfl, hbuffer, hshadow, b, ?_, huser, hsize⟩, hinv⟩
    · simp only [releaseTransport, TeecSharedMemory.release, hbuffer, hshadow, if_false, herror,
        if_true, and_false, ShmWorld.apply]
    · rwa [hlive]
  · refine ⟨{ mem with shadowBuffer := 0, buffer := 0, size := 0 }, ?_, .inl rfl, hinv⟩
    simp only [releaseTransport, TeecSharedMemory.release, hbuffer, hshadow, if_false, herror,
      ne_eq, not_false_eq_true, and_self, if_true, ShmWorld.apply, Bool.false_eq_true]

/-- `TEEC_ReleaseSharedMemory` of a record without a buffer. -/
lemma releaseTransport_null (hmem : mem.buffer = 0) :
    releaseTransport cfg.shm mem shm free = (mem, shm) := by
  have hnot : ¬ (mem.shadowBuffer ≠ 0 ∧ mem.shadowBuffer = 0) := fun h => h.1 h.2
  simp only [releaseTransport, TeecSharedMemory.release, hmem, if_true, if_neg hnot]

end Shm

/-! ## The invariant -/

section Invariant

variable {σ : Type*} {cfg : DriverConfig} {env : DriverEnv σ} {st st' : DriverState σ}
  {s : Lifecycle σ} {k : ℕ} {free : Span → List Span → EfiStatus × List Span}

/-- What the initialisation has reached before its step `k`. -/
structure Stage (cfg : DriverConfig) (k : ℕ) (st : DriverState σ) : Prop where
  unpublished : k < 5 → ¬ st.gRT.Published
  flags : k < 5 → st.mVariableParamMem.flags = 0 ∧ st.mVariableResultMem.flags = 0
  param : k = 4 → Held st.shm st.mVariableParamMem ∧ st.mVariableParamMem.size = cfg.memSize
  held : 5 ≤ k → k < 10 → st.BuffersHeld cfg

/-- Each buffer is there or has been released. -/
structure DriverState.Releasable (st : DriverState σ) : Prop where
  param : st.mVariableParamMem.buffer = 0 ∨ Held st.shm st.mVariableParamMem
  result : st.mVariableResultMem.buffer = 0 ∨ Held st.shm st.mVariableResultMem
  ne : st.mVariableParamMem.buffer ≠ 0 →
    st.mVariableParamMem.buffer ≠ st.mVariableResultMem.buffer

lemma DriverState.BuffersHeld.releasable (h : st.BuffersHeld cfg) : st.Releasable :=
  ⟨.inr h.param, .inr h.result, fun _ => h.ne⟩

/-- The invariant of the driver. -/
structure LifecycleInv (cfg : DriverConfig) (s : Lifecycle σ) : Prop where
  shm : ShmInv cfg.shm s.driver.shm False
  published : s.driver.gRT.Published → s.driver.mTeecSessionOpened = true →
    s.driver.BuffersHeld cfg
  event : s.driver.exitBootServiceEvent = true →
    s.pending = [] ∧ s.driver.Releasable
  stage : ∃ k, s.pending = initSteps.drop k ∧ Stage cfg k s.driver

/-- Nothing that the invariant is about differs, but a session may have been closed. -/
structure SameTransport (st st' : DriverState σ) : Prop where
  shm : st'.shm = st.shm
  param : st'.mVariableParamMem = st.mVariableParamMem
  result : st'.mVariableResultMem = st.mVariableResultMem
  gRT : st'.gRT = st.gRT

lemma SameTransport.buffersHeld (h : SameTransport st st') (hheld : st.BuffersHeld cfg) :
    st'.BuffersHeld cfg := by
  obtain ⟨hparam, hresult, hne, hparamSize, hresultSize⟩ := hheld
  refine ⟨?_, ?_, ?_, ?_, ?_⟩
  · rwa [h.shm, h.param]
  · rwa [h.shm, h.result]
  · rwa [h.param, h.result]
  · rwa [h.param]
  · rwa [h.result]

lemma SameTransport.releasable (h : SameTransport st st') (hst : st.Releasable) :
    st'.Releasable := by
  obtain ⟨hparam, hresult, hne⟩ := hst
  refine ⟨?_, ?_, ?_⟩
  · rwa [h.shm, h.param]
  · rwa [h.shm, h.result]
  · rwa [h.param, h.result]

lemma SameTransport.stage (h : SameTransport st st') (hstage : Stage cfg k st) :
    Stage cfg k st' where
  unpublished hk := by
    rw [h.gRT]
    exact hstage.unpublished hk
  flags hk := by
    rw [h.param, h.result]
    exact hstage.flags hk
  param hk := by
    rw [h.shm, h.param]
    exact hstage.param hk
  held hk hk' := h.buffersHeld (hstage.held hk hk')

lemma LifecycleInv.of_sameTransport {pending : List InitStep}
    (h : LifecycleInv cfg ⟨st, pending⟩) (hsame : SameTransport st st')
    (hsession : st'.mTeecSessionOpened = true → st.mTeecSessionOpened = true)
    (hevent : st'.exitBootServiceEvent = st.exitBootServiceEvent) :
    LifecycleInv cfg ⟨st', pending⟩ where
  shm := by
    show ShmInv cfg.shm st'.shm False
    rw [hsame.shm]
    exact h.shm
  published hpub hopen := by
    refine hsame.buffersHeld (h.published ?_ (hsession hopen))
    show st.gRT.Published
    rwa [← hsame.gRT]
  event hset := by
    obtain ⟨hpending, hbuffers⟩ := h.event (hevent.symm.trans hset)
    exact ⟨hpending, hsame.releasable hbuffers⟩
  stage := by
    obtain ⟨k, hpending, hstage⟩ := h.stage
    exact ⟨k, hpending, hsame.stage hstage⟩

/-! ### Service calls -/

lemma sameTransport_withServices {s : AuthVarState σ} : SameTransport st (st.withServices s) :=
  ⟨rfl, rfl, rfl, rfl⟩

lemma session_withServices {s : AuthVarState σ} (h : Keeps st.services s) :
    (st.withServices s).mTeecSessionOpened = st.mTeecSessionOpened := h.session

lemma LifecycleInv.call (h : LifecycleInv cfg s) {c : ServiceCall} {ta : Ta σ}
    {hook : HookEnv σ} : LifecycleInv cfg
      { s with driver := s.driver.call cfg.toAuthVarConfig c ta hook } := by
  refine LifecycleInv.of_sameTransport h sameTransport_withServices (fun hopen => ?_) rfl
  rwa [DriverState.call, session_withServices ServiceCall.keeps_run] at hopen

/-! ### The other clients of the allocator -/

lemma LifecycleInv.shmOp (h : LifecycleInv cfg s) {op : ShmOp}
    (hallowed : op.Allowed cfg.shm s.driver.shm)
    (hparam : ¬ op.Releases s.driver.mVariableParamMem.buffer)
    (hresult : ¬ op.Releases s.driver.mVariableResultMem.buffer) : LifecycleInv cfg
      { s with driver := { s.driver with shm := s.driver.shm.apply cfg.shm op } } := by
  have hheld : s.driver.BuffersHeld cfg → DriverState.BuffersHeld cfg
      { s.driver with shm := s.driver.shm.apply cfg.shm op } :=
    fun hheld => ⟨hheld.param.apply hparam, hheld.result.apply hresult, hheld.ne,
      hheld.paramSize, hheld.resultSize⟩
  refine ⟨h.shm.step hallowed, fun hpub hopen => hheld (h.published hpub hopen), fun hset => ?_,
    ?_⟩
  · obtain ⟨hpending, hbuffers⟩ := h.event hset
    exact ⟨hpending, hbuffers.param.imp_right (Held.apply · hparam),
      hbuffers.result.imp_right (Held.apply · hresult), hbuffers.ne⟩
  · obtain ⟨k, hpending, hstage⟩ := h.stage
    exact ⟨k, hpending, hstage.unpublished, hstage.flags,
      fun hk => ⟨(hstage.param hk).1.apply hparam, (hstage.param hk).2⟩,
      fun hk hk' => hheld (hstage.held hk hk')⟩

/-! ### ExitBootServices -/

lemma closeSession_session : st.closeSession.mTeecSessionOpened = false := by
  unfold DriverState.closeSession
  split
  · rfl
  next h => simpa using h

lemma sameTransport_closeSession : SameTransport st st.closeSession := by
  unfold DriverState.closeSession
  split
  · exact ⟨rfl, rfl, rfl, rfl⟩
  · exact ⟨rfl, rfl, rfl, rfl⟩

/-- Releasing a record with its block, if it has one, leaves it with the block or without a
buffer, and other blocks alone. -/
lemma releaseTransport_spec {mem : TeecSharedMemory} {shm : ShmWorld}
    (hshm : ShmInv cfg.shm shm False) (hmem : mem.buffer = 0 ∨ Held shm mem)
    (hfree : GcdFrees free) :
    ∃ mem' shm', releaseTransport cfg.shm mem shm free = (mem', shm') ∧
      ShmInv cfg.shm shm' False ∧ (mem'.buffer = 0 ∨ mem' = mem ∧ Held shm' mem) ∧
      ∀ other, Held shm other → mem.buffer ≠ other.buffer → Held shm' other := by
  rcases hmem with hnull | hheld
  · exact ⟨mem, shm, releaseTransport_null hnull, hshm, .inl hnull, fun _ h _ => h⟩
  · obtain ⟨mem', hrun, hmem', hinv⟩ := releaseTransport_held hshm hheld hfree
    refine ⟨mem', _, hrun, hinv, hmem', fun other hother hne => hother.apply ?_⟩
    rintro ⟨_, heq⟩
    exact hne (ShmOp.memFree.inj heq).1

/-- Both buffers are released, one after the other. -/
lemma releaseBuffers_spec (hshm : ShmInv cfg.shm st.shm False) (hst : st.Releasable)
    (hfree : GcdFrees free) : (st.releaseBuffers cfg free).Releasable ∧
      ShmInv cfg.shm (st.releaseBuffers cfg free).shm False := by
  obtain ⟨hparam, hresult, hne⟩ := hst
  obtain ⟨param, shm, hfirst, hinv, hparam', hother⟩ :=
    @releaseTransport_spec cfg free _ _ hshm hparam hfree
  have hresult' : st.mVariableResultMem.buffer = 0 ∨ Held shm st.mVariableResultMem := by
    by_cases hnull : st.mVariableResultMem.buffer = 0
    · exact .inl hnull
    · refine .inr (hother _ (hresult.resolve_left hnull) fun heq => ?_)
      exact hne (by rwa [heq]) heq
  obtain ⟨result, shm', hsecond, hinv', hresult'', hother'⟩ :=
    @releaseTransport_spec cfg free _ _ hinv hresult' hfree
  simp only [DriverState.releaseBuffers, hfirst, hsecond]
  refine ⟨⟨?_, ?_, ?_⟩, hinv'⟩
  · rcases hparam' with hnull | ⟨rfl, hheld⟩
    · exact .inl hnull
    · exact .inr (hother' _ hheld fun heq => hne hheld.1 heq.symm)
  · exact hresult''.imp_right fun ⟨heq, hheld⟩ => by rwa [heq]
  · intro hset
    obtain ⟨rfl, -⟩ := hparam'.resolve_left hset
    rcases hresult'' with hnull | ⟨rfl, -⟩
    · rwa [hnull]
    · exact hne hset

/-- The handler closes the session and releases the buffers. -/
lemma exitBootServices_spec {ta : Ta σ} (hshm : ShmInv cfg.shm st.shm False)
    (hst : st.Releasable) (hfree : GcdFrees free) :
    (opteeRuntimeOnExitBootServices cfg free ta st).mTeecSessionOpened = false ∧
      (opteeRuntimeOnExitBootServices cfg free ta st).Releasable ∧
      ShmInv cfg.shm (opteeRuntimeOnExitBootServices cfg free ta st).shm False := by
  have hsame : SameTransport st (st.withServices (opteeRuntimeVariableInvokeCommand ta
      .vsSignalExitBootServicesOp 4 4 st.services).2.2).closeSession := by
    obtain ⟨h₀, h₁, h₂, h₃⟩ := @sameTransport_closeSession σ
      (st.withServices (opteeRuntimeVariableInvokeCommand ta
        .vsSignalExitBootServicesOp 4 4 st.services).2.2)
    exact ⟨h₀, h₁, h₂, h₃⟩
  have hinv := hshm
  rw [← hsame.shm] at hinv
  exact ⟨closeSession_session, releaseBuffers_spec hinv (hsame.releasable hst) hfree⟩

lemma LifecycleInv.exitBootServices (h : LifecycleInv cfg s) {ta : Ta σ}
    (hset : s.driver.exitBootServiceEvent = true) (hfree : GcdFrees free) : LifecycleInv cfg
      { s with driver := opteeRuntimeOnExitBootServices cfg free ta s.driver } := by
  obtain ⟨hpending, hbuffers⟩ := h.event hset
  obtain ⟨hsession, hreleased, hshm⟩ :=
    @exitBootServices_spec σ cfg s.driver free ta h.shm hbuffers hfree
  refine ⟨hshm, fun _ hopen => ?_, fun _ => ⟨hpending, hreleased⟩, 10, hpending, ?_⟩
  · rw [hsession] at hopen
    cases hopen
  · exact ⟨fun hk => absurd hk (by decide), fun hk => absurd hk (by decide),
      fun hk => absurd hk (by decide), fun _ hk => absurd hk (by decide)⟩

/-! ### Initialisation -/

lemma advance_eq {step : InitStep} {rest : List InitStep} : s.advance cfg env step rest =
    ⟨(step.run cfg env s.driver).2, if (step.run cfg env s.driver).1.isSome then [] else rest⟩ := by
  unfold Lifecycle.advance
  split
  next h => rw [h]; rfl
  next h => rw [h]; rfl

/-- What is to be shown of a step: the next stage is reached where it goes on. -/
lemma LifecycleInv.of_step {step : InitStep} {rest : List InitStep}
    (hshm : ShmInv cfg.shm (step.run cfg env st).2.shm False)
    (hheld : (step.run cfg env st).2.gRT.Published → (step.run cfg env st).2.BuffersHeld cfg)
    (hevent : (step.run cfg env st).2.exitBootServiceEvent = true →
      rest = [] ∧ (step.run cfg env st).2.BuffersHeld cfg)
    (hnext : (step.run cfg env st).1 = none →
      rest = initSteps.drop k ∧ Stage cfg k (step.run cfg env st).2) :
    LifecycleInv cfg (Lifecycle.advance cfg env ⟨st, step :: rest⟩ step rest) := by
  rw [advance_eq]
  refine ⟨hshm, fun hpub _ => hheld hpub, fun hset => ?_, ?_⟩
  · obtain ⟨hrest, hbuffers⟩ := hevent hset
    exact ⟨by simp [hrest], hbuffers.releasable⟩
  · cases hrun : (step.run cfg env st).1 with
    | none =>
        obtain ⟨hrest, hstage⟩ := hnext hrun
        exact ⟨k, by simpa [hrun] using hrest, hstage⟩
    | some status =>
        refine ⟨10, rfl, ?_⟩
        exact ⟨fun hk => absurd hk (by decide), fun hk => absurd hk (by decide),
          fun hk => absurd hk (by decide), fun _ hk => absurd hk (by decide)⟩

/-- A step before the buffers. -/
lemma LifecycleInv.of_early {step : InitStep} {rest : List InitStep} (hk : k < 3)
    (hshm : ShmInv cfg.shm st.shm False) (hstage : Stage cfg k st)
    (hevent : st.exitBootServiceEvent = false) (hrest : rest = initSteps.drop (k + 1))
    (hsame : SameTransport st (step.run cfg env st).2)
    (hsameEvent : (step.run cfg env st).2.exitBootServiceEvent = st.exitBootServiceEvent) :
    LifecycleInv cfg (Lifecycle.advance cfg env ⟨st, step :: rest⟩ step rest) := by
  have hpub : ¬ (step.run cfg env st).2.gRT.Published := by
    rw [hsame.gRT]
    exact hstage.unpublished (by omega)
  refine .of_step (by rwa [hsame.shm]) (fun h => absurd h hpub) (fun hset => ?_)
    fun _ => ⟨hrest, fun _ => hpub, fun _ => ?_, fun hk' => by omega, fun hk' => by omega⟩
  · rw [hsameEvent, hevent] at hset
    cases hset
  · rw [hsame.param, hsame.result]
    exact hstage.flags (by omega)

/-- A step behind the buffers. -/
lemma LifecycleInv.of_late {step : InitStep} {rest : List InitStep} (hk : 5 ≤ k)
    (hshm : ShmInv cfg.shm (step.run cfg env st).2.shm False)
    (hheld : (step.run cfg env st).2.BuffersHeld cfg) (hrest : rest = initSteps.drop (k + 1))
    (hevent : (step.run cfg env st).2.exitBootServiceEvent = true → rest = []) :
    LifecycleInv cfg (Lifecycle.advance cfg env ⟨st, step :: rest⟩ step rest) :=
  .of_step hshm (fun _ => hheld) (fun hset => ⟨hevent hset, hheld⟩)
    fun _ => ⟨hrest, fun hk' => by omega, fun hk' => by omega, fun hk' => by omega,
      fun _ _ => hheld⟩

lemma run_allocateParam {result : TeecResult} {mem : TeecSharedMemory} {shm : ShmWorld}
    (h : allocateTransport cfg.shm { st.mVariableParamMem with size := cfg.memSize } st.shm
      env.paramAnswer = (result, mem, shm)) : InitStep.run cfg env .allocateParam st =
      (if result ≠ teecSuccess then some .outOfResources else none,
        { st with mVariableParamMem := mem, shm := shm }) := by
  simp only [InitStep.run, h]

lemma run_allocateResult {result : TeecResult} {mem : TeecSharedMemory} {shm : ShmWorld}
    (h : allocateTransport cfg.shm
      { st.mVariableResultMem with size := st.mVariableParamMem.size } st.shm
      env.resultAnswer = (result, mem, shm)) : InitStep.run cfg env .allocateResult st =
      (if result ≠ teecSuccess then some .outOfResources else none,
        { st with mVariableResultMem := mem, shm := shm }) := by
  simp only [InitStep.run, h]

lemma run_initSecureBootVariables : InitStep.run cfg env .initSecureBootVariables st =
      (exitOnError (env.secureBoot.initSecureBootVariables cfg.toAuthVarConfig st.services).1,
        st.withServices
          (env.secureBoot.initSecureBootVariables cfg.toAuthVarConfig st.services).2) := rfl

/-- The step that allocates the first buffer. -/
lemma LifecycleInv.allocateParam {rest : List InitStep} (hshm : ShmInv cfg.shm st.shm False)
    (hstage : Stage cfg 3 st) (hevent : st.exitBootServiceEvent = false)
    (hrest : rest = initSteps.drop 4) (hanswer : MayAnswer cfg st.shm env.paramAnswer) :
    LifecycleInv cfg (Lifecycle.advance cfg env ⟨st, .allocateParam :: rest⟩ .allocateParam
      rest) := by
  obtain ⟨hparamFlags, hresultFlags⟩ := hstage.flags (by decide)
  obtain ⟨result, mem, shm, heq, hinv, -, hsize, hflags, hheld⟩ := @allocateTransport_spec cfg
    st.shm { st.mVariableParamMem with size := cfg.memSize } env.paramAnswer hshm hanswer rfl
    hparamFlags
  have hpub := hstage.unpublished (by decide)
  have hrun := run_allocateParam heq
  refine .of_step (k := 4) (by rw [hrun]; exact hinv) ?_ ?_ ?_
  · rw [hrun]
    exact fun h => absurd h hpub
  · rw [hrun]
    exact fun hset => absurd (hset.symm.trans hevent) (by decide)
  · rw [hrun]
    intro hgo
    have hok : result = teecSuccess := by
      by_contra hne
      simp [hne] at hgo
    exact ⟨hrest, fun _ => hpub, fun _ => ⟨hflags.trans hparamFlags, hresultFlags⟩,
      fun _ => ⟨(hheld hok).1, hsize⟩, fun hk' => by omega⟩

/-- The step that allocates the second buffer, which is not the first. -/
lemma LifecycleInv.allocateResult {rest : List InitStep} (hshm : ShmInv cfg.shm st.shm False)
    (hstage : Stage cfg 4 st) (hevent : st.exitBootServiceEvent = false)
    (hrest : rest = initSteps.drop 5) (hanswer : MayAnswer cfg st.shm env.resultAnswer) :
    LifecycleInv cfg (Lifecycle.advance cfg env ⟨st, .allocateResult :: rest⟩ .allocateResult
      rest) := by
  obtain ⟨hparam, hparamSize⟩ := hstage.param rfl
  obtain ⟨result, mem, shm, heq, hinv, hlive, hsize, -, hheld⟩ := @allocateTransport_spec cfg
    st.shm { st.mVariableResultMem with size := st.mVariableParamMem.size } env.resultAnswer
    hshm hanswer hparamSize (hstage.flags (by decide)).2
  have hpub := hstage.unpublished (by decide)
  have hrun := run_allocateResult heq
  refine .of_step (k := 5) (by rw [hrun]; exact hinv) ?_ ?_ ?_
  · rw [hrun]
    exact fun h => absurd h hpub
  · rw [hrun]
    exact fun hset => absurd (hset.symm.trans hevent) (by decide)
  · rw [hrun]
    intro hgo
    have hok : result = teecSuccess := by
      by_contra hne
      simp [hne] at hgo
    obtain ⟨hresult, hnew⟩ := hheld hok
    obtain ⟨hbuffer, hshadow, b, hb, huser, hblock⟩ := hparam
    have hparam' : Held shm st.mVariableParamMem :=
      ⟨hbuffer, hshadow, b, hlive b hb, huser, hblock⟩
    refine ⟨hrest, fun hk' => by omega, fun hk' => by omega, fun hk' => by omega,
      fun _ _ => ⟨hparam', hresult, ?_, hparamSize, hsize.trans hparamSize⟩⟩
    rw [← huser]
    exact hnew b hb

/-- The steps that touch neither the buffers nor `gRT`. -/
lemma sameTransport_run {step : InitStep} (hparam : step ≠ .allocateParam)
    (hresult : step ≠ .allocateResult) (hpublish : step ≠ .publishServices) :
    SameTransport st (step.run cfg env st).2 := by
  cases step with
  | allocateParam => exact absurd rfl hparam
  | allocateResult => exact absurd rfl hresult
  | publishServices => exact absurd rfl hpublish
  | opteeClientApiInitialize => exact ⟨rfl, rfl, rfl, rfl⟩
  | initSecureBootVariables => exact sameTransport_withServices
  | teecInitializeContext | teecOpenSession | installVariableArch | installVariableWriteArch
  | createEvent =>
      simp only [InitStep.run]
      split
      · exact ⟨rfl, rfl, rfl, rfl⟩
      · exact ⟨rfl, rfl, rfl, rfl⟩

/-- The event is created by the last step. -/
lemma event_run {step : InitStep} (hstep : step ≠ .createEvent) :
    (step.run cfg env st).2.exitBootServiceEvent = st.exitBootServiceEvent := by
  cases step with
  | createEvent => exact absurd rfl hstep
  | opteeClientApiInitialize | initSecureBootVariables | publishServices | allocateParam
  | allocateResult => rfl
  | teecInitializeContext | teecOpenSession | installVariableArch | installVariableWriteArch =>
      simp only [InitStep.run]
      split
      · rfl
      · rfl

/-- A step of the initialisation keeps the invariant. -/
lemma LifecycleInv.advance {step : InitStep} {rest : List InitStep}
    (h : LifecycleInv cfg ⟨st, step :: rest⟩) (hallowed : step.Allowed cfg env st) :
    LifecycleInv cfg (Lifecycle.advance cfg env ⟨st, step :: rest⟩ step rest) := by
  obtain ⟨k, hpending, hstage⟩ := h.stage
  have hshm : ShmInv cfg.shm st.shm False := h.shm
  have hevent : st.exitBootServiceEvent = false := by
    by_contra hset
    have hnil := (h.event (by simpa using hset)).1
    cases hnil
  have hk : k < 10 := by
    by_contra hge
    have hnil : initSteps.drop k = [] :=
      List.drop_of_length_le (show initSteps.length ≤ k from Nat.not_lt.mp hge)
    rw [hnil] at hpending
    cases hpending
  have hlate : step ≠ .createEvent →
      (step.run cfg env st).2.exitBootServiceEvent = true → rest = [] := fun hne hset =>
    absurd (((event_run hne).symm.trans hset).symm.trans hevent) (by decide)
  interval_cases k
  all_goals obtain ⟨rfl, hrest⟩ := List.cons.inj hpending
  · exact .of_early (by decide) hshm hstage hevent hrest
      (sameTransport_run (by decide) (by decide) (by decide)) (event_run (by decide))
  · exact .of_early (by decide) hshm hstage hevent hrest
      (sameTransport_run (by decide) (by decide) (by decide)) (event_run (by decide))
  · exact .of_early (by decide) hshm hstage hevent hrest
      (sameTransport_run (by decide) (by decide) (by decide)) (event_run (by decide))
  · exact .allocateParam hshm hstage hevent hrest hallowed
  · exact .allocateResult hshm hstage hevent hrest hallowed
  · have hsame := @sameTransport_run σ cfg env st .initSecureBootVariables (by decide)
      (by decide) (by decide)
    exact .of_late (k := 5) (by decide) (by rwa [hsame.shm])
      (hsame.buffersHeld (hstage.held (by decide) (by decide))) hrest (hlate (by decide))
  · -- the pointers of `gRT` are set
    obtain ⟨hparam, hresult, hne, hparamSize, hresultSize⟩ :=
      hstage.held (by decide) (by decide)
    exact .of_late (k := 6) (by decide) hshm ⟨hparam, hresult, hne, hparamSize, hresultSize⟩
      hrest (hlate (by decide))
  · have hsame := @sameTransport_run σ cfg env st .installVariableArch (by decide)
      (by decide) (by decide)
    exact .of_late (k := 7) (by decide) (by rwa [hsame.shm])
      (hsame.buffersHeld (hstage.held (by decide) (by decide))) hrest (hlate (by decide))
  · have hsame := @sameTransport_run σ cfg env st .installVariableWriteArch (by decide)
      (by decide) (by decide)
    exact .of_late (k := 8) (by decide) (by rwa [hsame.shm])
      (hsame.buffersHeld (hstage.held (by decide) (by decide))) hrest (hlate (by decide))
  · have hsame := @sameTransport_run σ cfg env st .createEvent (by decide)
      (by decide) (by decide)
    exact .of_late (k := 9) (by decide) (by rwa [hsame.shm])
      (hsame.buffersHeld (hstage.held (by decide) (by decide))) hrest fun _ => hrest

/-- The driver as it is loaded. -/
lemma LifecycleInv.init (hfresh : s.driver.Fresh) (hshm : (shmSystem cfg.shm).Reachable s.driver.shm)
    (hpending : s.pending = initSteps) : LifecycleInv cfg s where
  shm := shmInv_of_reachable hshm
  published hpub := absurd hpub hfresh.gRT
  event hset := by
    rw [hfresh.exitBootServiceEvent] at hset
    cases hset
  stage := by
    refine ⟨0, hpending, fun _ => hfresh.gRT, fun _ => ?_, fun hk => absurd hk (by decide),
      fun hk => absurd hk (by decide)⟩
    rw [hfresh.param, hfresh.result]
    exact ⟨rfl, rfl⟩

/-- Every step keeps the invariant. -/
lemma LifecycleInv.step {s' : Lifecycle σ} {op : LifecycleOp σ} (h : LifecycleInv cfg s)
    (hstep : (lifecycleSystem cfg).Step s op s') : LifecycleInv cfg s' := by
  cases op with
  | init env =>
      obtain ⟨step, rest, hpending, hallowed, rfl⟩ := hstep
      obtain ⟨st, pending⟩ := s
      obtain rfl : pending = step :: rest := hpending
      exact h.advance hallowed
  | call c ta hook =>
      obtain ⟨-, rfl⟩ := hstep
      exact h.call
  | exitBootServices ta free =>
      obtain ⟨hset, hfree, rfl⟩ := hstep
      exact h.exitBootServices hset hfree
  | enterRuntime =>
      obtain rfl := hstep
      exact LifecycleInv.of_sameTransport h ⟨rfl, rfl, rfl, rfl⟩ id rfl
  | shm op =>
      obtain ⟨hallowed, hparam, hresult, rfl⟩ := hstep
      exact h.shmOp hallowed hparam hresult

variable (env) in
/-- The initialisation goes on to its next step. -/
lemma reachable_advance {step : InitStep} {rest : List InitStep}
    (h : (lifecycleSystem cfg).Reachable ⟨st, step :: rest⟩) (hallowed : step.Allowed cfg env st)
    (hrun : step.run cfg env st = (none, st')) :
    (lifecycleSystem cfg).Reachable ⟨st', rest⟩ := by
  have hadvance : Lifecycle.advance cfg env ⟨st, step :: rest⟩ step rest = ⟨st', rest⟩ := by
    simp only [Lifecycle.advance, hrun]
  rw [← hadvance]
  exact h.step (show (lifecycleSystem cfg).Step ⟨st, step :: rest⟩ (.init env) _ from
    ⟨step, rest, rfl, hallowed, rfl⟩)

lemma lifecycleInv_of_reachable (h : (lifecycleSystem cfg).Reachable s) : LifecycleInv cfg s :=
  h.invariant (fun _ hinit => .init hinit.1 hinit.2.1 hinit.2.2) fun _ _ _ hs hstep => hs.step hstep

end Invariant

/-! ## Safety -/

section Safety

variable {σ : Type*} {cfg : DriverConfig} {s s' : Lifecycle σ}

/-- A call that may come: through `gRT`, or from `InitSecureBootVariables`. -/
def Lifecycle.MayCall (s : Lifecycle σ) (c : ServiceCall) : Prop :=
  c.Published s.driver.gRT ∨ s.pending.head? = some .initSecureBootVariables

/-- What the driver promises in a state: published services with a session have both buffers,
a call that does not have them touches nothing, and no call touches anything once
`ExitBootServices` has been notified. -/
structure LifecycleSafe (cfg : DriverConfig) (s : Lifecycle σ) : Prop where
  buffers : s.driver.gRT.Published → s.driver.mTeecSessionOpened = true →
    s.driver.BuffersHeld cfg
  calls : ∀ c : ServiceCall, s.MayCall c →
    s.driver.BuffersHeld cfg ∨ c.LeavesAlone cfg.toAuthVarConfig s.driver.services
  afterExit : ∀ ta free s₁ ops s₂, (lifecycleSystem cfg).Step s (.exitBootServices ta free) s₁ →
    (lifecycleSystem cfg).Run s₁ ops s₂ →
    ∀ c : ServiceCall, c.LeavesAlone cfg.toAuthVarConfig s₂.driver.services

lemma LifecycleInv.held_of_initSecureBootVariables (h : LifecycleInv cfg s)
    (hhead : s.pending.head? = some .initSecureBootVariables) : s.driver.BuffersHeld cfg := by
  obtain ⟨k, hpending, hstage⟩ := h.stage
  rw [hpending] at hhead
  have hk : k < 10 := by
    by_contra hge
    have hnil : initSteps.drop k = [] :=
      List.drop_of_length_le (show initSteps.length ≤ k from Nat.not_lt.mp hge)
    rw [hnil] at hhead
    cases hhead
  refine hstage.held ?_ hk
  by_contra hlt
  interval_cases k
  all_goals cases hhead

/-- The session stays closed once the initialisation is over. -/
lemma closed_step {op : LifecycleOp σ}
    (h : s.driver.mTeecSessionOpened = false ∧ s.pending = [])
    (hstep : (lifecycleSystem cfg).Step s op s') :
    s'.driver.mTeecSessionOpened = false ∧ s'.pending = [] := by
  obtain ⟨hsession, hpending⟩ := h
  cases op with
  | init env =>
      obtain ⟨step, rest, hcons, -, -⟩ := hstep
      rw [hpending] at hcons
      cases hcons
  | call c ta hook =>
      obtain ⟨-, rfl⟩ := hstep
      exact ⟨(session_withServices ServiceCall.keeps_run).trans hsession, hpending⟩
  | exitBootServices ta free =>
      obtain ⟨-, -, rfl⟩ := hstep
      exact ⟨closeSession_session, hpending⟩
  | enterRuntime =>
      obtain rfl := hstep
      exact ⟨hsession, hpending⟩
  | shm op =>
      obtain ⟨-, -, -, rfl⟩ := hstep
      exact ⟨hsession, hpending⟩

/-- Over every run the driver keeps what it promises. -/
theorem lifecycleSafe_of_reachable (cfg : DriverConfig) (s : Lifecycle σ)
    (h : (lifecycleSystem cfg).Reachable s) : LifecycleSafe cfg s := by
  have hinv := lifecycleInv_of_reachable h
  refine ⟨hinv.published, fun c hcall => ?_, fun ta free s₁ ops s₂ hexit hrun c => ?_⟩
  · by_cases hsession : s.driver.mTeecSessionOpened = true
    · rcases hcall with hpub | hhead
      · exact .inl (hinv.published ⟨c, hpub⟩ hsession)
      · exact .inl (hinv.held_of_initSecureBootVariables hhead)
    · exact .inr (ServiceCall.leavesAlone_of_noSession
        (show s.driver.mTeecSessionOpened = false by simpa using hsession))
  · obtain ⟨hset, -, rfl⟩ := hexit
    have hclosed := hrun.invariant (fun _ _ _ => closed_step)
      ⟨closeSession_session, (hinv.event hset).1⟩
    exact ServiceCall.leavesAlone_of_noSession hclosed.1

end Safety

/-- A TA to which every command succeeds. -/
def willingTa : Ta Unit := fun _ s => (⟨teecSuccess, [], 0⟩, s)

/-- Every step succeeds, but there is no memory for the buffers. -/
def noMemoryEnv : DriverEnv Unit where
  opteeClientApiInitialize := ⟨.success, .inl rfl⟩
  teecInitializeContext := teecSuccess
  teecOpenSession := teecSuccess
  sessionId := 1
  paramAnswer := none
  resultAnswer := none
  secureBoot := ⟨false, 0, willingTa, willingTa, willingTa, willingTa, willingTa, willingTa,
    ⟨willingTa, none⟩⟩
  installVariableArch := ⟨.success, .inl rfl⟩
  installVariableWriteArch := ⟨.success, .inl rfl⟩
  createEvent := ⟨.success, .inl rfl⟩

/-- A small build over the pool of two pages. -/
def twoPageDriver : DriverConfig where
  arch := .aarch64
  maxVariableSize := 100
  maxVariableSize_lt := by decide
  shm := twoPagePool
  shm_arch := rfl
  blockSize_lt := by decide

/-- The driver as it is loaded. -/
def loadedDriver : DriverState Unit where
  ta := ()
  shm := twoPageWorld
  mVariableParamMem := ⟨0, 0, 0, 0⟩
  mVariableResultMem := ⟨0, 0, 0, 0⟩
  param _ := 0
  result _ := 0
  atRuntime := false
  mTeecSessionOpened := false
  sessionId := 0
  taSession := false
  gRT := ⟨.other, .other, .other, .other⟩
  variableArch := false
  variableWriteArch := false
  exitBootServiceEvent := false
  measurements := []

lemma loadedDriver_fresh : loadedDriver.Fresh where
  param := rfl
  result := rfl
  session := rfl
  taSession := rfl
  gRT := by
    rintro ⟨call, hcall⟩
    cases call <;> cases hcall
  variableArch := rfl
  variableWriteArch := rfl
  exitBootServiceEvent := rfl

/-- A small build over the pool of four pages, which has room for both buffers. -/
def fourPageDriver : DriverConfig where
  arch := .aarch64
  maxVariableSize := 100
  maxVariableSize_lt := twoPageDriver.maxVariableSize_lt
  shm := fourPagePool
  shm_arch := rfl
  blockSize_lt := twoPageDriver.blockSize_lt

/-- Every step succeeds, with memory for the buffers. -/
def willingEnv : DriverEnv Unit :=
  { noMemoryEnv with paramAnswer := some 8192, resultAnswer := some 16384 }

/-- The allocator with the first buffer, and with both. -/
def paramWorld : ShmWorld := fourPageWorld.apply fourPagePool (.memAlloc 144 (some 8192))

def resultWorld : ShmWorld := paramWorld.apply fourPagePool (.memAlloc 144 (some 16384))

/-- The driver with a session, before it has buffers. -/
def openedDriver : DriverState Unit :=
  { loadedDriver with
    shm := fourPageWorld
    sessionId := 1
    taSession := true
    mTeecSessionOpened := true }

/-- The driver with a session and its first buffer, and with both. -/
def paramDriver : DriverState Unit :=
  { openedDriver with
    shm := paramWorld
    mVariableParamMem := ⟨12288, 144, 0, 12288⟩ }

def resultDriver : DriverState Unit :=
  { paramDriver with
    shm := resultWorld
    mVariableResultMem := ⟨20480, 144, 0, 20480⟩ }

/-- The driver with its services published, once it is initialised. -/
def servingDriver : DriverState Unit :=
  { resultDriver.withServices (willingEnv.secureBoot.initSecureBootVariables
      fourPageDriver.toAuthVarConfig resultDriver.services).2 with
    gRT := .ofDriver
    variableArch := true
    variableWriteArch := true
    exitBootServiceEvent := true }

lemma paramWorld_allocated : MayAnswer fourPageDriver fourPageWorld (some 8192) ∧
    paramWorld.live = [⟨8192, 12288, 144⟩] ∧ ShmInv fourPagePool paramWorld False ∧
    allocateTransport fourPagePool ⟨0, 144, 0, 0⟩ fourPageWorld (some 8192) =
      (teecSuccess, ⟨12288, 144, 0, 12288⟩, paramWorld) := by
  have hanswer : MayAnswer fourPageDriver fourPageWorld (some 8192) := by
    rintro base ⟨⟩
    exact ⟨⟨2, rfl⟩, by decide, fun r hr => by cases hr⟩
  obtain ⟨hrun, hlive, hinv⟩ := @allocateTransport_some fourPageDriver fourPageWorld
    ⟨0, 144, 0, 0⟩ 8192 (ShmInv.init _).weaken hanswer rfl rfl
  exact ⟨hanswer, hlive, hinv, hrun⟩

lemma resultWorld_allocated : MayAnswer fourPageDriver paramWorld (some 16384) ∧
    allocateTransport fourPagePool ⟨0, 144, 0, 0⟩ paramWorld (some 16384) =
      (teecSuccess, ⟨20480, 144, 0, 20480⟩, resultWorld) := by
  obtain ⟨-, hlive, hinv, -⟩ := paramWorld_allocated
  have hanswer : MayAnswer fourPageDriver paramWorld (some 16384) := by
    rintro base ⟨⟩
    refine ⟨⟨4, rfl⟩, by decide, fun r hr => ?_⟩
    have hmem := hinv.gcd.mem_iff.mp hr
    rw [hlive] at hmem
    obtain rfl := List.mem_singleton.mp hmem
    decide
  exact ⟨hanswer, (@allocateTransport_some fourPageDriver paramWorld ⟨0, 144, 0, 0⟩ 16384 hinv
    hanswer rfl rfl).1⟩

lemma openedDriver_reachable :
    (lifecycleSystem fourPageDriver).Reachable ⟨openedDriver, initSteps.drop 3⟩ := by
  have hloaded : (lifecycleSystem fourPageDriver).Reachable
      ⟨{ loadedDriver with shm := fourPageWorld }, initSteps⟩ := by
    obtain ⟨h₀, h₁, h₂, h₃, h₄, h₅, h₆, h₇⟩ := loadedDriver_fresh
    exact .init ⟨⟨h₀, h₁, h₂, h₃, h₄, h₅, h₆, h₇⟩, .init ⟨_, rfl⟩, rfl⟩
  have hapi := reachable_advance willingEnv hloaded trivial rfl
  have hcontext := reachable_advance willingEnv hapi trivial rfl
  exact reachable_advance willingEnv hcontext trivial rfl

/-- Both buffers are allocated. -/
lemma resultDriver_reachable :
    (lifecycleSystem fourPageDriver).Reachable ⟨resultDriver, initSteps.drop 5⟩ := by
  obtain ⟨hparam, -, -, hparamRun⟩ := paramWorld_allocated
  obtain ⟨hresult, hresultRun⟩ := resultWorld_allocated
  have hfirst : InitStep.allocateParam.run fourPageDriver willingEnv openedDriver =
      (none, paramDriver) := by
    refine (@run_allocateParam Unit fourPageDriver willingEnv openedDriver _ _ _ hparamRun).trans ?_
    exact congrArg₂ Prod.mk (if_neg (not_not.mpr rfl)) rfl
  have hsecond : InitStep.allocateResult.run fourPageDriver willingEnv paramDriver =
      (none, resultDriver) := by
    refine (@run_allocateResult Unit fourPageDriver willingEnv paramDriver _ _ _
      hresultRun).trans ?_
    exact congrArg₂ Prod.mk (if_neg (not_not.mpr rfl)) rfl
  exact reachable_advance willingEnv
    (reachable_advance willingEnv openedDriver_reachable hparam hfirst) hresult hsecond

/-- The initialisation comes to its end. -/
lemma servingDriver_reachable :
    (lifecycleSystem fourPageDriver).Reachable ⟨servingDriver, []⟩ := by
  have hstatus : (willingEnv.secureBoot.initSecureBootVariables fourPageDriver.toAuthVarConfig
      resultDriver.services).1 = .success := by decide +kernel
  have hsecure : InitStep.initSecureBootVariables.run fourPageDriver willingEnv resultDriver =
      (none, resultDriver.withServices (willingEnv.secureBoot.initSecureBootVariables
        fourPageDriver.toAuthVarConfig resultDriver.services).2) := by
    rw [run_initSecureBootVariables, hstatus]
    rfl
  have hpublish := reachable_advance willingEnv resultDriver_reachable trivial hsecure
  have harch := reachable_advance willingEnv hpublish trivial rfl
  have hwriteArch := reachable_advance willingEnv harch trivial rfl
  have hevent := reachable_advance willingEnv hwriteArch trivial rfl
  exact reachable_advance willingEnv hevent trivial rfl

theorem lifecycleSafe_of_reachable_servingDriver :
    LifecycleSafe fourPageDriver ⟨servingDriver, []⟩ ∧ LifecycleSafe fourPageDriver
      ⟨opteeRuntimeOnExitBootServices fourPageDriver freeMemorySpace willingTa servingDriver, []⟩ :=
  ⟨lifecycleSafe_of_reachable fourPageDriver _ servingDriver_reachable,
    lifecycleSafe_of_reachable fourPageDriver _ (servingDriver_reachable.step
      (show (lifecycleSystem fourPageDriver).Step _ (.exitBootServices willingTa freeMemorySpace) _
        from ⟨rfl, freeMemorySpace_frees, rfl⟩))⟩

end AuthVar
end MuPlatform
