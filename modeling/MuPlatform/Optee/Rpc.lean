import MuPlatform.Optee.Msg

/-!
# Calls from the secure world

While a call is in the secure world, that world can call back for memory, for storage and
for the time (`OpteeClientRPC.c`).  The request is in eight registers and, for
`OPTEE_SMC_RPC_FUNC_CMD`, in a message; the answer goes back the same way.

What the handlers ask of the firmware is an `RpcEnv`: the outcomes of a GCD allocation and of a
release, the images in the flash volumes, the RPMB protocol, and the performance counter.

`optee_smc.h` documents what each call leaves in the registers.  `RpcContract` is that
documentation, and `rpcContract_iff` says when it is kept.
-/

namespace MuPlatform
namespace Optee

/-! ## Registers -/

/-- `ARM_SMC_ARGS`. -/
structure ArmSmcArgs where
  arg0 : ℕ
  arg1 : ℕ
  arg2 : ℕ
  arg3 : ℕ
  arg4 : ℕ
  arg5 : ℕ
  arg6 : ℕ
  arg7 : ℕ
  deriving DecidableEq, Repr

def opteeSmcCallReturnFromRpc : ℕ := 0x32000003
def opteeSmcCallWithArg : ℕ := 0x32000004
def opteeSmcReturnOk : ℕ := 0x0
def opteeSmcReturnUnknownFunction : ℕ := 0xFFFFFFFF

/-- `OPTEE_SMC_RETURN_IS_RPC`. -/
def opteeSmcReturnIsRpc (ret : ℕ) : Bool :=
  ret ≠ opteeSmcReturnUnknownFunction && ret &&& 0xFFFF0000 = 0xFFFF0000

/-- `OPTEE_SMC_RETURN_GET_RPC_FUNC`. -/
def opteeSmcReturnGetRpcFunc (ret : ℕ) : ℕ := ret &&& 0x0000FFFF

def opteeSmcRpcFuncAlloc : ℕ := 0
def opteeSmcRpcFuncFree : ℕ := 2
def opteeSmcRpcFuncForeignIntr : ℕ := 4
def opteeSmcRpcFuncCmd : ℕ := 5

/-- `ADDRESS64.Fields` of a pointer. -/
def addressH32 (p : ℕ) : ℕ := p / 2 ^ 32
def addressL32 (p : ℕ) : ℕ := p % 2 ^ 32

/-- `ADDRESS64.P` of two registers. -/
def addressP (arch : Arch) (h32 l32 : ℕ) : ℕ := arch.uintn (h32 % 2 ^ 32 * 2 ^ 32 + l32 % 2 ^ 32)

lemma addressH32_addressL32 (p : ℕ) : addressH32 p * 2 ^ 32 + addressL32 p = p :=
  Nat.div_add_mod' p _

/-! ## The firmware -/

/-- `EFI_RPMB_IO_PROTOCOL`.  The callbacks take the addresses of the request and response
packets, with a packet count where the protocol has one. -/
structure RpmbIo where
  cid : List UInt8
  reliableSectorCount : UInt8
  rpmbSizeMult : UInt8
  programKey : ℕ → ℕ → ByteStore → EfiStatus × ByteStore
  readCounter : ℕ → ℕ → ByteStore → EfiStatus × ByteStore
  authenticatedWrite : ℕ → ℕ → ℕ → ByteStore → EfiStatus × ByteStore
  authenticatedRead : ℕ → ℕ → ℕ → ByteStore → EfiStatus × ByteStore

/-- What the handlers ask of the firmware. -/
structure RpcEnv where
  /-- The outcome of `AllocateMemorySpace`. -/
  gcdAnswer : Option ℕ
  /-- The outcome of `FreeMemorySpace`, with the map it leaves. -/
  gcdFree : Span → List Span → EfiStatus × List Span
  /-- `GetSectionFromAnyFv`, from the bytes of a GUID to the bytes of an image. -/
  getSectionFromAnyFv : List UInt8 → EfiStatus × List UInt8
  /-- `LocateProtocol` for the RPMB protocol. -/
  locateRpmbIo : EfiStatus
  rpmbIo : RpmbIo
  performanceCounter : UInt64
  performanceCounterFrequency : UInt64

/-! ## Commands in a message -/

section Commands

variable (arch : Arch) (env : RpcEnv) (msg : ℕ)

/-- The type bits of the attribute of parameter `i`. -/
def paramAttrType (mem : ByteStore) (i : ℕ) : UInt64 :=
  opteeMsgAttrGetType
    (mem.load64 (MsgParam.slot (msg + MsgArg.params) i + MsgParam.attr))

/-- The exit of the handlers that fill in the result themselves. -/
def setRet (result : TeecResult) (mem : ByteStore) : ByteStore :=
  (mem.store32 (msg + MsgArg.ret) result).store32 (msg + MsgArg.retOrigin) teecOriginApi

/-- The UUID of a TA with its first three fields swapped to the byte order of a GUID. -/
def swapUuid (uuid : List UInt8) : List UInt8 :=
  (uuid.take 4).reverse ++ ((uuid.drop 4).take 2).reverse ++ ((uuid.drop 6).take 2).reverse ++
    uuid.drop 8

/-- `OpteeRpcCmdLoadTa`. -/
def opteeRpcCmdLoadTa (mem : ByteStore) : TeecResult × ByteStore :=
  let param := MsgParam.slot (msg + MsgArg.params)
  if mem.load32 (msg + MsgArg.numParams) ≠ 2 then
    (teecErrorBadParameters, setRet msg teecErrorBadParameters mem)
  else if paramAttrType msg mem 0 ≠ opteeMsgAttrTypeValueInput ∨
      paramAttrType msg mem 1 ≠ opteeMsgAttrTypeTmemOutput then
    (teecErrorBadParameters, setRet msg teecErrorBadParameters mem)
  else
    let taBufferSize := arch.uintn (mem.load64 (param 1 + MsgParam.tmemSize)).toNat
    match env.getSectionFromAnyFv (swapUuid (mem.read (param 0 + MsgParam.valueA) 16)) with
    | (status, image) =>
      if status.isError then
        (teecErrorItemNotFound, setRet msg teecErrorItemNotFound mem)
      else if taBufferSize < image.length then
        (teecSuccess, setRet msg teecSuccess
          (mem.store64 (param 1 + MsgParam.tmemSize) (UInt64.ofNat image.length)))
      else
        (teecSuccess, setRet msg teecSuccess
          (mem.write (arch.uintn (mem.load64 (param 1 + MsgParam.tmemBufPtr)).toNat) image))

/-- `RpmbBytesToUint16`. -/
def rpmbBytesToUint16 (mem : ByteStore) (p : ℕ) : ℕ :=
  (mem p).toNat * 2 ^ 8 + (mem (p + 1)).toNat

/-- The result of an RPMB protocol call. -/
def rpmbResult : EfiStatus × ByteStore → TeecResult × ByteStore
  | (status, mem) => (if status.isError then teecErrorGeneric else teecSuccess, mem)

/-- The request of `OpteeRpcCmdRpmb` at `request`, with the response at `response`.  The
request packets follow a header of three 16-bit fields. -/
def rpmbRequest (request response : ℕ) (mem : ByteStore) : TeecResult × ByteStore :=
  let packets := request + 6
  if mem.load16 request = 0 then
    match rpmbBytesToUint16 mem (packets + 510) with
    | 1 => rpmbResult (env.rpmbIo.programKey packets response mem)
    | 2 => rpmbResult (env.rpmbIo.readCounter packets response mem)
    -- a write takes its packet count from the packet, a read from the request header
    | 3 => rpmbResult (env.rpmbIo.authenticatedWrite packets
        (rpmbBytesToUint16 mem (packets + 506)) response mem)
    | 4 => rpmbResult (env.rpmbIo.authenticatedRead packets response
        (mem.load16 (request + 4)).toNat mem)
    | _ => (teecErrorBadParameters, mem)
  else if mem.load16 request = 1 then
    (teecSuccess, (((mem.write response (env.rpmbIo.cid.take 16)).write (response + 17)
      [env.rpmbIo.reliableSectorCount]).write (response + 16)
      [env.rpmbIo.rpmbSizeMult]).write (response + 18) [0])
  else (teecErrorNotSupported, mem)

/-- `OpteeRpcCmdRpmb`. -/
def opteeRpcCmdRpmb (mem : ByteStore) : TeecResult × ByteStore :=
  let param := MsgParam.slot (msg + MsgArg.params)
  if mem.load32 (msg + MsgArg.numParams) ≠ 2 then
    (teecErrorBadParameters, setRet msg teecErrorBadParameters mem)
  else if paramAttrType msg mem 0 ≠ opteeMsgAttrTypeTmemInput ∨
      paramAttrType msg mem 1 ≠ opteeMsgAttrTypeTmemOutput then
    (teecErrorBadParameters, setRet msg teecErrorBadParameters mem)
  else if env.locateRpmbIo.isError then
    (teecErrorNotSupported, setRet msg teecErrorNotSupported mem)
  else
    match rpmbRequest env (arch.uintn (mem.load64 (param 0 + MsgParam.tmemBufPtr)).toNat)
        (arch.uintn (mem.load64 (param 1 + MsgParam.tmemBufPtr)).toNat) mem with
    | (result, mem) => (result, setRet msg result mem)

/-- `OpteeRpcCmdGetTime`, in 64-bit arithmetic. -/
def opteeRpcCmdGetTime (mem : ByteStore) : TeecResult × ByteStore :=
  let param := MsgParam.slot (msg + MsgArg.params)
  if mem.load32 (msg + MsgArg.numParams) ≠ 1 then (teecErrorBadParameters, mem)
  else if paramAttrType msg mem 0 ≠ opteeMsgAttrTypeValueOutput then
    (teecErrorBadParameters, mem)
  else
    let ticks := env.performanceCounter
    let freq := env.performanceCounterFrequency
    let elapsedSeconds := ticks / freq
    let elapsedNanos := ticks * 1000000000 / freq
    (teecSuccess, (mem.store64 (param 0 + MsgParam.valueA) (ticks / freq)).store64
      (param 0 + MsgParam.valueB) (elapsedNanos - elapsedSeconds * 1000000000))

/-- `OpteeRpcCmdWaitQueue`. -/
def opteeRpcCmdWaitQueue (mem : ByteStore) : TeecResult × ByteStore :=
  let param := MsgParam.slot (msg + MsgArg.params)
  if mem.load32 (msg + MsgArg.numParams) ≠ 1 then (teecErrorBadParameters, mem)
  else if paramAttrType msg mem 0 ≠ opteeMsgAttrTypeValueInput then
    (teecErrorBadParameters, mem)
  else if mem.load64 (param 0 + MsgParam.valueA) = 0 ∨
      mem.load64 (param 0 + MsgParam.valueA) = 1 then (teecSuccess, mem)
  else (teecErrorNotImplemented, mem)

end Commands

lemma setRet_apply_off {msg x : ℕ} {result : TeecResult} {mem : ByteStore}
    (h : x < msg + MsgArg.ret ∨ msg + MsgArg.numParams ≤ x) :
    setRet msg result mem x = mem x := by
  simp only [MsgArg.ret, MsgArg.numParams] at h
  rw [setRet, ByteStore.store32_apply_off (by simp only [MsgArg.retOrigin]; omega),
    ByteStore.store32_apply_off (by simp only [MsgArg.ret]; omega)]

section Callback

variable (cfg : ShmConfig) (env : RpcEnv)

/-- The shared memory types of the SHM commands, application and kernel. -/
def knownShmType (a : UInt64) : Bool := a = 0 || a = 1

/-- `OpteeRpcCmdShmAlloc`.  An unknown memory type is an error, and the allocation is made
all the same: the `break` leaves the switch only. -/
def opteeRpcCmdShmAlloc (msg : ℕ) (s : ShmState) : TeecResult × ShmState :=
  let param := MsgParam.slot (msg + MsgArg.params) 0
  if s.mem.load32 (msg + MsgArg.numParams) ≠ 1 then (teecErrorBadParameters, s)
  else if paramAttrType msg s.mem 0 ≠ opteeMsgAttrTypeValueInput then
    (teecErrorBadParameters, s)
  else
    let result := if knownShmType (s.mem.load64 (param + MsgParam.valueA)) then teecSuccess
      else teecErrorBadParameters
    let bufferSize := cfg.arch.uintn (s.mem.load64 (param + MsgParam.valueB)).toNat
    let bufferAlignment := cfg.arch.uintn (s.mem.load64 (param + MsgParam.valueC)).toNat
    match opteeClientAlignedMemAlloc cfg env.gcdAnswer bufferSize bufferAlignment s with
    | (buffer, s) =>
      if buffer = 0 then (teecErrorOutOfMemory, s)
      else (result, { s with
        mem := (((s.mem.store64 (param + MsgParam.attr) opteeMsgAttrTypeTmemOutput).store64
          (param + MsgParam.tmemBufPtr) (UInt64.ofNat buffer)).store64
          (param + MsgParam.tmemSize) (UInt64.ofNat bufferSize)).store64
          (param + MsgParam.tmemShmRef) (UInt64.ofNat buffer) })

/-- `OpteeRpcCmdShmFree`, with the same switch, and a GCD that answers `FreeMemorySpace` as `free`
says. -/
def opteeRpcCmdShmFreeWith (free : Span → List Span → EfiStatus × List Span) (msg : ℕ)
    (s : ShmState) : TeecResult × ShmState :=
  let param := MsgParam.slot (msg + MsgArg.params) 0
  if s.mem.load32 (msg + MsgArg.numParams) ≠ 1 then (teecErrorBadParameters, s)
  else if paramAttrType msg s.mem 0 ≠ opteeMsgAttrTypeValueInput then
    (teecErrorBadParameters, s)
  else
    let result := if knownShmType (s.mem.load64 (param + MsgParam.valueA)) then teecSuccess
      else teecErrorBadParameters
    match opteeClientMemFree cfg free
        (cfg.arch.uintn (s.mem.load64 (param + MsgParam.valueB)).toNat) s with
    | (status, s) => if status.isError then (teecErrorBadState, s) else (result, s)

/-- `OpteeRpcCmdShmFree`. -/
def opteeRpcCmdShmFree (msg : ℕ) (s : ShmState) : TeecResult × ShmState :=
  opteeRpcCmdShmFreeWith cfg env.gcdFree msg s

/-- A handler that works on memory alone. -/
def onMem (f : ByteStore → TeecResult × ByteStore) (s : ShmState) : TeecResult × ShmState :=
  match f s.mem with
  | (result, mem) => (result, { s with mem := mem })

/-- The switch over `MsgArg->cmd` in `OpteeRpcCallback`. -/
def opteeRpcCmd (msg : ℕ) (s : ShmState) : TeecResult × ShmState :=
  match (s.mem.load32 (msg + MsgArg.cmd)).toNat with
  | 0 => onMem (opteeRpcCmdLoadTa cfg.arch env msg) s -- `OPTEE_MSG_RPC_CMD_LOAD_TA`
  | 1 => onMem (opteeRpcCmdRpmb cfg.arch env msg) s -- `OPTEE_MSG_RPC_CMD_RPMB`
  | 3 => onMem (opteeRpcCmdGetTime env msg) s -- `OPTEE_MSG_RPC_CMD_GET_TIME`
  | 6 => opteeRpcCmdShmAlloc cfg env msg s -- `OPTEE_MSG_RPC_CMD_SHM_ALLOC`
  | 7 => opteeRpcCmdShmFree cfg env msg s -- `OPTEE_MSG_RPC_CMD_SHM_FREE`
  | 4 => onMem (opteeRpcCmdWaitQueue msg) s -- `OPTEE_MSG_RPC_CMD_WAIT_QUEUE`
  | _ => (teecErrorNotImplemented, s)

/-- `OpteeRpcAlloc`. -/
def opteeRpcAlloc (args : ArmSmcArgs) (s : ShmState) : TeecResult × ArmSmcArgs × ShmState :=
  match if args.arg1 = 0 then (0, s) else opteeClientMemAlloc cfg env.gcdAnswer args.arg1 s with
  | (p, s) =>
    if args.arg1 ≠ 0 ∧ p = 0 then (teecErrorOutOfMemory, args, s)
    else (teecSuccess, { args with
      arg1 := addressH32 p
      arg2 := addressL32 p
      arg4 := addressH32 p
      arg5 := addressL32 p }, s)

/-- `OpteeRpcFree`. -/
def opteeRpcFree (args : ArmSmcArgs) (s : ShmState) : TeecResult × ArmSmcArgs × ShmState :=
  match opteeClientMemFree cfg env.gcdFree (addressP cfg.arch args.arg1 args.arg2) s with
  | (status, s) => (if status.isError then teecErrorBadParameters else teecSuccess, args, s)

/-- The switch over the function in `OpteeRpcCallback`. -/
def opteeRpcFunc (args : ArmSmcArgs) (s : ShmState) : TeecResult × ArmSmcArgs × ShmState :=
  let func := opteeSmcReturnGetRpcFunc args.arg0
  if func = opteeSmcRpcFuncAlloc then opteeRpcAlloc cfg env args s
  else if func = opteeSmcRpcFuncFree then opteeRpcFree cfg env args s
  else if func = opteeSmcRpcFuncForeignIntr then (teecSuccess, args, s)
  else if func = opteeSmcRpcFuncCmd then
    let msg := addressP cfg.arch args.arg1 args.arg2
    match opteeRpcCmd cfg env msg s with
    | (result, s) => (result, args, { s with mem := s.mem.store32 (msg + MsgArg.ret) result })
  else (teecErrorNotImplemented, args, s)

/-- `OpteeRpcCallback`. -/
def opteeRpcCallback (args : ArmSmcArgs) (s : ShmState) : TeecResult × ArmSmcArgs × ShmState :=
  match opteeRpcFunc cfg env args s with
  | (result, args, s) => (result, { args with arg0 := opteeSmcCallReturnFromRpc }, s)

end Callback

/-! ## The register contract -/

section Contract

variable {cfg : ShmConfig} {env : RpcEnv} {args args' : ArmSmcArgs} {s s' : ShmState}

/-- The registers a function documents as preserved. -/
def SameRegs3To7 (args' args : ArmSmcArgs) : Prop :=
  args'.arg3 = args.arg3 ∧ args'.arg4 = args.arg4 ∧ args'.arg5 = args.arg5 ∧
    args'.arg6 = args.arg6 ∧ args'.arg7 = args.arg7

def SameRegs1To7 (args' args : ArmSmcArgs) : Prop :=
  args'.arg1 = args.arg1 ∧ args'.arg2 = args.arg2 ∧ SameRegs3To7 args' args

/-- What `OPTEE_SMC_RPC_FUNC_ALLOC` hands back for the pointer `p` of an allocation of
`size` bytes. -/
def AllocRegs (size p : ℕ) (args' : ArmSmcArgs) : Prop :=
  if size = 0 ∨ p = 0 then args'.arg1 = 0 ∧ args'.arg2 = 0
  else args'.arg1 * 2 ^ 32 + args'.arg2 = p ∧ args'.arg4 * 2 ^ 32 + args'.arg5 = p ∧
    args'.arg2 < 2 ^ 32 ∧ args'.arg5 < 2 ^ 32

/-- The pointer `OpteeClientMemAlloc` has for an `ALLOC` call. -/
def allocPointer (cfg : ShmConfig) (env : RpcEnv) (args : ArmSmcArgs) (s : ShmState) : ℕ :=
  (opteeClientMemAlloc cfg env.gcdAnswer args.arg1 s).1

/-- The documented register use of a call from the secure world, and the result a command
leaves in its message. -/
structure RpcContract (cfg : ShmConfig) (env : RpcEnv) (args : ArmSmcArgs) (s : ShmState)
    (result : TeecResult) (args' : ArmSmcArgs) (s' : ShmState) : Prop where
  arg0 : args'.arg0 = opteeSmcCallReturnFromRpc
  resume : args'.arg3 = args.arg3 ∧ args'.arg6 = args.arg6 ∧ args'.arg7 = args.arg7
  foreignIntr : opteeSmcReturnGetRpcFunc args.arg0 = opteeSmcRpcFuncForeignIntr →
    SameRegs1To7 args' args
  cmd : opteeSmcReturnGetRpcFunc args.arg0 = opteeSmcRpcFuncCmd → SameRegs1To7 args' args ∧
    s'.mem.load32 (addressP cfg.arch args.arg1 args.arg2 + MsgArg.ret) = result
  free : opteeSmcReturnGetRpcFunc args.arg0 = opteeSmcRpcFuncFree → SameRegs3To7 args' args
  alloc : opteeSmcReturnGetRpcFunc args.arg0 = opteeSmcRpcFuncAlloc →
    AllocRegs args.arg1 (allocPointer cfg env args s) args'

/-- `ALLOC` asked for memory and got none. -/
def AllocFails (cfg : ShmConfig) (env : RpcEnv) (args : ArmSmcArgs) (s : ShmState) : Prop :=
  opteeSmcReturnGetRpcFunc args.arg0 = opteeSmcRpcFuncAlloc ∧ args.arg1 ≠ 0 ∧
    allocPointer cfg env args s = 0

lemma opteeRpcAlloc_fst_snd : (opteeRpcAlloc cfg env args s).2.1 =
    if args.arg1 ≠ 0 ∧ allocPointer cfg env args s = 0 then args
    else { args with
      arg1 := addressH32 (if args.arg1 = 0 then 0 else allocPointer cfg env args s)
      arg2 := addressL32 (if args.arg1 = 0 then 0 else allocPointer cfg env args s)
      arg4 := addressH32 (if args.arg1 = 0 then 0 else allocPointer cfg env args s)
      arg5 := addressL32 (if args.arg1 = 0 then 0 else allocPointer cfg env args s) } := by
  unfold opteeRpcAlloc allocPointer
  by_cases hsize : args.arg1 = 0
  · simp [hsize]
  · by_cases hp : (opteeClientMemAlloc cfg env.gcdAnswer args.arg1 s).1 = 0
    · simp [hsize, hp]
    · simp [hsize, hp]

/-- The registers `ALLOC` leaves are the documented ones unless the allocation failed. -/
lemma allocRegs_opteeRpcAlloc_iff :
    AllocRegs args.arg1 (allocPointer cfg env args s) (opteeRpcAlloc cfg env args s).2.1 ↔
      ¬ (args.arg1 ≠ 0 ∧ allocPointer cfg env args s = 0) := by
  rw [opteeRpcAlloc_fst_snd]
  unfold AllocRegs
  by_cases hsize : args.arg1 = 0
  · simp [hsize, addressH32, addressL32]
  · by_cases hp : allocPointer cfg env args s = 0
    · simp [hsize, hp]
    · -- success: the two halves of the pointer
      have hlt : addressL32 (allocPointer cfg env args s) < 2 ^ 32 :=
        Nat.mod_lt _ (by decide)
      have hsplit := addressH32_addressL32 (allocPointer cfg env args s)
      simpa [hsize, hp] using And.intro hsplit hlt

lemma opteeRpcAlloc_resume : (opteeRpcAlloc cfg env args s).2.1.arg3 = args.arg3 ∧
    (opteeRpcAlloc cfg env args s).2.1.arg6 = args.arg6 ∧
    (opteeRpcAlloc cfg env args s).2.1.arg7 = args.arg7 := by
  rw [opteeRpcAlloc_fst_snd]
  split <;> exact ⟨rfl, rfl, rfl⟩

/-- Every other function leaves the registers alone. -/
lemma opteeRpcFunc_regs (h : opteeSmcReturnGetRpcFunc args.arg0 ≠ opteeSmcRpcFuncAlloc) :
    (opteeRpcFunc cfg env args s).2.1 = args := by
  simp only [opteeRpcFunc, if_neg h]
  split
  · rfl
  split
  · rfl
  split
  · rfl
  · rfl

/-- A command leaves the result of its handler in the message. -/
lemma opteeRpcFunc_cmd_ret (h : opteeSmcReturnGetRpcFunc args.arg0 = opteeSmcRpcFuncCmd) :
    (opteeRpcFunc cfg env args s).2.2.mem.load32
        (addressP cfg.arch args.arg1 args.arg2 + MsgArg.ret) =
      (opteeRpcFunc cfg env args s).1 := by
  simp only [opteeRpcFunc, h, opteeSmcRpcFuncCmd, opteeSmcRpcFuncAlloc, opteeSmcRpcFuncFree,
    opteeSmcRpcFuncForeignIntr]
  exact ByteStore.load32_store32_same _

/-- The contract is kept exactly when no allocation failed. -/
theorem rpcContract_iff (cfg : ShmConfig) (env : RpcEnv) (args : ArmSmcArgs) (s : ShmState) :
    RpcContract cfg env args s (opteeRpcCallback cfg env args s).1
        (opteeRpcCallback cfg env args s).2.1 (opteeRpcCallback cfg env args s).2.2 ↔
      ¬ AllocFails cfg env args s := by
  constructor
  · rintro hcontract ⟨hfunc, hfail⟩
    have halloc := hcontract.alloc hfunc
    simp only [opteeRpcCallback, opteeRpcFunc, hfunc, if_true] at halloc
    exact allocRegs_opteeRpcAlloc_iff.mp halloc hfail
  · intro hok
    by_cases hfunc : opteeSmcReturnGetRpcFunc args.arg0 = opteeSmcRpcFuncAlloc
    · have hregs := allocRegs_opteeRpcAlloc_iff.mpr fun hfail => hok ⟨hfunc, hfail⟩
      refine ⟨rfl, ?_, ?_, ?_, ?_, fun _ => ?_⟩
      · simpa only [opteeRpcCallback, opteeRpcFunc, hfunc, if_true] using
          @opteeRpcAlloc_resume cfg env args s
      · intro h
        rw [hfunc] at h
        cases h
      · intro h
        rw [hfunc] at h
        cases h
      · intro h
        rw [hfunc] at h
        cases h
      · unfold AllocRegs at hregs ⊢
        simpa only [opteeRpcCallback, opteeRpcFunc, hfunc, if_true] using hregs
    · have hregs := @opteeRpcFunc_regs cfg env args s hfunc
      have hsame : SameRegs1To7 (opteeRpcCallback cfg env args s).2.1 args := by
        simp only [opteeRpcCallback, hregs]
        exact ⟨rfl, rfl, rfl, rfl, rfl, rfl, rfl⟩
      exact ⟨rfl, ⟨hsame.2.2.1, hsame.2.2.2.2.2.1, hsame.2.2.2.2.2.2⟩, fun _ => hsame,
        fun h => ⟨hsame, opteeRpcFunc_cmd_ret h⟩, fun _ => hsame.2.2, fun h => absurd h hfunc⟩

end Contract

/-- Firmware with nothing to offer: no memory, no image, no RPMB. -/
def bareFirmware : RpcEnv where
  gcdAnswer := none
  gcdFree := freeMemorySpace
  getSectionFromAnyFv _ := (.notFound, [])
  locateRpmbIo := .notFound
  rpmbIo := {
    cid := []
    reliableSectorCount := 0
    rpmbSizeMult := 0
    programKey := fun _ _ mem => (.unsupported, mem)
    readCounter := fun _ _ mem => (.unsupported, mem)
    authenticatedWrite := fun _ _ _ mem => (.unsupported, mem)
    authenticatedRead := fun _ _ _ mem => (.unsupported, mem) }
  performanceCounter := 0
  performanceCounterFrequency := 1

/-- The registers of an `ALLOC` call for 256 bytes. -/
def allocArgs : ArmSmcArgs := ⟨0xFFFF0000, 256, 0, 0, 0, 0, 0, 0⟩

/-- Without memory an `ALLOC` call hands its size back as the upper half of an address. -/
theorem not_rpcContract_alloc_fails :
    ¬ RpcContract twoPagePool bareFirmware allocArgs (gcdSharedMemoryInit twoPagePool fun _ => 0)
      (opteeRpcCallback twoPagePool bareFirmware allocArgs
        (gcdSharedMemoryInit twoPagePool fun _ => 0)).1
      (opteeRpcCallback twoPagePool bareFirmware allocArgs
        (gcdSharedMemoryInit twoPagePool fun _ => 0)).2.1
      (opteeRpcCallback twoPagePool bareFirmware allocArgs
        (gcdSharedMemoryInit twoPagePool fun _ => 0)).2.2 := by
  intro hcontract
  have halloc : (256 : ℕ) = 0 ∧ (0 : ℕ) = 0 := hcontract.alloc (by decide)
  omega

end Optee
end MuPlatform
