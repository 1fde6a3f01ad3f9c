import MuPlatform.Optee.Msg

/-!
# The authenticated-variable driver

The variable services of `AuthVarOpteeRuntimeDxe`: a request is laid out in a transport
buffer, the trusted application (TA) that keeps the variables is invoked on it, and its reply
is read from a second buffer (`AuthVarsDxe.c`, `UEFIVarServices.h`).  After a set, variables
of the secure-boot policy are read back and measured (`Measurement.c`).

The TA is a parameter: a function of the request and of its own state.
-/

namespace MuPlatform
namespace AuthVar

open Optee

/-! ## Names and GUIDs -/

/-- A `CHAR16` string: its characters up to the terminator. -/
structure Char16String where
  chars : List UInt16
  chars_ne_zero : ∀ c ∈ chars, c ≠ 0
  deriving DecidableEq

namespace Char16String

/-- Characters as they lie in memory. -/
def wideBytes (cs : List UInt16) : List UInt8 :=
  cs.flatMap fun c => ByteStore.leBytes 2 c.toNat

/-- The bytes of the string with its terminator. -/
def bytes (name : Char16String) : List UInt8 := wideBytes (name.chars ++ [0])

/-- `StrSize`. -/
def strSize (name : Char16String) : ℕ := 2 * (name.chars.length + 1)

lemma wideBytes_cons (c : UInt16) (cs : List UInt16) :
    wideBytes (c :: cs) = ByteStore.leBytes 2 c.toNat ++ wideBytes cs := List.flatMap_cons

lemma length_wideBytes (cs : List UInt16) : (wideBytes cs).length = 2 * cs.length := by
  induction cs with
  | nil => rfl
  | cons c cs ih =>
      rw [wideBytes_cons, List.length_append, ih, ByteStore.length_leBytes, List.length_cons]
      omega

@[simp] lemma length_bytes (name : Char16String) : name.bytes.length = name.strSize := by
  rw [bytes, length_wideBytes, strSize, List.length_append, List.length_singleton]

end Char16String

/-- `EFI_GUID`, as the bytes it has in memory. -/
structure EfiGuid where
  bytes : List UInt8
  length_eq : bytes.length = 16
  deriving DecidableEq

/-- `Data1` of a GUID. -/
def EfiGuid.data1 (guid : EfiGuid) : ℕ := ByteStore.leNat (guid.bytes.take 4)

/-- The characters of an ASCII literal. -/
def wide (cs : List Char) : List UInt16 := cs.map fun c => UInt16.ofNat c.toNat

/-- An ASCII literal as a string. -/
def Char16String.ofAscii (cs : List Char) (h : (wide cs).contains 0 = false) : Char16String :=
  ⟨wide cs, fun _ hc hzero => by simp [← hzero, hc] at h⟩

/-! ## The trusted application -/

/-- `VARIABLE_SERVICE_OPS`. -/
inductive VariableServiceOp
  | vsGetOp | vsGetNextVarOp | vsSetOp | vsQueryInfoOp | vsSignalExitBootServicesOp
  deriving DecidableEq, Repr

/-- What the TA gets: the command, the parameter bytes and the room for the result. -/
structure TaRequest where
  command : VariableServiceOp
  param : List UInt8
  resultSize : ℕ

/-- What the TA answers: the result of the invocation, the bytes it writes to the result
buffer and the value it returns in `params[2].value.a`. -/
structure TaReply where
  teecResult : TeecResult
  result : List UInt8
  valueA : UInt32

abbrev Ta (σ : Type*) := TaRequest → σ → TaReply × σ

/-! ## State -/

/-- The transport buffers have `MAX (PcdMaxVariableSize, PcdMaxHardwareErrorVariableSize)`
bytes for a variable; the PCDs are 32-bit. -/
structure AuthVarConfig where
  arch : Arch
  maxVariableSize : ℕ
  maxVariableSize_lt : maxVariableSize < 2 ^ 32

/-- `sizeof (VARIABLE_PARAM)`, that of its largest member. -/
def sizeofVariableParam : ℕ := 44

/-- `mVariableParamMem.size`, which is also `mVariableResultMem.size`. -/
def AuthVarConfig.memSize (cfg : AuthVarConfig) : ℕ :=
  cfg.arch.uintn (cfg.maxVariableSize + sizeofVariableParam)

/-- A measured variable, as `MeasureVariable` gets it. -/
structure Measurement where
  name : Char16String
  guid : EfiGuid
  data : List UInt8
  deriving DecidableEq

/-- The state of the driver, with that of the TA. -/
structure AuthVarState (σ : Type*) where
  ta : σ
  /-- `mVariableParamMem.buffer`. -/
  param : ByteStore
  /-- `mVariableResultMem.buffer`. -/
  result : ByteStore
  /-- Whether neither buffer is `NULL`. -/
  buffersAllocated : Bool
  atRuntime : Bool
  mTeecSessionOpened : Bool
  sessionId : UInt32
  variableArchInstalled : Bool
  measurements : List Measurement

/-- Boot time with an open session, which is what `TaOpenSession` leaves. -/
structure AuthVarState.Ready {σ : Type*} (st : AuthVarState σ) : Prop where
  boot : st.atRuntime = false
  session : st.mTeecSessionOpened = true
  buffers : st.buffersAllocated = true

section Services

variable {σ : Type*} (cfg : AuthVarConfig) (ta : Ta σ)

/-- The switch over the result in `OpteeRuntimeVariableInvokeCommand`. -/
def statusOfTeec (result : TeecResult) : EfiStatus :=
  if result = teecSuccess then .success
  else if result = teecErrorItemNotFound then .notFound
  else if result = teecErrorShortBuffer then .bufferTooSmall
  else if result = teecErrorOutOfMemory then .outOfResources
  else if result = teecErrorAccessDenied then .securityViolation
  else .protocolError

/-- The three results with a status of their own that callers test; all others are errors. -/
lemma statusOfTeec_cases (result : TeecResult) :
    (result = teecSuccess ∧ statusOfTeec result = .success) ∨
      (result = teecErrorItemNotFound ∧ statusOfTeec result = .notFound) ∨
      (result = teecErrorShortBuffer ∧ statusOfTeec result = .bufferTooSmall) ∨
      ((statusOfTeec result).isError = true ∧ statusOfTeec result ≠ .notFound ∧
        statusOfTeec result ≠ .bufferTooSmall) := by
  rw [statusOfTeec]
  split
  · rename_i h
    exact .inl ⟨h, rfl⟩
  split
  · rename_i h
    exact .inr (.inl ⟨h, rfl⟩)
  split
  · rename_i h
    exact .inr (.inr (.inl ⟨h, rfl⟩))
  refine .inr (.inr (.inr ?_))
  split
  · exact ⟨rfl, by decide, by decide⟩
  split
  · exact ⟨rfl, by decide, by decide⟩
  · exact ⟨rfl, by decide, by decide⟩

/-- `OpteeRuntimeVariableInvokeCommand`: the status, `ResultSize`, and the state with the
bytes of the reply in the result buffer. -/
def opteeRuntimeVariableInvokeCommand (command : VariableServiceOp)
    (variableParamSize variableResultSize : ℕ) (st : AuthVarState σ) :
    EfiStatus × ℕ × AuthVarState σ :=
  match ta ⟨command, st.param.read 0 variableParamSize, variableResultSize⟩ st.ta with
  | (reply, taState) =>
    (statusOfTeec reply.teecResult, reply.valueA.toNat, { st with
      ta := taState
      result := st.result.write 0 (reply.result.take variableResultSize) })

/-- The names the tests use to reach the session id. -/
def isTestHook (name : Char16String) (guid : EfiGuid) (dataSize : ℕ) : Bool :=
  name.chars.head? = some 1 && guid.data1 = 1 && dataSize = cfg.arch.uintnBytes

/-! ## OpteeRuntimeGetVariable -/

namespace GetParam

/-! The offsets of `VARIABLE_GET_PARAM`. -/

def size : ℕ := 0
def variableNameSize : ℕ := 4
def vendorGuid : ℕ := 8
def variableName : ℕ := 24
def sizeof : ℕ := 28

end GetParam

namespace GetResult

/-! The offsets of `VARIABLE_GET_RESULT`. -/

def size : ℕ := 0
def attributes : ℕ := 4
def dataSize : ℕ := 8
def data : ℕ := 12
def sizeof : ℕ := 16

end GetResult

/-- The arguments of `OpteeRuntimeGetVariable`; `none` is a `NULL` pointer. -/
structure GetArgs where
  variableName : Option Char16String
  vendorGuid : Option EfiGuid
  dataSize : Option ℕ
  data : Option ByteStore

/-- What `OpteeRuntimeGetVariable` returns and leaves in its arguments; `attributes` is
`none` where they are not written. -/
structure GetOutcome where
  status : EfiStatus
  attributes : Option UInt32
  dataSize : ℕ
  data : Option ByteStore

/-- An exit that writes nothing. -/
def GetArgs.exit (args : GetArgs) (status : EfiStatus) : GetOutcome :=
  ⟨status, none, args.dataSize.getD 0, args.data⟩

/-- The request of `OpteeRuntimeGetVariable`. -/
def encodeGet (name : Char16String) (guid : EfiGuid) (nameSize : ℕ) (param : ByteStore) :
    ByteStore :=
  ((((param.fill 0 cfg.memSize 0).store32 GetParam.size
    (UInt32.ofNat GetParam.sizeof)).store16 GetParam.variableNameSize
    (UInt16.ofNat nameSize)).write GetParam.vendorGuid guid.bytes).write
    GetParam.variableName (name.bytes.take nameSize)

/-- `OpteeRuntimeGetVariable` from the return of the TA. -/
def getReply (args : GetArgs) (dataSize localDataSize : ℕ) :
    EfiStatus × ℕ × AuthVarState σ → GetOutcome × AuthVarState σ
  | (status, resultSize, st) =>
    let attributes := some (st.result.load32 GetResult.attributes)
    let resultDataSize := (st.result.load32 GetResult.dataSize).toNat
    if status = .bufferTooSmall then
      (⟨status, attributes, cfg.arch.uintn (resultSize + 2 ^ cfg.arch.uintnBits -
        GetResult.sizeof), args.data⟩, st)
    else if status ≠ .success then (⟨status, attributes, dataSize, args.data⟩, st)
    else if localDataSize < resultDataSize then
      (⟨.badBufferSize, attributes, resultDataSize, args.data⟩, st)
    else (⟨.success, attributes, resultDataSize,
      args.data.map (·.write 0 (st.result.read GetResult.data resultDataSize))⟩, st)

/-- `OpteeRuntimeGetVariable` once its arguments are checked: the sizes are copied to 32-bit
locals, and the request must fit the buffers. -/
def getChecked (args : GetArgs) (name : Char16String) (guid : EfiGuid) (dataSize : ℕ)
    (st : AuthVarState σ) : GetOutcome × AuthVarState σ :=
  let localVariableNameSize := name.strSize % 2 ^ 32
  let localDataSize := dataSize % 2 ^ 32
  let variableParamSize := (GetParam.sizeof + localVariableNameSize) % 2 ^ 32
  let variableResultSize := (GetResult.sizeof + localDataSize) % 2 ^ 32
  if cfg.memSize ≤ localVariableNameSize ∨ cfg.memSize ≤ localDataSize then
    (args.exit .badBufferSize, st)
  else if cfg.memSize < variableParamSize ∨ cfg.memSize < variableResultSize then
    (args.exit .badBufferSize, st)
  else getReply cfg args dataSize localDataSize
    (opteeRuntimeVariableInvokeCommand ta .vsGetOp variableParamSize variableResultSize
      { st with
        param := encodeGet cfg name guid localVariableNameSize st.param
        result := st.result.fill 0 cfg.memSize 0 })

/-- `OpteeRuntimeGetVariable`. -/
def opteeRuntimeGetVariable (args : GetArgs) (st : AuthVarState σ) :
    GetOutcome × AuthVarState σ :=
  if st.atRuntime then (args.exit .notFound, st)
  else match args.variableName, args.vendorGuid, args.dataSize with
  | some name, some guid, some dataSize =>
    if dataSize ≠ 0 ∧ args.data.isNone then (args.exit .invalidParameter, st)
    else if isTestHook cfg name guid dataSize then
      ({ args.exit .success with
        data := args.data.map
          (·.write 0 (ByteStore.leBytes cfg.arch.uintnBytes st.sessionId.toNat)) }, st)
    else if st.mTeecSessionOpened = false then (args.exit .notReady, st)
    else if st.buffersAllocated = false then (args.exit .outOfResources, st)
    else getChecked cfg ta args name guid dataSize st
  | _, _, _ => (args.exit .invalidParameter, st)

/-! ## OpteeRuntimeGetNextVariableName -/

/-- The caller's buffer for a name, with the string it holds. -/
structure NameBuffer where
  mem : ByteStore
  name : Char16String
  holds : mem.read 0 name.strSize = name.bytes

/-- The arguments of `OpteeRuntimeGetNextVariableName`; `none` is a `NULL` pointer. -/
structure GetNextArgs where
  variableNameSize : Option ℕ
  variableName : Option NameBuffer
  vendorGuid : Option EfiGuid

/-- What `OpteeRuntimeGetNextVariableName` returns and leaves in its arguments. -/
structure GetNextOutcome where
  status : EfiStatus
  variableNameSize : ℕ
  variableName : Option ByteStore
  vendorGuid : Option EfiGuid

/-- An exit that leaves the name and the GUID alone. -/
def GetNextArgs.exit (args : GetNextArgs) (status : EfiStatus) (variableNameSize : ℕ) :
    GetNextOutcome :=
  ⟨status, variableNameSize, args.variableName.map NameBuffer.mem, args.vendorGuid⟩

/-- The GUID at an address. -/
def EfiGuid.ofStore (m : ByteStore) (a : ℕ) : EfiGuid := ⟨m.read a 16, ByteStore.length_read⟩

/-- `OpteeRuntimeGetNextVariableName` from the return of the TA.  `VARIABLE_GET_NEXT_RESULT`
has the layout of `VARIABLE_GET_PARAM`. -/
def getNextReply (args : GetNextArgs) (variableNameSize localOutVariableNameSize : ℕ) :
    EfiStatus × ℕ × AuthVarState σ → GetNextOutcome × AuthVarState σ
  | (status, resultSize, st) =>
    let resultNameSize := (st.result.load16 GetParam.variableNameSize).toNat
    if status = .bufferTooSmall then
      (args.exit status (cfg.arch.uintn (resultSize + 2 ^ cfg.arch.uintnBits -
        GetParam.sizeof)), st)
    else if status ≠ .success then (args.exit status variableNameSize, st)
    else if localOutVariableNameSize < resultNameSize then
      (args.exit .badBufferSize resultNameSize, st)
    else (⟨.success, resultNameSize,
      args.variableName.map fun buffer =>
        buffer.mem.write 0 (st.result.read GetParam.variableName resultNameSize),
      some (.ofStore st.result GetParam.vendorGuid)⟩, st)

/-- `OpteeRuntimeGetNextVariableName` once its arguments are checked.  An empty name, which
asks for the first variable, goes to the TA with size zero. -/
def getNextChecked (args : GetNextArgs) (name : Char16String) (guid : EfiGuid)
    (variableNameSize : ℕ) (st : AuthVarState σ) : GetNextOutcome × AuthVarState σ :=
  let localInVariableNameSize := if name.chars = [] then 0 else name.strSize % 2 ^ 32
  let localOutVariableNameSize := variableNameSize % 2 ^ 32
  let variableParamSize := (GetParam.sizeof + localInVariableNameSize) % 2 ^ 32
  let variableResultSize := (GetParam.sizeof + localOutVariableNameSize) % 2 ^ 32
  if cfg.memSize ≤ localInVariableNameSize ∨ cfg.memSize ≤ localOutVariableNameSize then
    (args.exit .badBufferSize variableNameSize, st)
  else if cfg.memSize < variableParamSize ∨ cfg.memSize < variableResultSize then
    (args.exit .badBufferSize variableNameSize, st)
  else getNextReply cfg args variableNameSize localOutVariableNameSize
    (opteeRuntimeVariableInvokeCommand ta .vsGetNextVarOp variableParamSize variableResultSize
      { st with
        param := encodeGet cfg name guid localInVariableNameSize st.param
        result := st.result.fill 0 cfg.memSize 0 })

/-- `OpteeRuntimeGetNextVariableName`. -/
def opteeRuntimeGetNextVariableName (args : GetNextArgs) (st : AuthVarState σ) :
    GetNextOutcome × AuthVarState σ :=
  let exit := fun status => args.exit status (args.variableNameSize.getD 0)
  if st.atRuntime then (exit .unsupported, st)
  else match args.variableNameSize, args.variableName, args.vendorGuid with
  | some variableNameSize, some buffer, some guid =>
    if st.mTeecSessionOpened = false then (exit .notReady, st)
    else if st.buffersAllocated = false then (exit .outOfResources, st)
    else getNextChecked cfg ta args buffer.name guid variableNameSize st
  | _, _, _ => (exit .invalidParameter, st)

/-! ## SecureBootHook -/

/-- What the hook runs in: the TA, and the pool block `AllocatePool` returns. -/
structure HookEnv (σ : Type*) where
  ta : Ta σ
  pool : Option ByteStore

/-- `InternalGetVariable`: the size first, then the variable. -/
def internalGetVariable (hook : HookEnv σ) (name : Char16String) (guid : EfiGuid)
    (st : AuthVarState σ) : EfiStatus × List UInt8 × AuthVarState σ :=
  match opteeRuntimeGetVariable cfg hook.ta ⟨some name, some guid, some 0, none⟩ st with
  | (size, st) =>
    if size.status ≠ .bufferTooSmall then (size.status, [], st)
    else match hook.pool with
    | none => (.outOfResources, [], st)
    | some value =>
      match opteeRuntimeGetVariable cfg hook.ta
          ⟨some name, some guid, some size.dataSize, some value⟩ st with
      | (out, st) =>
        if out.status.isError then (out.status, [], st)
        else (out.status, (out.data.getD value).read 0 out.dataSize, st)

/-- `gEfiGlobalVariableGuid`. -/
def efiGlobalVariableGuid : EfiGuid :=
  ⟨[0x61, 0xDF, 0xE4, 0x8B, 0xCA, 0x93, 0xD2, 0x11,
    0xAA, 0x0D, 0x00, 0xE0, 0x98, 0x03, 0x2B, 0x8C], rfl⟩

/-- `gEfiImageSecurityDatabaseGuid`. -/
def efiImageSecurityDatabaseGuid : EfiGuid :=
  ⟨[0xCB, 0xB2, 0x19, 0xD7, 0x3A, 0x3D, 0x96, 0x45,
    0xA3, 0xBC, 0xDA, 0xD0, 0x0E, 0x67, 0x65, 0x6F], rfl⟩

def efiSecureBootModeName : Char16String :=
  .ofAscii ['S', 'e', 'c', 'u', 'r', 'e', 'B', 'o', 'o', 't'] rfl
def efiPlatformKeyName : Char16String := .ofAscii ['P', 'K'] rfl
def efiKeyExchangeKeyName : Char16String := .ofAscii ['K', 'E', 'K'] rfl
def efiImageSecurityDatabase : Char16String := .ofAscii ['d', 'b'] rfl
def efiImageSecurityDatabase1 : Char16String := .ofAscii ['d', 'b', 'x'] rfl

/-- `mVariableType`. -/
def mVariableType : List (Char16String × EfiGuid) :=
  [(efiSecureBootModeName, efiGlobalVariableGuid),
    (efiPlatformKeyName, efiGlobalVariableGuid),
    (efiKeyExchangeKeyName, efiGlobalVariableGuid),
    (efiImageSecurityDatabase, efiImageSecurityDatabaseGuid),
    (efiImageSecurityDatabase1, efiImageSecurityDatabaseGuid)]

/-- `IsSecureBootPolicyVariable`. -/
def isSecureBootPolicyVariable (name : Char16String) (guid : EfiGuid) : Bool :=
  mVariableType.contains (name, guid)

/-- `SecureBootHook`. -/
def secureBootHook (hook : HookEnv σ) (name : Char16String) (guid : EfiGuid)
    (st : AuthVarState σ) : AuthVarState σ :=
  if st.variableArchInstalled = false then st
  else if isSecureBootPolicyVariable name guid = false then st
  else match internalGetVariable cfg hook name guid st with
  | (status, data, st) =>
    { st with measurements :=
        st.measurements ++ [⟨name, guid, if status.isError then [] else data⟩] }

/-! ## OpteeRuntimeSetVariable -/

namespace SetParam

/-! The offsets of `VARIABLE_SET_PARAM`. -/

def size : ℕ := 0
def variableNameSize : ℕ := 4
def vendorGuid : ℕ := 8
def attributes : ℕ := 24
def dataSize : ℕ := 28
def offsetVariableName : ℕ := 32
def offsetData : ℕ := 36
def payload : ℕ := 40
def sizeof : ℕ := 44

end SetParam

/-- The arguments of `OpteeRuntimeSetVariable`; `none` is a `NULL` pointer. -/
structure SetArgs where
  variableName : Option Char16String
  vendorGuid : Option EfiGuid
  attributes : UInt32
  dataSize : ℕ
  data : Option ByteStore

/-- The bytes `Data` points to. -/
def SetArgs.bytes (args : SetArgs) : List UInt8 :=
  (args.data.getD fun _ => 0).read 0 args.dataSize

/-- The request of `OpteeRuntimeSetVariable`. -/
def encodeSet (args : SetArgs) (name : Char16String) (guid : EfiGuid) (param : ByteStore) :
    ByteStore :=
  (((((((((param.fill 0 cfg.memSize 0).store32 SetParam.size
    (UInt32.ofNat SetParam.sizeof)).store16 SetParam.variableNameSize
    (UInt16.ofNat name.strSize)).store32 SetParam.attributes
    args.attributes).store32 SetParam.dataSize
    (UInt32.ofNat args.dataSize)).store32 SetParam.offsetVariableName
    0).store32 SetParam.offsetData
    (UInt32.ofNat name.strSize)).write SetParam.vendorGuid guid.bytes).write
    SetParam.payload name.bytes).write (SetParam.payload + name.strSize) args.bytes

/-- `OpteeRuntimeSetVariable` once its arguments are checked. -/
def setChecked (hook : HookEnv σ) (args : SetArgs) (name : Char16String) (guid : EfiGuid)
    (st : AuthVarState σ) : EfiStatus × AuthVarState σ :=
  let variableParamSize :=
    cfg.arch.uintn (SetParam.sizeof + name.strSize + args.dataSize)
  if cfg.memSize ≤ name.strSize ∨ cfg.memSize ≤ args.dataSize then (.badBufferSize, st)
  else if cfg.memSize < variableParamSize then (.badBufferSize, st)
  else
    -- without a result buffer the TA gets four bytes of the transport's
    match opteeRuntimeVariableInvokeCommand ta .vsSetOp (variableParamSize % 2 ^ 32) 4
        { st with
          param := encodeSet cfg args name guid st.param
          result := st.result.fill 0 cfg.memSize 0 } with
    | (status, _, st) =>
      if status.isError then (status, st) else (status, secureBootHook cfg hook name guid st)

/-- `OpteeRuntimeSetVariable`. -/
def opteeRuntimeSetVariable (hook : HookEnv σ) (args : SetArgs) (st : AuthVarState σ) :
    EfiStatus × AuthVarState σ :=
  if st.atRuntime then (.unsupported, st)
  else match args.variableName, args.vendorGuid with
  | some name, some guid =>
    if name.chars = [] then (.invalidParameter, st)
    else if args.dataSize ≠ 0 ∧ args.data.isNone then (.invalidParameter, st)
    else if st.mTeecSessionOpened = false then (.notReady, st)
    else if isTestHook cfg name guid args.dataSize then
      (.success, { st with sessionId := (args.data.getD fun _ => 0).load32 0 })
    else setChecked cfg ta hook args name guid st
  | _, _ => (.invalidParameter, st)

/-! ## OpteeRuntimeQueryVariableInfo -/

namespace QueryParam

/-! The offsets of `VARIABLE_QUERY_PARAM`. -/

def size : ℕ := 0
def attributes : ℕ := 4
def sizeof : ℕ := 8

end QueryParam

namespace QueryResult

/-! The offsets of `VARIABLE_QUERY_RESULT`. -/

def maximumVariableStorageSize : ℕ := 8
def remainingVariableStorageSize : ℕ := 16
def maximumVariableSize : ℕ := 24
def sizeof : ℕ := 32

end QueryResult

/-- The arguments of `OpteeRuntimeQueryVariableInfo`: what the three pointers point to, `none`
for `NULL`. -/
structure QueryArgs where
  attributes : UInt32
  maximumVariableStorageSize : Option UInt64
  remainingVariableStorageSize : Option UInt64
  maximumVariableSize : Option UInt64

/-- The request of `OpteeRuntimeQueryVariableInfo`. -/
def encodeQuery (attributes : UInt32) (param : ByteStore) : ByteStore :=
  ((param.fill 0 cfg.memSize 0).store32 QueryParam.size
    (UInt32.ofNat QueryParam.sizeof)).store32 QueryParam.attributes attributes

/-- `OpteeRuntimeQueryVariableInfo`: the status, and the arguments as it leaves them. -/
def opteeRuntimeQueryVariableInfo (args : QueryArgs) (st : AuthVarState σ) :
    (EfiStatus × QueryArgs) × AuthVarState σ :=
  if st.atRuntime then ((.unsupported, args), st)
  else if args.maximumVariableStorageSize.isNone ∨ args.remainingVariableStorageSize.isNone ∨
      args.maximumVariableSize.isNone ∨ args.attributes = 0 then
    ((.invalidParameter, args), st)
  else if st.mTeecSessionOpened = false then ((.notReady, args), st)
  else if st.buffersAllocated = false then ((.outOfResources, args), st)
  else if cfg.memSize < QueryParam.sizeof ∨ cfg.memSize < QueryResult.sizeof then
    ((.badBufferSize, args), st)
  else match opteeRuntimeVariableInvokeCommand ta .vsQueryInfoOp QueryParam.sizeof
      QueryResult.sizeof { st with
        param := encodeQuery cfg args.attributes st.param
        result := st.result.fill 0 cfg.memSize 0 } with
  | (status, _, st) =>
    if status.isError then ((status, args), st)
    else ((status, { args with
      maximumVariableStorageSize := some (st.result.load64 QueryResult.maximumVariableStorageSize)
      remainingVariableStorageSize :=
        some (st.result.load64 QueryResult.remainingVariableStorageSize)
      maximumVariableSize := some (st.result.load64 QueryResult.maximumVariableSize) }), st)

end Services

end AuthVar
end MuPlatform
