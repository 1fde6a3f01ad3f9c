import MuPlatform.AuthVar.ServiceCalls
import MuPlatform.Base.Span

/-!
# What a call asks of the trusted application

A call of a variable service is to be turned down, or to send one request that says by its
layout what the caller asked for.  `recorded` is a TA that remembers its requests, whatever it
answers to them; `Faithful` reads a request back against the call.

The fields of `UEFIVarServices.h` are narrower than the sizes the driver checks:
`VariableNameSize` has sixteen bits, and the size of the whole request thirty-two.  A call
whose sizes they can count is encoded faithfully or turned down, and no other is
(`encodedOrRejected_iff`).  The calls the tests reach the session id by are neither.
-/

namespace MuPlatform
namespace AuthVar

open Optee

/-! ## A record of the requests -/

section Record

variable {σ : Type*}

/-- A TA that remembers its requests. -/
def recorded (ta : Ta σ) : Ta (σ × List TaRequest) := fun req s =>
  match ta req s.1 with
  | (reply, taState) => (reply, (taState, s.2 ++ [req]))

/-- A hook whose requests are its own. -/
def HookEnv.unrecorded (hook : HookEnv σ) : HookEnv (σ × List TaRequest) where
  ta := fun req s =>
    match hook.ta req s.1 with
    | (reply, taState) => (reply, (taState, s.2))
  pool := hook.pool

/-- The driver with an empty record. -/
def AuthVarState.record (st : AuthVarState σ) : AuthVarState (σ × List TaRequest) :=
  { st with ta := (st.ta, []) }

def ServiceAnswer.status : ServiceAnswer → EfiStatus
  | .getVariable out => out.status
  | .getNextVariableName out => out.status
  | .setVariable status => status
  | .queryVariableInfo out => out.1

/-- The call with a record: what it answers, and the requests the TA gets. -/
def ServiceCall.requests (cfg : AuthVarConfig) (ta : Ta σ) (hook : HookEnv σ)
    (call : ServiceCall) (st : AuthVarState σ) : ServiceAnswer × List TaRequest :=
  match call.run cfg (recorded ta) hook.unrecorded st.record with
  | (answer, after) => (answer, after.ta.2)

end Record

/-! ## Faithful requests -/

namespace TaRequest

/-! Where the parts of a request lie. -/

def span (req : TaRequest) : Span := ⟨0, req.param.length⟩

def getName (req : TaRequest) : Span :=
  ⟨GetParam.variableName, (req.mem.load16 GetParam.variableNameSize).toNat⟩

def setName (req : TaRequest) : Span :=
  ⟨SetParam.payload + (req.mem.load32 SetParam.offsetVariableName).toNat,
    (req.mem.load16 SetParam.variableNameSize).toNat⟩

def setDataSpan (req : TaRequest) : Span :=
  ⟨SetParam.payload + (req.mem.load32 SetParam.offsetData).toNat,
    (req.mem.load32 SetParam.dataSize).toNat⟩

/-- The request is inside the transport buffer, and leaves the result no more room than the
other buffer has. -/
structure InTransport (cfg : AuthVarConfig) (req : TaRequest) : Prop where
  param_le : req.param.length ≤ cfg.memSize
  result_le : req.resultSize ≤ cfg.memSize

/-- The request names the variable `key`, with the name and the GUID inside it. -/
structure GetsKey (command : VariableServiceOp) (key : TaKey) (req : TaRequest) : Prop where
  command_eq : req.command = command
  key_eq : req.getKey = key
  guid_within : Span.Within ⟨GetParam.vendorGuid, 16⟩ req.span
  name_within : req.getName.Within req.span

/-- The request sets the variable `key`, with the name and the data inside it and apart. -/
structure Sets (key : TaKey) (attributes : UInt32) (data : List UInt8) (req : TaRequest) :
    Prop where
  command_eq : req.command = .vsSetOp
  key_eq : req.setKey = key
  attributes_eq : req.setAttributes = attributes
  data_eq : req.setData = data
  header_within : Span.Within ⟨0, SetParam.payload⟩ req.span
  name_within : req.setName.Within req.span
  data_within : req.setDataSpan.Within req.span
  apart : req.setName.Apart req.setDataSpan

/-- The request asks about `attributes`. -/
structure Queries (attributes : UInt32) (req : TaRequest) : Prop where
  command_eq : req.command = .vsQueryInfoOp
  attributes_eq : req.mem.load32 QueryParam.attributes = attributes
  within : Span.Within ⟨0, QueryParam.sizeof⟩ req.span

end TaRequest

/-- The request says what the caller of the service asked for. -/
def ServiceCall.Asks : ServiceCall → TaRequest → Prop
  | .getVariable args, req => ∃ name guid, args.variableName = some name ∧
      args.vendorGuid = some guid ∧ req.GetsKey .vsGetOp (name.bytes, guid.bytes)
  | .getNextVariableName args, req => ∃ buffer guid, args.variableName = some buffer ∧
      args.vendorGuid = some guid ∧ req.GetsKey .vsGetNextVarOp (requestKey buffer.name guid)
  | .setVariable args, req => ∃ name guid, args.variableName = some name ∧
      args.vendorGuid = some guid ∧
      req.Sets (name.bytes, guid.bytes) args.attributes args.bytes
  | .queryVariableInfo args, req => req.Queries args.attributes

/-- The call is turned down without a request, or makes a single one, which says what the
caller asked for. -/
def ServiceCall.EncodedOrRejected {σ : Type*} (cfg : AuthVarConfig) (ta : Ta σ)
    (hook : HookEnv σ) (call : ServiceCall) (st : AuthVarState σ) : Prop :=
  match call.requests cfg ta hook st with
  | (answer, reqs) => answer.status.isError = true ∧ reqs = [] ∨
      ∃ req, reqs = [req] ∧ req.InTransport cfg ∧ call.Asks req

/-! ## The calls whose sizes are counted -/

section Sizes

variable {σ : Type*} (cfg : AuthVarConfig) (st : AuthVarState σ)

/-- At boot time, with the pointers of a get as it takes them. -/
structure GetArgs.Admitted (args : GetArgs) (name : Char16String) (guid : EfiGuid)
    (dataSize : ℕ) : Prop where
  boot : st.atRuntime = false
  variableName_eq : args.variableName = some name
  vendorGuid_eq : args.vendorGuid = some guid
  dataSize_eq : args.dataSize = some dataSize
  nonNull : ¬ (dataSize ≠ 0 ∧ args.data.isNone = true)

/-- At boot time, with the pointers of an enumeration as it takes them, a session and the
buffers. -/
structure GetNextArgs.Admitted (args : GetNextArgs) (variableNameSize : ℕ)
    (buffer : NameBuffer) (guid : EfiGuid) : Prop where
  boot : st.atRuntime = false
  variableNameSize_eq : args.variableNameSize = some variableNameSize
  variableName_eq : args.variableName = some buffer
  vendorGuid_eq : args.vendorGuid = some guid
  session : st.mTeecSessionOpened = true
  buffers : st.buffersAllocated = true

/-- At boot time, with the arguments of a set as it takes them, and a session. -/
structure SetArgs.Admitted (args : SetArgs) (name : Char16String) (guid : EfiGuid) : Prop where
  boot : st.atRuntime = false
  variableName_eq : args.variableName = some name
  vendorGuid_eq : args.vendorGuid = some guid
  nonempty : name.chars ≠ []
  nonNull : ¬ (args.dataSize ≠ 0 ∧ args.data.isNone = true)
  session : st.mTeecSessionOpened = true

/-- The checks of the 32-bit sizes of a name and of a result behind a header. -/
def PassesChecks (header nameSize resultSize : ℕ) : Prop :=
  ¬ (cfg.memSize ≤ nameSize ∨ cfg.memSize ≤ resultSize) ∧
    ¬ (cfg.memSize < (GetParam.sizeof + nameSize) % 2 ^ 32 ∨
      cfg.memSize < (header + resultSize) % 2 ^ 32)

/-- The checks of the sizes of a set. -/
def SetArgs.PassesChecks (args : SetArgs) (name : Char16String) : Prop :=
  ¬ (cfg.memSize ≤ name.strSize ∨ cfg.memSize ≤ args.dataSize) ∧
    ¬ cfg.memSize < cfg.arch.uintn (SetParam.sizeof + name.strSize + args.dataSize)

/-- `LocalInVariableNameSize`. -/
def localInSize (name : Char16String) : ℕ :=
  if name.chars = [] then 0 else name.strSize % 2 ^ 32

/-- The call is none by which the tests reach the session id, and if its sizes pass the
checks, the fields of the request can count them. -/
def ServiceCall.Counted : ServiceCall → Prop
  | .getVariable args => ∀ name guid dataSize, args.Admitted st name guid dataSize →
      isTestHook cfg name guid dataSize = false ∧
      (st.mTeecSessionOpened = true → st.buffersAllocated = true →
        PassesChecks cfg GetResult.sizeof (name.strSize % 2 ^ 32) (dataSize % 2 ^ 32) →
          name.strSize < 2 ^ 16)
  | .getNextVariableName args => ∀ size buffer guid, args.Admitted st size buffer guid →
      PassesChecks cfg GetParam.sizeof (localInSize buffer.name) (size % 2 ^ 32) →
        buffer.name.strSize < 2 ^ 16
  | .setVariable args => ∀ name guid, args.Admitted st name guid →
      isTestHook cfg name guid args.dataSize = false ∧
      (args.PassesChecks cfg name → name.strSize < 2 ^ 16 ∧
        SetParam.sizeof + name.strSize + args.dataSize < 2 ^ 32)
  | .queryVariableInfo _ => True

end Sizes

/-! ## The record -/

section Record

variable {σ : Type*} {cfg : AuthVarConfig} {ta : Ta σ} {st : AuthVarState σ} {P : σ → Prop}

/-- What every request to the TA keeps is kept by a get. -/
lemma get_ta (hta : ∀ req s, P s → P (ta req s).2) (h : P st.ta) {args : GetArgs} :
    P (opteeRuntimeGetVariable cfg ta args st).2.ta := by
  unfold opteeRuntimeGetVariable
  split
  · exact h
  split
  · split
    · exact h
    split
    · exact h
    split
    · exact h
    split
    · exact h
    · simp only [getChecked]
      split
      · exact h
      split
      · exact h
      · rw [getReply_snd]
        exact hta _ _ h
  · exact h

lemma internalGetVariable_ta {hook : HookEnv σ} (hta : ∀ req s, P s → P (hook.ta req s).2)
    (h : P st.ta) {name : Char16String} {guid : EfiGuid} :
    P (internalGetVariable cfg hook name guid st).2.2.ta := by
  have hsize : P (opteeRuntimeGetVariable cfg hook.ta ⟨some name, some guid, some 0, none⟩
    st).2.ta := get_ta hta h
  simp only [internalGetVariable]
  split
  · exact hsize
  split
  · exact hsize
  · split
    · exact get_ta hta hsize
    · exact get_ta hta hsize

/-- What every request of the hook keeps is kept by the hook. -/
lemma secureBootHook_ta {hook : HookEnv σ} (hta : ∀ req s, P s → P (hook.ta req s).2)
    (h : P st.ta) {name : Char16String} {guid : EfiGuid} :
    P (secureBootHook cfg hook name guid st).ta := by
  unfold secureBootHook
  split
  · exact h
  split
  · exact h
  · exact internalGetVariable_ta hta h

/-- The requests of the hook are not on the record. -/
lemma secureBootHook_unrecorded {hook : HookEnv σ} {name : Char16String} {guid : EfiGuid}
    {st : AuthVarState (σ × List TaRequest)} {reqs : List TaRequest} (h : st.ta.2 = reqs) :
    (secureBootHook cfg hook.unrecorded name guid st).ta.2 = reqs :=
  @secureBootHook_ta _ cfg st (fun s => s.2 = reqs) hook.unrecorded (fun _ _ hs => hs) h name guid

end Record

/-! ## Turned down, answered, sent -/

section Outcome

variable {σ : Type*} {cfg : AuthVarConfig} {ta : Ta σ} {hook : HookEnv σ} {call : ServiceCall}
  {st : AuthVarState σ} {req : TaRequest}

/-- A call that changes nothing makes no request: an error turns the caller down. -/
lemma encodedOrRejected_of_error {answer : ServiceAnswer}
    (h : call.run cfg (recorded ta) hook.unrecorded st.record = (answer, st.record))
    (herror : answer.status.isError = true) : call.EncodedOrRejected cfg ta hook st := by
  rw [ServiceCall.EncodedOrRejected, ServiceCall.requests, h]
  exact .inl ⟨herror, rfl⟩

lemma not_encodedOrRejected_of_success {answer : ServiceAnswer}
    (h : call.run cfg (recorded ta) hook.unrecorded st.record = (answer, st.record))
    (hsuccess : answer.status = .success) : ¬ call.EncodedOrRejected cfg ta hook st := by
  rw [ServiceCall.EncodedOrRejected, ServiceCall.requests, h]
  rintro (⟨herror, -⟩ | ⟨req, hone, -⟩)
  · exact EfiStatus.ne_success_of_isError herror hsuccess
  · exact absurd hone (List.cons_ne_nil _ _).symm

lemma encodedOrRejected_iff_of_sent
    (h : (call.run cfg (recorded ta) hook.unrecorded st.record).2.ta.2 = [req]) :
    call.EncodedOrRejected cfg ta hook st ↔ req.InTransport cfg ∧ call.Asks req := by
  constructor
  · rintro (⟨-, hnone⟩ | ⟨req', hone, hin, hasks⟩)
    · exact absurd (h.symm.trans hnone) (List.cons_ne_nil _ _)
    · obtain rfl : req = req' := (List.cons.inj (h.symm.trans hone)).1
      exact ⟨hin, hasks⟩
  · rintro ⟨hin, hasks⟩
    exact .inr ⟨req, h, hin, hasks⟩

end Outcome

/-! ## OpteeRuntimeGetVariable -/

section GetVariable

variable {σ : Type*} {cfg : AuthVarConfig} {ta : Ta σ} {args : GetArgs} {st : AuthVarState σ}
  {name : Char16String} {guid : EfiGuid} {dataSize : ℕ}

/-- The get ends with `out` before it uses a buffer or the TA, whatever is in them. -/
def GetArgs.Stops (cfg : AuthVarConfig) (st : AuthVarState σ) (args : GetArgs)
    (out : GetOutcome) : Prop :=
  ∀ (ta : Ta σ) (param result : ByteStore),
    opteeRuntimeGetVariable cfg ta args { st with param := param, result := result } =
      (out, { st with param := param, result := result })

lemma GetArgs.Stops.eq {out : GetOutcome} (h : args.Stops cfg st out) :
    opteeRuntimeGetVariable cfg ta args st = (out, st) := h ta st.param st.result

/-- A get whose pointers are not taken is turned down. -/
lemma getVariable_refused (h : ∀ name guid dataSize, ¬ args.Admitted st name guid dataSize) :
    ∃ status, (status.isError = true ∧ status ≠ .bufferTooSmall) ∧
      args.Stops cfg st (args.exit status) := by
  by_cases hboot : st.atRuntime = true
  · refine ⟨.notFound, ⟨rfl, by decide⟩, fun ta param result => ?_⟩
    simp only [opteeRuntimeGetVariable, hboot, if_true]
  refine ⟨.invalidParameter, ⟨rfl, by decide⟩, fun ta param result => ?_⟩
  simp only [opteeRuntimeGetVariable, hboot, Bool.false_eq_true, if_false]
  split
  next name guid dataSize hname hguid hsize =>
    by_cases hnull : dataSize ≠ 0 ∧ args.data.isNone = true
    · rw [if_pos hnull]
    · exact absurd ⟨Bool.not_eq_true _ ▸ hboot, hname, hguid, hsize, hnull⟩
        (h name guid dataSize)
  · rfl

/-- The session id is answered without a request, into the `dataSize` bytes of the caller. -/
lemma getVariable_testHook (h : args.Admitted st name guid dataSize)
    (hhook : isTestHook cfg name guid dataSize = true) :
    args.Stops cfg st { args.exit .success with
      data := args.data.map
        (·.write 0 (ByteStore.leBytes cfg.arch.uintnBytes st.sessionId.toNat)) } := by
  intro ta param result
  simp only [opteeRuntimeGetVariable, h.boot, h.variableName_eq, h.vendorGuid_eq,
    h.dataSize_eq, h.nonNull, hhook, Bool.false_eq_true, if_false, if_true]

/-- The request of a get. -/
def getRequest (cfg : AuthVarConfig) (name : Char16String) (guid : EfiGuid) (dataSize : ℕ)
    (param : ByteStore) : TaRequest where
  command := .vsGetOp
  param := (encodeGet cfg name guid (name.strSize % 2 ^ 32) param).read 0
    ((GetParam.sizeof + name.strSize % 2 ^ 32) % 2 ^ 32)
  resultSize := (GetResult.sizeof + dataSize % 2 ^ 32) % 2 ^ 32

/-- Without a session, without buffers or with sizes over the transport a get is turned
down. -/
lemma getVariable_unsent (h : args.Admitted st name guid dataSize)
    (hhook : isTestHook cfg name guid dataSize = false)
    (hunsent : ¬ (st.mTeecSessionOpened = true ∧ st.buffersAllocated = true ∧
      PassesChecks cfg GetResult.sizeof (name.strSize % 2 ^ 32) (dataSize % 2 ^ 32))) :
    ∃ status, (status.isError = true ∧ status ≠ .bufferTooSmall) ∧
      args.Stops cfg st (args.exit status) := by
  by_cases hsession : st.mTeecSessionOpened = false
  · refine ⟨.notReady, ⟨rfl, by decide⟩, fun ta param result => ?_⟩
    simp only [opteeRuntimeGetVariable, h.boot, h.variableName_eq, h.vendorGuid_eq,
      h.dataSize_eq, h.nonNull, hhook, hsession, Bool.false_eq_true, if_false, if_true]
  by_cases hbuffers : st.buffersAllocated = false
  · refine ⟨.outOfResources, ⟨rfl, by decide⟩, fun ta param result => ?_⟩
    simp only [opteeRuntimeGetVariable, h.boot, h.variableName_eq, h.vendorGuid_eq,
      h.dataSize_eq, h.nonNull, hhook, hsession, hbuffers, Bool.false_eq_true,
      Bool.true_eq_false, if_false, if_true]
  refine ⟨.badBufferSize, ⟨rfl, by decide⟩, fun ta param result => ?_⟩
  simp only [opteeRuntimeGetVariable, h.boot, h.variableName_eq, h.vendorGuid_eq,
    h.dataSize_eq, h.nonNull, hhook, hsession, hbuffers, Bool.false_eq_true,
    Bool.true_eq_false, if_false, getChecked]
  split
  · rfl
  next hfirst =>
    split
    · rfl
    next hsecond =>
      exact absurd ⟨Bool.not_eq_false _ ▸ hsession, Bool.not_eq_false _ ▸ hbuffers,
        hfirst, hsecond⟩ hunsent

/-- The state in which the TA is invoked for a get. -/
def AuthVarState.encodedGet (st : AuthVarState σ) (cfg : AuthVarConfig) (name : Char16String)
    (guid : EfiGuid) (nameSize : ℕ) : AuthVarState σ :=
  { st with
    param := encodeGet cfg name guid nameSize st.param
    result := st.result.fill 0 cfg.memSize 0 }

/-- Otherwise the TA is invoked, and its reply read. -/
lemma getVariable_eq (h : args.Admitted st name guid dataSize)
    (hhook : isTestHook cfg name guid dataSize = false) (hsession : st.mTeecSessionOpened = true)
    (hbuffers : st.buffersAllocated = true)
    (hpass : PassesChecks cfg GetResult.sizeof (name.strSize % 2 ^ 32) (dataSize % 2 ^ 32)) :
    opteeRuntimeGetVariable cfg ta args st = getReply cfg args dataSize (dataSize % 2 ^ 32)
      (opteeRuntimeVariableInvokeCommand ta .vsGetOp
        ((GetParam.sizeof + name.strSize % 2 ^ 32) % 2 ^ 32)
        ((GetResult.sizeof + dataSize % 2 ^ 32) % 2 ^ 32)
        (st.encodedGet cfg name guid (name.strSize % 2 ^ 32))) := by
  obtain ⟨hfirst, hsecond⟩ := hpass
  simp only [opteeRuntimeGetVariable, h.boot, h.variableName_eq, h.vendorGuid_eq,
    h.dataSize_eq, h.nonNull, hhook, hsession, hbuffers, Bool.false_eq_true,
    Bool.true_eq_false, if_false, getChecked, if_neg hfirst, if_neg hsecond,
    AuthVarState.encodedGet]

lemma getVariable_sent (h : args.Admitted st name guid dataSize)
    (hhook : isTestHook cfg name guid dataSize = false) (hsession : st.mTeecSessionOpened = true)
    (hbuffers : st.buffersAllocated = true)
    (hpass : PassesChecks cfg GetResult.sizeof (name.strSize % 2 ^ 32) (dataSize % 2 ^ 32)) :
    (opteeRuntimeGetVariable cfg ta args st).2.ta =
      (ta (getRequest cfg name guid dataSize st.param) st.ta).2 := by
  rw [getVariable_eq h hhook hsession hbuffers hpass, getReply_snd]
  rfl

/-- A name that sixteen bits count is in the request. -/
lemma asks_getRequest (h : args.Admitted st name guid dataSize) (hlt : name.strSize < 2 ^ 16)
    (hpass : PassesChecks cfg GetResult.sizeof (name.strSize % 2 ^ 32) (dataSize % 2 ^ 32))
    {param : ByteStore} : (getRequest cfg name guid dataSize param).InTransport cfg ∧
      (ServiceCall.getVariable args).Asks (getRequest cfg name guid dataSize param) := by
  obtain ⟨-, hsecond⟩ := hpass
  obtain ⟨hparam, hresult⟩ := not_or.mp hsecond
  have hs : name.strSize % 2 ^ 32 = name.strSize := Nat.mod_eq_of_lt (by omega)
  have hn : (GetParam.sizeof + name.strSize) % 2 ^ 32 = GetParam.sizeof + name.strSize :=
    Nat.mod_eq_of_lt (by simp only [GetParam.sizeof]; omega)
  simp only [getRequest, hs, hn] at hparam ⊢
  refine ⟨⟨?_, Nat.not_lt.mp hresult⟩, name, guid, h.variableName_eq, h.vendorGuid_eq, rfl, ?_,
    ?_, ?_⟩
  · rw [ByteStore.length_read]
    exact Nat.not_lt.mp hparam
  · rw [getKey_encodeGet le_rfl, taKey, Nat.mod_eq_of_lt hlt,
      List.take_of_length_le name.length_bytes.le]
  · simp only [TaRequest.span, ByteStore.length_read, Span.Within, GetParam.vendorGuid,
      GetParam.sizeof]
    omega
  · have hsize := (@encodeGet_fields cfg name guid param).1
    rw [TaRequest.getName, TaRequest.mem_load16 (by
      simp only [GetParam.variableNameSize, GetParam.sizeof]; omega), hsize,
      UInt16.toNat_ofNat', Nat.mod_eq_of_lt hlt]
    simp only [TaRequest.span, ByteStore.length_read, Span.Within, GetParam.variableName,
      GetParam.sizeof]
    omega

/-- A request that reads back as the name counts it in sixteen bits. -/
lemma TaRequest.GetsKey.length_lt {command : VariableServiceOp} {key : TaKey}
    {req : TaRequest} (h : req.GetsKey command key) : key.1.length < 2 ^ 16 := by
  rw [← h.key_eq, TaRequest.getKey, ByteStore.length_read]
  exact UInt16.toNat_lt _

lemma GetArgs.Admitted.unique {name' : Char16String} {guid' : EfiGuid} {dataSize' : ℕ}
    (h : args.Admitted st name guid dataSize) (h' : args.Admitted st name' guid' dataSize') :
    name' = name ∧ guid' = guid ∧ dataSize' = dataSize :=
  ⟨Option.some.inj (h'.variableName_eq.symm.trans h.variableName_eq),
    Option.some.inj (h'.vendorGuid_eq.symm.trans h.vendorGuid_eq),
    Option.some.inj (h'.dataSize_eq.symm.trans h.dataSize_eq)⟩

lemma GetArgs.Admitted.record (h : args.Admitted st name guid dataSize) :
    args.Admitted st.record name guid dataSize := ⟨h.1, h.2, h.3, h.4, h.5⟩

/-- For an admitted get the condition is about its own name. -/
lemma GetArgs.Admitted.counted_iff (h : args.Admitted st name guid dataSize) :
    (ServiceCall.getVariable args).Counted cfg st ↔ isTestHook cfg name guid dataSize = false ∧
      (st.mTeecSessionOpened = true → st.buffersAllocated = true →
        PassesChecks cfg GetResult.sizeof (name.strSize % 2 ^ 32) (dataSize % 2 ^ 32) →
          name.strSize < 2 ^ 16) := by
  refine ⟨fun hc => hc name guid dataSize h, fun hc name' guid' dataSize' h' => ?_⟩
  obtain ⟨rfl, rfl, rfl⟩ := h.unique h'
  exact hc

lemma GetArgs.Stops.run {hook : HookEnv σ} {out : GetOutcome} (h : args.Stops cfg st out) :
    (ServiceCall.getVariable args).run cfg ta hook st = (.getVariable out, st) := by
  rw [ServiceCall.run, h.eq]

lemma getVariable_encodedOrRejected_iff {hook : HookEnv σ} :
    (ServiceCall.getVariable args).EncodedOrRejected cfg ta hook st ↔
      (ServiceCall.getVariable args).Counted cfg st := by
  by_cases hadmitted : ∃ name guid dataSize, args.Admitted st name guid dataSize
  case neg =>
    have hnone : ∀ name guid dataSize, ¬ args.Admitted st name guid dataSize :=
      fun name guid dataSize h => hadmitted ⟨name, guid, dataSize, h⟩
    obtain ⟨status, ⟨herror, -⟩, hstops⟩ := @getVariable_refused _ cfg args st.record
      fun name guid dataSize h => hnone name guid dataSize ⟨h.1, h.2, h.3, h.4, h.5⟩
    refine iff_of_true ?_ fun name guid dataSize h => absurd h (hnone name guid dataSize)
    exact encodedOrRejected_of_error hstops.run herror
  obtain ⟨name, guid, dataSize, h⟩ := hadmitted
  rw [h.counted_iff]
  cases hhook : isTestHook cfg name guid dataSize with
  | true =>
      have hstops := getVariable_testHook h.record hhook
      exact iff_of_false (not_encodedOrRejected_of_success hstops.run rfl)
        fun hc => Bool.noConfusion hc.1
  | false =>
      by_cases hsent : st.mTeecSessionOpened = true ∧ st.buffersAllocated = true ∧
          PassesChecks cfg GetResult.sizeof (name.strSize % 2 ^ 32) (dataSize % 2 ^ 32)
      · obtain ⟨hsession, hbuffers, hpass⟩ := hsent
        have hreq := @getVariable_sent _ cfg (recorded ta) _ _ _ _ _ h.record hhook hsession
          hbuffers hpass
        have hone : ((ServiceCall.getVariable args).run cfg (recorded ta) hook.unrecorded
            st.record).2.ta.2 = [getRequest cfg name guid dataSize st.param] :=
          congrArg Prod.snd hreq
        rw [encodedOrRejected_iff_of_sent hone]
        refine ⟨fun hasks => ⟨rfl, fun _ _ _ => ?_⟩, fun hc => asks_getRequest h
          (hc.2 hsession hbuffers hpass) hpass⟩
        obtain ⟨-, name', guid', hname', -, hkey⟩ := hasks
        obtain rfl : name' = name := Option.some.inj (hname'.symm.trans h.variableName_eq)
        simpa using hkey.length_lt
      · obtain ⟨status, ⟨herror, -⟩, hstops⟩ := getVariable_unsent h.record hhook hsent
        exact iff_of_true (encodedOrRejected_of_error hstops.run herror)
          ⟨rfl, fun hsession hbuffers hpass => absurd ⟨hsession, hbuffers, hpass⟩ hsent⟩

end GetVariable

/-! ## OpteeRuntimeGetNextVariableName -/

section GetNextVariableName

variable {σ : Type*} {cfg : AuthVarConfig} {ta : Ta σ} {args : GetNextArgs}
  {st : AuthVarState σ} {size : ℕ} {buffer : NameBuffer} {guid : EfiGuid}

/-- The enumeration ends with `out` before it uses a buffer or the TA, whatever is in them. -/
def GetNextArgs.Stops (cfg : AuthVarConfig) (st : AuthVarState σ) (args : GetNextArgs)
    (out : GetNextOutcome) : Prop :=
  ∀ (ta : Ta σ) (param result : ByteStore),
    opteeRuntimeGetNextVariableName cfg ta args { st with param := param, result := result } =
      (out, { st with param := param, result := result })

lemma GetNextArgs.Stops.eq {out : GetNextOutcome} (h : args.Stops cfg st out) :
    opteeRuntimeGetNextVariableName cfg ta args st = (out, st) := h ta st.param st.result

/-- An enumeration whose pointers are not taken is turned down, and so is one without a session
or buffers. -/
lemma getNextVariableName_refused
    (h : ∀ size buffer guid, ¬ args.Admitted st size buffer guid) :
    ∃ status, (status.isError = true ∧ status ≠ .bufferTooSmall) ∧
      args.Stops cfg st (args.exit status (args.variableNameSize.getD 0)) := by
  by_cases hboot : st.atRuntime = true
  · refine ⟨.unsupported, ⟨rfl, by decide⟩, fun ta param result => ?_⟩
    simp only [opteeRuntimeGetNextVariableName, hboot, if_true]
  by_cases hpointers : ∃ size buffer guid, args.variableNameSize = some size ∧
      args.variableName = some buffer ∧ args.vendorGuid = some guid
  case neg =>
    refine ⟨.invalidParameter, ⟨rfl, by decide⟩, fun ta param result => ?_⟩
    simp only [opteeRuntimeGetNextVariableName, hboot, Bool.false_eq_true, if_false]
    split
    next size buffer guid hsize hname hguid =>
      exact absurd ⟨size, buffer, guid, hsize, hname, hguid⟩ hpointers
    · rfl
  obtain ⟨size, buffer, guid, hsize, hname, hguid⟩ := hpointers
  by_cases hsession : st.mTeecSessionOpened = false
  · refine ⟨.notReady, ⟨rfl, by decide⟩, fun ta param result => ?_⟩
    simp only [opteeRuntimeGetNextVariableName, hboot, hsize, hname, hguid, hsession,
      Bool.false_eq_true, if_false, if_true]
  refine ⟨.outOfResources, ⟨rfl, by decide⟩, fun ta param result => ?_⟩
  have hbuffers : st.buffersAllocated = false := by
    by_contra hbuffers
    exact h size buffer guid ⟨Bool.not_eq_true _ ▸ hboot, hsize, hname, hguid,
      Bool.not_eq_false _ ▸ hsession, Bool.not_eq_false _ ▸ hbuffers⟩
  simp only [opteeRuntimeGetNextVariableName, hboot, hsize, hname, hguid, hsession, hbuffers,
    Bool.false_eq_true, Bool.true_eq_false, if_false, if_true]

/-- The request of an enumeration. -/
def getNextRequest (cfg : AuthVarConfig) (name : Char16String) (guid : EfiGuid) (size : ℕ)
    (param : ByteStore) : TaRequest where
  command := .vsGetNextVarOp
  param := (encodeGet cfg name guid (localInSize name) param).read 0
    ((GetParam.sizeof + localInSize name) % 2 ^ 32)
  resultSize := (GetParam.sizeof + size % 2 ^ 32) % 2 ^ 32

lemma getNextVariableName_unsent (h : args.Admitted st size buffer guid)
    (hunsent : ¬ PassesChecks cfg GetParam.sizeof (localInSize buffer.name) (size % 2 ^ 32)) :
    args.Stops cfg st (args.exit .badBufferSize size) := by
  intro ta param result
  simp only [opteeRuntimeGetNextVariableName, h.boot, h.variableNameSize_eq,
    h.variableName_eq, h.vendorGuid_eq, h.session, h.buffers, Bool.false_eq_true,
    Bool.true_eq_false, if_false, getNextChecked]
  rw [show (if buffer.name.chars = [] then 0 else buffer.name.strSize % 2 ^ 32) =
    localInSize buffer.name from rfl]
  split
  · rfl
  next hfirst =>
    split
    · rfl
    next hsecond => exact absurd ⟨hfirst, hsecond⟩ hunsent

/-- Otherwise the TA is invoked, and its reply read. -/
lemma getNextVariableName_eq (h : args.Admitted st size buffer guid)
    (hpass : PassesChecks cfg GetParam.sizeof (localInSize buffer.name) (size % 2 ^ 32)) :
    opteeRuntimeGetNextVariableName cfg ta args st = getNextReply cfg args size (size % 2 ^ 32)
      (opteeRuntimeVariableInvokeCommand ta .vsGetNextVarOp
        ((GetParam.sizeof + localInSize buffer.name) % 2 ^ 32)
        ((GetParam.sizeof + size % 2 ^ 32) % 2 ^ 32)
        (st.encodedGet cfg buffer.name guid (localInSize buffer.name))) := by
  obtain ⟨hfirst, hsecond⟩ := hpass
  have hlocal : (if buffer.name.chars = [] then 0 else buffer.name.strSize % 2 ^ 32) =
    localInSize buffer.name := rfl
  simp only [opteeRuntimeGetNextVariableName, h.boot, h.variableNameSize_eq,
    h.variableName_eq, h.vendorGuid_eq, h.session, h.buffers, Bool.false_eq_true,
    Bool.true_eq_false, if_false, getNextChecked, hlocal, if_neg hfirst, if_neg hsecond,
    AuthVarState.encodedGet]

lemma getNextVariableName_sent (h : args.Admitted st size buffer guid)
    (hpass : PassesChecks cfg GetParam.sizeof (localInSize buffer.name) (size % 2 ^ 32)) :
    (opteeRuntimeGetNextVariableName cfg ta args st).2.ta =
      (ta (getNextRequest cfg buffer.name guid size st.param) st.ta).2 := by
  rw [getNextVariableName_eq h hpass, getNextReply_snd]
  rfl

lemma localInSize_of_lt {name : Char16String} (h : name.strSize < 2 ^ 16) :
    localInSize name = requestSize name := by
  rw [localInSize, requestSize, Nat.mod_eq_of_lt (by omega)]

/-- A name that sixteen bits count is in the request, the empty one as no bytes at all. -/
lemma asks_getNextRequest (h : args.Admitted st size buffer guid)
    (hlt : buffer.name.strSize < 2 ^ 16)
    (hpass : PassesChecks cfg GetParam.sizeof (localInSize buffer.name) (size % 2 ^ 32))
    {param : ByteStore} : (getNextRequest cfg buffer.name guid size param).InTransport cfg ∧
      (ServiceCall.getNextVariableName args).Asks
        (getNextRequest cfg buffer.name guid size param) := by
  obtain ⟨-, hsecond⟩ := hpass
  obtain ⟨hparam, hresult⟩ := not_or.mp hsecond
  have hle : requestSize buffer.name ≤ buffer.name.strSize := by
    rw [requestSize]
    split
    · exact Nat.zero_le _
    · exact le_rfl
  have hn : (GetParam.sizeof + requestSize buffer.name) % 2 ^ 32 =
      GetParam.sizeof + requestSize buffer.name :=
    Nat.mod_eq_of_lt (by simp only [GetParam.sizeof]; omega)
  simp only [getNextRequest, localInSize_of_lt hlt, hn] at hparam ⊢
  have hkey : TaRequest.getKey ⟨.vsGetNextVarOp,
      (encodeGet cfg buffer.name guid (requestSize buffer.name) param).read 0
        (GetParam.sizeof + requestSize buffer.name),
      (GetParam.sizeof + size % 2 ^ 32) % 2 ^ 32⟩ = requestKey buffer.name guid :=
    getKey_encodeNext hlt
  refine ⟨⟨?_, Nat.not_lt.mp hresult⟩, buffer, guid, h.variableName_eq, h.vendorGuid_eq, rfl,
    hkey, ?_, ?_⟩
  · rw [ByteStore.length_read]
    exact Nat.not_lt.mp hparam
  · simp only [TaRequest.span, ByteStore.length_read, Span.Within, GetParam.vendorGuid,
      GetParam.sizeof]
    omega
  · -- the key that reads back has as many bytes as the field says
    have hlen := congrArg (fun key => key.1.length) hkey
    simp only [TaRequest.getKey, ByteStore.length_read, requestKey] at hlen
    have hsize : (if buffer.name.chars = [] then [] else buffer.name.bytes).length =
        requestSize buffer.name := by
      rw [requestSize]
      split
      · rfl
      · exact buffer.name.length_bytes
    rw [TaRequest.getName, hlen, hsize]
    simp only [TaRequest.span, ByteStore.length_read, Span.Within, GetParam.variableName,
      GetParam.sizeof]
    omega

lemma GetNextArgs.Admitted.record (h : args.Admitted st size buffer guid) :
    args.Admitted st.record size buffer guid := ⟨h.1, h.2, h.3, h.4, h.5, h.6⟩

lemma GetNextArgs.Stops.run {hook : HookEnv σ} {out : GetNextOutcome}
    (h : args.Stops cfg st out) : (ServiceCall.getNextVariableName args).run cfg ta hook st =
      (.getNextVariableName out, st) := by
  rw [ServiceCall.run, h.eq]

/-- For an admitted enumeration the condition is about its own name. -/
lemma GetNextArgs.Admitted.counted_iff (h : args.Admitted st size buffer guid) :
    (ServiceCall.getNextVariableName args).Counted cfg st ↔
      (PassesChecks cfg GetParam.sizeof (localInSize buffer.name) (size % 2 ^ 32) →
        buffer.name.strSize < 2 ^ 16) := by
  refine ⟨fun hc => hc size buffer guid h, fun hc size' buffer' guid' h' => ?_⟩
  obtain rfl : size' = size :=
    Option.some.inj (h'.variableNameSize_eq.symm.trans h.variableNameSize_eq)
  obtain rfl : buffer' = buffer :=
    Option.some.inj (h'.variableName_eq.symm.trans h.variableName_eq)
  exact hc

lemma getNextVariableName_encodedOrRejected_iff {hook : HookEnv σ} :
    (ServiceCall.getNextVariableName args).EncodedOrRejected cfg ta hook st ↔
      (ServiceCall.getNextVariableName args).Counted cfg st := by
  by_cases hadmitted : ∃ size buffer guid, args.Admitted st size buffer guid
  case neg =>
    have hnone : ∀ size buffer guid, ¬ args.Admitted st size buffer guid :=
      fun size buffer guid h => hadmitted ⟨size, buffer, guid, h⟩
    obtain ⟨status, ⟨herror, -⟩, hstops⟩ := @getNextVariableName_refused _ cfg args st.record
      fun size buffer guid h => hnone size buffer guid ⟨h.1, h.2, h.3, h.4, h.5, h.6⟩
    refine iff_of_true ?_ fun size buffer guid h => absurd h (hnone size buffer guid)
    exact encodedOrRejected_of_error hstops.run herror
  obtain ⟨size, buffer, guid, h⟩ := hadmitted
  rw [h.counted_iff]
  by_cases hpass : PassesChecks cfg GetParam.sizeof (localInSize buffer.name) (size % 2 ^ 32)
  · have hreq := @getNextVariableName_sent _ cfg (recorded ta) _ _ _ _ _ h.record hpass
    have hone : ((ServiceCall.getNextVariableName args).run cfg (recorded ta) hook.unrecorded
        st.record).2.ta.2 = [getNextRequest cfg buffer.name guid size st.param] :=
      congrArg Prod.snd hreq
    rw [encodedOrRejected_iff_of_sent hone]
    refine ⟨fun hasks _ => ?_, fun hc => asks_getNextRequest h (hc hpass) hpass⟩
    obtain ⟨-, buffer', guid', hbuffer', -, hkey⟩ := hasks
    obtain rfl : buffer' = buffer := Option.some.inj (hbuffer'.symm.trans h.variableName_eq)
    have hlen := hkey.length_lt
    rw [requestKey] at hlen
    by_cases hempty : buffer'.name.chars = []
    · rw [Char16String.strSize, hempty]
      decide
    · simpa [hempty] using hlen
  · have hstops := getNextVariableName_unsent h.record hpass
    exact iff_of_true (encodedOrRejected_of_error hstops.run rfl) fun h => absurd h hpass

end GetNextVariableName

/-! ## OpteeRuntimeSetVariable -/

section SetVariable

variable {σ : Type*} {cfg : AuthVarConfig} {ta : Ta σ} {hook : HookEnv σ} {args : SetArgs}
  {st : AuthVarState σ} {name : Char16String} {guid : EfiGuid}

/-- A set whose arguments are not taken is turned down, and so is one without a session. -/
lemma setVariable_refused (h : ∀ name guid, ¬ args.Admitted st name guid) :
    ∃ status, status.isError = true ∧
      opteeRuntimeSetVariable cfg ta hook args st = (status, st) := by
  unfold opteeRuntimeSetVariable
  split
  · exact ⟨_, rfl, rfl⟩
  next hboot =>
    split
    next name guid hname hguid =>
      split
      · exact ⟨_, rfl, rfl⟩
      next hempty =>
        split
        · exact ⟨_, rfl, rfl⟩
        next hnull =>
          split
          · exact ⟨_, rfl, rfl⟩
          next hsession =>
            exact absurd ⟨Bool.not_eq_true _ ▸ hboot, hname, hguid, hempty, hnull,
              Bool.not_eq_false _ ▸ hsession⟩ (h name guid)
    · exact ⟨_, rfl, rfl⟩

/-- The session id is taken without a request. -/
lemma setVariable_testHook (h : args.Admitted st name guid)
    (hhook : isTestHook cfg name guid args.dataSize = true) :
    opteeRuntimeSetVariable cfg ta hook args st =
      (.success, { st with sessionId := (args.data.getD fun _ => 0).load32 0 }) := by
  simp only [opteeRuntimeSetVariable, h.boot, h.variableName_eq, h.vendorGuid_eq, h.nonempty,
    h.nonNull, h.session, hhook, Bool.false_eq_true, Bool.true_eq_false, if_false, if_true]

lemma setVariable_unsent (h : args.Admitted st name guid)
    (hhook : isTestHook cfg name guid args.dataSize = false)
    (hunsent : ¬ args.PassesChecks cfg name) :
    opteeRuntimeSetVariable cfg ta hook args st = (.badBufferSize, st) := by
  simp only [opteeRuntimeSetVariable, h.boot, h.variableName_eq, h.vendorGuid_eq, h.nonempty,
    h.nonNull, h.session, hhook, Bool.false_eq_true, Bool.true_eq_false, if_false, setChecked]
  split
  · rfl
  next hfirst =>
    split
    · rfl
    next hsecond => exact absurd ⟨hfirst, hsecond⟩ hunsent

/-- The request of a set. -/
def setRequest (cfg : AuthVarConfig) (args : SetArgs) (name : Char16String) (guid : EfiGuid)
    (param : ByteStore) : TaRequest where
  command := .vsSetOp
  param := (encodeSet cfg args name guid param).read 0
    (cfg.arch.uintn (SetParam.sizeof + name.strSize + args.dataSize) % 2 ^ 32)
  resultSize := 4

/-- The state in which the TA is invoked for a set. -/
def AuthVarState.encodedSet (st : AuthVarState σ) (cfg : AuthVarConfig) (args : SetArgs)
    (name : Char16String) (guid : EfiGuid) : AuthVarState σ :=
  { st with
    param := encodeSet cfg args name guid st.param
    result := st.result.fill 0 cfg.memSize 0 }

/-- The invocation of a set. -/
def setInvocation (cfg : AuthVarConfig) (ta : Ta σ) (args : SetArgs) (name : Char16String)
    (guid : EfiGuid) (st : AuthVarState σ) : EfiStatus × ℕ × AuthVarState σ :=
  opteeRuntimeVariableInvokeCommand ta .vsSetOp
    (cfg.arch.uintn (SetParam.sizeof + name.strSize + args.dataSize) % 2 ^ 32) 4
    (st.encodedSet cfg args name guid)

/-- Otherwise the TA is invoked, and the hook follows a set that succeeds. -/
lemma setVariable_eq (h : args.Admitted st name guid)
    (hhook : isTestHook cfg name guid args.dataSize = false) (hpass : args.PassesChecks cfg name) :
    opteeRuntimeSetVariable cfg ta hook args st =
      if (setInvocation cfg ta args name guid st).1.isError then
        ((setInvocation cfg ta args name guid st).1,
          (setInvocation cfg ta args name guid st).2.2)
      else ((setInvocation cfg ta args name guid st).1,
        secureBootHook cfg hook name guid (setInvocation cfg ta args name guid st).2.2) := by
  obtain ⟨hfirst, hsecond⟩ := hpass
  simp only [opteeRuntimeSetVariable, h.boot, h.variableName_eq, h.vendorGuid_eq, h.nonempty,
    h.nonNull, h.session, hhook, Bool.false_eq_true, Bool.true_eq_false, if_false, setChecked,
    if_neg hfirst, if_neg hsecond, setInvocation, AuthVarState.encodedSet]

/-- What the requests of the hook keep is as the request of the set leaves it. -/
lemma setVariable_sent {P : σ → Prop} (h : args.Admitted st name guid)
    (hhook : isTestHook cfg name guid args.dataSize = false) (hpass : args.PassesChecks cfg name)
    (hkeep : ∀ req s, P s → P (hook.ta req s).2)
    (hafter : P (ta (setRequest cfg args name guid st.param) st.ta).2) :
    P (opteeRuntimeSetVariable cfg ta hook args st).2.ta := by
  rw [setVariable_eq h hhook hpass]
  split
  · exact hafter
  · exact secureBootHook_ta hkeep hafter

/-- The size of the request of a set that passes the checks is its length, if thirty-two bits
count it. -/
lemma length_setRequest (hlt : SetParam.sizeof + name.strSize + args.dataSize < 2 ^ 32)
    (hpass : args.PassesChecks cfg name) :
    cfg.arch.uintn (SetParam.sizeof + name.strSize + args.dataSize) % 2 ^ 32 =
        SetParam.sizeof + name.strSize + args.dataSize ∧
      SetParam.sizeof + name.strSize + args.dataSize ≤ cfg.memSize := by
  have hbits : 2 ^ 32 ≤ 2 ^ cfg.arch.uintnBits :=
    Nat.pow_le_pow_right (by decide) (by cases cfg.arch <;> decide)
  have huintn : cfg.arch.uintn (SetParam.sizeof + name.strSize + args.dataSize) =
      SetParam.sizeof + name.strSize + args.dataSize := Arch.uintn_of_lt (by omega)
  have hle := hpass.2
  rw [huintn] at hle ⊢
  exact ⟨Nat.mod_eq_of_lt hlt, Nat.not_lt.mp hle⟩

/-- A name that sixteen bits count and the data are in the request, if thirty-two bits count its
length. -/
lemma asks_setRequest (h : args.Admitted st name guid) (hname : name.strSize < 2 ^ 16)
    (hlt : SetParam.sizeof + name.strSize + args.dataSize < 2 ^ 32)
    (hpass : args.PassesChecks cfg name) {param : ByteStore} :
    (setRequest cfg args name guid param).InTransport cfg ∧
      (ServiceCall.setVariable args).Asks (setRequest cfg args name guid param) := by
  obtain ⟨hn, hle⟩ := length_setRequest hlt hpass
  simp only [setRequest, hn]
  have hmem : SetParam.sizeof ≤ SetParam.sizeof + name.strSize + args.dataSize := by omega
  simp only [SetParam.sizeof] at hmem hle hlt
  obtain ⟨hnameSize, -, -, hdataSize, hoffsetName, hoffsetData, -, -⟩ :=
    @encodeSet_fields cfg name guid param args
  have hs : name.strSize % 2 ^ 32 = name.strSize := Nat.mod_eq_of_lt (by omega)
  have hd : args.dataSize % 2 ^ 32 = args.dataSize := Nat.mod_eq_of_lt (by omega)
  have hsetName : TaRequest.setName ⟨.vsSetOp, (encodeSet cfg args name guid param).read 0
      (SetParam.sizeof + name.strSize + args.dataSize), 4⟩ = ⟨40, name.strSize⟩ := by
    rw [TaRequest.setName,
      TaRequest.mem_load32 (by simp only [SetParam.offsetVariableName, SetParam.sizeof]; omega),
      TaRequest.mem_load16 (by simp only [SetParam.variableNameSize, SetParam.sizeof]; omega),
      hoffsetName, hnameSize, UInt16.toNat_ofNat', Nat.mod_eq_of_lt hname]
    rfl
  have hsetData : TaRequest.setDataSpan ⟨.vsSetOp, (encodeSet cfg args name guid param).read 0
      (SetParam.sizeof + name.strSize + args.dataSize), 4⟩ =
        ⟨40 + name.strSize, args.dataSize⟩ := by
    rw [TaRequest.setDataSpan,
      TaRequest.mem_load32 (by simp only [SetParam.offsetData, SetParam.sizeof]; omega),
      TaRequest.mem_load32 (by simp only [SetParam.dataSize, SetParam.sizeof]; omega),
      hoffsetData, hdataSize, UInt32.toNat_ofNat', UInt32.toNat_ofNat', hs, hd]
    rfl
  refine ⟨⟨?_, by simp only; omega⟩, name, guid, h.variableName_eq, h.vendorGuid_eq, rfl, ?_,
    setAttributes_encodeSet le_rfl, setData_encodeSet le_rfl hlt, ?_, ?_, ?_, ?_⟩
  · rw [ByteStore.length_read]
    exact hle
  · rw [setKey_encodeSet le_rfl, taKey, Nat.mod_eq_of_lt hname,
      List.take_of_length_le name.length_bytes.le]
  · simp only [TaRequest.span, ByteStore.length_read, Span.Within, SetParam.payload,
      SetParam.sizeof]
    omega
  · rw [hsetName]
    simp only [TaRequest.span, ByteStore.length_read, Span.Within, SetParam.sizeof]
    omega
  · rw [hsetData]
    simp only [TaRequest.span, ByteStore.length_read, Span.Within, SetParam.sizeof]
    omega
  · rw [hsetName, hsetData]
    exact .inl le_rfl

/-- Apart and behind the header, the name and the data of a request need its length. -/
lemma TaRequest.Sets.length_le {key : TaKey} {attributes : UInt32} {data : List UInt8}
    {req : TaRequest} (h : req.Sets key attributes data) :
    key.1.length < 2 ^ 16 ∧
      SetParam.payload + key.1.length + data.length ≤ req.param.length := by
  have hkey : key.1.length = (req.mem.load16 SetParam.variableNameSize).toNat := by
    rw [← h.key_eq, TaRequest.setKey, ByteStore.length_read]
  have hdata : data.length = (req.mem.load32 SetParam.dataSize).toNat := by
    rw [← h.data_eq, TaRequest.setData, ByteStore.length_read]
  have hheader := h.header_within
  have hname := h.name_within
  have hwithin := h.data_within
  have hapart := h.apart
  have hlt := UInt16.toNat_lt (req.mem.load16 SetParam.variableNameSize)
  simp only [TaRequest.setName, TaRequest.setDataSpan, TaRequest.span, Span.Within, Span.Apart,
    ← hkey, ← hdata] at hheader hname hwithin hapart hlt
  omega

lemma SetArgs.Admitted.record (h : args.Admitted st name guid) :
    args.Admitted st.record name guid := ⟨h.1, h.2, h.3, h.4, h.5, h.6⟩

lemma setVariable_run {status : EfiStatus} {st' : AuthVarState σ}
    (h : opteeRuntimeSetVariable cfg ta hook args st = (status, st')) :
    (ServiceCall.setVariable args).run cfg ta hook st = (.setVariable status, st') := by
  rw [ServiceCall.run, h]

/-- For an admitted set the condition is about its own name. -/
lemma SetArgs.Admitted.counted_iff (h : args.Admitted st name guid) :
    (ServiceCall.setVariable args).Counted cfg st ↔
      isTestHook cfg name guid args.dataSize = false ∧
      (args.PassesChecks cfg name → name.strSize < 2 ^ 16 ∧
        SetParam.sizeof + name.strSize + args.dataSize < 2 ^ 32) := by
  refine ⟨fun hc => hc name guid h, fun hc name' guid' h' => ?_⟩
  obtain rfl : name' = name :=
    Option.some.inj (h'.variableName_eq.symm.trans h.variableName_eq)
  obtain rfl : guid' = guid := Option.some.inj (h'.vendorGuid_eq.symm.trans h.vendorGuid_eq)
  exact hc

lemma setVariable_encodedOrRejected_iff :
    (ServiceCall.setVariable args).EncodedOrRejected cfg ta hook st ↔
      (ServiceCall.setVariable args).Counted cfg st := by
  by_cases hadmitted : ∃ name guid, args.Admitted st name guid
  case neg =>
    have hnone : ∀ name guid, ¬ args.Admitted st name guid :=
      fun name guid h => hadmitted ⟨name, guid, h⟩
    obtain ⟨status, herror, hrun⟩ := @setVariable_refused _ cfg (recorded ta) hook.unrecorded
      args st.record fun name guid h => hnone name guid ⟨h.1, h.2, h.3, h.4, h.5, h.6⟩
    refine iff_of_true ?_ fun name guid h => absurd h (hnone name guid)
    exact encodedOrRejected_of_error (setVariable_run hrun) herror
  obtain ⟨name, guid, h⟩ := hadmitted
  rw [h.counted_iff]
  cases hhook : isTestHook cfg name guid args.dataSize with
  | true =>
      have hrun := @setVariable_testHook _ cfg (recorded ta) hook.unrecorded _ _ _ _ h.record hhook
      refine iff_of_false ?_ fun hc => Bool.noConfusion hc.1
      rw [ServiceCall.EncodedOrRejected, ServiceCall.requests, setVariable_run hrun]
      rintro (⟨herror, -⟩ | ⟨req, hone, -⟩)
      · exact Bool.noConfusion herror
      · exact absurd hone (List.cons_ne_nil _ _).symm
  | false =>
      by_cases hpass : args.PassesChecks cfg name
      · have hone : ((ServiceCall.setVariable args).run cfg (recorded ta) hook.unrecorded
            st.record).2.ta.2 = [setRequest cfg args name guid st.param] :=
          @setVariable_sent _ cfg (recorded ta) hook.unrecorded _ _ _ _
            (fun s => s.2 = [setRequest cfg args name guid st.param]) h.record hhook hpass
            (fun _ _ hs => hs) rfl
        rw [encodedOrRejected_iff_of_sent hone]
        refine ⟨fun hasks => ⟨rfl, fun _ => ?_⟩, fun hc => asks_setRequest h (hc.2 hpass).1
          (hc.2 hpass).2 hpass⟩
        obtain ⟨-, name', guid', hname', -, hsets⟩ := hasks
        obtain rfl : name' = name := Option.some.inj (hname'.symm.trans h.variableName_eq)
        obtain ⟨hlt, hlen⟩ := hsets.length_le
        have hbytes : args.bytes.length = args.dataSize := ByteStore.length_read
        have hmod : cfg.arch.uintn (SetParam.sizeof + name'.strSize + args.dataSize) % 2 ^ 32 =
            (SetParam.sizeof + name'.strSize + args.dataSize) % 2 ^ 32 := Arch.uintn_mod
        simp only [setRequest, ByteStore.length_read, Char16String.length_bytes, hbytes,
          hmod] at hlt hlen
        simp only [SetParam.sizeof, SetParam.payload] at hlen ⊢
        omega
      · have hrun := @setVariable_unsent _ cfg (recorded ta) hook.unrecorded _ _ _ _ h.record
          hhook hpass
        exact iff_of_true (encodedOrRejected_of_error (setVariable_run hrun) rfl)
          ⟨rfl, fun h => absurd h hpass⟩

end SetVariable

/-! ## OpteeRuntimeQueryVariableInfo -/

section QueryVariableInfo

variable {σ : Type*} {cfg : AuthVarConfig} {ta : Ta σ} {args : QueryArgs}
  {st : AuthVarState σ}

/-- A query changes nothing and is an error, or the TA gets its request. -/
lemma queryVariableInfo_cases :
    (∃ status, status.isError = true ∧
      opteeRuntimeQueryVariableInfo cfg ta args st = ((status, args), st)) ∨
    QueryResult.sizeof ≤ cfg.memSize ∧
      (opteeRuntimeQueryVariableInfo cfg ta args st).2.ta =
        (ta ⟨.vsQueryInfoOp, (encodeQuery cfg args.attributes st.param).read 0
          QueryParam.sizeof, QueryResult.sizeof⟩ st.ta).2 := by
  unfold opteeRuntimeQueryVariableInfo
  split
  · exact .inl ⟨_, rfl, rfl⟩
  split
  · exact .inl ⟨_, rfl, rfl⟩
  split
  · exact .inl ⟨_, rfl, rfl⟩
  split
  · exact .inl ⟨_, rfl, rfl⟩
  split
  · exact .inl ⟨_, rfl, rfl⟩
  next hsize =>
    refine .inr ⟨Nat.not_lt.mp (not_or.mp hsize).2, ?_⟩
    simp only
    split
    · rfl
    · rfl

/-- The attributes are in the request of a query. -/
lemma queries_encodeQuery {attributes : UInt32} {param : ByteStore} {k : ℕ} :
    TaRequest.Queries attributes ⟨.vsQueryInfoOp,
      (encodeQuery cfg attributes param).read 0 QueryParam.sizeof, k⟩ := by
  refine ⟨rfl, ?_, ?_⟩
  · rw [TaRequest.mem_load32 (by decide), encodeQuery, ByteStore.load32_store32_same]
  · simp only [TaRequest.span, ByteStore.length_read, Span.Within]
    omega

lemma queryVariableInfo_encodedOrRejected {hook : HookEnv σ} :
    (ServiceCall.queryVariableInfo args).EncodedOrRejected cfg ta hook st := by
  rcases @queryVariableInfo_cases _ cfg (recorded ta) args st.record with
    ⟨status, herror, hrun⟩ | ⟨hmem, hreq⟩
  · have hcall : (ServiceCall.queryVariableInfo args).run cfg (recorded ta) hook.unrecorded
        st.record = (.queryVariableInfo (status, args), st.record) := by
      rw [ServiceCall.run, hrun]
    exact encodedOrRejected_of_error hcall herror
  · have hone : ((ServiceCall.queryVariableInfo args).run cfg (recorded ta) hook.unrecorded
        st.record).2.ta.2 = [⟨.vsQueryInfoOp, (encodeQuery cfg args.attributes st.param).read 0
          QueryParam.sizeof, QueryResult.sizeof⟩] := congrArg Prod.snd hreq
    rw [encodedOrRejected_iff_of_sent hone]
    simp only [QueryResult.sizeof] at hmem
    refine ⟨⟨?_, hmem⟩, queries_encodeQuery⟩
    simp only [ByteStore.length_read, QueryParam.sizeof]
    omega

end QueryVariableInfo

/-! ## Every service -/

/-- A call is encoded faithfully or turned down exactly if the fields of its request can count
its sizes and it is none by which the tests reach the session id. -/
theorem encodedOrRejected_iff {σ : Type*} (cfg : AuthVarConfig) (ta : Ta σ) (hook : HookEnv σ)
    (call : ServiceCall) (st : AuthVarState σ) :
    call.EncodedOrRejected cfg ta hook st ↔ call.Counted cfg st := by
  cases call with
  | getVariable args => exact getVariable_encodedOrRejected_iff
  | getNextVariableName args => exact getNextVariableName_encodedOrRejected_iff
  | setVariable args => exact setVariable_encodedOrRejected_iff
  | queryVariableInfo args => exact iff_of_true queryVariableInfo_encodedOrRejected trivial

/-! ## A long name -/

/-- A set of one byte under a name of 65536 bytes. -/
def longSet : SetArgs :=
  ⟨some longKeyA.name, some longKeyA.guid, 7, 1, some fun _ => 1⟩

/-- The name of 65536 bytes passes the checks of a set, and its size is sent as zero. -/
theorem not_encodedOrRejected_longName :
    ¬ (ServiceCall.setVariable longSet).EncodedOrRejected largeConfig idealTa
      ⟨idealTa, none⟩ emptyDriver := by
  have hadmitted : longSet.Admitted emptyDriver longKeyA.name longKeyA.guid :=
    ⟨rfl, rfl, rfl, longKeyA_long.chars_ne_nil, by decide, rfl⟩
  have hpass : longSet.PassesChecks largeConfig longKeyA.name := by
    rw [SetArgs.PassesChecks, memSize_largeConfig, longKeyA_long.strSize]
    decide
  rw [setVariable_encodedOrRejected_iff, hadmitted.counted_iff]
  intro hcounted
  have hlt := (hcounted.2 hpass).1
  rw [longKeyA_long.strSize] at hlt
  exact absurd hlt (by decide)

end AuthVar
end MuPlatform
