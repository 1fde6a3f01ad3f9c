import MuPlatform.Optee.MemInvariant
import MuPlatform.Optee.Rpc

/-!
# Calls to the secure world

`TEEC_SMC_OpenSession` and `TEEC_SMC_InvokeCommand` (`OpteeClientSMC.c`): a message is
allocated from the shared pool and filled in, the secure world is entered until it has
nothing more to ask, and the parameters of the operation are read back.

The secure world is the environment.  Each entry is an `SmcRound`, an arbitrary function of
the registers and of memory; a call is given the rounds it runs through.

`MarshalFaithful` says that the parameters make the trip and come back, and
`marshalFaithful_iff` when they do: the open-session call reads its parameters back two
places below where it put them.
-/

namespace MuPlatform
namespace Optee

/-! ## Entering the secure world -/

/-- One `ArmCallSmc`: what the secure world does with the registers and with memory, and the
firmware it finds should it call back. -/
structure SmcRound where
  smc : ArmSmcArgs → ByteStore → ArmSmcArgs × ByteStore
  env : RpcEnv

section SmcCall

variable (cfg : ShmConfig)

/-- The loop of `OpteeSmcCall`; `none` when the secure world is still calling back after the
last round. -/
def opteeSmcLoop : List SmcRound → ArmSmcArgs → ShmState → Option (TeecResult × ShmState)
  | [], _, _ => none
  | round :: rounds, args, s =>
    match round.smc args s.mem with
    | (args, mem) =>
      if opteeSmcReturnIsRpc args.arg0 then
        match opteeRpcCallback cfg round.env args { s with mem := mem } with
        -- the result is dropped: the secure world unwinds by itself
        | (_, args, s) => opteeSmcLoop rounds args s
      else if args.arg0 = opteeSmcReturnUnknownFunction then
        some (teecErrorNotImplemented, { s with mem := mem })
      else if args.arg0 ≠ opteeSmcReturnOk then
        some (teecErrorCommunication, { s with mem := mem })
      else some (teecSuccess, { s with mem := mem })

/-- The registers `OpteeSmcCall` starts from. -/
def smcCallArgs (msg : ℕ) : ArmSmcArgs :=
  ⟨opteeSmcCallWithArg, addressH32 msg, addressL32 msg, 0, 0, 0, 0, 0⟩

/-- `OpteeSmcCall`. -/
def opteeSmcCall (rounds : List SmcRound) (msg : ℕ) (s : ShmState) :
    Option (TeecResult × ShmState) :=
  opteeSmcLoop cfg rounds (smcCallArgs msg) s

end SmcCall

/-! ## Messages -/

/-- `TEEC_UUID`, as the bytes it has in memory. -/
structure TeecUuid where
  bytes : List UInt8
  length_eq : bytes.length = 16

/-- The two calls that take an operation. -/
inductive SmcCall
  | openSession (destination : TeecUuid)
  | invokeCommand (sessionId cmdId : UInt32)

def opteeMsgCmdOpenSession : UInt32 := 0
def opteeMsgCmdInvokeCommand : UInt32 := 1

/-- `TEEC_LOGIN_PUBLIC`. -/
def teecLoginPublic : UInt64 := 0

/-- `MetaParamCount`: the parameters in front of those of the operation. -/
def SmcCall.metaParamCount : SmcCall → ℕ
  | .openSession _ => 2
  | .invokeCommand _ _ => 0

/-- `MsgArgSize`. -/
def SmcCall.msgArgSize (call : SmcCall) : ℕ :=
  opteeMsgGetArgSize (teecConfigPayloadRefCount + call.metaParamCount)

/-- The attribute of a meta parameter. -/
def metaAttr : UInt64 := opteeMsgAttrTypeValueInput ||| opteeMsgAttrMeta

/-- The head of the message, and for `TEEC_SMC_OpenSession` its meta parameters: the service
and the login type. -/
def SmcCall.head (call : SmcCall) (msg : ℕ) (mem : ByteStore) : ByteStore :=
  let param := MsgParam.slot (msg + MsgArg.params)
  match call with
  | .openSession destination =>
      ((((((mem.fill msg call.msgArgSize 0).store32 (msg + MsgArg.cmd)
        opteeMsgCmdOpenSession).store32 (msg + MsgArg.numParams) 6).store64
        (param 0 + MsgParam.attr) metaAttr).write (param 0 + MsgParam.valueA)
        destination.bytes).store64 (param 1 + MsgParam.attr) metaAttr).store64
        (param 1 + MsgParam.valueC) teecLoginPublic
  | .invokeCommand sessionId cmdId =>
      ((((mem.fill msg call.msgArgSize 0).store32 (msg + MsgArg.cmd)
        opteeMsgCmdInvokeCommand).store32 (msg + MsgArg.func) cmdId).store32
        (msg + MsgArg.session) sessionId).store32 (msg + MsgArg.numParams) 4

/-- The message of a call. -/
def SmcCall.message (arch : Arch) (call : SmcCall) (op : TeecOperation) (msg : ℕ)
    (mem : ByteStore) : ByteStore :=
  setMsgParams arch op (MsgParam.slot (msg + MsgArg.params) call.metaParamCount)
    (call.head msg mem)

/-- The place of parameter `i` of the operation in the message of a call. -/
def SmcCall.place (call : SmcCall) (msg i : ℕ) : ℕ :=
  MsgParam.slot (msg + MsgArg.params) (call.metaParamCount + i)

/-! ## Calls -/

/-- How far a call got. -/
inductive Trip
  | outOfMemory (s : ShmState)
  | failed (msg : ℕ) (result : TeecResult) (s : ShmState)
  | replied (msg : ℕ) (s : ShmState)

/-- What a call leaves. -/
structure SmcOutcome where
  result : TeecResult
  errorOrigin : UInt32
  sessionId : UInt32
  operation : TeecOperation
  state : ShmState

section Calls

variable (cfg : ShmConfig) (gcdAnswer : Option ℕ)
  (gcdFree : Span → List Span → EfiStatus × List Span) (rounds : List SmcRound)

/-- The allocation of the message and its contents; the pointer is `0` without memory. -/
def prepare (call : SmcCall) (op : TeecOperation) (s : ShmState) : ℕ × ShmState :=
  match opteeClientMemAlloc cfg gcdAnswer call.msgArgSize s with
  | (msg, s) =>
    if msg = 0 then (0, s) else (msg, { s with mem := call.message cfg.arch op msg s.mem })

/-- The two calls up to the return from the secure world. -/
def roundTrip (call : SmcCall) (op : TeecOperation) (s : ShmState) : Option Trip :=
  match prepare cfg gcdAnswer call op s with
  | (msg, s) =>
    if msg = 0 then some (.outOfMemory s)
    else match opteeSmcCall cfg rounds msg s with
      | none => none
      | some (result, s) =>
        if result ≠ teecSuccess then some (.failed msg result s) else some (.replied msg s)

/-- The common exit: the message is freed, whatever comes of it. -/
def freeMessage (msg : ℕ) (s : ShmState) : ShmState := (opteeClientMemFree cfg gcdFree msg s).2

/-- `TEEC_SMC_OpenSession`; `sessionId` is the session's id before the call. -/
def teecSmcOpenSession (sessionId : UInt32) (destination : TeecUuid) (op : TeecOperation)
    (s : ShmState) : Option SmcOutcome :=
  (roundTrip cfg gcdAnswer rounds (.openSession destination) op s).map fun
    | .outOfMemory s => ⟨teecErrorOutOfMemory, teecOriginApi, sessionId, op, s⟩
    | .failed msg result s => ⟨result, teecOriginComms, sessionId, op, freeMessage cfg gcdFree msg s⟩
    | .replied msg s =>
      { result := s.mem.load32 (msg + MsgArg.ret)
        errorOrigin := s.mem.load32 (msg + MsgArg.retOrigin)
        sessionId := s.mem.load32 (msg + MsgArg.session)
        operation := getMsgParams cfg.arch op (msg + MsgArg.params) s.mem
        state := freeMessage cfg gcdFree msg s }

/-- `TEEC_SMC_InvokeCommand`. -/
def teecSmcInvokeCommand (sessionId cmdId : UInt32) (op : TeecOperation) (s : ShmState) :
    Option SmcOutcome :=
  (roundTrip cfg gcdAnswer rounds (.invokeCommand sessionId cmdId) op s).map fun
    | .outOfMemory s => ⟨teecErrorOutOfMemory, teecOriginApi, sessionId, op, s⟩
    | .failed msg result s => ⟨result, teecOriginComms, sessionId, op, freeMessage cfg gcdFree msg s⟩
    | .replied msg s =>
      { result := s.mem.load32 (msg + MsgArg.ret)
        errorOrigin := s.mem.load32 (msg + MsgArg.retOrigin)
        sessionId := sessionId
        operation := getMsgParams cfg.arch op (msg + MsgArg.params) s.mem
        state := freeMessage cfg gcdFree msg s }

/-- Either call.  An opened session has no id before. -/
def SmcCall.run (call : SmcCall) (op : TeecOperation) (s : ShmState) : Option SmcOutcome :=
  match call with
  | .openSession destination => teecSmcOpenSession cfg gcdAnswer gcdFree rounds 0 destination op s
  | .invokeCommand sessionId cmdId =>
      teecSmcInvokeCommand cfg gcdAnswer gcdFree rounds sessionId cmdId op s

end Calls

section Lemmas

variable {cfg : ShmConfig} {gcdAnswer : Option ℕ}
  {gcdFree : Span → List Span → EfiStatus × List Span} {rounds : List SmcRound} {call : SmcCall}
  {op : TeecOperation} {s reply : ShmState} {msg : ℕ}

lemma prepare_fst : (prepare cfg gcdAnswer call op s).1 =
    (opteeClientMemAlloc cfg gcdAnswer call.msgArgSize s).1 := by
  unfold prepare
  by_cases hmsg : (opteeClientMemAlloc cfg gcdAnswer call.msgArgSize s).1 = 0
  · simp [hmsg]
  · simp [hmsg]

/-- The memory a call is prepared in carries its message. -/
lemma prepare_mem (h : (prepare cfg gcdAnswer call op s).1 ≠ 0) :
    ∃ mem, (prepare cfg gcdAnswer call op s).2.mem =
      call.message cfg.arch op (prepare cfg gcdAnswer call op s).1 mem := by
  unfold prepare at h ⊢
  by_cases hmsg : (opteeClientMemAlloc cfg gcdAnswer call.msgArgSize s).1 = 0
  · simp [hmsg] at h
  · simp only [hmsg, if_false]
    exact ⟨_, rfl⟩

lemma place_openSession {destination : TeecUuid} {i : ℕ} :
    (SmcCall.openSession destination).place msg i =
      MsgParam.slot (msg + MsgArg.params) (i + 2) := by
  rw [SmcCall.place, SmcCall.metaParamCount, Nat.add_comm 2]

lemma place_invokeCommand {sessionId cmdId : UInt32} {i : ℕ} :
    (SmcCall.invokeCommand sessionId cmdId).place msg i =
      MsgParam.slot (msg + MsgArg.params) i := by
  rw [SmcCall.place, SmcCall.metaParamCount, Nat.zero_add]

/-- What the secure world reads in front of the parameters of an operation: the service in
the first meta parameter, the login type in the second. -/
structure OpensService (destination : TeecUuid) (msg : ℕ) (mem : ByteStore) : Prop where
  cmd : mem.load32 (msg + MsgArg.cmd) = opteeMsgCmdOpenSession
  numParams : mem.load32 (msg + MsgArg.numParams) = 6
  serviceAttr : mem.load64 (MsgParam.slot (msg + MsgArg.params) 0 + MsgParam.attr) = metaAttr
  service : mem.read (MsgParam.slot (msg + MsgArg.params) 0 + MsgParam.valueA) 16 =
    destination.bytes
  loginAttr : mem.load64 (MsgParam.slot (msg + MsgArg.params) 1 + MsgParam.attr) = metaAttr
  login : mem.load64 (MsgParam.slot (msg + MsgArg.params) 1 + MsgParam.valueC) = teecLoginPublic

lemma opensService_head (destination : TeecUuid) (msg : ℕ) (mem : ByteStore) :
    OpensService destination msg ((SmcCall.openSession destination).head msg mem) := by
  have hlen := destination.length_eq
  constructor <;> simp only [SmcCall.head, MsgArg.cmd, MsgArg.numParams, MsgArg.params,
    MsgParam.slot, MsgParam.sizeof, MsgParam.attr, MsgParam.valueA, MsgParam.valueC]
  · rw [ByteStore.load32_store64_off (by omega), ByteStore.load32_store64_off (by omega),
      ByteStore.load32_write_off (by omega), ByteStore.load32_store64_off (by omega),
      ByteStore.load32_store32_off (by omega), ByteStore.load32_store32_same]
  · rw [ByteStore.load32_store64_off (by omega), ByteStore.load32_store64_off (by omega),
      ByteStore.load32_write_off (by omega), ByteStore.load32_store64_off (by omega),
      ByteStore.load32_store32_same]
  · rw [ByteStore.load64_store64_off (by omega), ByteStore.load64_store64_off (by omega),
      ByteStore.load64_write_off (by omega), ByteStore.load64_store64_same]
  · rw [ByteStore.read_store64_off (by omega), ByteStore.read_store64_off (by omega), ← hlen,
      ByteStore.read_write_same]
  · rw [ByteStore.load64_store64_off (by omega), ByteStore.load64_store64_same]
  · rw [ByteStore.load64_store64_same]

/-- The parameters of the operation leave the front of an open-session message alone. -/
lemma opensService_message {arch : Arch} (destination : TeecUuid) (msg : ℕ) (mem : ByteStore) :
    OpensService destination msg
      ((SmcCall.openSession destination).message arch op msg mem) := by
  have hframe : ∀ x < msg + 96, (SmcCall.openSession destination).message arch op msg mem x =
      (SmcCall.openSession destination).head msg mem x :=
    fun x hx => setMsgParams_apply_below hx
  obtain ⟨hcmd, hnum, hsattr, hservice, hlattr, hlogin⟩ :=
    opensService_head destination msg mem
  simp only [MsgArg.cmd, MsgArg.numParams, MsgArg.params, MsgParam.slot, MsgParam.sizeof,
    MsgParam.attr, MsgParam.valueA, MsgParam.valueC] at hcmd hnum hsattr hservice hlattr hlogin
  constructor <;> simp only [MsgArg.cmd, MsgArg.numParams, MsgArg.params, MsgParam.slot,
    MsgParam.sizeof, MsgParam.attr, MsgParam.valueA, MsgParam.valueC]
  · exact (ByteStore.load32_congr fun i hi => hframe _ (by omega)).trans hcmd
  · exact (ByteStore.load32_congr fun i hi => hframe _ (by omega)).trans hnum
  · exact (ByteStore.load64_congr fun i hi => hframe _ (by omega)).trans hsattr
  · exact (ByteStore.read_congr fun i hi => hframe _ (by omega)).trans hservice
  · exact (ByteStore.load64_congr fun i hi => hframe _ (by omega)).trans hlattr
  · exact (ByteStore.load64_congr fun i hi => hframe _ (by omega)).trans hlogin

/-- The message of a command lies in its block. -/
lemma invokeMessage_apply_off {arch : Arch} {sessionId cmdId : UInt32} {x : ℕ} {mem : ByteStore}
    (hx : x < msg ∨ msg + 160 ≤ x) :
    (SmcCall.invokeCommand sessionId cmdId).message arch op msg mem x = mem x := by
  have hslot : MsgParam.slot (msg + MsgArg.params) 0 = msg + 32 := rfl
  have hend : MsgParam.slot (msg + 32) teecConfigPayloadRefCount = msg + 160 := by
    simp only [MsgParam.slot, MsgParam.sizeof, teecConfigPayloadRefCount]
  have hhead : (SmcCall.invokeCommand sessionId cmdId).head msg mem x = mem x := by
    have hsize : (SmcCall.invokeCommand sessionId cmdId).msgArgSize = 160 := rfl
    simp only [SmcCall.head, hsize, MsgArg.cmd, MsgArg.func, MsgArg.session, MsgArg.numParams]
    rw [ByteStore.store32_apply_off (by omega), ByteStore.store32_apply_off (by omega),
      ByteStore.store32_apply_off (by omega), ByteStore.store32_apply_off (by omega),
      ByteStore.fill_apply_off (by omega)]
  rw [SmcCall.message, SmcCall.metaParamCount, hslot]
  rcases hx with hbelow | habove
  · rw [setMsgParams_apply_below (by omega), hhead]
  · rw [setMsgParams_apply_above (by omega), hhead]

/-- Both calls read the operation back from the first parameter of the reply on. -/
lemma run_operation (h : roundTrip cfg gcdAnswer rounds call op s = some (.replied msg reply)) :
    ∃ out, call.run cfg gcdAnswer gcdFree rounds op s = some out ∧
      out.operation = getMsgParams cfg.arch op (msg + MsgArg.params) reply.mem := by
  cases call with
  | openSession destination =>
      rw [SmcCall.run, teecSmcOpenSession, h]
      exact ⟨_, rfl, rfl⟩
  | invokeCommand sessionId cmdId =>
      rw [SmcCall.run, teecSmcInvokeCommand, h]
      exact ⟨_, rfl, rfl⟩

/-- Parameter `i` of the operation is in its place of the message, after the meta
parameters. -/
lemma carries_message {arch : Arch} {i : ℕ} (hi : i < teecConfigPayloadRefCount)
    (mem : ByteStore) :
    Carries arch op (call.message arch op msg mem) (call.place msg i) i := by
  have hplace : call.place msg i =
      MsgParam.slot (MsgParam.slot (msg + MsgArg.params) call.metaParamCount) i := by
    simp only [SmcCall.place, MsgParam.slot, Nat.mul_add, Nat.add_assoc]
  rw [hplace]
  exact carries_setMsgParams hi

/-- A parameter comes back as it was left exactly when its place agrees with the place it is
read from. -/
lemma received_iff {arch : Arch} {mem : ByteStore} {i : ℕ} (hi : i < teecConfigPayloadRefCount) :
    Received arch (op.paramType i) (op.params i)
        ((getMsgParams arch op (msg + MsgArg.params) mem).params i) mem (call.place msg i) ↔
      SameContents arch (op.paramType i) mem (MsgParam.slot (msg + MsgArg.params) i)
        (call.place msg i) := by
  rw [getMsgParams_params, if_pos hi]
  exact received_getMsgParam_iff

/-- An operation whose parameters the reply still carries, and whose places agree with those
it is read from, comes back unchanged. -/
lemma getMsgParams_eq_self {arch : Arch} {mem : ByteStore}
    (hsame : ∀ i < teecConfigPayloadRefCount, SameContents arch (op.paramType i) mem
      (MsgParam.slot (msg + MsgArg.params) i) (call.place msg i))
    (hcarries : ∀ i < teecConfigPayloadRefCount, Carries arch op mem (call.place msg i) i) :
    getMsgParams arch op (msg + MsgArg.params) mem = op := by
  have hparams : (getMsgParams arch op (msg + MsgArg.params) mem).params = op.params := by
    funext i
    by_cases hi : i < teecConfigPayloadRefCount
    · rw [getMsgParams_params, if_pos hi]
      exact getMsgParam_of_carries (hsame i hi) (hcarries i hi)
    · rw [getMsgParams_params, if_neg hi]
  exact congrArg (TeecOperation.mk op.paramTypes) hparams

end Lemmas

/-! ## The trip of the parameters -/

/-- The parameters go out as they are and come back as the secure world left them. -/
structure MarshalFaithful (cfg : ShmConfig) (gcdAnswer : Option ℕ)
    (gcdFree : Span → List Span → EfiStatus × List Span) (rounds : List SmcRound) (call : SmcCall)
    (op : TeecOperation) (s : ShmState) : Prop where
  sent : ∀ msg sent, prepare cfg gcdAnswer call op s = (msg, sent) → msg ≠ 0 →
    ∀ i < teecConfigPayloadRefCount, Carries cfg.arch op sent.mem (call.place msg i) i
  returned : ∀ msg reply out,
    roundTrip cfg gcdAnswer rounds call op s = some (.replied msg reply) →
    call.run cfg gcdAnswer gcdFree rounds op s = some out → ∀ i < teecConfigPayloadRefCount,
      Received cfg.arch (op.paramType i) (op.params i) (out.operation.params i) reply.mem
        (call.place msg i)
  echo : ∀ msg reply out,
    roundTrip cfg gcdAnswer rounds call op s = some (.replied msg reply) →
    call.run cfg gcdAnswer gcdFree rounds op s = some out →
    (∀ i < teecConfigPayloadRefCount, Carries cfg.arch op reply.mem (call.place msg i) i) →
      out.operation = op

/-- The parameters are read back two places below those of the operation, so they come back
exactly when the call has no meta parameters or the reply has the same contents in both. -/
theorem marshalFaithful_iff (cfg : ShmConfig) (gcdAnswer : Option ℕ)
    (gcdFree : Span → List Span → EfiStatus × List Span) (rounds : List SmcRound) (call : SmcCall)
    (op : TeecOperation) (s : ShmState) :
    MarshalFaithful cfg gcdAnswer gcdFree rounds call op s ↔
      call.metaParamCount = 0 ∨ ∀ msg reply,
        roundTrip cfg gcdAnswer rounds call op s = some (.replied msg reply) →
        ∀ i < teecConfigPayloadRefCount, SameContents cfg.arch (op.paramType i) reply.mem
          (MsgParam.slot (msg + MsgArg.params) i)
          (MsgParam.slot (msg + MsgArg.params) (i + 2)) := by
  constructor
  · intro hfaithful
    cases call with
    | invokeCommand sessionId cmdId => exact .inl rfl
    | openSession destination =>
        refine .inr fun msg reply hreply i hi => ?_
        obtain ⟨out, hrun, hop⟩ := run_operation hreply
        have hreceived := hfaithful.returned msg reply out hreply hrun i hi
        rw [hop, received_iff hi, place_openSession] at hreceived
        exact hreceived
  · intro hcond
    have hsame : ∀ msg reply,
        roundTrip cfg gcdAnswer rounds call op s = some (.replied msg reply) →
        ∀ i < teecConfigPayloadRefCount, SameContents cfg.arch (op.paramType i) reply.mem
          (MsgParam.slot (msg + MsgArg.params) i) (call.place msg i) := by
      intro msg reply hreply i hi
      rcases call with destination | ⟨sessionId, cmdId⟩
      · rw [place_openSession]
        exact hcond.resolve_left (Nat.succ_ne_zero 1) msg reply hreply i hi
      · rw [place_invokeCommand]
        exact SameContents.refl _ _ _
    refine ⟨fun msg sent hsent hmsg i hi => ?_, fun msg reply out hreply hrun i hi => ?_,
      fun msg reply out hreply hrun hcarries => ?_⟩
    · obtain ⟨mem, hmem⟩ := prepare_mem (by rwa [hsent])
      rw [hsent] at hmem
      rw [hmem]
      exact carries_message hi mem
    · obtain ⟨out', hrun', hop⟩ := run_operation hreply
      rw [hrun] at hrun'
      obtain rfl := Option.some.inj hrun'
      rw [hop]
      exact (received_iff hi).mpr (hsame msg reply hreply i hi)
    · obtain ⟨out', hrun', hop⟩ := run_operation hreply
      rw [hrun] at hrun'
      obtain rfl := Option.some.inj hrun'
      rw [hop]
      exact getMsgParams_eq_self (hsame msg reply hreply) hcarries

/-- A secure world that returns at once and leaves the message as it is. -/
def echoRound : SmcRound :=
  ⟨fun args mem => ({ args with arg0 := opteeSmcReturnOk }, mem), bareFirmware⟩

/-- A call to the echoing secure world gets its own message back. -/
lemma roundTrip_echoRound {cfg : ShmConfig} {gcdAnswer : Option ℕ} {call : SmcCall}
    {op : TeecOperation} {s : ShmState} (h : (prepare cfg gcdAnswer call op s).1 ≠ 0) :
    roundTrip cfg gcdAnswer [echoRound] call op s = some (.replied
      (prepare cfg gcdAnswer call op s).1 (prepare cfg gcdAnswer call op s).2) := by
  have hcall : ∀ msg s', opteeSmcCall cfg [echoRound] msg s' = some (teecSuccess, s') := by
    intro msg s'
    simp [opteeSmcCall, opteeSmcLoop, echoRound, opteeSmcReturnIsRpc, opteeSmcReturnOk,
      opteeSmcReturnUnknownFunction]
  simp only [roundTrip, h, if_false, hcall]
  rfl

/-- The service with the zero UUID. -/
def zeroUuid : TeecUuid := ⟨List.replicate 16 0, rfl⟩

/-- One `TEEC_VALUE_INPUT` parameter whose bytes are all one. -/
def onesOperation : TeecOperation := ⟨teecValueInput, fun _ _ => 1⟩

/-- The message of an open-session call lands on the second page of the pool. -/
lemma prepare_twoPagePool : (prepare twoPagePool (some 8192) (.openSession zeroUuid)
    onesOperation twoPageWorld.state).1 = 12288 := by
  have hgcd : GcdMayReturn twoPagePool [] 8192 (allocBlockSize twoPagePool.arch 224) :=
    ⟨⟨2, rfl⟩, by decide, fun r hr => by cases hr⟩
  have hinv : ShmInv twoPagePool twoPageWorld := ShmInv.init fun _ => 0
  have halloc := hinv.internalMemAlloc_eq (by decide) hgcd (badAlignment_byteAlignment _)
  rw [prepare_fst]
  exact congrArg Prod.fst halloc

/-- An echoed open-session message brings the UUID back as the first parameter. -/
theorem not_marshalFaithful_openSession : ¬ MarshalFaithful twoPagePool (some 8192) freeMemorySpace
    [echoRound] (.openSession zeroUuid) onesOperation twoPageWorld.state := by
  intro hfaithful
  have hmsg : (prepare twoPagePool (some 8192) (.openSession zeroUuid) onesOperation
      twoPageWorld.state).1 ≠ 0 := by
    rw [prepare_twoPagePool]
    decide
  obtain ⟨mem, hmem⟩ := prepare_mem hmsg
  have hreply := roundTrip_echoRound hmsg
  obtain ⟨out, hrun, hop⟩ := run_operation hreply
  have hecho := hfaithful.echo _ _ out hreply hrun fun i hi => by
    rw [hmem]
    exact carries_message hi mem
  rw [hmem, prepare_twoPagePool] at hop
  -- the first four bytes of the UUID against those of the parameter
  have hvalue : valueA (out.operation.params 0) = 0 := by
    have hread := (@opensService_message onesOperation .aarch64 zeroUuid 12288 mem).service
    have hlow := congrArg (List.take 8) hread
    rw [ByteStore.read_take (by decide)] at hlow
    rw [hop, getMsgParams_params, if_pos (by decide)]
    show valueA (setValue _ _ _) = 0
    rw [valueA_setValue, ByteStore.load64, ByteStore.loadNat]
    exact congrArg (fun bytes => (UInt64.ofNat (ByteStore.leNat bytes)).toUInt32) hlow
  rw [hecho] at hvalue
  exact absurd hvalue (by decide)

end Optee
end MuPlatform
