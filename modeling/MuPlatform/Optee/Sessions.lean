import MuPlatform.Base.Custody
import MuPlatform.Base.Runs
import MuPlatform.Optee.Leaks

/-!
# Sessions

`TEEC_OpenSession`, `TEEC_InvokeCommand` and `TEEC_CloseSession` (`OpteeClientApiLib.c`), and the
runs of a client that uses any number of session records while the shared pool is used by others as
well.

The trusted side keeps the list of the sessions that it has open.  It changes the list as the
messages say that it receives, and says in its reply what it has done.  A client takes a session for
open from the success of `TEEC_OpenSession` on and for closed once it has called
`TEEC_CloseSession`, which reports nothing: a close that does not get through leaves a session open
that nobody has.  `sessions_of_run` says that there are no others.
-/

namespace MuPlatform
namespace Optee

/-! ## The client interface -/

/-- `TEEC_LOGIN_PUBLIC` as a connection method. -/
def connectionPublic : UInt32 := 0

/-- `TeecNullOperation`. -/
def teecNullOperation : TeecOperation := ⟨0, fun _ _ => 0⟩

/-- What a call of the client interface leaves: its result and `*ReturnOrigin`, and the session and
the operation it was given. -/
structure TeecOutcome where
  result : TeecResult
  returnOrigin : UInt32
  session : Option UInt32
  operation : Option TeecOperation
  state : ShmState

section Calls

variable (cfg : ShmConfig) (gcdAnswer : Option ℕ)
  (gcdFree : Span → List Span → EfiStatus × List Span) (rounds : List SmcRound)

/-- `TEEC_OpenSession`; pointers that may be `NULL` are options, and the context is an address. -/
def teecOpenSession (context : ℕ) (session : Option UInt32) (destination : Option TeecUuid)
    (connectionMethod : UInt32) (operation : Option TeecOperation) (s : ShmState) :
    Option TeecOutcome :=
  match session, destination with
  | some sessionId, some destination =>
      if context = 0 then some ⟨teecErrorBadParameters, teecOriginApi, session, operation, s⟩
      else if connectionMethod ≠ connectionPublic then
        some ⟨teecErrorNotSupported, teecOriginApi, session, operation, s⟩
      else
        (teecSmcOpenSession cfg gcdAnswer gcdFree rounds sessionId destination
          (operation.getD teecNullOperation) s).map fun out =>
            ⟨out.result, out.errorOrigin, some out.sessionId, operation.map fun _ => out.operation,
              out.state⟩
  | _, _ => some ⟨teecErrorBadParameters, teecOriginApi, session, operation, s⟩

/-- `TEEC_CloseSession`. -/
def teecCloseSession (session : Option UInt32) (s : ShmState) : Option ShmState :=
  match session with
  | none => some s
  | some sessionId => (teecSmcCloseSession cfg gcdAnswer gcdFree rounds sessionId s).map (·.state)

/-- `TEEC_InvokeCommand`. -/
def teecInvokeCommand (session : Option UInt32) (commandId : UInt32)
    (operation : Option TeecOperation) (s : ShmState) : Option TeecOutcome :=
  match session with
  | none => some ⟨teecErrorBadParameters, teecOriginApi, none, operation, s⟩
  | some sessionId =>
      (teecSmcInvokeCommand cfg gcdAnswer gcdFree rounds sessionId commandId
        (operation.getD teecNullOperation) s).map fun out =>
          ⟨out.result, out.errorOrigin, session, operation.map fun _ => out.operation, out.state⟩

end Calls

/-! ## The trusted side -/

/-- What the trusted side reads in the head of a message. -/
structure TeeRequest where
  cmd : UInt32
  func : UInt32
  session : UInt32
  deriving DecidableEq

/-- The request in the message that the registers point to. -/
def TeeRequest.received (arch : Arch) (args : ArmSmcArgs) (mem : ByteStore) : TeeRequest :=
  let msg := addressP arch args.arg1 args.arg2
  ⟨mem.load32 (msg + MsgArg.cmd), mem.load32 (msg + MsgArg.func),
    mem.load32 (msg + MsgArg.session)⟩

/-- The sessions after a request that was replied to with `ret` and `session`. -/
def TeeRequest.carryOut (request : TeeRequest) (ret session : UInt32) (tee : List UInt32) :
    List UInt32 :=
  if ret ≠ teecSuccess then tee
  else if request.cmd = opteeMsgCmdOpenSession then session :: tee
  else if request.cmd = opteeMsgCmdCloseSession then tee.erase request.session
  else tee

namespace TeecCall

/-- What a call asks of the trusted side. -/
def request : TeecCall → TeeRequest
  | openSession _ _ _ => ⟨opteeMsgCmdOpenSession, 0, 0⟩
  | closeSession sessionId => ⟨opteeMsgCmdCloseSession, 0, sessionId⟩
  | invokeCommand sessionId cmdId _ => ⟨opteeMsgCmdInvokeCommand, cmdId, sessionId⟩

section Exchange

variable (cfg : ShmConfig) (gcdAnswer : Option ℕ) (rounds : List SmcRound)

/-- The request that arrives; a call without memory for its message sends none. -/
def arrives (call : TeecCall) (s : ShmState) : Option TeeRequest :=
  if (call.alloc cfg gcdAnswer s).1 = 0 then none
  else some (.received cfg.arch (smcCallArgs (call.alloc cfg gcdAnswer s).1)
    (call.sent cfg gcdAnswer s).mem)

/-- The memory with the reply, if the call gets through and comes back. -/
def replied (call : TeecCall) (s : ShmState) : Option ByteStore :=
  if (call.alloc cfg gcdAnswer s).1 = 0 then none
  else match call.reply cfg gcdAnswer rounds s with
    | some (result, reply) => if result = teecSuccess then some reply.mem else none
    | none => none

/-- `ret` and `session` of a reply. -/
def ret (call : TeecCall) (s : ShmState) (mem : ByteStore) : TeecResult :=
  mem.load32 ((call.alloc cfg gcdAnswer s).1 + MsgArg.ret)

def session (call : TeecCall) (s : ShmState) (mem : ByteStore) : UInt32 :=
  mem.load32 ((call.alloc cfg gcdAnswer s).1 + MsgArg.session)

/-- The sessions of the trusted side after a call. -/
def carriedOut (call : TeecCall) (s : ShmState) (tee : List UInt32) : List UInt32 :=
  match call.arrives cfg gcdAnswer s, call.replied cfg gcdAnswer rounds s with
  | some request, some mem => request.carryOut (call.ret cfg gcdAnswer s mem)
      (call.session cfg gcdAnswer s mem) tee
  | _, _ => tee

/-- The trusted side replies to a call that it has carried it out. -/
def Succeeds (call : TeecCall) (s : ShmState) : Prop :=
  ∃ mem, call.replied cfg gcdAnswer rounds s = some mem ∧
    call.ret cfg gcdAnswer s mem = teecSuccess

end Exchange

end TeecCall

/-! ### Messages -/

section Messages

variable {cfg : ShmConfig} {gcdAnswer : Option ℕ} {rounds : List SmcRound} {call : TeecCall}
  {s : ShmState} {msg : ℕ} {mem : ByteStore} {arch : Arch}

/-- A filled field is zero. -/
lemma load32_fill_zero {a n x : ℕ} (h : a ≤ x ∧ x + 4 ≤ a + n) : (mem.fill a n 0).load32 x = 0 :=
  ByteStore.load32_of_bytes fun _ hi => ByteStore.fill_apply_on (by omega)

/-- The head of a message, in front of its parameters. -/
structure HeadOf (request : TeeRequest) (msg : ℕ) (mem : ByteStore) : Prop where
  cmd : mem.load32 (msg + MsgArg.cmd) = request.cmd
  func : mem.load32 (msg + MsgArg.func) = request.func
  session : mem.load32 (msg + MsgArg.session) = request.session

lemma HeadOf.congr {request : TeeRequest} {mem' : ByteStore} (h : HeadOf request msg mem)
    (hmem : ∀ x < msg + MsgArg.params, mem' x = mem x) : HeadOf request msg mem' := by
  have hload : ∀ field, field + 4 ≤ MsgArg.params →
      mem'.load32 (msg + field) = mem.load32 (msg + field) := by
    intro field hfield
    apply ByteStore.load32_congr
    intro i hi
    exact hmem _ (by omega)
  refine ⟨?_, ?_, ?_⟩
  · rw [hload _ (by decide), h.cmd]
  · rw [hload _ (by decide), h.func]
  · rw [hload _ (by decide), h.session]

/-- The message of a call is headed by its request. -/
lemma TeecCall.headOf (call : TeecCall) :
    HeadOf call.request msg (call.fill arch msg mem) := by
  cases call with
  | openSession sessionId destination op =>
      have hframe : ∀ x < msg + MsgArg.params,
          (SmcCall.openSession destination).message arch op msg mem x =
            (SmcCall.openSession destination).head msg mem x := by
        intro x hx
        exact setMsgParams_apply_below (Nat.lt_of_lt_of_le hx (Nat.le_add_right _ _))
      refine HeadOf.congr ⟨(opensService_head destination msg mem).cmd, ?_, ?_⟩ hframe
      all_goals
        simp only [SmcCall.head, MsgArg.func, MsgArg.session, MsgArg.cmd, MsgArg.numParams,
          MsgArg.params, MsgParam.slot, MsgParam.sizeof, MsgParam.attr, MsgParam.valueA,
          MsgParam.valueC, request]
        rw [ByteStore.load32_store64_off (by omega), ByteStore.load32_store64_off (by omega),
          ByteStore.load32_write_off (by rw [destination.length_eq]; omega),
          ByteStore.load32_store64_off (by omega), ByteStore.load32_store32_off (by omega),
          ByteStore.load32_store32_off (by omega)]
        refine load32_fill_zero ⟨by omega, ?_⟩
        simp only [SmcCall.msgArgSize, opteeMsgGetArgSize, MsgArg.params, MsgParam.sizeof]
        omega
  | closeSession sessionId =>
      simp only [TeecCall.fill, closeMessage]
      refine ⟨?_, ?_, ?_⟩ <;> simp only [MsgArg.cmd, MsgArg.func, MsgArg.session, request]
      · rw [ByteStore.load32_store32_off (by omega), ByteStore.load32_store32_same]
      · rw [ByteStore.load32_store32_off (by omega), ByteStore.load32_store32_off (by omega)]
        exact load32_fill_zero ⟨by omega, by simp only [opteeMsgGetArgSize, MsgArg.params]; omega⟩
      · rw [ByteStore.load32_store32_same]
  | invokeCommand sessionId cmdId op =>
      have hframe : ∀ x < msg + MsgArg.params,
          (SmcCall.invokeCommand sessionId cmdId).message arch op msg mem x =
            (SmcCall.invokeCommand sessionId cmdId).head msg mem x := by
        intro x hx
        exact setMsgParams_apply_below hx
      refine HeadOf.congr ⟨?_, ?_, ?_⟩ hframe <;>
        simp only [SmcCall.head, MsgArg.func, MsgArg.session, MsgArg.cmd, MsgArg.numParams, request]
      · rw [ByteStore.load32_store32_off (by omega), ByteStore.load32_store32_off (by omega),
          ByteStore.load32_store32_off (by omega), ByteStore.load32_store32_same]
      · rw [ByteStore.load32_store32_off (by omega), ByteStore.load32_store32_off (by omega),
          ByteStore.load32_store32_same]
      · rw [ByteStore.load32_store32_off (by omega), ByteStore.load32_store32_same]

lemma opteeClientMemAlloc_lt (cfg : ShmConfig) (gcdAnswer : Option ℕ) (size : ℕ) (s : ShmState) :
    (opteeClientMemAlloc cfg gcdAnswer size s).1 < 2 ^ cfg.arch.uintnBits := by
  unfold opteeClientMemAlloc internalMemAlloc
  split
  · exact Nat.two_pow_pos _
  dsimp only
  split
  · exact Nat.two_pow_pos _
  split
  · exact Nat.two_pow_pos _
  · exact Nat.lt_of_le_of_lt (Nat.sub_le _ _) (Arch.uintn_lt _ _)

/-- The trusted side receives what a call asks for that has memory for its message. -/
lemma TeecCall.arrives_eq (hmsg : (call.alloc cfg gcdAnswer s).1 ≠ 0) :
    call.arrives cfg gcdAnswer s = some call.request := by
  have hlt : (call.alloc cfg gcdAnswer s).1 < 2 ^ cfg.arch.uintnBits :=
    opteeClientMemAlloc_lt _ _ _ _
  have hbits : 2 ^ cfg.arch.uintnBits ≤ 2 ^ 64 :=
    Nat.pow_le_pow_right (by decide) (by cases cfg.arch <;> decide)
  have hpointer : addressP cfg.arch (addressH32 (call.alloc cfg gcdAnswer s).1)
      (addressL32 (call.alloc cfg gcdAnswer s).1) = (call.alloc cfg gcdAnswer s).1 := by
    have hhigh : addressH32 (call.alloc cfg gcdAnswer s).1 < 2 ^ 32 := by
      unfold addressH32
      omega
    rw [addressP, Nat.mod_eq_of_lt hhigh, addressL32, Nat.mod_mod, ← addressL32,
      addressH32_addressL32, Arch.uintn_of_lt hlt]
  rw [arrives, if_neg hmsg, TeeRequest.received, smcCallArgs]
  simp only [hpointer]
  obtain ⟨hcmd, hfunc, hsession⟩ :=
    @TeecCall.headOf (call.alloc cfg gcdAnswer s).1 (call.alloc cfg gcdAnswer s).2.mem cfg.arch call
  rw [sent, hcmd, hfunc, hsession]

end Messages

/-! ### Results -/

section Results

variable {cfg : ShmConfig} {gcdAnswer : Option ℕ}
  {gcdFree : Span → List Span → EfiStatus × List Span} {rounds : List SmcRound} {s : ShmState}

/-- The trip of a call with an operation. -/
lemma roundTrip_eq (call : SmcCall) (op : TeecOperation) {msg : ℕ} {s' : ShmState}
    (halloc : opteeClientMemAlloc cfg gcdAnswer call.msgArgSize s = (msg, s')) :
    roundTrip cfg gcdAnswer rounds call op s =
      if msg = 0 then some (.outOfMemory s')
      else (opteeSmcCall cfg rounds msg
        { s' with mem := call.message cfg.arch op msg s'.mem }).map fun reply =>
          if reply.1 ≠ teecSuccess then .failed msg reply.1 reply.2 else .replied msg reply.2 := by
  unfold roundTrip prepare
  simp only [halloc]
  by_cases hmsg : msg = 0
  · simp only [hmsg, if_true]
  simp only [hmsg, if_false]
  cases opteeSmcCall cfg rounds msg { s' with mem := call.message cfg.arch op msg s'.mem } with
  | none => rfl
  | some reply =>
      rw [Option.map_some]
      dsimp only
      split <;> rfl

/-- The trip of an open. -/
lemma roundTrip_openSession {sessionId : UInt32} {destination : TeecUuid} {op : TeecOperation}
    {call : TeecCall} (hcall : TeecCall.openSession sessionId destination op = call) :
    roundTrip cfg gcdAnswer rounds (.openSession destination) op s =
      if (call.alloc cfg gcdAnswer s).1 = 0 then some (.outOfMemory (call.alloc cfg gcdAnswer s).2)
      else (call.reply cfg gcdAnswer rounds s).map fun reply =>
        if reply.1 ≠ teecSuccess then .failed (call.alloc cfg gcdAnswer s).1 reply.1 reply.2
        else .replied (call.alloc cfg gcdAnswer s).1 reply.2 := by
  subst hcall
  exact roundTrip_eq _ op rfl

/-- What `TEEC_SMC_OpenSession` returns says whether a session was opened, and which. -/
lemma teecSmcOpenSession_result {sessionId : UInt32} {destination : TeecUuid} {op : TeecOperation}
    {out : SmcOutcome}
    (h : teecSmcOpenSession cfg gcdAnswer gcdFree rounds sessionId destination op s = some out) :
    (∃ mem, (TeecCall.openSession sessionId destination op).replied cfg gcdAnswer rounds s =
        some mem ∧
      out.result = (TeecCall.openSession sessionId destination op).ret cfg gcdAnswer s mem ∧
      out.sessionId =
        (TeecCall.openSession sessionId destination op).session cfg gcdAnswer s mem) ∨
    (TeecCall.openSession sessionId destination op).replied cfg gcdAnswer rounds s = none ∧
      out.result ≠ teecSuccess := by
  generalize hcall : TeecCall.openSession sessionId destination op = call
  rw [teecSmcOpenSession, roundTrip_openSession hcall] at h
  rw [TeecCall.replied]
  by_cases hmsg : (call.alloc cfg gcdAnswer s).1 = 0
  · rw [if_pos hmsg] at h ⊢
    obtain rfl := Option.some.inj h
    exact .inr ⟨rfl, (by decide : teecErrorOutOfMemory ≠ teecSuccess)⟩
  rw [if_neg hmsg] at h ⊢
  cases hreply : call.reply cfg gcdAnswer rounds s with
  | none =>
      rw [hreply] at h
      cases h
  | some reply =>
      obtain ⟨result, s'⟩ := reply
      rw [hreply, Option.map_some, Option.map_some] at h
      by_cases hresult : result = teecSuccess
      · rw [if_neg (not_not.mpr hresult)] at h
        obtain rfl := Option.some.inj h
        exact .inl ⟨s'.mem, if_pos hresult, rfl, rfl⟩
      · rw [if_pos hresult] at h
        obtain rfl := Option.some.inj h
        exact .inr ⟨if_neg hresult, hresult⟩

/-- What `TEEC_SMC_CloseSession` returns says whether the session was closed. -/
lemma teecSmcCloseSession_result {sessionId : UInt32} {out : CloseOutcome}
    (h : teecSmcCloseSession cfg gcdAnswer gcdFree rounds sessionId s = some out) :
    (∃ mem, (TeecCall.closeSession sessionId).replied cfg gcdAnswer rounds s = some mem ∧
      out.result = (TeecCall.closeSession sessionId).ret cfg gcdAnswer s mem) ∨
    (TeecCall.closeSession sessionId).replied cfg gcdAnswer rounds s = none ∧
      out.result ≠ teecSuccess := by
  unfold teecSmcCloseSession at h
  split at h
  next msg s₁ halloc =>
  have hmsg : (TeecCall.closeSession sessionId).alloc cfg gcdAnswer s = (msg, s₁) := halloc
  have hreply : (TeecCall.closeSession sessionId).reply cfg gcdAnswer rounds s =
      opteeSmcCall cfg rounds msg { s₁ with mem := closeMessage sessionId msg s₁.mem } := by
    rw [TeecCall.reply, TeecCall.sent, hmsg]
    rfl
  have hret : ∀ mem, (TeecCall.closeSession sessionId).ret cfg gcdAnswer s mem =
      mem.load32 (msg + MsgArg.ret) := by
    intro mem
    unfold TeecCall.ret
    rw [hmsg]
  simp only [TeecCall.replied, hret, hmsg, hreply]
  by_cases hzero : msg = 0
  · rw [if_pos hzero] at h ⊢
    obtain rfl := Option.some.inj h
    exact .inr ⟨rfl, (by decide : teecErrorOutOfMemory ≠ teecSuccess)⟩
  rw [if_neg hzero] at h ⊢
  split at h
  · cases h
  · next result s₂ hcall =>
    rw [hcall]
    by_cases hresult : result = teecSuccess
    · rw [if_neg (not_not.mpr hresult)] at h
      obtain rfl := Option.some.inj h
      exact .inl ⟨s₂.mem, if_pos hresult, rfl⟩
    · rw [if_pos hresult] at h
      obtain rfl := Option.some.inj h
      exact .inr ⟨if_neg hresult, hresult⟩

end Results

/-! ## Clients -/

/-- The shared pool, the session records of a client and which of them it takes for open, the
sessions of the trusted side, and those that a close has left there. -/
structure SessionWorld where
  shm : ShmState
  record : ℕ → UInt32
  isOpen : ℕ → Bool
  tee : List UInt32
  lost : List UInt32

/-- What happens: a client works with session record `k`, or something else uses the pool. -/
inductive SessionOp
  | openSession (k context : ℕ) (destination : Option TeecUuid) (connectionMethod : UInt32)
      (operation : Option TeecOperation)
  | closeSession (k : ℕ)
  | invokeCommand (k : ℕ) (commandId : UInt32) (operation : Option TeecOperation)
  | other (shm : ShmState)

/-- An operation with the answers of the GCD and of the trusted side. -/
structure SessionStep where
  op : SessionOp
  gcdAnswer : Option ℕ
  gcdFree : Span → List Span → EfiStatus × List Span
  rounds : List SmcRound

/-- The call that an operation comes to, if its parameters are accepted. -/
def SessionOp.call (w : SessionWorld) : SessionOp → Option TeecCall
  | openSession k context destination connectionMethod operation =>
      if context = 0 ∨ connectionMethod ≠ connectionPublic then none
      else destination.map fun destination =>
        .openSession (w.record k) destination (operation.getD teecNullOperation)
  | closeSession k => some (.closeSession (w.record k))
  | invokeCommand k commandId operation =>
      some (.invokeCommand (w.record k) commandId (operation.getD teecNullOperation))
  | other _ => none

namespace SessionStep

variable (cfg : ShmConfig) (step : SessionStep) (w : SessionWorld)

/-- The sessions of the trusted side after a step. -/
def teeAfter : List UInt32 :=
  match step.op.call w with
  | none => w.tee
  | some call => call.carriedOut cfg step.gcdAnswer step.rounds w.shm w.tee

/-- A step; `none` when the trusted side does not come back. -/
def apply : Option SessionWorld :=
  match step.op with
  | .openSession k context destination connectionMethod operation =>
      (teecOpenSession cfg step.gcdAnswer step.gcdFree step.rounds context (some (w.record k))
        destination connectionMethod operation w.shm).map fun out =>
          { w with
            shm := out.state
            record := Function.update w.record k (out.session.getD (w.record k))
            isOpen := if out.result = teecSuccess then Function.update w.isOpen k true
              else w.isOpen
            tee := step.teeAfter cfg w }
  | .closeSession k =>
      (teecCloseSession cfg step.gcdAnswer step.gcdFree step.rounds (some (w.record k))
        w.shm).map fun shm => { w with
          shm := shm
          isOpen := Function.update w.isOpen k false
          tee := step.teeAfter cfg w
          lost := if w.record k ∈ step.teeAfter cfg w then w.lost ++ [w.record k] else w.lost }
  | .invokeCommand k commandId operation =>
      (teecInvokeCommand cfg step.gcdAnswer step.gcdFree step.rounds (some (w.record k)) commandId
        operation w.shm).map fun out => { w with shm := out.state, tee := step.teeAfter cfg w }
  | .other shm => some { w with shm := shm }

/-- The client opens records that are not open and uses and closes those that are, and the trusted
side opens sessions that it does not have. -/
def Proper : Prop :=
  match step.op with
  | .openSession k _ _ _ _ =>
      w.isOpen k = false ∧ ∀ call mem, step.op.call w = some call →
        call.replied cfg step.gcdAnswer step.rounds w.shm = some mem →
        call.ret cfg step.gcdAnswer w.shm mem = teecSuccess →
        call.session cfg step.gcdAnswer w.shm mem ∉ w.tee
  | .closeSession k => w.isOpen k = true
  | .invokeCommand k _ _ => w.isOpen k = true
  | .other _ => True

/-- A close is carried out. -/
def GetsThrough : Prop :=
  ∀ k, step.op = .closeSession k →
    (TeecCall.closeSession (w.record k)).Succeeds cfg step.gcdAnswer step.rounds w.shm

end SessionStep

/-- The runs of a client from no session on. -/
def sessionSystem (cfg : ShmConfig) : System SessionWorld SessionStep where
  Init w := (∀ k, w.isOpen k = false) ∧ w.tee = [] ∧ w.lost = []
  Step w step w' := step.apply cfg w = some w'

/-- Who has a session: an open record, or a close that has left it behind. -/
def SessionWorld.holder (w : SessionWorld) : ℕ ⊕ ℕ → Option UInt32 :=
  Sum.elim (fun k => bif w.isOpen k then some (w.record k) else none) fun n => w.lost[n]?

section Steps

variable {cfg : ShmConfig} {gcdAnswer : Option ℕ} {rounds : List SmcRound} {s : ShmState}
  {step : SessionStep} {w w' : SessionWorld}

/-- A call that is replied to has memory for its message. -/
lemma TeecCall.alloc_of_replied {call : TeecCall} {mem : ByteStore}
    (hreplied : call.replied cfg gcdAnswer rounds s = some mem) :
    (call.alloc cfg gcdAnswer s).1 ≠ 0 := by
  intro hmsg
  rw [replied, if_pos hmsg] at hreplied
  cases hreplied

/-- What a call does to the sessions, by what it asks for. -/
lemma TeecCall.carriedOut_of_succeeds {call : TeecCall} {mem : ByteStore} (tee : List UInt32)
    (hreplied : call.replied cfg gcdAnswer rounds s = some mem)
    (hret : call.ret cfg gcdAnswer s mem = teecSuccess) :
    call.carriedOut cfg gcdAnswer rounds s tee =
      match call with
      | .openSession _ _ _ => call.session cfg gcdAnswer s mem :: tee
      | .closeSession sessionId => tee.erase sessionId
      | .invokeCommand _ _ _ => tee := by
  rw [carriedOut, hreplied, arrives_eq (alloc_of_replied hreplied)]
  simp only [TeeRequest.carryOut, hret]
  cases call <;> rfl

lemma TeecCall.carriedOut_of_not_succeeds {call : TeecCall} (tee : List UInt32)
    (h : ¬ call.Succeeds cfg gcdAnswer rounds s) :
    call.carriedOut cfg gcdAnswer rounds s tee = tee := by
  rw [carriedOut]
  cases hreplied : call.replied cfg gcdAnswer rounds s with
  | none => cases call.arrives cfg gcdAnswer s <;> rfl
  | some mem =>
      rw [arrives_eq (alloc_of_replied hreplied)]
      have hret : call.ret cfg gcdAnswer s mem ≠ teecSuccess := fun hret => h ⟨mem, hreplied, hret⟩
      exact if_pos hret

/-- A command leaves the sessions alone. -/
lemma TeecCall.carriedOut_invokeCommand (sessionId cmdId : UInt32) (op : TeecOperation)
    (tee : List UInt32) :
    (TeecCall.invokeCommand sessionId cmdId op).carriedOut cfg gcdAnswer rounds s tee = tee := by
  by_cases h : (TeecCall.invokeCommand sessionId cmdId op).Succeeds cfg gcdAnswer rounds s
  · obtain ⟨mem, hreplied, hret⟩ := h
    exact carriedOut_of_succeeds tee hreplied hret
  · exact carriedOut_of_not_succeeds tee h

/-! ### Holders -/

lemma SessionWorld.holder_inl (w : SessionWorld) (k : ℕ) :
    w.holder (.inl k) = bif w.isOpen k then some (w.record k) else none := rfl

/-- The holders change at one record at most. -/
lemma holder_update (w : SessionWorld) {k : ℕ} (hothers : ∀ l ≠ k, w'.isOpen l = w.isOpen l ∧
      w'.record l = w.record l) (hlost : w'.lost = w.lost) :
    w'.holder = Function.update w.holder (.inl k)
      (bif w'.isOpen k then some (w'.record k) else none) := by
  funext i
  by_cases hi : i = .inl k
  · subst hi
    rw [Function.update_self, SessionWorld.holder_inl]
  · rw [Function.update_of_ne hi]
    cases i with
    | inl l =>
        obtain ⟨hopen, hrecord⟩ := hothers l fun hlk => hi (hlk ▸ rfl)
        rw [SessionWorld.holder_inl, SessionWorld.holder_inl, hopen, hrecord]
    | inr n =>
        show w'.lost[n]? = w.lost[n]?
        rw [hlost]

/-- The holders where another session is left behind. -/
lemma holder_lose (w : SessionWorld) (id : UInt32) :
    ({ w with lost := w.lost ++ [id] } : SessionWorld).holder =
      Function.update w.holder (.inr w.lost.length) (some id) := by
  funext i
  cases i with
  | inl k => rfl
  | inr n =>
      by_cases hn : n = w.lost.length
      · subst hn
        rw [Function.update_self]
        show (w.lost ++ [id])[w.lost.length]? = some id
        rw [List.getElem?_append_right (Nat.le_refl _), Nat.sub_self]
        rfl
      · rw [Function.update_of_ne (by simpa using hn)]
        show (w.lost ++ [id])[n]? = w.lost[n]?
        rcases Nat.lt_or_ge n w.lost.length with hlt | hge
        · exact List.getElem?_append_left hlt
        · rw [List.getElem?_eq_none hge, List.getElem?_eq_none]
          rw [List.length_append, List.length_singleton]
          omega

/-! ### Steps -/

/-- What an open comes to on both sides. -/
lemma teecOpenSession_after {k context : ℕ} {destination : Option TeecUuid}
    {connectionMethod : UInt32} {operation : Option TeecOperation} {out : TeecOutcome}
    (hop : step.op = .openSession k context destination connectionMethod operation)
    (hout : teecOpenSession cfg step.gcdAnswer step.gcdFree step.rounds context (some (w.record k))
      destination connectionMethod operation w.shm = some out) :
    (out.result ≠ teecSuccess ∧ step.teeAfter cfg w = w.tee) ∨
      out.result = teecSuccess ∧ ∃ call mem, step.op.call w = some call ∧
        call.replied cfg step.gcdAnswer step.rounds w.shm = some mem ∧
        call.ret cfg step.gcdAnswer w.shm mem = teecSuccess ∧
        out.session = some (call.session cfg step.gcdAnswer w.shm mem) ∧
        step.teeAfter cfg w = call.session cfg step.gcdAnswer w.shm mem :: w.tee := by
  rw [SessionStep.teeAfter, hop]
  unfold teecOpenSession at hout
  unfold SessionOp.call
  cases destination with
  | none =>
      obtain rfl := Option.some.inj hout
      refine .inl ⟨(by decide : teecErrorBadParameters ≠ teecSuccess), ?_⟩
      simp
  | some destination =>
      dsimp only at hout
      by_cases hcontext : context = 0
      · rw [if_pos hcontext] at hout
        obtain rfl := Option.some.inj hout
        exact .inl ⟨(by decide : teecErrorBadParameters ≠ teecSuccess), by simp [hcontext]⟩
      rw [if_neg hcontext] at hout
      by_cases hmethod : connectionMethod = connectionPublic
      case neg =>
        rw [if_pos hmethod] at hout
        obtain rfl := Option.some.inj hout
        exact .inl ⟨(by decide : teecErrorNotSupported ≠ teecSuccess), by simp [hmethod]⟩
      rw [if_neg (not_not.mpr hmethod)] at hout
      obtain ⟨smc, hsmc, rfl⟩ := Option.map_eq_some_iff.mp hout
      have hno : ¬ (context = 0 ∨ connectionMethod ≠ connectionPublic) := by
        rintro (h | h)
        · exact hcontext h
        · exact h hmethod
      simp only [if_neg hno, Option.map_some]
      rcases teecSmcOpenSession_result hsmc with ⟨mem, hreplied, hresult, hsession⟩ | ⟨hnone, hne⟩
      · rw [hresult, hsession]
        by_cases hret : (TeecCall.openSession (w.record k) destination
            (operation.getD teecNullOperation)).ret cfg step.gcdAnswer w.shm mem = teecSuccess
        · exact .inr ⟨hret, _, mem, rfl, hreplied, hret, rfl,
            TeecCall.carriedOut_of_succeeds w.tee hreplied hret⟩
        · refine .inl ⟨hret, TeecCall.carriedOut_of_not_succeeds w.tee ?_⟩
          rintro ⟨mem', hreplied', hret'⟩
          rw [hreplied] at hreplied'
          cases hreplied'
          exact hret hret'
      · refine .inl ⟨hne, TeecCall.carriedOut_of_not_succeeds w.tee ?_⟩
        rintro ⟨mem, hreplied, -⟩
        rw [hnone] at hreplied
        cases hreplied

/-- A session that the trusted side opens is open on both sides. -/
lemma openSession_opens {k context : ℕ} {destination : Option TeecUuid}
    {connectionMethod : UInt32} {operation : Option TeecOperation} {call : TeecCall}
    {mem : ByteStore}
    (hop : step.op = .openSession k context destination connectionMethod operation)
    (hcall : step.op.call w = some call)
    (hreplied : call.replied cfg step.gcdAnswer step.rounds w.shm = some mem)
    (hret : call.ret cfg step.gcdAnswer w.shm mem = teecSuccess) :
    ∃ w', step.apply cfg w = some w' ∧
      w'.tee = call.session cfg step.gcdAnswer w.shm mem :: w.tee ∧ w'.isOpen k = true := by
  rw [hop, SessionOp.call] at hcall
  split at hcall
  · cases hcall
  next haccepted =>
  obtain ⟨hcontext, hmethod⟩ := not_or.mp haccepted
  obtain ⟨uuid, rfl, hform⟩ := Option.map_eq_some_iff.mp hcall
  rw [not_not] at hmethod
  obtain ⟨hne, reply, hreply⟩ : (call.alloc cfg step.gcdAnswer w.shm).1 ≠ 0 ∧
      ∃ reply, call.reply cfg step.gcdAnswer step.rounds w.shm = some reply := by
    rw [TeecCall.replied] at hreplied
    split at hreplied
    · cases hreplied
    next hne =>
      cases hreply : call.reply cfg step.gcdAnswer step.rounds w.shm with
      | none =>
          rw [hreply] at hreplied
          cases hreplied
      | some reply => exact ⟨hne, reply, rfl⟩
  obtain ⟨out, hout⟩ : ∃ out, teecOpenSession cfg step.gcdAnswer step.gcdFree step.rounds context
      (some (w.record k)) (some uuid) connectionMethod operation w.shm = some out := by
    rw [teecOpenSession, if_neg hcontext, if_neg (not_not.mpr hmethod), teecSmcOpenSession,
      roundTrip_openSession hform, if_neg hne, hreply]
    exact ⟨_, rfl⟩
  have hafter : step.teeAfter cfg w = call.session cfg step.gcdAnswer w.shm mem :: w.tee := by
    have hrequest : step.op.call w = some call := by
      rw [hop, SessionOp.call, if_neg haccepted, Option.map_some, hform]
    rw [SessionStep.teeAfter, hrequest]
    dsimp only
    rw [TeecCall.carriedOut_of_succeeds w.tee hreplied hret]
    subst hform
    rfl
  have hresult : out.result = teecSuccess := by
    rcases teecOpenSession_after hop hout with ⟨-, hsame⟩ | ⟨hresult, -⟩
    · rw [hafter] at hsame
      exact absurd hsame (List.cons_ne_self _ _)
    · exact hresult
  unfold SessionStep.apply
  simp only [hop]
  rw [hout, Option.map_some]
  refine ⟨_, rfl, hafter, ?_⟩
  dsimp only
  rw [if_pos hresult, Function.update_self]

/-- An open. -/
lemma custody_openSession {k context : ℕ} {destination : Option TeecUuid}
    {connectionMethod : UInt32} {operation : Option TeecOperation} (h : Custody w.holder w.tee)
    (hop : step.op = .openSession k context destination connectionMethod operation)
    (hproper : step.Proper cfg w) (hstep : step.apply cfg w = some w') :
    Custody w'.holder w'.tee := by
  unfold SessionStep.Proper at hproper
  unfold SessionStep.apply at hstep
  simp only [hop] at hproper hstep
  obtain ⟨hclosed, hfresh⟩ := hproper
  obtain ⟨out, hout, rfl⟩ := Option.map_eq_some_iff.mp hstep
  have hfree : w.holder (.inl k) = none := by
    rw [SessionWorld.holder_inl, hclosed]
    rfl
  rw [holder_update w (k := k) ?_ ?_]
  · rcases teecOpenSession_after hop hout with ⟨hresult, htee⟩ |
      ⟨hresult, call, mem, hcall, hreplied, hret, hsession, htee⟩
    · dsimp only
      rw [if_neg hresult, hclosed, htee, cond_false, ← hfree, Function.update_eq_self]
      exact h
    · dsimp only
      rw [if_pos hresult, hsession, htee, Function.update_self, Function.update_self,
        cond_true, Option.getD_some]
      refine h.take hfree (hfresh call mem ?_ hreplied hret)
      rw [← hop]
      exact hcall
  · intro l hl
    dsimp only
    refine ⟨?_, Function.update_of_ne hl _ _⟩
    split
    · exact Function.update_of_ne hl _ _
    · rfl
  · rfl

/-- A close, with what it leaves behind. -/
lemma custody_closeSession {k : ℕ} (h : Custody w.holder w.tee)
    (hop : step.op = .closeSession k) (hopen : w.isOpen k = true)
    (hstep : step.apply cfg w = some w') :
    Custody w'.holder w'.tee ∧ (w'.lost.length = w.lost.length ↔
      (TeecCall.closeSession (w.record k)).Succeeds cfg step.gcdAnswer step.rounds w.shm) := by
  unfold SessionStep.apply at hstep
  simp only [hop] at hstep
  obtain ⟨shm, -, rfl⟩ := Option.map_eq_some_iff.mp hstep
  have hheld : w.holder (.inl k) = some (w.record k) := by
    rw [SessionWorld.holder_inl, hopen, cond_true]
  have hafter : step.teeAfter cfg w = (TeecCall.closeSession (w.record k)).carriedOut cfg
      step.gcdAnswer step.rounds w.shm w.tee := by
    rw [SessionStep.teeAfter, hop]
    rfl
  have hothers : ∀ (lost : List UInt32) (tee : List UInt32), lost = w.lost →
      (⟨shm, w.record, Function.update w.isOpen k false, tee, lost⟩ : SessionWorld).holder =
        Function.update w.holder (.inl k) none := by
    intro lost tee hlost
    rw [holder_update w (k := k) ?_ ?_]
    · dsimp only
      rw [Function.update_self, cond_false]
    · exact fun l hl => ⟨Function.update_of_ne hl _ _, rfl⟩
    · exact hlost
  by_cases hsucceeds :
      (TeecCall.closeSession (w.record k)).Succeeds cfg step.gcdAnswer step.rounds w.shm
  · obtain ⟨mem, hreplied, hret⟩ := id hsucceeds
    have htee : step.teeAfter cfg w = w.tee.erase (w.record k) :=
      hafter.trans (TeecCall.carriedOut_of_succeeds w.tee hreplied hret)
    have hgone : w.record k ∉ w.tee.erase (w.record k) := h.nodup.not_mem_erase
    simp only [htee, if_neg hgone, hsucceeds]
    refine ⟨?_, trivial⟩
    rw [hothers _ _ rfl]
    exact h.drop hheld (List.perm_cons_erase (h.mem hheld))
  · have htee : step.teeAfter cfg w = w.tee :=
      hafter.trans (TeecCall.carriedOut_of_not_succeeds w.tee hsucceeds)
    simp only [htee, if_pos (h.mem hheld), hsucceeds, iff_false]
    refine ⟨?_, by simp⟩
    have hfree : w.holder (.inr w.lost.length) = none :=
      List.getElem?_eq_none (Nat.le_refl _)
    have hpass := h.pass hheld hfree
    rw [← hothers w.lost w.tee rfl] at hpass
    rw [show w.lost.length = (⟨shm, w.record, Function.update w.isOpen k false, w.tee,
      w.lost⟩ : SessionWorld).lost.length from rfl, ← holder_lose] at hpass
    exact hpass

/-- One step. -/
theorem custody_step (h : Custody w.holder w.tee) (hproper : step.Proper cfg w)
    (hstep : step.apply cfg w = some w') :
    Custody w'.holder w'.tee ∧ w.lost.length ≤ w'.lost.length ∧
      (w'.lost.length = w.lost.length ↔ step.GetsThrough cfg w) := by
  cases hop : step.op with
  | openSession k context destination connectionMethod operation =>
      refine ⟨custody_openSession h hop hproper hstep, ?_⟩
      unfold SessionStep.apply at hstep
      simp only [hop] at hstep
      obtain ⟨out, -, rfl⟩ := Option.map_eq_some_iff.mp hstep
      exact ⟨Nat.le_refl _, fun _ k hk => (by rw [hop] at hk; cases hk), fun _ => rfl⟩
  | closeSession k =>
      unfold SessionStep.Proper at hproper
      simp only [hop] at hproper
      obtain ⟨hcustody, hlost⟩ := custody_closeSession h hop hproper hstep
      refine ⟨hcustody, ?_, fun hsame l hl => ?_, fun hthrough => hlost.mpr (hthrough k hop)⟩
      · unfold SessionStep.apply at hstep
        simp only [hop] at hstep
        obtain ⟨shm, -, rfl⟩ := Option.map_eq_some_iff.mp hstep
        dsimp only
        split
        · rw [List.length_append]
          exact Nat.le_add_right _ _
        · exact Nat.le_refl _
      · rw [hop] at hl
        cases hl
        exact hlost.mp hsame
  | invokeCommand k commandId operation =>
      unfold SessionStep.apply at hstep
      simp only [hop] at hstep
      obtain ⟨out, -, rfl⟩ := Option.map_eq_some_iff.mp hstep
      have htee : step.teeAfter cfg w = w.tee := by
        rw [SessionStep.teeAfter, hop]
        exact TeecCall.carriedOut_invokeCommand _ _ _ _
      refine ⟨?_, Nat.le_refl _, fun _ k hk => (by rw [hop] at hk; cases hk), fun _ => rfl⟩
      simp only [htee]
      exact h
  | other shm =>
      unfold SessionStep.apply at hstep
      simp only [hop] at hstep
      obtain rfl := Option.some.inj hstep
      exact ⟨h, Nat.le_refl _, fun _ k hk => (by rw [hop] at hk; cases hk), fun _ => rfl⟩

lemma custody_init (h : (sessionSystem cfg).Init w) : Custody w.holder w.tee := by
  obtain ⟨hclosed, htee, hlost⟩ := h
  have hholder : w.holder = fun _ => none := by
    funext i
    cases i with
    | inl k =>
        rw [SessionWorld.holder_inl, hclosed]
        rfl
    | inr n =>
        show w.lost[n]? = none
        rw [hlost]
        rfl
  rw [hholder, htee]
  exact .init

/-- In every proper run each session of the trusted side belongs to one open record, or was left
behind by one close; and a command that gets memory for its message arrives for the session of its
record, which is open. -/
theorem sessions_of_run (h : ((sessionSystem cfg).restrict fun w (step : SessionStep) =>
      step.Proper cfg w).Reachable w) :
    Custody w.holder w.tee ∧
      ∀ (step : SessionStep) (k : ℕ) (commandId : UInt32) (operation : Option TeecOperation),
        step.op = .invokeCommand k commandId operation → step.Proper cfg w →
          w.record k ∈ w.tee ∧ ∃ call, step.op.call w = some call ∧
            ((call.alloc cfg step.gcdAnswer w.shm).1 ≠ 0 → call.arrives cfg step.gcdAnswer w.shm =
              some ⟨opteeMsgCmdInvokeCommand, commandId, w.record k⟩) := by
  have hcustody : Custody w.holder w.tee := by
    refine h.invariant (P := fun w => Custody w.holder w.tee) ?_ ?_
    · exact fun s hinit => @custody_init cfg s hinit
    · rintro s step t hs ⟨hproper, hstep⟩
      exact (custody_step hs hproper hstep).1
  refine ⟨hcustody, fun step k commandId operation hop hproper => ?_⟩
  unfold SessionStep.Proper at hproper
  simp only [hop] at hproper ⊢
  refine ⟨hcustody.mem (k := .inl k) ?_, _, rfl, fun hmsg => TeecCall.arrives_eq hmsg⟩
  rw [SessionWorld.holder_inl, hproper, cond_true]

/-- Nothing has been left behind exactly if every session has an open record. -/
lemma lost_eq_nil_iff (h : Custody w.holder w.tee) :
    w.lost = [] ↔ ∀ id ∈ w.tee, ∃ k, w.isOpen k = true ∧ w.record k = id := by
  constructor
  · intro hlost id hid
    obtain ⟨k | n, hk⟩ := (h.mem_iff id).mp hid
    · rw [SessionWorld.holder_inl] at hk
      cases hopen : w.isOpen k with
      | true =>
          rw [hopen] at hk
          exact ⟨k, hopen, Option.some.inj hk⟩
      | false =>
          rw [hopen] at hk
          cases hk
    · have hn : w.lost[n]? = some id := hk
      rw [hlost] at hn
      cases hn
  · intro hall
    cases hlost : w.lost with
    | nil => rfl
    | cons id rest =>
        have hleft : w.holder (.inr 0) = some id := by
          show w.lost[0]? = some id
          rw [hlost]
          rfl
        obtain ⟨k, hopen, hrecord⟩ := hall id (h.mem hleft)
        have hheld : w.holder (.inl k) = some id := by
          rw [SessionWorld.holder_inl, hopen, cond_true, hrecord]
        cases h.unique _ _ _ hleft hheld

/-- Along a run, what is left behind does not go away. -/
lemma lost_length_of_run {steps : List SessionStep} (h : Custody w.holder w.tee)
    (hrun : ((sessionSystem cfg).restrict fun w (step : SessionStep) =>
      step.Proper cfg w).Run w steps w') :
    w.lost.length ≤ w'.lost.length ∧ (w'.lost.length = w.lost.length ↔
      ((sessionSystem cfg).restrict fun w (step : SessionStep) =>
        step.Proper cfg w ∧ step.GetsThrough cfg w).Run w steps w') := by
  induction hrun with
  | nil w => exact ⟨Nat.le_refl _, fun _ => .nil w, fun _ => rfl⟩
  | cons hstep _ ih =>
      obtain ⟨hproper, happly⟩ := hstep
      obtain ⟨hcustody, hle, hthrough⟩ := custody_step h hproper happly
      obtain ⟨hle', hrest⟩ := ih hcustody
      refine ⟨hle.trans hle', fun hsame => ?_, fun hrun => ?_⟩
      · exact .cons ⟨⟨hproper, hthrough.mp (by omega)⟩, happly⟩ (hrest.mp (by omega))
      · cases hrun with
        | cons hfirst hrun =>
            obtain ⟨⟨-, hfirst⟩, happly'⟩ := hfirst
            have heq := Option.some.inj (happly.symm.trans happly')
            subst heq
            rw [hrest.mpr hrun, hthrough.mpr hfirst]

/-- After a proper run every session of the trusted side has an open record exactly if all closes
of the run have got through. -/
theorem open_iff_getsThrough {w₀ : SessionWorld} {steps : List SessionStep}
    (hinit : (sessionSystem cfg).Init w₀)
    (hrun : ((sessionSystem cfg).restrict fun w (step : SessionStep) =>
      step.Proper cfg w).Run w₀ steps w) :
    (∀ id ∈ w.tee, ∃ k, w.isOpen k = true ∧ w.record k = id) ↔
      ((sessionSystem cfg).restrict fun w (step : SessionStep) =>
        step.Proper cfg w ∧ step.GetsThrough cfg w).Run w₀ steps w := by
  have hcustody : Custody w.holder w.tee := by
    refine hrun.invariant (P := fun w => Custody w.holder w.tee) ?_ (custody_init hinit)
    rintro s step t hs ⟨hproper, hstep⟩
    exact (custody_step hs hproper hstep).1
  have hlength := (lost_length_of_run (custody_init hinit) hrun).2
  rw [← lost_eq_nil_iff hcustody, ← hlength, hinit.2.2, List.length_nil, List.length_eq_zero_iff]

end Steps

/-! ## A session -/

/-- A client without sessions, on the pool of two pages. -/
def noSessions : SessionWorld := ⟨twoPageWorld.state, fun _ => 0, fun _ => false, [], []⟩

/-- The trusted side opens session 5 for record 0. -/
def openFifth : SessionStep where
  op := .openSession 0 1 (some zeroUuid) connectionPublic none
  gcdAnswer := some 8192
  gcdFree := freeMemorySpace
  rounds := [returningRound fun mem =>
    (mem.store32 (12288 + MsgArg.session) 5).store32 (12288 + MsgArg.ret) teecSuccess]

/-- The call it comes to. -/
def openFifthCall : TeecCall := .openSession 0 zeroUuid teecNullOperation

lemma openFifthCall_alloc :
    (openFifthCall.alloc twoPagePool (some 8192) twoPageWorld.state).1 = 12288 := by
  have hgcd := (twoPageWorld_answers 224 (by decide) 8192 rfl).2
  have hrun := @ShmInv.internalMemAlloc_eq _ _ _ twoPageWorld_inv 8192 224 16 (by decide) hgcd
    (by decide)
  have hsize : openFifthCall.argSize = 224 := rfl
  rw [TeecCall.alloc, opteeClientMemAlloc, hsize, opteeClientMemByteAlignment, hrun]
  rfl

lemma openFifthCall_replied : ∃ mem,
    openFifthCall.replied twoPagePool openFifth.gcdAnswer openFifth.rounds noSessions.shm =
        some mem ∧
      openFifthCall.ret twoPagePool openFifth.gcdAnswer noSessions.shm mem = teecSuccess ∧
      openFifthCall.session twoPagePool openFifth.gcdAnswer noSessions.shm mem = 5 := by
  have halloc : (openFifthCall.alloc twoPagePool openFifth.gcdAnswer noSessions.shm).1 = 12288 :=
    openFifthCall_alloc
  refine ⟨((openFifthCall.sent twoPagePool openFifth.gcdAnswer noSessions.shm).mem.store32
    (12288 + MsgArg.session) 5).store32 (12288 + MsgArg.ret) teecSuccess, ?_, ?_, ?_⟩
  · rw [TeecCall.replied, halloc, if_neg (by decide), TeecCall.reply, openFifth,
      opteeSmcCall_returningRound]
    exact if_pos rfl
  · rw [TeecCall.ret, halloc, ByteStore.load32_store32_same]
  · rw [TeecCall.session, halloc, ByteStore.load32_store32_off (by decide),
      ByteStore.load32_store32_same]

lemma openFifth_proper : openFifth.Proper twoPagePool noSessions :=
  ⟨rfl, fun _ _ _ _ _ => List.not_mem_nil⟩

/-- The step is taken, and both sides have the session. -/
lemma openFifth_apply : ∃ w, openFifth.apply twoPagePool noSessions = some w ∧ w.tee = [5] ∧
    w.isOpen 0 = true := by
  obtain ⟨mem, hreplied, hret, hsession⟩ := openFifthCall_replied
  obtain ⟨w, happly, htee, hopen⟩ :=
    openSession_opens (w := noSessions) rfl rfl hreplied hret
  refine ⟨w, happly, ?_, hopen⟩
  rw [htee]
  exact congrArg (fun id => [id]) hsession

lemma noSessions_init : (sessionSystem twoPagePool).Init noSessions := ⟨fun _ => rfl, rfl, rfl⟩

/-- A command on record 0, whatever the GCD answers. -/
def commandOnFifth (gcdAnswer : Option ℕ) : SessionStep :=
  ⟨.invokeCommand 0 7 none, gcdAnswer, freeMemorySpace, []⟩

theorem sessions_of_run_openFifth : ∃ w, openFifth.apply twoPagePool noSessions = some w ∧
    w.tee = [5] ∧ Custody w.holder w.tee ∧ ∀ gcdAnswer, w.record 0 ∈ w.tee ∧
      ∃ call, (commandOnFifth gcdAnswer).op.call w = some call ∧
        ((call.alloc twoPagePool gcdAnswer w.shm).1 ≠ 0 →
          call.arrives twoPagePool gcdAnswer w.shm =
            some ⟨opteeMsgCmdInvokeCommand, 7, w.record 0⟩) := by
  obtain ⟨w, happly, htee, hopen⟩ := openFifth_apply
  obtain ⟨hcustody, harrives⟩ :=
    sessions_of_run (.step (.init noSessions_init) ⟨openFifth_proper, happly⟩)
  exact ⟨w, happly, htee, hcustody,
    fun gcdAnswer => harrives (commandOnFifth gcdAnswer) 0 7 none rfl hopen⟩

/-- A close for which there is no memory. -/
def closeWithoutMemory : SessionStep := ⟨.closeSession 0, none, freeMemorySpace, []⟩

/-- It does not get through, and reports nothing. -/
lemma closeWithoutMemory_apply (w : SessionWorld) :
    ∃ w', closeWithoutMemory.apply twoPagePool w = some w' := by
  have hnone : teecSmcCloseSession twoPagePool none freeMemorySpace [] (w.record 0) w.shm =
      some ⟨teecErrorOutOfMemory, teecOriginApi, w.shm⟩ := by
    simp only [teecSmcCloseSession, opteeClientMemAlloc, internalMemAlloc,
      badAlignment_byteAlignment, Bool.false_eq_true, if_false, if_true]
  simp only [SessionStep.apply, closeWithoutMemory, teecCloseSession, hnone, Option.map_some]
  exact ⟨_, rfl⟩

theorem open_iff_getsThrough_openFifth : ∃ w w', openFifth.apply twoPagePool noSessions = some w ∧
    closeWithoutMemory.apply twoPagePool w = some w' ∧
    ((∀ id ∈ w'.tee, ∃ k, w'.isOpen k = true ∧ w'.record k = id) ↔
      ((sessionSystem twoPagePool).restrict fun w (step : SessionStep) =>
        step.Proper twoPagePool w ∧ step.GetsThrough twoPagePool w).Run noSessions
          [openFifth, closeWithoutMemory] w') := by
  obtain ⟨w, happly, -, hopen⟩ := openFifth_apply
  obtain ⟨w', hclose⟩ := closeWithoutMemory_apply w
  exact ⟨w, w', happly, hclose, open_iff_getsThrough noSessions_init
    (.cons ⟨openFifth_proper, happly⟩ (.cons ⟨hopen, hclose⟩ (.nil w')))⟩

end Optee
end MuPlatform
