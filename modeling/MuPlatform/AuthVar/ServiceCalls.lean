import MuPlatform.AuthVar.Enumeration
import MuPlatform.AuthVar.SecureBoot

/-!
# Calls of the variable services

The four services as calls, on a TA that may answer anything, and `InitSecureBootVariables`,
which makes six of them.

* `Keeps`: no call changes the flags that the services check.
* `ServiceCall.LeavesAlone`: a call that touches neither the transport buffers nor the TA, as
  every call without a session is (`leavesAlone_of_noSession`).
-/

namespace MuPlatform
namespace AuthVar

open Optee

/-! ## InitSecureBootVariables on any TA -/

/-- What the calls of `InitSecureBootVariables` meet: the PCD, the stack byte `Data` before it
is written, the TA at each call, and the hook. -/
structure SecureBootEnv (σ : Type*) where
  pcdSecureBootEnable : Bool
  data : UInt8
  getPk : Ta σ
  setSetupMode : Ta σ
  getSecureBootEnable : Ta σ
  setSecureBootEnable : Ta σ
  setSecureBoot : Ta σ
  setCustomMode : Ta σ
  hook : HookEnv σ

namespace SecureBootEnv

variable {σ : Type*} (cfg : AuthVarConfig) (env : SecureBootEnv σ)

def setByte (ta : Ta σ) (key : VarKey) (attributes : UInt32) (value : UInt8)
    (st : AuthVarState σ) : EfiStatus × AuthVarState σ :=
  opteeRuntimeSetVariable cfg ta env.hook
    ⟨some key.name, some key.guid, attributes, 1, some fun _ => value⟩ st

def getByte (ta : Ta σ) (key : VarKey) (data : UInt8) (st : AuthVarState σ) :
    EfiStatus × UInt8 × AuthVarState σ :=
  match opteeRuntimeGetVariable cfg ta
      ⟨some key.name, some key.guid, some 1, some fun _ => data⟩ st with
  | (out, st) => (out.status, (out.data.getD fun _ => data) 0, st)

/-- The part of `InitSecureBootVariables` on `SecureBootEnable`. -/
def initSecureBootEnable (mode data : UInt8) (st : AuthVarState σ) :
    EfiStatus × UInt8 × AuthVarState σ :=
  match getByte cfg env.getSecureBootEnable secureBootEnableKey data st with
  | (status, data, st) =>
    if status.isError = false then
      (.success, if mode = userMode then data else secureBootDisable, st)
    else if mode = userMode then
      let value := if env.pcdSecureBootEnable then secureBootEnable else secureBootDisable
      match env.setByte cfg env.setSecureBootEnable secureBootEnableKey
          (efiVariableNonVolatile ||| efiVariableBootserviceAccess) value st with
      | (status, st) => (status, value, st)
    else (.success, secureBootDisable, st)

/-- The part of `InitSecureBootVariables` on `SecureBoot` and `CustomMode`. -/
def initSecureBootMode (mode enable : UInt8) (st : AuthVarState σ) :
    EfiStatus × AuthVarState σ :=
  let secureBootMode := if enable = secureBootEnable ∧ mode = userMode then
    secureBootModeEnable else secureBootModeDisable
  match env.setByte cfg env.setSecureBoot secureBootKey
      (efiVariableRuntimeAccess ||| efiVariableBootserviceAccess) secureBootMode st with
  | (status, st) =>
    if status.isError then (status, st)
    else env.setByte cfg env.setCustomMode customModeKey
      (efiVariableNonVolatile ||| efiVariableBootserviceAccess) standardSecureBootMode st

/-- `InitSecureBootVariables`. -/
def initSecureBootVariables (st : AuthVarState σ) : EfiStatus × AuthVarState σ :=
  match getByte cfg env.getPk platformKey env.data st with
  | (status, data, st) =>
    let mode := if status = .bufferTooSmall then userMode else setupMode
    match env.setByte cfg env.setSetupMode setupModeKey
        (efiVariableBootserviceAccess ||| efiVariableRuntimeAccess) mode st with
    | (status, st) =>
      if status.isError then (status, st)
      else match env.initSecureBootEnable cfg mode data st with
      | (status, enable, st) =>
        if status.isError then (status, st) else env.initSecureBootMode cfg mode enable st

end SecureBootEnv

/-- The ideal TA with a failure for each call. -/
def InitEnv.onIdealTa (env : InitEnv) : SecureBootEnv TaStore where
  pcdSecureBootEnable := env.pcdSecureBootEnable
  data := env.data
  getPk := idealTaWith env.getPk
  setSetupMode := idealTaWith env.setSetupMode
  getSecureBootEnable := idealTaWith env.getSecureBootEnable
  setSecureBootEnable := idealTaWith env.setSecureBootEnable
  setSecureBoot := idealTaWith env.setSecureBoot
  setCustomMode := idealTaWith env.setCustomMode
  hook := ⟨idealTaWith env.hookFault, env.hookPool⟩

/-- On the ideal TA this is the initialisation of the secure-boot variables. -/
lemma initSecureBootVariables_onIdealTa (cfg : AuthVarConfig) (env : InitEnv)
    (st : AuthVarState TaStore) : env.onIdealTa.initSecureBootVariables cfg st =
      MuPlatform.AuthVar.initSecureBootVariables cfg env st := rfl

/-! ## What a call keeps -/

section Keeps

variable {σ : Type*} {cfg : AuthVarConfig} {ta : Ta σ} {st st' st'' : AuthVarState σ}

/-- The flags the services check are the same. -/
structure Keeps (st st' : AuthVarState σ) : Prop where
  buffersAllocated : st'.buffersAllocated = st.buffersAllocated
  atRuntime : st'.atRuntime = st.atRuntime
  session : st'.mTeecSessionOpened = st.mTeecSessionOpened
  variableArchInstalled : st'.variableArchInstalled = st.variableArchInstalled

lemma Keeps.refl (st : AuthVarState σ) : Keeps st st := ⟨rfl, rfl, rfl, rfl⟩

lemma Keeps.trans (h : Keeps st st') (h' : Keeps st' st'') : Keeps st st'' :=
  ⟨h'.buffersAllocated.trans h.buffersAllocated, h'.atRuntime.trans h.atRuntime,
    h'.session.trans h.session, h'.variableArchInstalled.trans h.variableArchInstalled⟩

/-- An invocation changes the TA and the buffers. -/
lemma keeps_invoke {command : VariableServiceOp} {n k : ℕ} {param result : ByteStore} :
    Keeps st (opteeRuntimeVariableInvokeCommand ta command n k
      { st with param := param, result := result }).2.2 := ⟨rfl, rfl, rfl, rfl⟩

lemma keeps_get {args : GetArgs} :
    Keeps st (opteeRuntimeGetVariable cfg ta args st).2 := by
  unfold opteeRuntimeGetVariable
  split
  · exact .refl st
  split
  · split
    · exact .refl st
    split
    · exact .refl st
    split
    · exact .refl st
    split
    · exact .refl st
    simp only [getChecked]
    split
    · exact .refl st
    split
    · exact .refl st
    · rw [getReply_snd]
      exact keeps_invoke
  · exact .refl st

lemma keeps_internalGetVariable {hook : HookEnv σ} {name : Char16String} {guid : EfiGuid} :
    Keeps st (internalGetVariable cfg hook name guid st).2.2 := by
  have hsize := @keeps_get σ cfg hook.ta st ⟨some name, some guid, some 0, none⟩
  simp only [internalGetVariable]
  split
  · exact hsize
  split
  · exact hsize
  · split
    · exact hsize.trans keeps_get
    · exact hsize.trans keeps_get

lemma keeps_secureBootHook {hook : HookEnv σ} {name : Char16String} {guid : EfiGuid} :
    Keeps st (secureBootHook cfg hook name guid st) := by
  unfold secureBootHook
  split
  · exact .refl st
  split
  · exact .refl st
  · obtain ⟨h₀, h₁, h₂, h₃⟩ := @keeps_internalGetVariable σ cfg st hook name guid
    exact ⟨h₀, h₁, h₂, h₃⟩

lemma keeps_setChecked {hook : HookEnv σ} {args : SetArgs} {name : Char16String}
    {guid : EfiGuid} : Keeps st (setChecked cfg ta hook args name guid st).2 := by
  simp only [setChecked]
  split
  · exact .refl st
  split
  · exact .refl st
  · split
    · exact keeps_invoke
    · exact keeps_invoke.trans keeps_secureBootHook

lemma keeps_set {hook : HookEnv σ} {args : SetArgs} :
    Keeps st (opteeRuntimeSetVariable cfg ta hook args st).2 := by
  unfold opteeRuntimeSetVariable
  split
  · exact .refl st
  split
  · split
    · exact .refl st
    split
    · exact .refl st
    split
    · exact .refl st
    split
    · exact ⟨rfl, rfl, rfl, rfl⟩
    · exact keeps_setChecked
  · exact .refl st

lemma keeps_getNext {args : GetNextArgs} :
    Keeps st (opteeRuntimeGetNextVariableName cfg ta args st).2 := by
  unfold opteeRuntimeGetNextVariableName
  simp only
  split
  · exact .refl st
  split
  · split
    · exact .refl st
    split
    · exact .refl st
    next buffer _ _ _ _ _ _ =>
      simp only [getNextChecked]
      generalize (if buffer.name.chars = [] then 0 else buffer.name.strSize % 2 ^ 32) = localIn
      split
      · exact .refl st
      split
      · exact .refl st
      · rw [getNextReply_snd]
        exact keeps_invoke
  · exact .refl st

lemma keeps_query {args : QueryArgs} :
    Keeps st (opteeRuntimeQueryVariableInfo cfg ta args st).2 := by
  unfold opteeRuntimeQueryVariableInfo
  split
  · exact .refl st
  split
  · exact .refl st
  split
  · exact .refl st
  split
  · exact .refl st
  split
  · exact .refl st
  · simp only
    split
    · exact keeps_invoke
    · exact keeps_invoke

section SecureBoot

variable {env : SecureBootEnv σ} {key : VarKey} {attributes : UInt32}
  {value data mode enable : UInt8}

lemma keeps_setByte : Keeps st (env.setByte cfg ta key attributes value st).2 := keeps_set

lemma keeps_getByte : Keeps st (SecureBootEnv.getByte cfg ta key data st).2.2 := by
  simp only [SecureBootEnv.getByte]
  exact keeps_get

lemma keeps_initSecureBootEnable :
    Keeps st (env.initSecureBootEnable cfg mode data st).2.2 := by
  simp only [SecureBootEnv.initSecureBootEnable]
  split
  · exact keeps_getByte
  split
  · exact keeps_getByte.trans keeps_setByte
  · exact keeps_getByte

lemma keeps_initSecureBootMode : Keeps st (env.initSecureBootMode cfg mode enable st).2 := by
  simp only [SecureBootEnv.initSecureBootMode]
  generalize (if enable = secureBootEnable ∧ mode = userMode then secureBootModeEnable
    else secureBootModeDisable) = secureBootMode
  split
  · exact keeps_setByte
  · exact keeps_setByte.trans keeps_setByte

lemma keeps_initSecureBootVariables : Keeps st (env.initSecureBootVariables cfg st).2 := by
  simp only [SecureBootEnv.initSecureBootVariables]
  generalize (if (SecureBootEnv.getByte cfg env.getPk platformKey env.data st).1 =
    .bufferTooSmall then userMode else setupMode) = mode
  have hfirst := (@keeps_getByte σ cfg env.getPk st platformKey env.data).trans
    (@keeps_setByte σ cfg env.setSetupMode _ env setupModeKey
      (efiVariableBootserviceAccess ||| efiVariableRuntimeAccess) mode)
  split
  · exact hfirst
  split
  · exact hfirst.trans keeps_initSecureBootEnable
  · exact (hfirst.trans keeps_initSecureBootEnable).trans keeps_initSecureBootMode

end SecureBoot

end Keeps

/-! ## Service calls -/

/-- A call of one of the four services. -/
inductive ServiceCall
  | getVariable (args : GetArgs)
  | getNextVariableName (args : GetNextArgs)
  | setVariable (args : SetArgs)
  | queryVariableInfo (args : QueryArgs)

/-- What a call returns, with its arguments as it leaves them. -/
inductive ServiceAnswer
  | getVariable (out : GetOutcome)
  | getNextVariableName (out : GetNextOutcome)
  | setVariable (status : EfiStatus)
  | queryVariableInfo (out : EfiStatus × QueryArgs)

namespace ServiceCall

variable {σ : Type*} (cfg : AuthVarConfig)

/-- The call on a TA, and with a hook for the variables of the secure-boot policy. -/
def run (ta : Ta σ) (hook : HookEnv σ) :
    ServiceCall → AuthVarState σ → ServiceAnswer × AuthVarState σ
  | .getVariable args, st =>
    match opteeRuntimeGetVariable cfg ta args st with
    | (out, st) => (.getVariable out, st)
  | .getNextVariableName args, st =>
    match opteeRuntimeGetNextVariableName cfg ta args st with
    | (out, st) => (.getNextVariableName out, st)
  | .setVariable args, st =>
    match opteeRuntimeSetVariable cfg ta hook args st with
    | (status, st) => (.setVariable status, st)
  | .queryVariableInfo args, st =>
    match opteeRuntimeQueryVariableInfo cfg ta args st with
    | (out, st) => (.queryVariableInfo out, st)

/-- The call reads and writes no byte of the buffers, invokes no TA and changes nothing:
whatever the buffers hold and the TA would do, it is the same call. -/
def LeavesAlone (call : ServiceCall) (st : AuthVarState σ) : Prop :=
  ∃ answer, ∀ (ta : Ta σ) (hook : HookEnv σ) (param result : ByteStore),
    call.run cfg ta hook { st with param := param, result := result } =
      (answer, { st with param := param, result := result })

variable {cfg} {call : ServiceCall} {st : AuthVarState σ}

lemma keeps_run {ta : Ta σ} {hook : HookEnv σ} : Keeps st (call.run cfg ta hook st).2 := by
  cases call with
  | getVariable args => exact keeps_get
  | getNextVariableName args => exact keeps_getNext
  | setVariable args => exact keeps_set
  | queryVariableInfo args => exact keeps_query

/-- Without a session every call stops at a check. -/
lemma leavesAlone_of_noSession (h : st.mTeecSessionOpened = false) :
    call.LeavesAlone cfg st := by
  cases call with
  | getVariable args =>
      refine ⟨.getVariable (opteeRuntimeGetVariable cfg (fun _ s => (⟨0, [], 0⟩, s)) args st).1,
        fun ta hook param result => ?_⟩
      simp only [run, opteeRuntimeGetVariable, h, if_true]
      split
      · rfl
      split
      · split
        · rfl
        split
        · rfl
        · rfl
      · rfl
  | getNextVariableName args =>
      refine ⟨.getNextVariableName (opteeRuntimeGetNextVariableName cfg
        (fun _ s => (⟨0, [], 0⟩, s)) args st).1, fun ta hook param result => ?_⟩
      simp only [run, opteeRuntimeGetNextVariableName, h, if_true]
      split
      · rfl
      split
      · rfl
      · rfl
  | setVariable args =>
      refine ⟨.setVariable (opteeRuntimeSetVariable cfg (fun _ s => (⟨0, [], 0⟩, s))
        ⟨fun _ s => (⟨0, [], 0⟩, s), none⟩ args st).1, fun ta hook param result => ?_⟩
      simp only [run, opteeRuntimeSetVariable, h, if_true]
      split
      · rfl
      split
      · split
        · rfl
        split
        · rfl
        · rfl
      · rfl
  | queryVariableInfo args =>
      refine ⟨.queryVariableInfo (opteeRuntimeQueryVariableInfo cfg
        (fun _ s => (⟨0, [], 0⟩, s)) args st).1, fun ta hook param result => ?_⟩
      simp only [run, opteeRuntimeQueryVariableInfo, h, if_true]
      split
      · rfl
      split
      · rfl
      · rfl

end ServiceCall

end AuthVar
end MuPlatform
