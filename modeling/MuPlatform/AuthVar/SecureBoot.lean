import MuPlatform.AuthVar.VariableMap

/-!
# The secure-boot variables

`InitSecureBootVariables` (`AuthVarsDxe.c`): at boot the driver derives `SetupMode` and
`SecureBoot` from what the store has for `PK` and `SecureBootEnable`, before the variable
services are published.

The store is that of the ideal TA, and each of the six calls may meet a failure of its own.
`SecureBootFaithful` is what the variables are to say afterwards, and
`secureBootFaithful_iff` when a successful initialisation keeps to it: every error of the get
of `SecureBootEnable` is taken for "does not exist", and only a short buffer for "`PK`
exists".
-/

namespace MuPlatform
namespace AuthVar

open Optee

/-! ## Variables -/

def efiSetupModeName : Char16String :=
  .ofAscii ['S', 'e', 't', 'u', 'p', 'M', 'o', 'd', 'e'] rfl
def efiSecureBootEnableName : Char16String :=
  .ofAscii ['S', 'e', 'c', 'u', 'r', 'e', 'B', 'o', 'o', 't', 'E', 'n', 'a', 'b', 'l', 'e'] rfl
def efiCustomModeName : Char16String :=
  .ofAscii ['C', 'u', 's', 't', 'o', 'm', 'M', 'o', 'd', 'e'] rfl

/-- `gEfiSecureBootEnableDisableGuid`. -/
def efiSecureBootEnableDisableGuid : EfiGuid :=
  ⟨[0xC7, 0x0B, 0xA3, 0xF0, 0x08, 0xAF, 0x56, 0x45,
    0x99, 0xC4, 0x00, 0x10, 0x09, 0xC9, 0x3A, 0x44], rfl⟩

/-- `gEfiCustomModeEnableGuid`. -/
def efiCustomModeEnableGuid : EfiGuid :=
  ⟨[0x0C, 0xEC, 0x76, 0xC0, 0x28, 0x70, 0x99, 0x43,
    0xA0, 0x72, 0x71, 0xEE, 0x5C, 0x44, 0x8B, 0x9F], rfl⟩

def secureBootKey : VarKey := ⟨efiSecureBootModeName, efiGlobalVariableGuid⟩
def setupModeKey : VarKey := ⟨efiSetupModeName, efiGlobalVariableGuid⟩
def secureBootEnableKey : VarKey := ⟨efiSecureBootEnableName, efiSecureBootEnableDisableGuid⟩
def customModeKey : VarKey := ⟨efiCustomModeName, efiCustomModeEnableGuid⟩

def efiVariableNonVolatile : UInt32 := 0x1
def efiVariableBootserviceAccess : UInt32 := 0x2
def efiVariableRuntimeAccess : UInt32 := 0x4

def userMode : UInt8 := 0
def setupMode : UInt8 := 1
def secureBootEnable : UInt8 := 1
def secureBootDisable : UInt8 := 0
def secureBootModeEnable : UInt8 := 1
def secureBootModeDisable : UInt8 := 0
def standardSecureBootMode : UInt8 := 0

/-! ## InitSecureBootVariables -/

/-- What the initialisation meets: the PCD, the stack byte `Data` before it is written, and
the failure of each call. -/
structure InitEnv where
  pcdSecureBootEnable : Bool
  data : UInt8
  getPk : Option TaFault
  setSetupMode : Option TaFault
  getSecureBootEnable : Option TaFault
  setSecureBootEnable : Option TaFault
  setSecureBoot : Option TaFault
  setCustomMode : Option TaFault
  hookFault : Option TaFault
  hookPool : Option ByteStore

section Init

variable (cfg : AuthVarConfig) (env : InitEnv)

/-- A set of one byte. -/
def byteCall (fault : Option TaFault) (key : VarKey) (attributes : UInt32) (value : UInt8) :
    SetCall :=
  ⟨key, attributes, 1, some fun _ => value, fault, env.hookFault, env.hookPool⟩

def setByte (fault : Option TaFault) (key : VarKey) (attributes : UInt32) (value : UInt8)
    (st : AuthVarState TaStore) : EfiStatus × AuthVarState TaStore :=
  let call := byteCall env fault key attributes value
  opteeRuntimeSetVariable cfg (idealTaWith fault) call.hook call.args st

/-- A get of one byte into `Data`: the status and what `Data` is afterwards. -/
def getByte (fault : Option TaFault) (key : VarKey) (data : UInt8)
    (st : AuthVarState TaStore) : EfiStatus × UInt8 × AuthVarState TaStore :=
  match opteeRuntimeGetVariable cfg (idealTaWith fault)
      ⟨some key.name, some key.guid, some 1, some fun _ => data⟩ st with
  | (out, st) => (out.status, (out.data.getD fun _ => data) 0, st)

/-- The part of `InitSecureBootVariables` on `SecureBootEnable`: its status, the value of the
local variable, and the state. -/
def initSecureBootEnable (mode data : UInt8) (st : AuthVarState TaStore) :
    EfiStatus × UInt8 × AuthVarState TaStore :=
  match getByte cfg env.getSecureBootEnable secureBootEnableKey data st with
  | (status, data, st) =>
    if status.isError = false then
      (.success, if mode = userMode then data else secureBootDisable, st)
    else if mode = userMode then
      let value := if env.pcdSecureBootEnable then secureBootEnable else secureBootDisable
      match setByte cfg env env.setSecureBootEnable secureBootEnableKey
          (efiVariableNonVolatile ||| efiVariableBootserviceAccess) value st with
      | (status, st) => (status, value, st)
    else (.success, secureBootDisable, st)

/-- The part of `InitSecureBootVariables` on `SecureBoot` and `CustomMode`. -/
def initSecureBootMode (mode enable : UInt8) (st : AuthVarState TaStore) :
    EfiStatus × AuthVarState TaStore :=
  let secureBootMode := if enable = secureBootEnable ∧ mode = userMode then
    secureBootModeEnable else secureBootModeDisable
  match setByte cfg env env.setSecureBoot secureBootKey
      (efiVariableRuntimeAccess ||| efiVariableBootserviceAccess) secureBootMode st with
  | (status, st) =>
    if status.isError then (status, st)
    else setByte cfg env env.setCustomMode customModeKey
      (efiVariableNonVolatile ||| efiVariableBootserviceAccess) standardSecureBootMode st

/-- `InitSecureBootVariables`. -/
def initSecureBootVariables (st : AuthVarState TaStore) : EfiStatus × AuthVarState TaStore :=
  match getByte cfg env.getPk platformKey env.data st with
  | (status, data, st) =>
    let mode := if status = .bufferTooSmall then userMode else setupMode
    match setByte cfg env env.setSetupMode setupModeKey
        (efiVariableBootserviceAccess ||| efiVariableRuntimeAccess) mode st with
    | (status, st) =>
      if status.isError then (status, st)
      else match initSecureBootEnable cfg env mode data st with
      | (status, enable, st) =>
        if status.isError then (status, st) else initSecureBootMode cfg env mode enable st

end Init

/-! ## What the variables say -/

/-- The store has the variable, with this one byte. -/
def HasByte (store : TaStore) (key : VarKey) (value : UInt8) : Prop :=
  ∃ v, store key.ta = some v ∧ v.data = [value]

/-- What a successful initialisation is to have made of the store. -/
structure SecureBootFaithful (env : InitEnv) (store store' : TaStore) : Prop where
  setupMode : HasByte store' setupModeKey userMode ↔ (store platformKey.ta).isSome
  secureBoot : HasByte store' secureBootKey secureBootModeEnable ↔
    (store platformKey.ta).isSome ∧ (HasByte store secureBootEnableKey secureBootEnable ∨
      store secureBootEnableKey.ta = none ∧ env.pcdSecureBootEnable = true)
  kept : ∀ v, store secureBootEnableKey.ta = some v → store' secureBootEnableKey.ta = some v
  /-- The presence of `PK` was determined. -/
  pkKnown : env.getPk = none
  /-- The value of `SecureBootEnable` was determined: one byte has room for it. -/
  secureBootEnableKnown : env.getSecureBootEnable = none ∧
    ∀ v, store secureBootEnableKey.ta = some v → v.data.length ≤ 1

/-- A set of one byte fails: its request is too large, or the invocation fails. -/
def SetFails (cfg : AuthVarConfig) (key : VarKey) (fault : Option TaFault) : Prop :=
  cfg.memSize < SetParam.sizeof + key.name.strSize + 1 ∨ fault.isSome

/-- The store has the variable, with more than one byte. -/
def IsLong (store : TaStore) (key : VarKey) : Prop :=
  ∃ v, store key.ta = some v ∧ 2 ≤ v.data.length

/-- The get of `PK` ends in a short buffer, which is what makes it user mode. -/
def EntersUserMode (env : InitEnv) (store : TaStore) : Prop :=
  env.getPk = none ∧ IsLong store platformKey

/-- The get of `SecureBootEnable` succeeds. -/
def ReadsSecureBootEnable (env : InitEnv) (store : TaStore) : Prop :=
  env.getSecureBootEnable = none ∧
    ∃ v, store secureBootEnableKey.ta = some v ∧ v.data.length ≤ 1

/-- One of the sets on the path fails. -/
def InitFails (cfg : AuthVarConfig) (env : InitEnv) (store : TaStore) : Prop :=
  SetFails cfg setupModeKey env.setSetupMode ∨
  (EntersUserMode env store ∧ ¬ ReadsSecureBootEnable env store ∧
    SetFails cfg secureBootEnableKey env.setSecureBootEnable) ∨
  SetFails cfg secureBootKey env.setSecureBoot ∨ SetFails cfg customModeKey env.setCustomMode

/-- The gets tell what they are taken for: neither fails on the way, `PK` is not there or too
long for one byte, and `SecureBootEnable` is not there or one byte (an empty one leaves the
stack byte in its place). -/
def GetsTell (env : InitEnv) (store : TaStore) : Prop :=
  env.getPk = none ∧ (∀ v, store platformKey.ta = some v → 2 ≤ v.data.length) ∧
  env.getSecureBootEnable = none ∧
  ∀ v, store secureBootEnableKey.ta = some v → v.data.length = 1 ∨
    v.data = [] ∧ ¬ (IsLong store platformKey ∧ env.data = secureBootEnable)

/-! ## The calls -/

section Calls

variable {cfg : AuthVarConfig} {env : InitEnv} {fault : Option TaFault} {key : VarKey}
  {attributes : UInt32} {value data mode enable : UInt8} {st : AuthVarState TaStore}

/-- The variables of the initialisation: a short name the tests do not use. -/
structure SmallKey (key : VarKey) : Prop where
  chars_ne_nil : key.name.chars ≠ []
  notTestHook : ∀ cfg, isTestHook cfg key.name key.guid 1 = false
  strSize_le : key.name.strSize ≤ 34

lemma smallKey_of_head {key : VarKey} {c : UInt16} {cs : List UInt16}
    (h : key.name.chars = c :: cs) (hc : c ≠ 1) (hlen : cs.length ≤ 15) : SmallKey key where
  chars_ne_nil := by simp [h]
  notTestHook cfg := by simp [isTestHook, h, hc]
  strSize_le := by simp [Char16String.strSize, h]; omega

lemma smallKey_platformKey : SmallKey platformKey :=
  smallKey_of_head rfl (by decide) (by decide)
lemma smallKey_setupModeKey : SmallKey setupModeKey :=
  smallKey_of_head rfl (by decide) (by decide)
lemma smallKey_secureBootEnableKey : SmallKey secureBootEnableKey :=
  smallKey_of_head rfl (by decide) (by decide)
lemma smallKey_secureBootKey : SmallKey secureBootKey :=
  smallKey_of_head rfl (by decide) (by decide)
lemma smallKey_customModeKey : SmallKey customModeKey :=
  smallKey_of_head rfl (by decide) (by decide)

/-- The variable a set of one byte leaves. -/
def byteVariable (attributes : UInt32) (value : UInt8) : Variable :=
  ⟨attributes, [value], by simp [GetResult.sizeof]⟩

/-- The store after a set of one byte. -/
def putByte (store : TaStore) (key : VarKey) (attributes : UInt32) (value : UInt8) : TaStore :=
  Function.update store key.ta (some (byteVariable attributes value))

section PutByte

variable {store : TaStore} {key' : VarKey} {value' : UInt8}

lemma putByte_self : putByte store key attributes value key.ta =
    some (byteVariable attributes value) := Function.update_self _ _ _

lemma putByte_of_ne (h : key'.ta ≠ key.ta) :
    putByte store key attributes value key'.ta = store key'.ta := Function.update_of_ne h _ _

lemma hasByte_putByte_self : HasByte (putByte store key attributes value) key value' ↔
    value = value' := by
  simp [HasByte, putByte_self, byteVariable]

lemma hasByte_putByte_of_ne (h : key'.ta ≠ key.ta) :
    HasByte (putByte store key attributes value) key' value' ↔ HasByte store key' value' := by
  rw [HasByte, HasByte, putByte_of_ne h]

end PutByte

lemma byteCall_fits (hkey : SmallKey key) :
    SetParam.sizeof + (byteCall env fault key attributes value).key.name.strSize +
      (byteCall env fault key attributes value).dataSize < 2 ^ 32 := by
  have hsize := hkey.strSize_le
  simp only [byteCall, SetParam.sizeof]
  omega

lemma byteCall_accepted_iff (hkey : SmallKey key) :
    (byteCall env fault key attributes value).Accepted cfg ↔
      ¬ cfg.memSize < SetParam.sizeof + key.name.strSize + 1 := by
  simp only [SetCall.Accepted, byteCall, Nat.not_lt]
  exact ⟨fun h => h.2.2, fun h => ⟨hkey.chars_ne_nil, .inr rfl, h⟩⟩

lemma setByte_of_fails (hready : st.Ready) (hkey : SmallKey key) (h : SetFails cfg key fault) :
    (setByte cfg env fault key attributes value st).1.isError = true := by
  by_cases haccepted : (byteCall env fault key attributes value).Accepted cfg
  · rcases h with h | h
    · exact absurd h ((byteCall_accepted_iff hkey).mp haccepted)
    · obtain ⟨f, rfl⟩ := Option.isSome_iff_exists.mp h
      have hset := @set_accepted cfg st _ _ hready (byteCall env (some f) key attributes value)
        (hkey.notTestHook cfg) (byteCall_fits hkey) haccepted rfl
      rw [setByte]
      exact (congrArg EfiStatus.isError hset.1).trans f.status.1
  · obtain ⟨status, herror, heq⟩ := @set_refused cfg st hready
      (byteCall env fault key attributes value) (hkey.notTestHook cfg) (byteCall_fits hkey)
      haccepted (idealTaWith fault)
    exact (congrArg (fun answer => answer.1.isError) heq).trans herror

lemma setByte_of_not_fails (hready : st.Ready) (hkey : SmallKey key)
    (hattributes : attributes ≠ 0) (h : ¬ SetFails cfg key fault) :
    ∃ st', setByte cfg env fault key attributes value st = (.success, st') ∧ st'.Ready ∧
      st'.ta = putByte st.ta key attributes value := by
  obtain ⟨hmem, hfault⟩ := not_or.mp h
  have hnone : fault = none := by simpa using hfault
  subst hnone
  obtain ⟨hstatus, hta, hready'⟩ := @set_accepted cfg st _ _ hready
    (byteCall env none key attributes value) (hkey.notTestHook cfg) (byteCall_fits hkey)
    ((byteCall_accepted_iff hkey).mpr hmem) rfl
  have hanswer : setAnswer none st.ta key.ta attributes [value] =
      (.success, putByte st.ta key attributes value) := by
    simp only [setAnswer, storeSet, hattributes, if_false]
    rfl
  refine ⟨_, Prod.ext ?_ rfl, hready', ?_⟩
  · exact hstatus.trans (congrArg Prod.fst hanswer)
  · exact hta.trans (congrArg Prod.snd hanswer)

/-- A get of one byte answers from the store and keeps it. -/
lemma getByte_spec (hready : st.Ready) (hkey : SmallKey key) (hmem : 65 ≤ cfg.memSize) :
    ∃ st', st'.Ready ∧ st'.ta = st.ta ∧
      getByte cfg fault key data st =
        ((getAnswerWith fault (storeView st.ta key) 1 (some fun _ => data)).status,
          ((getAnswerWith fault (storeView st.ta key) 1 (some fun _ => data)).data.getD
            fun _ => data) 0, st') := by
  have hsize := hkey.strSize_le
  obtain ⟨hready', hta⟩ := @get_keeps cfg st hready ⟨key, 1, some fun _ => data, fault⟩
  have hout := @getChecked_idealTaWith cfg fault key.name key.guid 1 st
    ⟨some key.name, some key.guid, some 1, some fun _ => data⟩
    (by simp only [GetParam.sizeof]; omega) (by decide)
  rw [← get_of_ready hready (.inr rfl) (hkey.notTestHook cfg), if_neg
    (by simp only [GetParam.sizeof, GetResult.sizeof]; omega)] at hout
  refine ⟨_, hready', hta, ?_⟩
  rw [getByte]
  simp only [hout]
  rfl

/-! ### What the gets answer -/

lemma status_tooSmall_iff {found : Option Contents} {buffer : Option ByteStore} :
    (getAnswerWith fault found 1 buffer).status = .bufferTooSmall ↔
      fault = none ∧ ∃ c, found = some c ∧ 2 ≤ c.2.length := by
  cases fault with
  | some fault => simp [getAnswerWith, fault.status.2.2]
  | none =>
      cases found with
      | none => simp [getAnswerWith, getAnswer]
      | some c =>
          by_cases hc : 1 < c.2.length
          · simp [getAnswerWith, getAnswer, hc]
            omega
          · simp [getAnswerWith, getAnswer, hc]
            omega

lemma status_success_iff {found : Option Contents} {buffer : Option ByteStore} :
    (getAnswerWith fault found 1 buffer).status.isError = false ↔
      fault = none ∧ ∃ c, found = some c ∧ c.2.length ≤ 1 := by
  cases fault with
  | some fault => simp [getAnswerWith, fault.status.1]
  | none =>
      cases found with
      | none => simp [getAnswerWith, getAnswer, EfiStatus.isError]
      | some c =>
          by_cases hc : 1 < c.2.length
          · simp [getAnswerWith, getAnswer, hc, EfiStatus.isError]
          · simp [getAnswerWith, getAnswer, hc]
            omega

/-- A get that does not succeed leaves the byte; one that does may have nothing to write. -/
lemma data_getAnswerWith {found : Option Contents} :
    ((getAnswerWith fault found 1 (some fun _ => data)).data.getD fun _ => data) 0 =
      if (getAnswerWith fault found 1 (some fun _ => data)).status = .success then
        (found.elim data fun c => c.2.headD data) else data := by
  cases fault with
  | some fault =>
      have hne : (getAnswerWith (some fault) found 1 (some fun _ => data)).status ≠ .success :=
        EfiStatus.ne_success_of_isError fault.status.1
      rw [if_neg hne]
      rfl
  | none =>
      cases found with
      | none => rfl
      | some c =>
          by_cases hc : 1 < c.2.length
          · simp [getAnswerWith, getAnswer, hc]
          · simp only [getAnswerWith, getAnswer, hc, if_false, if_true, Option.map_some,
              Option.getD_some, Option.elim_some]
            cases c.2 with
            | nil => rfl
            | cons b bs => rfl

lemma storeView_eq_some_iff {store : TaStore} {p : Contents → Prop} :
    (∃ c, storeView store key = some c ∧ p c) ↔ ∃ v, store key.ta = some v ∧ p v.contents := by
  simp only [storeView, Option.map_eq_some_iff]
  constructor
  · rintro ⟨_, ⟨v, hv, rfl⟩, hp⟩
    exact ⟨v, hv, hp⟩
  · rintro ⟨v, hv, hp⟩
    exact ⟨_, ⟨v, hv, rfl⟩, hp⟩

/-- The get of `PK` ends in a short buffer exactly in user mode, and then leaves `Data`. -/
lemma getPk_spec (hready : st.Ready) (hmem : 65 ≤ cfg.memSize) :
    ∃ status data st', getByte cfg env.getPk platformKey env.data st = (status, data, st') ∧
      st'.Ready ∧ st'.ta = st.ta ∧ (status = .bufferTooSmall ↔ EntersUserMode env st.ta) ∧
      (EntersUserMode env st.ta → data = env.data) := by
  obtain ⟨st', hready', hta, hget⟩ := @getByte_spec cfg env.getPk platformKey env.data st hready
    smallKey_platformKey hmem
  have hiff := (@status_tooSmall_iff env.getPk (storeView st.ta platformKey)
    (some fun _ => env.data)).trans (and_congr_right fun _ => @storeView_eq_some_iff platformKey
      st.ta fun c => 2 ≤ c.2.length)
  refine ⟨_, _, st', hget, hready', hta, hiff, fun huser => ?_⟩
  rw [data_getAnswerWith, if_neg]
  rw [hiff.mpr huser]
  decide

/-- The byte `SecureBootEnable` is read as, over what `Data` was. -/
def readAs (store : TaStore) (data : UInt8) : UInt8 :=
  (storeView store secureBootEnableKey).elim data fun c => c.2.headD data

/-- The get of `SecureBootEnable`. -/
lemma getSecureBootEnable_spec (hready : st.Ready) (hmem : 65 ≤ cfg.memSize) :
    ∃ status data' st', getByte cfg env.getSecureBootEnable secureBootEnableKey data st =
        (status, data', st') ∧ st'.Ready ∧ st'.ta = st.ta ∧
      (status.isError = false ↔ ReadsSecureBootEnable env st.ta) ∧
      (ReadsSecureBootEnable env st.ta → data' = readAs st.ta data) := by
  obtain ⟨st', hready', hta, hget⟩ := @getByte_spec cfg env.getSecureBootEnable
    secureBootEnableKey data st hready smallKey_secureBootEnableKey hmem
  have hiff := (@status_success_iff env.getSecureBootEnable (storeView st.ta secureBootEnableKey)
    (some fun _ => data)).trans (and_congr_right fun _ => @storeView_eq_some_iff
      secureBootEnableKey st.ta fun c => c.2.length ≤ 1)
  refine ⟨_, _, st', hget, hready', hta, hiff, fun hreads => ?_⟩
  obtain ⟨hnone, v, hv, hlen⟩ := hreads
  have hsuccess : (getAnswerWith env.getSecureBootEnable (storeView st.ta secureBootEnableKey) 1
      (some fun _ => data)).status = .success := by
    have hroom : ¬ 1 < v.data.length := Nat.not_lt.mpr hlen
    simp only [hnone, storeView, hv, getAnswerWith, getAnswer, Option.map_some,
      Variable.contents, hroom, if_false]
  rw [data_getAnswerWith, if_pos hsuccess, readAs]

/-! ### The parts of the initialisation -/

/-- The byte the initialisation stores for the PCD. -/
def pcdByte (env : InitEnv) : UInt8 :=
  if env.pcdSecureBootEnable then secureBootEnable else secureBootDisable

/-- The store after the part on `SecureBootEnable`, and the value of the local variable. -/
structure EnableResult (env : InitEnv) (mode data : UInt8) (store : TaStore) (enable : UInt8)
    (store' : TaStore) : Prop where
  read : ReadsSecureBootEnable env store → store' = store ∧
    (mode = userMode → enable = readAs store data)
  written : ¬ ReadsSecureBootEnable env store → mode = userMode → enable = pcdByte env ∧
    store' = putByte store secureBootEnableKey
      (efiVariableNonVolatile ||| efiVariableBootserviceAccess) (pcdByte env)
  setup : mode ≠ userMode → store' = store

/-- Only `SecureBootEnable` may be different, and in setup mode or where it reads it is not. -/
lemma EnableResult.eq_of_kept {store store' : TaStore}
    (h : EnableResult env mode data store enable store')
    (hkept : ¬ (mode = userMode ∧ ¬ ReadsSecureBootEnable env store)) : store' = store := by
  by_cases hmode : mode = userMode
  · by_cases hreads : ReadsSecureBootEnable env store
    · exact (h.read hreads).1
    · exact absurd ⟨hmode, hreads⟩ hkept
  · exact h.setup hmode

lemma EnableResult.other {store store' : TaStore}
    (h : EnableResult env mode data store enable store')
    (hkey : key.ta ≠ secureBootEnableKey.ta) : store' key.ta = store key.ta := by
  by_cases hkept : mode = userMode ∧ ¬ ReadsSecureBootEnable env store
  · rw [(h.written hkept.2 hkept.1).2, putByte_of_ne hkey]
  · rw [h.eq_of_kept hkept]

lemma initSecureBootEnable_spec (hready : st.Ready) (hmem : 65 ≤ cfg.memSize)
    (h : ¬ (mode = userMode ∧ ¬ ReadsSecureBootEnable env st.ta ∧
      SetFails cfg secureBootEnableKey env.setSecureBootEnable)) :
    ∃ enable st', initSecureBootEnable cfg env mode data st = (.success, enable, st') ∧
      st'.Ready ∧ EnableResult env mode data st.ta enable st'.ta := by
  obtain ⟨status, data', st₁, hget, hready₁, hta₁, hiff, hdata⟩ :=
    @getSecureBootEnable_spec cfg env data st hready hmem
  unfold initSecureBootEnable
  rw [hget]
  by_cases hreads : ReadsSecureBootEnable env st.ta
  · refine ⟨_, st₁, if_pos (hiff.mpr hreads), hready₁, fun _ => ⟨hta₁, fun hmode => ?_⟩,
      fun hnot => absurd hreads hnot, fun _ => hta₁⟩
    rw [if_pos hmode, hdata hreads]
  · have hstatus : status.isError = true := by simpa using fun h => hreads (hiff.mp h)
    by_cases hmode : mode = userMode
    · have hset : ¬ SetFails cfg secureBootEnableKey env.setSecureBootEnable :=
        fun hfails => h ⟨hmode, hreads, hfails⟩
      obtain ⟨st₂, hset₂, hready₂, hta₂⟩ := @setByte_of_not_fails cfg env _ _
        (efiVariableNonVolatile ||| efiVariableBootserviceAccess) (pcdByte env) st₁ hready₁
        smallKey_secureBootEnableKey (by decide) hset
      refine ⟨pcdByte env, st₂, ?_, hready₂, fun h => absurd h hreads, fun _ _ => ⟨rfl, ?_⟩,
        fun hne => absurd hmode hne⟩
      · simp only [hstatus, hmode, if_true, Bool.true_eq_false, if_false]
        rw [← pcdByte, hset₂]
      · rw [hta₂, hta₁]
    · refine ⟨secureBootDisable, st₁, ?_, hready₁, fun h => absurd h hreads,
        fun _ h => absurd h hmode, fun _ => hta₁⟩
      simp only [hstatus, hmode, Bool.true_eq_false, if_false]

lemma initSecureBootEnable_fails (hready : st.Ready) (hmem : 65 ≤ cfg.memSize)
    (hmode : mode = userMode) (hreads : ¬ ReadsSecureBootEnable env st.ta)
    (h : SetFails cfg secureBootEnableKey env.setSecureBootEnable) :
    (initSecureBootEnable cfg env mode data st).1.isError = true := by
  obtain ⟨status, data', st₁, hget, hready₁, hta₁, hiff, hdata⟩ :=
    @getSecureBootEnable_spec cfg env data st hready hmem
  have hstatus : status.isError = true := by simpa using fun h => hreads (hiff.mp h)
  unfold initSecureBootEnable
  rw [hget]
  simp only [hstatus, hmode, if_true, Bool.true_eq_false, if_false]
  exact setByte_of_fails hready₁ smallKey_secureBootEnableKey h

lemma initSecureBootMode_spec (hready : st.Ready)
    (hboot : ¬ SetFails cfg secureBootKey env.setSecureBoot)
    (hcustom : ¬ SetFails cfg customModeKey env.setCustomMode) :
    ∃ st', initSecureBootMode cfg env mode enable st = (.success, st') ∧
      st'.ta = putByte (putByte st.ta secureBootKey
        (efiVariableRuntimeAccess ||| efiVariableBootserviceAccess)
        (if enable = secureBootEnable ∧ mode = userMode then secureBootModeEnable
          else secureBootModeDisable)) customModeKey
        (efiVariableNonVolatile ||| efiVariableBootserviceAccess) standardSecureBootMode := by
  obtain ⟨st₁, hset₁, hready₁, hta₁⟩ := @setByte_of_not_fails cfg env _ _
    (efiVariableRuntimeAccess ||| efiVariableBootserviceAccess)
    (if enable = secureBootEnable ∧ mode = userMode then secureBootModeEnable
      else secureBootModeDisable) st hready smallKey_secureBootKey (by decide) hboot
  obtain ⟨st₂, hset₂, -, hta₂⟩ := @setByte_of_not_fails cfg env _ _
    (efiVariableNonVolatile ||| efiVariableBootserviceAccess) standardSecureBootMode st₁ hready₁
    smallKey_customModeKey (by decide) hcustom
  refine ⟨st₂, ?_, ?_⟩
  · simp only [initSecureBootMode, hset₁, EfiStatus.isError_success, Bool.false_eq_true,
      if_false]
    exact hset₂
  · rw [hta₂, hta₁]

lemma initSecureBootMode_fails (hready : st.Ready)
    (h : SetFails cfg secureBootKey env.setSecureBoot ∨
      SetFails cfg customModeKey env.setCustomMode) :
    (initSecureBootMode cfg env mode enable st).1.isError = true := by
  by_cases hboot : SetFails cfg secureBootKey env.setSecureBoot
  · have herror := @setByte_of_fails cfg env _ _
      (efiVariableRuntimeAccess ||| efiVariableBootserviceAccess)
      (if enable = secureBootEnable ∧ mode = userMode then secureBootModeEnable
        else secureBootModeDisable) st hready smallKey_secureBootKey hboot
    simp only [initSecureBootMode, herror, if_true]
  · obtain ⟨st₁, hset₁, hready₁, -⟩ := @setByte_of_not_fails cfg env _ _
      (efiVariableRuntimeAccess ||| efiVariableBootserviceAccess)
      (if enable = secureBootEnable ∧ mode = userMode then secureBootModeEnable
        else secureBootModeDisable) st hready smallKey_secureBootKey (by decide) hboot
    simp only [initSecureBootMode, hset₁, EfiStatus.isError_success, Bool.false_eq_true,
      if_false]
    exact setByte_of_fails hready₁ smallKey_customModeKey (h.resolve_left hboot)

lemma memSize_of_not_setFails (h : ¬ SetFails cfg setupModeKey fault) : 65 ≤ cfg.memSize :=
  Nat.not_lt.mp (not_or.mp h).1

/-- The initialisation up to the set of `SetupMode`: the mode is what the get of `PK` says. -/
lemma init_of_setupMode (hready : st.Ready) (h : ¬ SetFails cfg setupModeKey env.setSetupMode) :
    ∃ mode data st₂, st₂.Ready ∧
      st₂.ta = putByte st.ta setupModeKey
        (efiVariableBootserviceAccess ||| efiVariableRuntimeAccess) mode ∧
      (mode = userMode ↔ EntersUserMode env st.ta) ∧
      (EntersUserMode env st.ta → data = env.data) ∧
      (ReadsSecureBootEnable env st₂.ta ↔ ReadsSecureBootEnable env st.ta) ∧
      initSecureBootVariables cfg env st =
        match initSecureBootEnable cfg env mode data st₂ with
        | (status, enable, st) =>
          if status.isError then (status, st) else initSecureBootMode cfg env mode enable st := by
  obtain ⟨status, data, st₁, hget, hready₁, hta₁, hiff, hdata⟩ :=
    @getPk_spec cfg env st hready (memSize_of_not_setFails h)
  obtain ⟨mode, hmode⟩ : ∃ mode, mode = if status = .bufferTooSmall then userMode else setupMode :=
    ⟨_, rfl⟩
  have huser : mode = userMode ↔ EntersUserMode env st.ta := by
    rw [← hiff, hmode]
    by_cases hstatus : status = .bufferTooSmall
    · simp [hstatus]
    · simp [hstatus, userMode, setupMode]
  obtain ⟨st₂, hset, hready₂, hta₂⟩ := @setByte_of_not_fails cfg env _ _
    (efiVariableBootserviceAccess ||| efiVariableRuntimeAccess) mode st₁ hready₁
    smallKey_setupModeKey (by decide) h
  rw [hta₁] at hta₂
  refine ⟨mode, data, st₂, hready₂, hta₂, huser, hdata, ?_, ?_⟩
  · rw [hta₂, ReadsSecureBootEnable, ReadsSecureBootEnable, putByte_of_ne (by decide)]
  · simp only [initSecureBootVariables, hget, ← hmode, hset, EfiStatus.isError_success,
      Bool.false_eq_true, if_false]

/-- A failing set fails the initialisation. -/
lemma init_of_fails (hready : st.Ready) (h : InitFails cfg env st.ta) :
    (initSecureBootVariables cfg env st).1.isError = true := by
  by_cases hsetup : SetFails cfg setupModeKey env.setSetupMode
  · -- whatever the get of `PK` was
    have hready₁ : (getByte cfg env.getPk platformKey env.data st).2.2.Ready :=
      (@get_keeps cfg st hready ⟨platformKey, 1, some fun _ => env.data, env.getPk⟩).1
    have herror : ∀ mode, (setByte cfg env env.setSetupMode setupModeKey
        (efiVariableBootserviceAccess ||| efiVariableRuntimeAccess) mode
        (getByte cfg env.getPk platformKey env.data st).2.2).1.isError = true :=
      fun mode => setByte_of_fails hready₁ smallKey_setupModeKey hsetup
    simp only [initSecureBootVariables, herror, if_true]
  · obtain ⟨mode, data, st₂, hready₂, hta₂, huser, hdata, hreads, hinit⟩ :=
      init_of_setupMode hready hsetup
    have hmem := memSize_of_not_setFails hsetup
    rw [hinit]
    by_cases hsbe : mode = userMode ∧ ¬ ReadsSecureBootEnable env st₂.ta ∧
        SetFails cfg secureBootEnableKey env.setSecureBootEnable
    · have herror := @initSecureBootEnable_fails cfg env data mode st₂ hready₂ hmem hsbe.1
        hsbe.2.1 hsbe.2.2
      simp only [herror, if_true]
    · obtain ⟨enable, st₃, henable, hready₃, -⟩ := @initSecureBootEnable_spec cfg env data mode
        st₂ hready₂ hmem hsbe
      rw [henable]
      refine initSecureBootMode_fails hready₃ ?_
      rw [huser, hreads] at hsbe
      exact (h.resolve_left hsetup).resolve_left hsbe

/-- Otherwise it succeeds, in the mode the get of `PK` says. -/
lemma init_of_not_fails (hready : st.Ready) (h : ¬ InitFails cfg env st.ta) :
    ∃ mode data enable store₂ st', initSecureBootVariables cfg env st = (.success, st') ∧
      (mode = userMode ↔ EntersUserMode env st.ta) ∧
      (EntersUserMode env st.ta → data = env.data) ∧
      EnableResult env mode data (putByte st.ta setupModeKey
        (efiVariableBootserviceAccess ||| efiVariableRuntimeAccess) mode) enable store₂ ∧
      st'.ta = putByte (putByte store₂ secureBootKey
        (efiVariableRuntimeAccess ||| efiVariableBootserviceAccess)
        (if enable = secureBootEnable ∧ mode = userMode then secureBootModeEnable
          else secureBootModeDisable)) customModeKey
        (efiVariableNonVolatile ||| efiVariableBootserviceAccess) standardSecureBootMode := by
  obtain ⟨hsetup, h⟩ := not_or.mp h
  obtain ⟨hsbe, h⟩ := not_or.mp h
  obtain ⟨hboot, hcustom⟩ := not_or.mp h
  obtain ⟨mode, data, st₂, hready₂, hta₂, huser, hdata, hreads, hinit⟩ :=
    init_of_setupMode hready hsetup
  obtain ⟨enable, st₃, henable, hready₃, hresult⟩ := @initSecureBootEnable_spec cfg env data mode
    st₂ hready₂ (memSize_of_not_setFails hsetup) (by rw [huser, hreads]; exact hsbe)
  obtain ⟨st₄, hfinal, hta₄⟩ := @initSecureBootMode_spec cfg env mode enable st₃ hready₃ hboot
    hcustom
  refine ⟨mode, data, enable, st₃.ta, st₄, ?_, huser, hdata, hta₂ ▸ hresult, hta₄⟩
  rw [hinit, henable]
  exact hfinal

end Calls

/-! ## When the variables are right -/

section Faithful

variable {env : InitEnv} {store store' : TaStore}

/-- What a successful initialisation makes of the variables, in terms of the store before:
user mode is the mode of a short buffer, and `SecureBoot` is enabled by a
`SecureBootEnable` that reads as one, or by the PCD where it does not read. -/
structure InitResult (env : InitEnv) (store store' : TaStore) : Prop where
  setupMode : HasByte store' setupModeKey userMode ↔ EntersUserMode env store
  secureBoot : HasByte store' secureBootKey secureBootModeEnable ↔ EntersUserMode env store ∧
    (ReadsSecureBootEnable env store ∧ readAs store env.data = secureBootEnable ∨
      ¬ ReadsSecureBootEnable env store ∧ env.pcdSecureBootEnable = true)
  kept : ¬ (EntersUserMode env store ∧ ¬ ReadsSecureBootEnable env store) →
    store' secureBootEnableKey.ta = store secureBootEnableKey.ta

lemma pcdByte_eq_enable_iff : pcdByte env = secureBootEnable ↔ env.pcdSecureBootEnable = true := by
  cases h : env.pcdSecureBootEnable <;> simp [pcdByte, h, secureBootEnable, secureBootDisable]

lemma initResult_of_success {cfg : AuthVarConfig} {st : AuthVarState TaStore}
    (hready : st.Ready) (h : ¬ InitFails cfg env st.ta) :
    (initSecureBootVariables cfg env st).1 = .success ∧
      InitResult env st.ta (initSecureBootVariables cfg env st).2.ta := by
  obtain ⟨mode, data, enable, store₂, st', hinit, huser, hdata, hresult, hta⟩ :=
    init_of_not_fails hready h
  have hsbe : putByte st.ta setupModeKey
      (efiVariableBootserviceAccess ||| efiVariableRuntimeAccess) mode secureBootEnableKey.ta =
        st.ta secureBootEnableKey.ta := putByte_of_ne (by decide)
  have hreads : ReadsSecureBootEnable env (putByte st.ta setupModeKey
      (efiVariableBootserviceAccess ||| efiVariableRuntimeAccess) mode) ↔
        ReadsSecureBootEnable env st.ta := by
    rw [ReadsSecureBootEnable, ReadsSecureBootEnable, hsbe]
  rw [hinit]
  refine ⟨rfl, ?_, ?_, ?_⟩
  · show HasByte st'.ta setupModeKey userMode ↔ _
    rw [hta, hasByte_putByte_of_ne (by decide), hasByte_putByte_of_ne (by decide), ← huser,
      HasByte, hresult.other (by decide)]
    exact hasByte_putByte_self
  · show HasByte st'.ta secureBootKey secureBootModeEnable ↔ _
    have henabled : HasByte st'.ta secureBootKey secureBootModeEnable ↔
        enable = secureBootEnable ∧ mode = userMode := by
      rw [hta, hasByte_putByte_of_ne (by decide), hasByte_putByte_self]
      by_cases hboth : enable = secureBootEnable ∧ mode = userMode
      · simp [hboth]
      · simp [hboth, secureBootModeDisable, secureBootModeEnable]
    rw [henabled, ← huser, and_comm]
    refine and_congr_right fun hmode => ?_
    have hdata' := hdata (huser.mp hmode)
    by_cases hr : ReadsSecureBootEnable env st.ta
    · have hread : enable = readAs st.ta env.data := by
        rw [(hresult.read (hreads.mpr hr)).2 hmode, hdata', readAs, readAs, storeView, storeView,
          hsbe]
      simp [hr, hread]
    · have hpcd := (hresult.written (fun h => hr (hreads.mp h)) hmode).1
      simp [hr, hpcd, pcdByte_eq_enable_iff]
  · intro hkept
    show st'.ta secureBootEnableKey.ta = _
    rw [← huser, ← hreads] at hkept
    rw [hta, putByte_of_ne (by decide), putByte_of_ne (by decide), hresult.eq_of_kept hkept, hsbe]

/-- The three variables say what they are to say exactly when the gets tell what they are
taken for. -/
lemma InitResult.faithful_iff (h : InitResult env store store') :
    SecureBootFaithful env store store' ↔ GetsTell env store := by
  constructor
  · rintro ⟨hsetup, hboot, -, hpk, hsbe, hshort⟩
    have hlong : ∀ v, store platformKey.ta = some v → IsLong store platformKey := by
      intro v hv
      exact (h.setupMode.mp (hsetup.mpr (by rw [hv]; rfl))).2
    refine ⟨hpk, fun v hv => ?_, hsbe, fun v hv => ?_⟩
    · obtain ⟨v', hv', hlen⟩ := hlong v hv
      rw [hv] at hv'
      exact Option.some.inj hv' ▸ hlen
    · have hlen := hshort v hv
      by_cases hone : v.data.length = 1
      · exact .inl hone
      · -- an empty `SecureBootEnable` reads as the stack byte
        have hempty : v.data = [] := List.eq_nil_of_length_eq_zero (by omega)
        refine .inr ⟨hempty, fun ⟨hpkLong, hstack⟩ => ?_⟩
        have hread : readAs store env.data = secureBootEnable := by
          simp [readAs, storeView, hv, Variable.contents, hempty, hstack]
        obtain ⟨-, hor⟩ := hboot.mp (h.secureBoot.mpr
          ⟨⟨hpk, hpkLong⟩, .inl ⟨⟨hsbe, v, hv, hlen⟩, hread⟩⟩)
        rcases hor with ⟨v', hv', hdata⟩ | ⟨hnone, -⟩
        · rw [hv] at hv'
          rw [← Option.some.inj hv', hempty] at hdata
          cases hdata
        · rw [hv] at hnone
          cases hnone
  · rintro ⟨hpk, hlong, hsbe, hvalue⟩
    have huser : EntersUserMode env store ↔ (store platformKey.ta).isSome := by
      constructor
      · rintro ⟨-, v, hv, -⟩
        rw [hv]
        rfl
      · intro hsome
        obtain ⟨v, hv⟩ := Option.isSome_iff_exists.mp hsome
        exact ⟨hpk, v, hv, hlong v hv⟩
    have hshort : ∀ v, store secureBootEnableKey.ta = some v → v.data.length ≤ 1 := by
      intro v hv
      rcases hvalue v hv with hone | ⟨hempty, -⟩
      · exact hone.le
      · rw [hempty]
        exact Nat.zero_le _
    refine ⟨h.setupMode.trans huser, ?_, fun v hv => ?_, hpk, hsbe, hshort⟩
    · rw [h.secureBoot, ← huser]
      refine and_congr_right fun hmode => ?_
      cases hfound : store secureBootEnableKey.ta with
      | none =>
          have hreads : ¬ ReadsSecureBootEnable env store := by
            rintro ⟨-, v, hv, -⟩
            rw [hfound] at hv
            cases hv
          simp [hreads, HasByte, hfound]
      | some v =>
          have hreads : ReadsSecureBootEnable env store := ⟨hsbe, v, hfound, hshort v hfound⟩
          have hread : readAs store env.data = v.data.headD env.data := by
            simp [readAs, storeView, hfound, Variable.contents]
          simp only [hreads, true_and, not_true_eq_false, false_and, or_false, hread,
            reduceCtorEq, HasByte, hfound, Option.some.injEq, exists_eq_left']
          rcases hvalue v hfound with hone | ⟨hempty, hstack⟩
          · obtain ⟨b, hb⟩ := List.length_eq_one_iff.mp hone
            simp [hb]
          · have hne : env.data ≠ secureBootEnable := fun h => hstack ⟨hmode.2, h⟩
            simp [hempty, hne]
    · rw [h.kept fun hnot => hnot.2 ⟨hsbe, v, hv, hshort v hv⟩, hv]

/-- A successful initialisation leaves the secure-boot variables as they are to be exactly
when the gets tell what they are taken for. -/
theorem secureBootFaithful_iff (cfg : AuthVarConfig) (env : InitEnv) (st : AuthVarState TaStore)
    (hready : st.Ready) :
    ((initSecureBootVariables cfg env st).1 = .success →
        SecureBootFaithful env st.ta (initSecureBootVariables cfg env st).2.ta) ↔
      InitFails cfg env st.ta ∨ GetsTell env st.ta := by
  by_cases hfails : InitFails cfg env st.ta
  · have herror := EfiStatus.ne_success_of_isError (init_of_fails hready hfails)
    exact ⟨fun _ => .inl hfails, fun _ hsuccess => absurd hsuccess herror⟩
  · obtain ⟨hsuccess, hresult⟩ := initResult_of_success hready hfails
    rw [← hresult.faithful_iff]
    exact ⟨fun h => .inr (h hsuccess), fun h _ => h.resolve_left hfails⟩

end Faithful

/-- A store with a platform key of two bytes and secure boot enabled. -/
def enrolledStore : TaStore := fun key =>
  if key = platformKey.ta then some ⟨0x27, [0x30, 0x82], by decide⟩
  else if key = secureBootEnableKey.ta then some ⟨0x3, [secureBootEnable], by decide⟩
  else none

/-- The driver over that store. -/
def enrolledDriver : AuthVarState TaStore := { emptyDriver with ta := enrolledStore }

lemma enrolledDriver_ready : enrolledDriver.Ready := ⟨rfl, rfl, rfl⟩

/-- No call fails on the way. -/
def calmEnv : InitEnv :=
  ⟨false, 0, none, none, none, none, none, none, none, none⟩

/-- With room for the requests and no failure on the way, no set fails. -/
lemma not_initFails_largeConfig {env : InitEnv} (hsetup : env.setSetupMode = none)
    (hsbe : env.setSecureBootEnable = none) (hboot : env.setSecureBoot = none)
    (hcustom : env.setCustomMode = none) (store : TaStore) :
    ¬ InitFails largeConfig env store := by
  have hsets : ∀ key, SmallKey key → ¬ SetFails largeConfig key none := by
    rintro key hkey (hsize | hfault)
    · have hlen := hkey.strSize_le
      rw [memSize_largeConfig, SetParam.sizeof] at hsize
      omega
    · cases hfault
  rw [InitFails, hsetup, hsbe, hboot, hcustom]
  rintro (h | ⟨-, -, h⟩ | h | h)
  · exact hsets _ smallKey_setupModeKey h
  · exact hsets _ smallKey_secureBootEnableKey h
  · exact hsets _ smallKey_secureBootKey h
  · exact hsets _ smallKey_customModeKey h

theorem secureBootFaithful_iff_enrolled :
    (initSecureBootVariables largeConfig calmEnv enrolledDriver).1 = .success ∧
      SecureBootFaithful calmEnv enrolledStore
        (initSecureBootVariables largeConfig calmEnv enrolledDriver).2.ta := by
  have htell : GetsTell calmEnv enrolledStore := by
    refine ⟨rfl, fun v hv => ?_, rfl, fun v hv => .inl ?_⟩
    · have hpk : enrolledStore platformKey.ta = some ⟨0x27, [0x30, 0x82], by decide⟩ := if_pos rfl
      rw [hpk] at hv
      exact Option.some.inj hv ▸ le_rfl
    · have hsbe : enrolledStore secureBootEnableKey.ta =
          some ⟨0x3, [secureBootEnable], by decide⟩ := (if_neg (by decide)).trans (if_pos rfl)
      rw [hsbe] at hv
      exact Option.some.inj hv ▸ rfl
  have hsuccess := (@initResult_of_success calmEnv largeConfig enrolledDriver
    enrolledDriver_ready (not_initFails_largeConfig rfl rfl rfl rfl _)).1
  exact ⟨hsuccess, (secureBootFaithful_iff largeConfig calmEnv enrolledDriver
    enrolledDriver_ready).mpr (.inr htell) hsuccess⟩

/-- A get that runs out of memory. -/
def outOfMemoryGet : TaFault := ⟨teecErrorOutOfMemory, by decide, by decide, by decide⟩

/-- The get of `SecureBootEnable` runs out of memory. -/
def outOfMemoryEnv : InitEnv := { calmEnv with getSecureBootEnable := some outOfMemoryGet }

/-- With a platform key and secure boot enabled, one get that runs out of memory is enough for
a successful initialisation that leaves secure boot off. -/
theorem not_secureBootFaithful_outOfMemory :
    (initSecureBootVariables largeConfig outOfMemoryEnv enrolledDriver).1 = .success ∧
    ¬ HasByte (initSecureBootVariables largeConfig outOfMemoryEnv enrolledDriver).2.ta
      secureBootKey secureBootModeEnable ∧
    ¬ SecureBootFaithful outOfMemoryEnv enrolledStore
      (initSecureBootVariables largeConfig outOfMemoryEnv enrolledDriver).2.ta := by
  obtain ⟨hsuccess, hresult⟩ := @initResult_of_success outOfMemoryEnv largeConfig enrolledDriver
    enrolledDriver_ready (not_initFails_largeConfig rfl rfl rfl rfl _)
  refine ⟨hsuccess, fun hboot => ?_, fun hfaithful => ?_⟩
  · rcases (hresult.secureBoot.mp hboot).2 with ⟨⟨hnone, -⟩, -⟩ | ⟨-, hpcd⟩
    · cases hnone
    · cases hpcd
  · exact absurd hfaithful.secureBootEnableKnown.1 (by simp [outOfMemoryEnv])

end AuthVar
end MuPlatform
