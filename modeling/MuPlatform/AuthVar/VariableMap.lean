import MuPlatform.AuthVar.IdealTa
import MuPlatform.Base.Runs

/-!
# The driver as a variable map

What the variable services are for: a map from names and GUIDs to variables, that a set
changes at one key and a get looks up.  `mapSystem` is that map, as a transition system over
calls with their outcomes; `driverSystem` is the driver on the ideal TA.

`run_mapSystem_of_run_driverSystem` matches the runs of the driver with runs of the map, as
long as the sizes of a request fit its 32-bit fields and no two variables of the run have
names that are equal in the `2 ^ 16` bytes that `VariableNameSize` can count.  Without the
second condition two variables can be one to the TA (`not_run_mapSystem_longNames`).
-/

namespace MuPlatform
namespace AuthVar

open Optee

/-! ## The map -/

/-- A variable is known by its name and its GUID. -/
structure VarKey where
  name : Char16String
  guid : EfiGuid
  deriving DecidableEq

/-- The key the TA gets. -/
def VarKey.ta (key : VarKey) : TaKey := taKey key.name key.guid

/-- What each variable holds. -/
abbrev VarMap := VarKey → Option Contents

/-- A call of `OpteeRuntimeSetVariable`, with the failures it meets on the way. -/
structure SetCall where
  key : VarKey
  attributes : UInt32
  dataSize : ℕ
  data : Option ByteStore
  fault : Option TaFault
  hookFault : Option TaFault
  hookPool : Option ByteStore

namespace SetCall

def args (call : SetCall) : SetArgs :=
  ⟨some call.key.name, some call.key.guid, call.attributes, call.dataSize, call.data⟩

def hook (call : SetCall) : HookEnv TaStore := ⟨idealTaWith call.hookFault, call.hookPool⟩

/-- The call passes the checks of the driver. -/
def Accepted (cfg : AuthVarConfig) (call : SetCall) : Prop :=
  call.key.name.chars ≠ [] ∧ (call.dataSize = 0 ∨ call.data.isSome) ∧
    SetParam.sizeof + call.key.name.strSize + call.dataSize ≤ cfg.memSize

instance (cfg : AuthVarConfig) (call : SetCall) : Decidable (call.Accepted cfg) :=
  inferInstanceAs (Decidable (_ ∧ _ ∧ _))

/-- What the variable holds after the call. -/
def contents (call : SetCall) : Option Contents :=
  if call.attributes = 0 then none else some (call.attributes, call.args.bytes)

end SetCall

/-- A call of `OpteeRuntimeGetVariable`, with the failure it meets on the way. -/
structure GetCall where
  key : VarKey
  dataSize : ℕ
  data : Option ByteStore
  fault : Option TaFault

namespace GetCall

def args (call : GetCall) : GetArgs :=
  ⟨some call.key.name, some call.key.guid, some call.dataSize, call.data⟩

/-- The call passes the checks of the driver. -/
def Accepted (cfg : AuthVarConfig) (call : GetCall) : Prop :=
  (call.dataSize = 0 ∨ call.data.isSome) ∧
    GetParam.sizeof + call.key.name.strSize ≤ cfg.memSize ∧
    GetResult.sizeof + call.dataSize ≤ cfg.memSize

instance (cfg : AuthVarConfig) (call : GetCall) : Decidable (call.Accepted cfg) :=
  inferInstanceAs (Decidable (_ ∧ _ ∧ _))

end GetCall

/-- A call with its outcome. -/
inductive VarEvent
  | set (call : SetCall) (status : EfiStatus)
  | get (call : GetCall) (out : GetOutcome)

namespace VarEvent

def key : VarEvent → VarKey
  | set call _ => call.key
  | get call _ => call.key

/-- The outcome is that of a map that holds `m`: a set that is accepted and gets through
succeeds, but for the deletion of a variable that is not there, and a get finds what the map
holds. -/
def Right (cfg : AuthVarConfig) (m : VarMap) : VarEvent → Prop
  | set call status =>
    if call.Accepted cfg ∧ call.fault.isNone then
      status = if call.attributes = 0 ∧ m call.key = none then .notFound else .success
    else status.isError = true
  | get call out =>
    if call.Accepted cfg then out = getAnswerWith call.fault (m call.key) call.dataSize call.data
    else out.status.isError = true ∧ out.data = call.data

end VarEvent

/-- A set that succeeds changes the map at its key; nothing else does. -/
def VarMap.apply (m : VarMap) : VarEvent → VarMap
  | .set call status =>
    if status.isError then m else Function.update m call.key call.contents
  | .get _ _ => m

/-- The map. -/
def mapSystem (cfg : AuthVarConfig) : System VarMap VarEvent where
  Init _ := True
  Step m event m' := event.Right cfg m ∧ m' = m.apply event

/-! ## The driver -/

/-- The driver on the ideal TA. -/
def driverSystem (cfg : AuthVarConfig) : System (AuthVarState TaStore) VarEvent where
  Init := AuthVarState.Ready
  Step st event st' :=
    match event with
    | .set call status =>
      opteeRuntimeSetVariable cfg (idealTaWith call.fault) call.hook call.args st = (status, st')
    | .get call out =>
      opteeRuntimeGetVariable cfg (idealTaWith call.fault) call.args st = (out, st')

/-- The store of the TA as a map. -/
def storeView (store : TaStore) : VarMap := fun key => (store key.ta).map Variable.contents

/-- The name is not one the tests reach the session id by. -/
def VarEvent.NotTestHook (cfg : AuthVarConfig) : VarEvent → Prop
  | .set call _ => isTestHook cfg call.key.name call.key.guid call.dataSize = false
  | .get call _ => isTestHook cfg call.key.name call.key.guid call.dataSize = false

/-- The sizes of the request fit in 32 bits. -/
def VarEvent.Fits : VarEvent → Prop
  | .set call _ => SetParam.sizeof + call.key.name.strSize + call.dataSize < 2 ^ 32
  | .get call _ => GetParam.sizeof + call.key.name.strSize < 2 ^ 32 ∧
      GetResult.sizeof + call.dataSize < 2 ^ 32

section Steps

variable {cfg : AuthVarConfig} {st st' : AuthVarState TaStore} {status : EfiStatus}

/-- A set that is turned down is an error and changes nothing. -/
lemma set_refused (hready : st.Ready) {call : SetCall}
    (hhook : isTestHook cfg call.key.name call.key.guid call.dataSize = false)
    (hfits : SetParam.sizeof + call.key.name.strSize + call.dataSize < 2 ^ 32)
    (h : ¬ call.Accepted cfg) {ta : Ta TaStore} :
    ∃ status : EfiStatus, status.isError = true ∧
      opteeRuntimeSetVariable cfg ta call.hook call.args st = (status, st) := by
  by_cases hname : call.key.name.chars = []
  · refine ⟨.invalidParameter, rfl, ?_⟩
    simp only [opteeRuntimeSetVariable, SetCall.args, hready.boot, hname, if_true,
      Bool.false_eq_true, if_false]
  by_cases hdata : call.dataSize = 0 ∨ call.data.isSome
  · -- the size is over the buffer's
    have hbits : 2 ^ 32 ≤ 2 ^ cfg.arch.uintnBits :=
      Nat.pow_le_pow_right (by decide) (by cases cfg.arch <;> decide)
    have hsize : cfg.memSize < SetParam.sizeof + call.key.name.strSize + call.dataSize := by
      by_contra hle
      exact h ⟨hname, hdata, Nat.not_lt.mp hle⟩
    have huintn : cfg.arch.uintn (SetParam.sizeof + call.key.name.strSize + call.dataSize) =
        SetParam.sizeof + call.key.name.strSize + call.dataSize := Arch.uintn_of_lt (by omega)
    refine ⟨.badBufferSize, rfl, ?_⟩
    rw [SetCall.args, set_of_ready hready hname hdata hhook]
    simp only [setChecked, huintn, hsize, if_true, ite_self]
  · obtain ⟨hne, hsome⟩ := not_or.mp hdata
    have hnull : call.dataSize ≠ 0 ∧ call.data.isNone = true := ⟨hne, by simpa using hsome⟩
    refine ⟨.invalidParameter, rfl, ?_⟩
    simp only [opteeRuntimeSetVariable, SetCall.args, hready.boot, hname, if_pos hnull,
      Bool.false_eq_true, if_false]

/-- A get that is turned down is an error and changes nothing. -/
lemma get_refused (hready : st.Ready) {call : GetCall}
    (hhook : isTestHook cfg call.key.name call.key.guid call.dataSize = false)
    (hname : GetParam.sizeof + call.key.name.strSize < 2 ^ 32)
    (hsize : GetResult.sizeof + call.dataSize < 2 ^ 32) (h : ¬ call.Accepted cfg) :
    ∃ status : EfiStatus, status.isError = true ∧
      (opteeRuntimeGetVariable cfg (idealTaWith call.fault) call.args st).1 =
        call.args.exit status := by
  by_cases hdata : call.dataSize = 0 ∨ call.data.isSome
  · refine ⟨.badBufferSize, rfl, ?_⟩
    rw [GetCall.args, get_of_ready hready hdata hhook, getChecked_idealTaWith hname hsize,
      if_pos ?_]
    by_contra hfit
    obtain ⟨h₁, h₂⟩ := not_or.mp hfit
    exact h ⟨hdata, Nat.not_lt.mp h₁, Nat.not_lt.mp h₂⟩
  · obtain ⟨hne, hsome⟩ := not_or.mp hdata
    have hnull : call.dataSize ≠ 0 ∧ call.data.isNone = true := ⟨hne, by simpa using hsome⟩
    refine ⟨.invalidParameter, rfl, ?_⟩
    simp only [opteeRuntimeGetVariable, GetCall.args, hready.boot, Bool.false_eq_true, if_false]
    exact congrArg Prod.fst (if_pos hnull)

/-- A get leaves the store and a ready driver as they are. -/
lemma get_keeps (hready : st.Ready) {call : GetCall} :
    (opteeRuntimeGetVariable cfg (idealTaWith call.fault) call.args st).2.Ready ∧
      (opteeRuntimeGetVariable cfg (idealTaWith call.fault) call.args st).2.ta = st.ta := by
  obtain ⟨hta, hbuffers, hboot, hsession, -, -⟩ :=
    @frame_get _ cfg _ st (keepsOnGet_idealTaWith call.fault) call.args
  exact ⟨⟨hboot.trans hready.boot, hsession.trans hready.session,
    hbuffers.trans hready.buffers⟩, hta⟩

/-- A set that passes the checks leaves a ready driver ready. -/
lemma setChecked_ready (hready : st.Ready) {ta : Ta TaStore} {hook : HookEnv TaStore}
    (hhook : KeepsOnGet hook.ta) {args : SetArgs} {name : Char16String} {guid : EfiGuid} :
    (setChecked cfg ta hook args name guid st).2.Ready := by
  obtain ⟨hboot, hsession, hbuffers⟩ := hready
  have hhooked : ∀ st' : AuthVarState TaStore, st'.Ready →
      (secureBootHook cfg hook name guid st').Ready := by
    intro st' hready'
    obtain ⟨-, hbuffers', hboot', hsession', -, -⟩ :=
      @frame_secureBootHook _ cfg st' hook hhook name guid
    exact ⟨hboot'.trans hready'.boot, hsession'.trans hready'.session,
      hbuffers'.trans hready'.buffers⟩
  simp only [setChecked]
  split
  · exact ⟨hboot, hsession, hbuffers⟩
  split
  · exact ⟨hboot, hsession, hbuffers⟩
  · have hinvoke : ∀ size, (opteeRuntimeVariableInvokeCommand ta .vsSetOp size 4
        { st with
          param := encodeSet cfg args name guid st.param
          result := st.result.fill 0 cfg.memSize 0 }).2.2.Ready :=
      fun _ => ⟨hboot, hsession, hbuffers⟩
    split
    · exact hinvoke _
    · exact hhooked _ (hinvoke _)

/-- A set that is accepted answers and stores as the TA does. -/
lemma set_accepted (hready : st.Ready) {call : SetCall}
    (hhook : isTestHook cfg call.key.name call.key.guid call.dataSize = false)
    (hfits : SetParam.sizeof + call.key.name.strSize + call.dataSize < 2 ^ 32)
    (h : call.Accepted cfg)
    (hstep : opteeRuntimeSetVariable cfg (idealTaWith call.fault) call.hook call.args st =
      (status, st')) :
    status = (setAnswer call.fault st.ta call.key.ta call.attributes call.args.bytes).1 ∧
      st'.ta = (setAnswer call.fault st.ta call.key.ta call.attributes call.args.bytes).2 ∧
      st'.Ready := by
  obtain ⟨hname, hdata, hsize⟩ := h
  have hkeeps : KeepsOnGet call.hook.ta := keepsOnGet_idealTaWith call.hookFault
  rw [SetCall.args, set_of_ready hready hname hdata hhook] at hstep
  obtain ⟨hstatus, hta⟩ := @setChecked_idealTaWith cfg call.fault call.key.name call.key.guid st
    call.hook hkeeps call.args hfits hsize
  have hready' := @setChecked_ready cfg st hready (idealTaWith call.fault) call.hook hkeeps
    call.args call.key.name call.key.guid
  rw [SetCall.args, hstep] at hstatus hta hready'
  exact ⟨hstatus, hta, hready'⟩

/-! ## Matching the map -/

/-- The driver holds what the map says, for the variables in `keys`. -/
structure Holds (keys : Set VarKey) (st : AuthVarState TaStore) (m : VarMap) : Prop where
  ready : st.Ready
  agrees : ∀ key ∈ keys, m key = storeView st.ta key

/-- Changing the store at the key of a variable changes that variable alone, among those the
TA can tell apart. -/
lemma storeView_update {keys : Set VarKey}
    (hkeys : ∀ key ∈ keys, ∀ key' ∈ keys, key.ta = key'.ta → key = key') {m : VarMap}
    {store : TaStore} (hm : ∀ key ∈ keys, m key = storeView store key) {key : VarKey}
    (hkey : key ∈ keys) (found : Option Variable) :
    ∀ key' ∈ keys, Function.update m key (found.map Variable.contents) key' =
      storeView (Function.update store key.ta found) key' := by
  intro key' hkey'
  by_cases heq : key' = key
  · rw [heq, Function.update_self, storeView, Function.update_self]
  · have hta : key'.ta ≠ key.ta := fun h => heq (hkeys key' hkey' key hkey h)
    rw [Function.update_of_ne heq, storeView, Function.update_of_ne hta]
    exact hm key' hkey'

variable {keys : Set VarKey} {m : VarMap}

/-- A set is matched by the map. -/
lemma Holds.set (hkeys : ∀ key ∈ keys, ∀ key' ∈ keys, key.ta = key'.ta → key = key')
    (h : Holds keys st m) {call : SetCall} (hkey : call.key ∈ keys)
    (hhook : isTestHook cfg call.key.name call.key.guid call.dataSize = false)
    (hfits : SetParam.sizeof + call.key.name.strSize + call.dataSize < 2 ^ 32)
    (hstep : opteeRuntimeSetVariable cfg (idealTaWith call.fault) call.hook call.args st =
      (status, st')) :
    (VarEvent.set call status).Right cfg m ∧ Holds keys st' (m.apply (.set call status)) := by
  by_cases haccepted : call.Accepted cfg
  · obtain ⟨rfl, hta, hready⟩ := set_accepted h.ready hhook hfits haccepted hstep
    have hm := h.agrees call.key hkey
    cases hfault : call.fault with
    | some fault =>
        have herror := fault.status.1
        rw [hfault] at hta
        simp only [VarEvent.Right, VarMap.apply, hfault, setAnswer, herror]
        exact ⟨by simp, hready, fun key hkey' => by rw [hta]; exact h.agrees key hkey'⟩
    | none =>
        rw [hfault] at hta
        have hbound : GetResult.sizeof + call.args.bytes.length < 2 ^ 32 := by
          rw [SetArgs.bytes, ByteStore.length_read]
          simp only [SetParam.sizeof, GetResult.sizeof, SetCall.args] at hfits ⊢
          omega
        have hview : m call.key = storeView st.ta call.key := hm
        have hnoerror : (statusOfTeec teecSuccess).isError = false := by decide
        have hnotfound : (statusOfTeec teecErrorItemNotFound).isError = true := by decide
        simp only [VarEvent.Right, haccepted, hfault, Option.isNone_none, and_self, if_true,
          VarMap.apply, SetCall.contents, hview]
        simp only [setAnswer, storeSet, hbound, dif_pos] at hta ⊢
        by_cases hattr : call.attributes = 0
        · -- a deletion: of what the map holds, or of nothing
          cases hfound : st.ta call.key.ta with
          | none =>
              simp only [hattr, hfound, if_true, storeView, Option.map_none, and_self,
                hnotfound] at hta ⊢
              exact ⟨by decide, hready, fun key hkey' => by rw [hta]; exact h.agrees key hkey'⟩
          | some v =>
              simp only [hattr, hfound, if_true, storeView, Option.map_some, reduceCtorEq,
                and_false, if_false, hnoerror, Bool.false_eq_true] at hta ⊢
              refine ⟨by decide, hready, ?_⟩
              rw [hta]
              exact storeView_update hkeys h.agrees hkey none
        · simp only [hattr, if_false, false_and, hnoerror, Bool.false_eq_true] at hta ⊢
          refine ⟨by decide, hready, ?_⟩
          rw [hta]
          exact storeView_update hkeys h.agrees hkey (some ⟨call.attributes, call.args.bytes, hbound⟩)
  · obtain ⟨status', herror, heq⟩ := set_refused h.ready hhook hfits haccepted
    rw [heq] at hstep
    obtain ⟨rfl, rfl⟩ := Prod.mk.inj hstep
    simp only [VarEvent.Right, VarMap.apply, haccepted, false_and, if_false, herror, if_true]
    exact ⟨trivial, h⟩

/-- A get is matched by the map. -/
lemma Holds.get (h : Holds keys st m) {call : GetCall} {out : GetOutcome}
    (hkey : call.key ∈ keys)
    (hhook : isTestHook cfg call.key.name call.key.guid call.dataSize = false)
    (hname : GetParam.sizeof + call.key.name.strSize < 2 ^ 32)
    (hsize : GetResult.sizeof + call.dataSize < 2 ^ 32)
    (hstep : opteeRuntimeGetVariable cfg (idealTaWith call.fault) call.args st = (out, st')) :
    (VarEvent.get call out).Right cfg m ∧ Holds keys st' (m.apply (.get call out)) := by
  obtain ⟨hready, hta⟩ := @get_keeps cfg st h.ready call
  rw [hstep] at hready hta
  refine ⟨?_, hready, fun key hkey' => by rw [hta]; exact h.agrees key hkey'⟩
  by_cases haccepted : call.Accepted cfg
  · obtain ⟨hdata, hn, hs⟩ := haccepted
    have hout := @getChecked_idealTaWith cfg call.fault call.key.name call.key.guid
      call.dataSize st call.args hname hsize
    rw [GetCall.args, ← get_of_ready h.ready hdata hhook, ← GetCall.args, hstep,
      if_neg (not_or.mpr ⟨Nat.not_lt.mpr hn, Nat.not_lt.mpr hs⟩)] at hout
    rw [VarEvent.Right, if_pos ⟨hdata, hn, hs⟩, h.agrees call.key hkey]
    exact hout
  · obtain ⟨status, herror, heq⟩ := get_refused h.ready hhook hname hsize haccepted
    rw [hstep] at heq
    have hout : out = call.args.exit status := heq
    rw [VarEvent.Right, if_neg haccepted, hout]
    exact ⟨herror, rfl⟩

/-- Every step of the driver on the variables in `keys` is matched by the map. -/
lemma Holds.step (hkeys : ∀ key ∈ keys, ∀ key' ∈ keys, key.ta = key'.ta → key = key')
    (h : Holds keys st m) {event : VarEvent} (hkey : event.key ∈ keys)
    (hhook : event.NotTestHook cfg) (hfits : event.Fits)
    (hstep : (driverSystem cfg).Step st event st') :
    ∃ m', (mapSystem cfg).Step m event m' ∧ Holds keys st' m' := by
  cases event with
  | set call status =>
      obtain ⟨hright, hholds⟩ := h.set hkeys hkey hhook hfits hstep
      exact ⟨_, ⟨hright, rfl⟩, hholds⟩
  | get call out =>
      obtain ⟨hright, hholds⟩ := h.get hkey hhook hfits.1 hfits.2 hstep
      exact ⟨_, ⟨hright, rfl⟩, hholds⟩

end Steps

/-- The variables of the events are all different to the TA. -/
def TellsApart (events : List VarEvent) : Prop :=
  ∀ event ∈ events, ∀ event' ∈ events, event.key.ta = event'.key.ta → event.key = event'.key

/-- A run of the driver whose requests fit, on variables that the TA can tell apart, is a run
of the map that the store was at the start, and leaves the store as that map. -/
theorem run_mapSystem_of_run_driverSystem (cfg : AuthVarConfig) (st st' : AuthVarState TaStore)
    (events : List VarEvent) (hready : (driverSystem cfg).Init st)
    (hrun : (driverSystem cfg).Run st events st')
    (hhook : ∀ event ∈ events, event.NotTestHook cfg) (hfits : ∀ event ∈ events, event.Fits)
    (hapart : TellsApart events) :
    ∃ m, (mapSystem cfg).Run (storeView st.ta) events m ∧
      ∀ event ∈ events, m event.key = storeView st'.ta event.key := by
  have hkeys : ∀ key ∈ {key | ∃ event ∈ events, event.key = key},
      ∀ key' ∈ {key | ∃ event ∈ events, event.key = key}, key.ta = key'.ta → key = key' := by
    rintro _ ⟨event, hevent, rfl⟩ _ ⟨event', hevent', rfl⟩ hta
    exact hapart event hevent event' hevent' hta
  have hholds : Holds {key | ∃ event ∈ events, event.key = key} st (storeView st.ta) :=
    ⟨hready, fun _ _ => rfl⟩
  obtain ⟨m, hmap, hm⟩ := hrun.simulation
    (C := fun event => event ∈ events ∧ event.NotTestHook cfg ∧ event.Fits)
    (fun s event s' m hR hC hstep =>
      hR.step hkeys ⟨event, hC.1, rfl⟩ hC.2.1 hC.2.2 hstep)
    (fun event hevent => ⟨hevent, hhook event hevent, hfits event hevent⟩) hholds
  exact ⟨m, hmap, fun event hevent => hm.agrees _ ⟨event, hevent, rfl⟩⟩

/-! ## Long names -/

/-- A configuration with 128 KiB for a variable. -/
def largeConfig : AuthVarConfig := ⟨.aarch64, 0x20000, by decide⟩

/-- The driver as `TaOpenSession` leaves it, over an empty store. -/
def emptyDriver : AuthVarState TaStore where
  ta _ := none
  param _ := 0
  result _ := 0
  buffersAllocated := true
  atRuntime := false
  mTeecSessionOpened := true
  sessionId := 0
  variableArchInstalled := false
  measurements := []

lemma emptyDriver_ready : emptyDriver.Ready := ⟨rfl, rfl, rfl⟩

lemma storeView_emptyDriver (key : VarKey) : storeView emptyDriver.ta key = none := rfl

/-- A name of `2 ^ 15 - 1` times one character, `2 ^ 16` bytes with the terminator. -/
def longName (c : UInt16) (hc : c ≠ 0) : Char16String :=
  ⟨List.replicate 32767 c, fun _ h => List.eq_of_mem_replicate h ▸ hc⟩

lemma strSize_longName (c : UInt16) (hc : c ≠ 0) : (longName c hc).strSize = 65536 := by
  rw [Char16String.strSize, longName, List.length_replicate]

/-- To the TA the long names are all empty. -/
lemma taKey_longName (c : UInt16) (hc : c ≠ 0) (guid : EfiGuid) :
    (VarKey.mk (longName c hc) guid).ta = ([], guid.bytes) := by
  rw [VarKey.ta, taKey, strSize_longName]
  rfl

/-- The one-byte variable under a key. -/
def setOne (key : VarKey) : SetCall :=
  ⟨key, 7, 1, some fun _ => 1, none, none, none⟩

lemma length_setOne (key : VarKey) : (setOne key).args.bytes.length = 1 := by
  rw [SetArgs.bytes, ByteStore.length_read]
  rfl

/-- A get with room for one byte. -/
def getOne (key : VarKey) : GetCall := ⟨key, 1, some fun _ => 0, none⟩

/-- A set of the first key and a get of the second, with what the driver makes of them. -/
def setThenGet (cfg : AuthVarConfig) (st : AuthVarState TaStore) (key key' : VarKey) :
    List VarEvent :=
  let set := opteeRuntimeSetVariable cfg idealTa (setOne key).hook (setOne key).args st
  [.set (setOne key) set.1,
    .get (getOne key') (opteeRuntimeGetVariable cfg idealTa (getOne key').args set.2).1]

lemma run_setThenGet (cfg : AuthVarConfig) (st : AuthVarState TaStore) (key key' : VarKey) :
    ∃ st', (driverSystem cfg).Run st (setThenGet cfg st key key') st' :=
  ⟨_, .cons rfl (.cons rfl (.nil _))⟩

/-- `PK` as a variable. -/
def platformKey : VarKey := ⟨efiPlatformKeyName, efiGlobalVariableGuid⟩

theorem run_mapSystem_of_run_driverSystem_platformKey :
    ∃ m, (mapSystem largeConfig).Run (storeView emptyDriver.ta)
      (setThenGet largeConfig emptyDriver platformKey platformKey) m := by
  obtain ⟨st', hrun⟩ := run_setThenGet largeConfig emptyDriver platformKey platformKey
  have hkey : ∀ event ∈ setThenGet largeConfig emptyDriver platformKey platformKey,
      event.key = platformKey := by
    simp [setThenGet, VarEvent.key, setOne, getOne]
  have hhook : ∀ event ∈ setThenGet largeConfig emptyDriver platformKey platformKey,
      event.NotTestHook largeConfig := by
    have h : isTestHook largeConfig efiPlatformKeyName efiGlobalVariableGuid 1 = false := by
      decide
    simp [setThenGet, VarEvent.NotTestHook, setOne, getOne, platformKey, h]
  have hfits : ∀ event ∈ setThenGet largeConfig emptyDriver platformKey platformKey,
      event.Fits := by
    have h : efiPlatformKeyName.strSize = 6 := rfl
    simp [setThenGet, VarEvent.Fits, setOne, getOne, platformKey, h, SetParam.sizeof,
      GetParam.sizeof, GetResult.sizeof]
  obtain ⟨m, hmap, -⟩ := run_mapSystem_of_run_driverSystem largeConfig emptyDriver st' _
    emptyDriver_ready hrun hhook hfits
    fun event h event' h' _ => (hkey event h).trans (hkey event' h').symm
  exact ⟨m, hmap⟩

/-- Two variables with long names. -/
def longKeyA : VarKey := ⟨longName 0x41 (by decide), efiGlobalVariableGuid⟩
def longKeyB : VarKey := ⟨longName 0x42 (by decide), efiGlobalVariableGuid⟩

lemma longKeyB_ne : longKeyB ≠ longKeyA := by
  intro h
  have hhead : longKeyB.name.chars.head? = longKeyA.name.chars.head? := by rw [h]
  have hB : longKeyB.name.chars.head? = some 0x42 := rfl
  have hA : longKeyA.name.chars.head? = some 0x41 := rfl
  rw [hB, hA] at hhead
  exact absurd hhead (by decide)

/-- A key with a long name. -/
structure LongKey (key : VarKey) : Prop where
  chars_ne_nil : key.name.chars ≠ []
  notTestHook : isTestHook largeConfig key.name key.guid 1 = false
  strSize : key.name.strSize = 65536
  ta : key.ta = ([], efiGlobalVariableGuid.bytes)

lemma longKeyA_long : LongKey longKeyA :=
  ⟨List.cons_ne_nil _ _, rfl, strSize_longName 0x41 (by decide), taKey_longName _ _ _⟩

lemma longKeyB_long : LongKey longKeyB :=
  ⟨List.cons_ne_nil _ _, rfl, strSize_longName 0x42 (by decide), taKey_longName _ _ _⟩

lemma memSize_largeConfig : largeConfig.memSize = 131116 := by decide

/-- The driver after setting the variable of a key. -/
def afterSetOne (key : VarKey) : AuthVarState TaStore :=
  (opteeRuntimeSetVariable largeConfig idealTa (setOne key).hook (setOne key).args
    emptyDriver).2

/-- A variable with a long name can be set. -/
lemma afterSetOne_holds {key : VarKey} (h : LongKey key) : (afterSetOne key).Ready ∧
    storeView (afterSetOne key).ta key = some (7, (setOne key).args.bytes) := by
  have haccepted : (setOne key).Accepted largeConfig := by
    refine ⟨h.chars_ne_nil, .inr rfl, ?_⟩
    rw [memSize_largeConfig, show (setOne key).key = key from rfl, h.strSize]
    show SetParam.sizeof + 65536 + 1 ≤ 131116
    decide
  have hfits : SetParam.sizeof + (setOne key).key.name.strSize + (setOne key).dataSize < 2 ^ 32 := by
    rw [show (setOne key).key = key from rfl, h.strSize]
    show SetParam.sizeof + 65536 + 1 < 2 ^ 32
    decide
  have hholds : Holds {key} emptyDriver (storeView emptyDriver.ta) :=
    ⟨emptyDriver_ready, fun _ _ => rfl⟩
  obtain ⟨status, hstep⟩ : ∃ status, opteeRuntimeSetVariable largeConfig
      (idealTaWith (setOne key).fault) (setOne key).hook (setOne key).args emptyDriver =
        (status, afterSetOne key) := ⟨_, rfl⟩
  obtain ⟨hright, hready, hagrees⟩ := hholds.set (by rintro _ rfl _ rfl _; rfl)
    (Set.mem_singleton key) h.notTestHook hfits hstep
  have hstatus : status = .success := by
    rw [VarEvent.Right, if_pos ⟨haccepted, rfl⟩] at hright
    exact hright
  refine ⟨hready, (hagrees key rfl).symm.trans ?_⟩
  rw [VarMap.apply, hstatus]
  exact Function.update_self key _ _

/-- A variable with a long name that the store has is found. -/
lemma get_long {key : VarKey} (h : LongKey key) {st : AuthVarState TaStore} (hready : st.Ready)
    {bytes : List UInt8} (hfound : storeView st.ta key = some (7, bytes))
    (hlen : bytes.length ≤ 1) :
    (opteeRuntimeGetVariable largeConfig idealTa (getOne key).args st).1.status = .success := by
  have haccepted : (getOne key).Accepted largeConfig := by
    refine ⟨.inr rfl, ?_, ?_⟩
    · rw [memSize_largeConfig, show (getOne key).key = key from rfl, h.strSize]
      decide
    · rw [memSize_largeConfig]
      show GetResult.sizeof + 1 ≤ 131116
      decide
  have hname : GetParam.sizeof + (getOne key).key.name.strSize < 2 ^ 32 := by
    rw [show (getOne key).key = key from rfl, h.strSize]
    decide
  have hsize : GetResult.sizeof + (getOne key).dataSize < 2 ^ 32 := by
    show GetResult.sizeof + 1 < 2 ^ 32
    decide
  have hholds : Holds {key} st (storeView st.ta) := ⟨hready, fun _ _ => rfl⟩
  obtain ⟨out, st', hstep⟩ : ∃ out st', opteeRuntimeGetVariable largeConfig
      (idealTaWith (getOne key).fault) (getOne key).args st = (out, st') := ⟨_, _, rfl⟩
  obtain ⟨hright, -⟩ := hholds.get (Set.mem_singleton key) h.notTestHook hname hsize hstep
  have hout : out = getAnswer (some (7, bytes)) 1 (some fun _ => 0) := by
    rw [VarEvent.Right, if_pos haccepted, show (getOne key).key = key from rfl, hfound] at hright
    exact hright
  have hanswer : (getAnswer (some (7, bytes)) 1 (some fun _ => 0)).status = .success := by
    rw [getAnswer, if_neg (by omega)]
  exact (congrArg (fun answer => answer.1.status) hstep).trans
    ((congrArg GetOutcome.status hout).trans hanswer)

/-- A get that succeeds is wrong where the map has nothing. -/
lemma not_right_of_success {cfg : AuthVarConfig} {m : VarMap} {call : GetCall}
    {out : GetOutcome} (hm : m call.key = none) (hsuccess : out.status = .success) :
    ¬ (VarEvent.get call out).Right cfg m := by
  intro hright
  rw [VarEvent.Right, hm] at hright
  split at hright
  · have hstatus : (getAnswerWith call.fault none call.dataSize call.data).status ≠ .success := by
      cases call.fault with
      | none => exact fun h => by cases h
      | some fault => exact EfiStatus.ne_success_of_isError fault.status.1
    exact hstatus (hright ▸ hsuccess)
  · exact EfiStatus.ne_success_of_isError hright.1 hsuccess

/-- Setting one variable and finding another that was not there is no run of the map. -/
lemma not_run_setThenGet {cfg : AuthVarConfig} {st : AuthVarState TaStore} {key key' : VarKey}
    (hne : key' ≠ key) (hnone : storeView st.ta key' = none)
    (hsuccess : (opteeRuntimeGetVariable cfg idealTa (getOne key').args
      (opteeRuntimeSetVariable cfg idealTa (setOne key).hook (setOne key).args st).2).1.status =
        .success) :
    ¬ ∃ m, (mapSystem cfg).Run (storeView st.ta) (setThenGet cfg st key key') m := by
  rintro ⟨m, hrun⟩
  cases hrun with
  | @cons _ m₁ _ _ _ hset hrun =>
    cases hrun with
    | cons hget hrun =>
      have hm₁ : m₁ key' = none := by
        have hstep : m₁ = VarMap.apply _ _ := hset.2
        rw [hstep, VarMap.apply]
        split
        · exact hnone
        · rw [show (setOne key).key = key from rfl, Function.update_of_ne hne]
          exact hnone
      exact not_right_of_success hm₁ hsuccess hget.1

/-- The variable of another long name is found behind the one that was set. -/
lemma not_run_longKeys {key key' : VarKey} (h : LongKey key) (h' : LongKey key')
    (hne : key' ≠ key) :
    ¬ ∃ m, (mapSystem largeConfig).Run (storeView emptyDriver.ta)
      (setThenGet largeConfig emptyDriver key key') m := by
  obtain ⟨hready, hfound⟩ := afterSetOne_holds h
  have hfound' : storeView (afterSetOne key).ta key' = some (7, (setOne key).args.bytes) := by
    rw [storeView, h'.ta, ← h.ta]
    exact hfound
  have hget := get_long h' hready hfound' (length_setOne key).le
  exact not_run_setThenGet hne (storeView_emptyDriver key') hget

/-- A get of a variable that was never set succeeds: its long name is another's to the TA. -/
theorem not_run_mapSystem_longNames :
    (∃ st, (driverSystem largeConfig).Run emptyDriver
      (setThenGet largeConfig emptyDriver longKeyA longKeyB) st) ∧
    ¬ ∃ m, (mapSystem largeConfig).Run (storeView emptyDriver.ta)
      (setThenGet largeConfig emptyDriver longKeyA longKeyB) m :=
  ⟨run_setThenGet largeConfig emptyDriver longKeyA longKeyB,
    not_run_longKeys longKeyA_long longKeyB_long longKeyB_ne⟩

end AuthVar
end MuPlatform
