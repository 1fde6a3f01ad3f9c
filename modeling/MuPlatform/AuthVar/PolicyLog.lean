import MuPlatform.AuthVar.Lifecycle
import MuPlatform.AuthVar.Replies

/-!
# The log of the secure-boot policy

After a set of a variable of the secure-boot policy the driver reads the variable back and
measures it (`Measurement.c`).  The log is to have one event for each such set that succeeds,
with what the store then has, and no other event.

* `Keeper`: a TA that keeps variables, whatever its sets do to them.
* `PolicySet`: a set, with the failures of the two gets of the hook and of its two allocations.
* `Logged`: that a set leaves the event it is to leave, and `Rereads`, the condition under which
  it does (`logged_iff`).
* `run_policyLog`: every run whose sets all re-read is a run of the log that is to be.

An error of the re-read is measured as a deletion.
-/

namespace MuPlatform
namespace AuthVar

open Optee

/-! ## MeasureVariable -/

namespace VariableDataTree

/-! The offsets of `EFI_VARIABLE_DATA_TREE`, which is packed and ends in a character and a byte
of data. -/

def variableName : ℕ := 0
def unicodeNameLength : ℕ := 16
def variableDataLength : ℕ := 24
def unicodeName : ℕ := 32
def sizeof : ℕ := 35

end VariableDataTree

/-- An event for `TpmMeasureAndLogData`; its data are what is logged and what is hashed. -/
structure TpmEvent where
  pcrIndex : ℕ
  eventType : ℕ
  data : List UInt8
  deriving DecidableEq

/-- `EV_EFI_VARIABLE_DRIVER_CONFIG`. -/
def evEfiVariableDriverConfig : ℕ := 0x80000001

/-- The event that `MeasureVariable` makes, in the zeroed block that `AllocateZeroPool` returns;
none without a block. -/
def measureVariable (arch : Arch) (pool : Option ByteStore) (m : Measurement) :
    Option TpmEvent :=
  let varNameLength := m.name.chars.length
  let varLogSize := arch.uintn (VariableDataTree.sizeof + varNameLength * 2 + m.data.length -
    2 - 1) % 2 ^ 32
  pool.map fun varLog =>
    let varLog := ((((varLog.fill 0 varLogSize 0).write VariableDataTree.variableName
      m.guid.bytes).store64 VariableDataTree.unicodeNameLength
      (UInt64.ofNat varNameLength)).store64 VariableDataTree.variableDataLength
      (UInt64.ofNat m.data.length)).write VariableDataTree.unicodeName
      (Char16String.wideBytes m.name.chars)
    let varLog := varLog.write (VariableDataTree.unicodeName + varNameLength * 2) m.data
    ⟨7, evEfiVariableDriverConfig, varLog.read 0 varLogSize⟩

/-- What an event is to carry: the GUID, the two lengths, the name and the content. -/
def Measurement.eventData (m : Measurement) : List UInt8 :=
  m.guid.bytes ++ (ByteStore.leBytes 8 m.name.chars.length ++
    (ByteStore.leBytes 8 m.data.length ++ (Char16String.wideBytes m.name.chars ++ m.data)))

/-- The event of a measurement. -/
def Measurement.event (m : Measurement) : TpmEvent := ⟨7, evEfiVariableDriverConfig, m.eventData⟩

lemma Measurement.length_eventData (m : Measurement) :
    m.eventData.length = VariableDataTree.unicodeName + m.name.chars.length * 2 +
      m.data.length := by
  simp only [Measurement.eventData, List.length_append, ByteStore.length_leBytes,
    m.guid.length_eq, Char16String.length_wideBytes, VariableDataTree.unicodeName]
  omega

/-- A length as the `UINT64` that is stored. -/
lemma leBytes_uint64 (n : ℕ) :
    ByteStore.leBytes 8 (UInt64.ofNat n).toNat = ByteStore.leBytes 8 n := by
  rw [UInt64.toNat_ofNat']
  exact ByteStore.leBytes_mod 8 n

/-- The fields of an event one after the other are its data. -/
lemma write_eventData (m : Measurement) (varLog : ByteStore) :
    (((((varLog.write VariableDataTree.variableName m.guid.bytes).store64
      VariableDataTree.unicodeNameLength (UInt64.ofNat m.name.chars.length)).store64
      VariableDataTree.variableDataLength (UInt64.ofNat m.data.length)).write
      VariableDataTree.unicodeName (Char16String.wideBytes m.name.chars)).write
      (VariableDataTree.unicodeName + m.name.chars.length * 2) m.data) =
        varLog.write 0 m.eventData := by
  have hname : VariableDataTree.unicodeName + m.name.chars.length * 2 =
      32 + (Char16String.wideBytes m.name.chars).length := by
    rw [Char16String.length_wideBytes, VariableDataTree.unicodeName]
    omega
  simp only [Measurement.eventData, ByteStore.write_append, ByteStore.store64, leBytes_uint64,
    ByteStore.length_leBytes, m.guid.length_eq, hname]
  rfl

/-- An event is the event of the measurement exactly if thirty-two bits count its size. -/
lemma measureVariable_eq_iff {arch : Arch} {pool : Option ByteStore} {m : Measurement} :
    measureVariable arch pool m = some m.event ↔
      pool.isSome = true ∧ m.eventData.length < 2 ^ 32 := by
  cases pool with
  | none => exact iff_of_false (fun h => by cases h) fun h => by cases h.1
  | some varLog =>
      have hsize : arch.uintn (VariableDataTree.sizeof + m.name.chars.length * 2 +
          m.data.length - 2 - 1) % 2 ^ 32 = m.eventData.length % 2 ^ 32 := by
        rw [Arch.uintn_mod, m.length_eventData, VariableDataTree.sizeof,
          VariableDataTree.unicodeName]
        congr 1
        omega
      have hmeasured : measureVariable arch (some varLog) m = some ⟨7, evEfiVariableDriverConfig,
          ((varLog.fill 0 (m.eventData.length % 2 ^ 32) 0).write 0 m.eventData).read 0
            (m.eventData.length % 2 ^ 32)⟩ := by
        simp only [measureVariable, hsize, write_eventData, Option.map_some]
      rw [hmeasured]
      constructor
      · intro h
        have hdata := congrArg List.length
          (congrArg TpmEvent.data (Option.some.inj h) : _ = m.eventData)
        rw [ByteStore.length_read] at hdata
        exact ⟨rfl, hdata ▸ Nat.mod_lt _ (by decide)⟩
      · rintro ⟨-, hlt⟩
        rw [Nat.mod_eq_of_lt hlt, ByteStore.read_write_same, Measurement.event]

/-- One measurement leaves its event exactly if the event can be made. -/
lemma filterMap_measureVariable {arch : Arch} {pool : Option ByteStore} {m : Measurement} :
    [m].filterMap (measureVariable arch pool) = [m.event] ↔
      pool.isSome = true ∧ m.eventData.length < 2 ^ 32 := by
  rw [← @measureVariable_eq_iff arch]
  cases h : measureVariable arch pool m with
  | none => simp [h]
  | some event => simp [h]

/-! ## A store behind the TA -/

/-- A TA that keeps variables.  A get answers from what it holds, and no variable is without
data: a set to no data deletes it. -/
structure Keeper (σ : Type*) where
  ta : Ta σ
  lookup : σ → TaKey → Option Variable
  get_eq : ∀ req s, req.command = .vsGetOp →
    ta req s = (storeGet (lookup s req.getKey) req.resultSize, s)
  data_ne_nil : ∀ s key v, lookup s key = some v → v.data ≠ []

/-- What is held under a name and a GUID. -/
def Keeper.held {σ : Type*} (keeper : Keeper σ) (s : σ) (name : Char16String)
    (guid : EfiGuid) : Option Variable :=
  keeper.lookup s (name.bytes, guid.bytes)

/-- The content to measure: none once the variable is deleted. -/
def contentOf (found : Option Variable) : List UInt8 := found.elim [] Variable.data

lemma Keeper.contentOf_eq_nil_iff {σ : Type*} (keeper : Keeper σ) {s : σ} {name : Char16String}
    {guid : EfiGuid} :
    contentOf (keeper.held s name guid) = [] ↔ keeper.held s name guid = none := by
  cases hfound : keeper.held s name guid with
  | none => exact iff_of_true rfl rfl
  | some v => exact iff_of_false (keeper.data_ne_nil _ _ v hfound) fun h => by cases h

/-- A get or a set, or its failure on the way. -/
def faulted {σ : Type*} (fault : Option TaFault) (ta : Ta σ) : Ta σ :=
  match fault with
  | none => ta
  | some fault => fun _ s => (⟨fault.code, [], 0⟩, s)

/-- A call of `OpteeRuntimeSetVariable`, with what its hook meets: the failures of the two gets
of `InternalGetVariable`, the block for the variable, and the block for the event. -/
structure PolicySet where
  args : SetArgs
  sizeFault : Option TaFault
  dataFault : Option TaFault
  pool : Option ByteStore
  logPool : Option ByteStore

section Policy

variable {σ : Type*} (cfg : AuthVarConfig) (keeper : Keeper σ)

/-- The hook of a call.  Its first get has room for the header of a reply only. -/
def PolicySet.hook (call : PolicySet) : HookEnv σ where
  ta := fun req => faulted
    (if req.resultSize = GetResult.sizeof then call.sizeFault else call.dataFault) keeper.ta req
  pool := call.pool

def PolicySet.run (call : PolicySet) (st : AuthVarState σ) : EfiStatus × AuthVarState σ :=
  opteeRuntimeSetVariable cfg keeper.ta (call.hook keeper) call.args st

/-- The events of a call: one for each measurement it adds, if `MeasureVariable` gets memory. -/
def PolicySet.events (call : PolicySet) (st : AuthVarState σ) : List TpmEvent :=
  ((call.run cfg keeper st).2.measurements.drop st.measurements.length).filterMap
    (measureVariable cfg.arch call.logPool)

/-- The events that are to be there after a call, from what the store then holds: one for a set
of a variable of the policy that succeeded. -/
def PolicySet.due (call : PolicySet) (status : EfiStatus) (s : σ) : List TpmEvent :=
  match call.args.variableName, call.args.vendorGuid with
  | some name, some guid =>
    if status = .success ∧ isSecureBootPolicyVariable name guid = true then
      [(Measurement.mk name guid (contentOf (keeper.held s name guid))).event]
    else []
  | _, _ => []

/-- What `InternalGetVariable` returns after the invocation of the set. -/
def PolicySet.reread (call : PolicySet) (name : Char16String) (guid : EfiGuid)
    (st : AuthVarState σ) : EfiStatus × List UInt8 × AuthVarState σ :=
  internalGetVariable cfg (call.hook keeper) name guid
    (setInvocation cfg keeper.ta call.args name guid st).2.2

/-- A set leaves the events it is to leave, measures empty data exactly for a variable that no
longer exists, and only because the re-read did not find it. -/
structure PolicySet.Logged (call : PolicySet) (st : AuthVarState σ) : Prop where
  events : call.events cfg keeper st =
    call.due keeper (call.run cfg keeper st).1 (call.run cfg keeper st).2.ta
  empty : ∀ m ∈ (call.run cfg keeper st).2.measurements.drop st.measurements.length,
    m.data = [] ↔ keeper.held (call.run cfg keeper st).2.ta m.name m.guid = none
  told : ∀ m ∈ (call.run cfg keeper st).2.measurements.drop st.measurements.length,
    m.data = [] → (call.reread cfg keeper m.name m.guid st).1 = .notFound

/-- The hook gets what the store holds: its first get does not fail, and if the variable exists,
there is a block for it, the second get does not fail and the reply fits the transport. -/
structure PolicySet.Rereads (call : PolicySet) (found : Option Variable) : Prop where
  size : call.sizeFault = none
  data : ∀ v, found = some v → call.pool.isSome = true ∧ call.dataFault = none ∧
    GetResult.sizeof + v.data.length ≤ cfg.memSize

/-- What the TA answers to the set, and what it keeps then. -/
def PolicySet.answer (call : PolicySet) (st : AuthVarState σ) (name : Char16String)
    (guid : EfiGuid) : TaReply × σ :=
  keeper.ta (setRequest cfg call.args name guid st.param) st.ta

/-- The call sets a variable of the policy: its arguments and sizes pass the checks, and the TA
takes the set. -/
structure PolicySet.Measures (call : PolicySet) (st : AuthVarState σ) (name : Char16String)
    (guid : EfiGuid) : Prop where
  admitted : call.args.Admitted st name guid
  passes : call.args.PassesChecks cfg name
  sets : (call.answer cfg keeper st name guid).1.teecResult = teecSuccess
  policy : isSecureBootPolicyVariable name guid = true

/-- If the call sets a variable of the policy, the hook gets what the store then holds, and
there is a block for the event, whose size is a 32-bit value. -/
def PolicySet.Tells (call : PolicySet) (st : AuthVarState σ) : Prop :=
  ∀ name guid, call.Measures cfg keeper st name guid →
    call.Rereads cfg (keeper.held (call.answer cfg keeper st name guid).2 name guid) ∧
      call.logPool.isSome = true ∧
      (Measurement.mk name guid (contentOf
        (keeper.held (call.answer cfg keeper st name guid).2 name guid))).eventData.length < 2 ^ 32

end Policy

/-! ## Gets of a keeper -/

section Reread

variable {σ : Type*} {cfg : AuthVarConfig} {keeper : Keeper σ} {ta : Ta σ}
  {st : AuthVarState σ} {name : Char16String} {guid : EfiGuid} {n : ℕ}

/-- What the hook of a set needs of the driver to send its gets. -/
structure Readable (cfg : AuthVarConfig) (st : AuthVarState σ) (name : Char16String) : Prop where
  boot : st.atRuntime = false
  session : st.mTeecSessionOpened = true
  buffers : st.buffersAllocated = true
  noHook : name.chars.head? ≠ some 1
  name_lt : name.strSize < 2 ^ 16
  name_le : GetParam.sizeof + name.strSize ≤ cfg.memSize

lemma Readable.keeps {st' : AuthVarState σ} (h : Readable cfg st name) (hkeeps : Keeps st st') :
    Readable cfg st' name :=
  ⟨hkeeps.atRuntime.trans h.boot, hkeeps.session.trans h.session,
    hkeeps.buffersAllocated.trans h.buffers, h.noHook, h.name_lt, h.name_le⟩

lemma Readable.not_isTestHook (h : Readable cfg st name) :
    isTestHook cfg name guid n = false := by
  simp [isTestHook, h.noHook]

lemma Readable.passes (h : Readable cfg st name) (hn : GetResult.sizeof + n ≤ cfg.memSize)
    (hlt : GetResult.sizeof + n < 2 ^ 32) :
    PassesChecks cfg GetResult.sizeof (name.strSize % 2 ^ 32) (n % 2 ^ 32) := by
  have hname := h.name_lt
  have hle := h.name_le
  have hs : name.strSize % 2 ^ 32 = name.strSize := Nat.mod_eq_of_lt (by omega)
  have hn' : n % 2 ^ 32 = n := Nat.mod_eq_of_lt (by omega)
  simp only [GetParam.sizeof, GetResult.sizeof] at hn hlt hle
  rw [PassesChecks, hs, hn']
  simp only [GetParam.sizeof, GetResult.sizeof]
  rw [Nat.mod_eq_of_lt (by omega : 28 + name.strSize < 2 ^ 32), Nat.mod_eq_of_lt hlt]
  omega

lemma getKey_getRequest (hlt : name.strSize < 2 ^ 16) {param : ByteStore} :
    (getRequest cfg name guid n param).getKey = (name.bytes, guid.bytes) := by
  have hs : name.strSize % 2 ^ 32 = name.strSize := Nat.mod_eq_of_lt (by omega)
  have hsize : (GetParam.sizeof + name.strSize) % 2 ^ 32 = GetParam.sizeof + name.strSize :=
    Nat.mod_eq_of_lt (by simp only [GetParam.sizeof]; omega)
  simp only [getRequest, hs, hsize]
  rw [getKey_encodeGet le_rfl, taKey, Nat.mod_eq_of_lt hlt,
    List.take_of_length_le name.length_bytes.le]

/-- The arguments of a get of the hook. -/
lemma Readable.admitted (h : Readable cfg st name) {data : Option ByteStore}
    (hdata : n = 0 ∨ data.isSome = true) :
    (GetArgs.mk (some name) (some guid) (some n) data).Admitted st name guid n := by
  refine ⟨h.boot, rfl, rfl, rfl, ?_⟩
  rintro ⟨hne, hnone⟩
  rcases hdata with hzero | hsome
  · exact hne hzero
  · have hdata' : data.isNone = true := hnone
    simp [Option.isNone_iff_eq_none.mp hdata'] at hsome

lemma Readable.sends (h : Readable cfg st name) {data : Option ByteStore}
    (hdata : n = 0 ∨ data.isSome = true) (hn : GetResult.sizeof + n ≤ cfg.memSize)
    (hlt : GetResult.sizeof + n < 2 ^ 32) :
    (GetArgs.mk (some name) (some guid) (some n) data).Sends cfg st name guid n :=
  ⟨h.admitted hdata, h.not_isTestHook, h.session, h.buffers, h.passes hn hlt⟩

/-- A get whose request the TA answers from `found`. -/
lemma Readable.get_eq (h : Readable cfg st name) {data : Option ByteStore}
    (hdata : n = 0 ∨ data.isSome = true) (hn : GetResult.sizeof + n ≤ cfg.memSize)
    (hlt : GetResult.sizeof + n < 2 ^ 32) {found : Option Variable}
    (hreply : replyToGet cfg ta st name guid n = storeGet found (GetResult.sizeof + n)) :
    (opteeRuntimeGetVariable cfg ta ⟨some name, some guid, some n, data⟩ st).1 =
      getAnswer (found.map Variable.contents) n data := by
  obtain ⟨after, hafter, hget⟩ := @GetArgs.Sends.eq _ cfg ta _ _ _ _ _
    (@Readable.sends _ _ _ _ guid _ h data hdata hn hlt)
  have hn' : n % 2 ^ 32 = n := Nat.mod_eq_of_lt (by omega)
  rw [hreply, hn', Nat.mod_eq_of_lt hlt] at hafter
  rw [hget, hreply, hn']
  exact getReply_storeGet hn hafter

/-- A get whose invocation fails on the way. -/
lemma Readable.get_fault (h : Readable cfg st name) {data : Option ByteStore}
    (hdata : n = 0 ∨ data.isSome = true) (hn : GetResult.sizeof + n ≤ cfg.memSize)
    (hlt : GetResult.sizeof + n < 2 ^ 32) {fault : TaFault}
    (hreply : replyToGet cfg ta st name guid n = ⟨fault.code, [], 0⟩) :
    (opteeRuntimeGetVariable cfg ta ⟨some name, some guid, some n, data⟩ st).1.status =
      statusOfTeec fault.code := by
  obtain ⟨after, -, hget⟩ := @GetArgs.Sends.eq _ cfg ta _ _ _ _ _
    (@Readable.sends _ _ _ _ guid _ h data hdata hn hlt)
  obtain ⟨herror, -, hshort⟩ := fault.status
  have hne := EfiStatus.ne_success_of_isError herror
  rw [hget, hreply]
  simp only [getReply, hshort, hne, if_false, ne_eq, not_false_eq_true, if_true]

/-- A get that does not fit the transport. -/
lemma Readable.get_tooBig (h : Readable cfg st name) {data : Option ByteStore}
    (hdata : n = 0 ∨ data.isSome = true) (hn : ¬ GetResult.sizeof + n ≤ cfg.memSize)
    (hlt : GetResult.sizeof + n < 2 ^ 32) :
    (opteeRuntimeGetVariable cfg ta ⟨some name, some guid, some n, data⟩ st).1.status =
      .badBufferSize := by
  have hadmitted := @Readable.admitted _ _ _ _ guid n h data hdata
  have hn' : n % 2 ^ 32 = n := Nat.mod_eq_of_lt (by omega)
  have hsize : (GetResult.sizeof + n) % 2 ^ 32 = GetResult.sizeof + n := Nat.mod_eq_of_lt hlt
  have hnull := hadmitted.nonNull
  simp only [opteeRuntimeGetVariable, h.boot, hnull, h.not_isTestHook, h.session, h.buffers,
    Bool.false_eq_true, Bool.true_eq_false, if_false, getChecked, hn', hsize]
  split
  · rfl
  · rw [if_pos (.inr (Nat.not_le.mp hn))]
    rfl

/-! ## The re-read -/

/-- The failure that a get of `n` bytes by the hook meets. -/
def PolicySet.fault (call : PolicySet) (n : ℕ) : Option TaFault :=
  if n = 0 then call.sizeFault else call.dataFault

lemma hook_getRequest {call : PolicySet} {param : ByteStore} {s : σ}
    (hsize : GetResult.sizeof + n < 2 ^ 32) :
    (call.hook keeper).ta (getRequest cfg name guid n param) s =
      faulted (call.fault n) keeper.ta (getRequest cfg name guid n param) s := by
  have hresult : (getRequest cfg name guid n param).resultSize = GetResult.sizeof + n := by
    rw [getRequest, Nat.mod_eq_of_lt (by omega : n < 2 ^ 32), Nat.mod_eq_of_lt hsize]
  have hzero : GetResult.sizeof + n = GetResult.sizeof ↔ n = 0 := by omega
  simp only [PolicySet.hook, PolicySet.fault, hresult, hzero]

/-- The reply of a keeper to a get of the hook. -/
lemma replyToGet_hook {call : PolicySet} (hlt : name.strSize < 2 ^ 16)
    (hsize : GetResult.sizeof + n < 2 ^ 32) (hfault : call.fault n = none) :
    replyToGet cfg (call.hook keeper).ta st name guid n =
      storeGet (keeper.held st.ta name guid) (GetResult.sizeof + n) := by
  have hresult : (getRequest cfg name guid n st.param).resultSize = GetResult.sizeof + n := by
    rw [getRequest, Nat.mod_eq_of_lt (by omega : n < 2 ^ 32), Nat.mod_eq_of_lt hsize]
  rw [replyToGet, hook_getRequest hsize, hfault, faulted, keeper.get_eq _ _ rfl,
    getKey_getRequest hlt, hresult]
  rfl

lemma replyToGet_fault {call : PolicySet} (hsize : GetResult.sizeof + n < 2 ^ 32)
    {fault : TaFault} (hfault : call.fault n = some fault) :
    replyToGet cfg (call.hook keeper).ta st name guid n = ⟨fault.code, [], 0⟩ := by
  rw [replyToGet, hook_getRequest hsize, hfault, faulted]

lemma keepsOnGet_hook {call : PolicySet} : KeepsOnGet (call.hook keeper).ta := by
  intro req s hreq
  simp only [PolicySet.hook]
  split
  · cases call.sizeFault with
    | none => rw [faulted, keeper.get_eq req s hreq]
    | some fault => rfl
  · cases call.dataFault with
    | none => rw [faulted, keeper.get_eq req s hreq]
    | some fault => rfl

/-- A get of the hook that fits the transport. -/
lemma Readable.hook_get (h : Readable cfg st name) {call : PolicySet} {data : Option ByteStore}
    (hdata : n = 0 ∨ data.isSome = true) (hn : GetResult.sizeof + n ≤ cfg.memSize)
    (hlt : GetResult.sizeof + n < 2 ^ 32) :
    (call.fault n = none ∧ (opteeRuntimeGetVariable cfg (call.hook keeper).ta
      ⟨some name, some guid, some n, data⟩ st).1 =
        getAnswer ((keeper.held st.ta name guid).map Variable.contents) n data) ∨
    (call.fault n ≠ none ∧
      (opteeRuntimeGetVariable cfg (call.hook keeper).ta
        ⟨some name, some guid, some n, data⟩ st).1.status.isError = true ∧
      (opteeRuntimeGetVariable cfg (call.hook keeper).ta
        ⟨some name, some guid, some n, data⟩ st).1.status ≠ .notFound ∧
      (opteeRuntimeGetVariable cfg (call.hook keeper).ta
        ⟨some name, some guid, some n, data⟩ st).1.status ≠ .bufferTooSmall) := by
  cases hfault : call.fault n with
  | none => exact .inl ⟨rfl, h.get_eq hdata hn hlt (replyToGet_hook h.name_lt hlt hfault)⟩
  | some fault =>
      refine .inr ⟨(fun h => by cases h), ?_⟩
      rw [h.get_fault hdata hn hlt (replyToGet_fault hlt hfault)]
      exact fault.status

lemma Readable.room (h : Readable cfg st name) : GetResult.sizeof + 0 ≤ cfg.memSize := by
  have hle := h.name_le
  simp only [GetParam.sizeof, GetResult.sizeof] at hle ⊢
  omega

/-- The first get of the hook: it keeps the store, and answers from it unless it fails on the
way. -/
lemma Readable.size_get (h : Readable cfg st name) {call : PolicySet} :
    ∃ out st₁, opteeRuntimeGetVariable cfg (call.hook keeper).ta
        ⟨some name, some guid, some 0, none⟩ st = (out, st₁) ∧
      Readable cfg st₁ name ∧
      keeper.held st₁.ta name guid = keeper.held st.ta name guid ∧
      (call.sizeFault = none ∧
          out = getAnswer ((keeper.held st.ta name guid).map Variable.contents) 0 none ∨
        out.status.isError = true ∧ out.status ≠ .notFound ∧ out.status ≠ .bufferTooSmall ∧
          call.sizeFault ≠ none) := by
  have hframe := @frame_get _ cfg (call.hook keeper).ta st keepsOnGet_hook
    ⟨some name, some guid, some 0, none⟩
  have hkeeps := @keeps_get _ cfg (call.hook keeper).ta st ⟨some name, some guid, some 0, none⟩
  have hfirst := @Readable.hook_get _ cfg keeper st name guid 0 h call none (.inl rfl) h.room
    (by decide)
  obtain ⟨out, st₁, hrun⟩ : ∃ out st₁, opteeRuntimeGetVariable cfg (call.hook keeper).ta
    ⟨some name, some guid, some 0, none⟩ st = (out, st₁) := ⟨_, _, rfl⟩
  rw [hrun] at hframe hkeeps hfirst
  refine ⟨out, st₁, hrun, h.keeps hkeeps, by rw [hframe.ta], ?_⟩
  rcases hfirst with hget | ⟨hfault, herror, hfound, hshort⟩
  · exact .inl hget
  · exact .inr ⟨herror, hfound, hshort, hfault⟩

/-- The size of a variable that is held. -/
lemma getAnswer_size {v : Variable} (hdata : v.data ≠ []) :
    getAnswer ((some v).map Variable.contents) 0 none =
      ⟨.bufferTooSmall, some 0, v.data.length, none⟩ := by
  simp only [getAnswer, Option.map_some, Variable.contents, List.length_pos_iff.mpr hdata,
    if_true]

/-- The hook that gets what the store holds measures it, as empty only if it is not there. -/
lemma internalGetVariable_of_rereads (h : Readable cfg st name) {call : PolicySet}
    (hrereads : call.Rereads cfg (keeper.held st.ta name guid)) :
    (if (internalGetVariable cfg (call.hook keeper) name guid st).1.isError then []
      else (internalGetVariable cfg (call.hook keeper) name guid st).2.1) =
        contentOf (keeper.held st.ta name guid) ∧
      (contentOf (keeper.held st.ta name guid) = [] →
        (internalGetVariable cfg (call.hook keeper) name guid st).1 = .notFound) := by
  obtain ⟨hsizeFault, hexists⟩ := hrereads
  obtain ⟨out, st₁, hrun, hreadable, hheld, hget⟩ := @Readable.size_get _ cfg keeper st name guid
    h call
  rcases hget with ⟨-, hget⟩ | ⟨-, -, -, hne⟩
  case inr => exact absurd hsizeFault hne
  simp only [internalGetVariable, hrun]
  cases hfound : keeper.held st.ta name guid with
  | none =>
      rw [hfound] at hget
      subst hget
      exact ⟨rfl, fun _ => rfl⟩
  | some v =>
      obtain ⟨hpool, hdataFault, hfits⟩ := hexists v hfound
      obtain ⟨value, hvalue⟩ := Option.isSome_iff_exists.mp hpool
      have hdata := keeper.data_ne_nil _ _ v hfound
      have hnone : call.fault v.data.length = none := by
        rw [PolicySet.fault, if_neg (List.length_pos_iff.mpr hdata).ne']
        exact hdataFault
      rw [hfound, getAnswer_size hdata] at hget
      rcases @Readable.hook_get _ cfg keeper st₁ name guid v.data.length hreadable call
        (some value) (.inr rfl) hfits v.data_lt with ⟨-, hsecond⟩ | ⟨hne, -⟩
      case inr => exact absurd hnone hne
      have hsecond' : (opteeRuntimeGetVariable cfg (call.hook keeper).ta
          ⟨some name, some guid, some v.data.length, some value⟩ st₁).1 =
            ⟨.success, some v.attributes, v.data.length, some (value.write 0 v.data)⟩ := by
        rw [hsecond, hheld, hfound]
        simp [getAnswer, Variable.contents]
      have hvalue' : (call.hook keeper).pool = some value := hvalue
      simp only [hget, ne_eq, not_true_eq_false, if_false, hvalue', hsecond',
        EfiStatus.isError_success, Bool.false_eq_true, Option.getD_some,
        ByteStore.read_write_same, contentOf, Option.elim_some]
      exact ⟨trivial, fun hempty => absurd hempty hdata⟩

/-- The hook that does not get what the store holds fails, and not because the variable is not
there. -/
lemma internalGetVariable_of_not_rereads (h : Readable cfg st name) {call : PolicySet}
    (hnot : ¬ call.Rereads cfg (keeper.held st.ta name guid)) :
    (internalGetVariable cfg (call.hook keeper) name guid st).1.isError = true ∧
      (internalGetVariable cfg (call.hook keeper) name guid st).1 ≠ .notFound := by
  obtain ⟨out, st₁, hrun, hreadable, -, hget⟩ := @Readable.size_get _ cfg keeper st name guid
    h call
  simp only [internalGetVariable, hrun]
  rcases hget with ⟨hsizeFault, hget⟩ | ⟨herror, hfound, hshort, -⟩
  case inr =>
    rw [if_pos hshort]
    exact ⟨herror, hfound⟩
  cases hfound : keeper.held st.ta name guid with
  | none =>
      rw [hfound] at hnot
      exact absurd ⟨hsizeFault, fun v hv => by cases hv⟩ hnot
  | some v =>
      have hdata := keeper.data_ne_nil _ _ v hfound
      rw [hfound, getAnswer_size hdata] at hget
      subst hget
      simp only [ne_eq, not_true_eq_false, if_false]
      cases hpool : call.pool with
      | none =>
          have hnone : (call.hook keeper).pool = none := hpool
          simp only [hnone]
          exact ⟨rfl, by decide⟩
      | some value =>
          have hvalue : (call.hook keeper).pool = some value := hpool
          simp only [hvalue]
          by_cases hfits : GetResult.sizeof + v.data.length ≤ cfg.memSize
          · rcases @Readable.hook_get _ cfg keeper st₁ name guid v.data.length hreadable call
              (some value) (.inr rfl) hfits v.data_lt with ⟨hnone, -⟩ | ⟨-, herror, hne, -⟩
            · rw [PolicySet.fault, if_neg (List.length_pos_iff.mpr hdata).ne'] at hnone
              rw [hfound] at hnot
              refine absurd ⟨hsizeFault, fun v' hv' => ?_⟩ hnot
              obtain rfl : v = v' := Option.some.inj hv'
              exact ⟨by rw [hpool]; rfl, hnone, hfits⟩
            · rw [if_pos herror]
              exact ⟨herror, hne⟩
          · have htooBig := @Readable.get_tooBig _ cfg (call.hook keeper).ta st₁ name guid
              v.data.length hreadable (some value) (.inr rfl) hfits v.data_lt
            have herror : EfiStatus.badBufferSize.isError = true := rfl
            rw [htooBig, if_pos herror]
            exact ⟨rfl, fun h => by cases h⟩

end Reread

/-! ## One call -/

section Measurements

variable {σ : Type*} {cfg : AuthVarConfig} {ta : Ta σ} {st : AuthVarState σ}

/-- Gets measure nothing. -/
lemma get_measurements {args : GetArgs} :
    (opteeRuntimeGetVariable cfg ta args st).2.measurements = st.measurements := by
  unfold opteeRuntimeGetVariable
  split
  · rfl
  split
  · split
    · rfl
    split
    · rfl
    split
    · rfl
    split
    · rfl
    · simp only [getChecked]
      split
      · rfl
      split
      · rfl
      · rw [getReply_snd]
        rfl
  · rfl

lemma internalGetVariable_measurements {hook : HookEnv σ} {name : Char16String}
    {guid : EfiGuid} :
    (internalGetVariable cfg hook name guid st).2.2.measurements = st.measurements := by
  have hsize := @get_measurements _ cfg hook.ta st ⟨some name, some guid, some 0, none⟩
  simp only [internalGetVariable]
  split
  · exact hsize
  split
  · exact hsize
  · split
    · exact get_measurements.trans hsize
    · exact get_measurements.trans hsize

end Measurements

/-- The names of the policy are short, and none is a name of the tests. -/
lemma policy_name {name : Char16String} {guid : EfiGuid}
    (h : isSecureBootPolicyVariable name guid = true) :
    name.chars.head? ≠ some 1 ∧ name.strSize ≤ 22 := by
  have hmem : (name, guid) ∈ mVariableType := List.contains_iff_mem.mp h
  simp only [mVariableType, List.mem_cons, List.not_mem_nil, or_false, Prod.mk.injEq] at hmem
  rcases hmem with ⟨rfl, -⟩ | ⟨rfl, -⟩ | ⟨rfl, -⟩ | ⟨rfl, -⟩ | ⟨rfl, -⟩ <;> decide

section Call

variable {σ : Type*} {cfg : AuthVarConfig} {keeper : Keeper σ} {call : PolicySet}
  {st : AuthVarState σ} {name : Char16String} {guid : EfiGuid}

lemma statusOfTeec_of_not_error {result : TeecResult}
    (h : (statusOfTeec result).isError = false) : statusOfTeec result = .success := by
  obtain ⟨-, hs⟩ | ⟨-, hs⟩ | ⟨-, hs⟩ | ⟨herror, -⟩ := statusOfTeec_cases result
  · exact hs
  · rw [hs] at h
    cases h
  · rw [hs] at h
    cases h
  · rw [herror] at h
    cases h

/-- A call that sets a variable of the policy measures it once. -/
lemma PolicySet.Measures.run_eq (h : call.Measures cfg keeper st name guid)
    (harch : st.variableArchInstalled = true) :
    (call.run cfg keeper st).1 = .success ∧
      (call.run cfg keeper st).2.ta = (call.answer cfg keeper st name guid).2 ∧
      (call.run cfg keeper st).2.measurements = st.measurements ++ [⟨name, guid,
        if (call.reread cfg keeper name guid st).1.isError then []
          else (call.reread cfg keeper name guid st).2.1⟩] := by
  obtain ⟨hname, -⟩ := policy_name h.policy
  have hhook : isTestHook cfg name guid call.args.dataSize = false := by
    simp [isTestHook, hname]
  have hset := @setVariable_eq _ cfg keeper.ta (call.hook keeper) _ _ _ _ h.admitted hhook
    h.passes
  have harch' : (setInvocation cfg keeper.ta call.args name guid st).2.2.variableArchInstalled =
      true := harch
  have hstatus : (setInvocation cfg keeper.ta call.args name guid st).1 = .success :=
    statusOfTeec_eq_success.mpr h.sets
  rw [PolicySet.run, hset, hstatus, EfiStatus.isError_success,
    if_neg Bool.false_ne_true]
  refine ⟨rfl, ?_, ?_⟩
  · exact (frame_secureBootHook keepsOnGet_hook).ta
  · simp only [secureBootHook, harch', h.policy, Bool.true_eq_false, if_false]
    rw [internalGetVariable_measurements]
    rfl

/-- Every other call measures nothing. -/
lemma PolicySet.run_of_not_measures (h : ∀ name guid, ¬ call.Measures cfg keeper st name guid) :
    (call.run cfg keeper st).2.measurements = st.measurements ∧
      ∀ name guid, call.args.variableName = some name → call.args.vendorGuid = some guid →
        (call.run cfg keeper st).1 = .success →
          isSecureBootPolicyVariable name guid = false := by
  by_cases hadmitted : ∃ name guid, call.args.Admitted st name guid
  case neg =>
    obtain ⟨status, herror, hrun⟩ := @setVariable_refused _ cfg keeper.ta (call.hook keeper)
      call.args st fun name guid hadm => hadmitted ⟨name, guid, hadm⟩
    rw [PolicySet.run, hrun]
    exact ⟨rfl, fun _ _ _ _ hsuccess => absurd hsuccess (EfiStatus.ne_success_of_isError herror)⟩
  obtain ⟨name, guid, hadm⟩ := hadmitted
  have hothers : ∀ {status : EfiStatus},
      (status = .success → isSecureBootPolicyVariable name guid = false) →
      ∀ name' guid', call.args.variableName = some name' → call.args.vendorGuid = some guid' →
        status = .success → isSecureBootPolicyVariable name' guid' = false := by
    intro status hpolicy name' guid' hname' hguid' hsuccess
    obtain rfl : name = name' := Option.some.inj (hadm.variableName_eq.symm.trans hname')
    obtain rfl : guid = guid' := Option.some.inj (hadm.vendorGuid_eq.symm.trans hguid')
    exact hpolicy hsuccess
  cases hhook : isTestHook cfg name guid call.args.dataSize with
  | true =>
      rw [PolicySet.run, setVariable_testHook hadm hhook]
      refine ⟨rfl, hothers fun _ => ?_⟩
      by_contra hpolicy
      obtain ⟨hname, -⟩ := policy_name (Bool.not_eq_false _ ▸ hpolicy)
      simp [isTestHook, hname] at hhook
  | false =>
      by_cases hpass : call.args.PassesChecks cfg name
      · rw [PolicySet.run, setVariable_eq hadm hhook hpass]
        split
        next herror =>
          exact ⟨rfl, hothers fun hsuccess =>
            absurd hsuccess (EfiStatus.ne_success_of_isError herror)⟩
        next hok =>
          have hpolicy : isSecureBootPolicyVariable name guid = false := by
            by_contra hpolicy
            have hok' : (setInvocation cfg keeper.ta call.args name guid st).1.isError = false := by
              simpa using hok
            have hsets : (call.answer cfg keeper st name guid).1.teecResult = teecSuccess :=
              statusOfTeec_eq_success.mp (statusOfTeec_of_not_error hok')
            exact h name guid ⟨hadm, hpass, hsets, by simpa using hpolicy⟩
          refine ⟨?_, hothers fun _ => hpolicy⟩
          simp only [secureBootHook, hpolicy, if_true]
          split
          · rfl
          · rfl
      · rw [PolicySet.run, setVariable_unsent hadm hhook hpass]
        exact ⟨rfl, hothers fun hsuccess => by cases hsuccess⟩

/-- Once a set of the policy has gone out, its hook can send its gets. -/
lemma PolicySet.Measures.readable (h : call.Measures cfg keeper st name guid)
    (hbuffers : st.buffersAllocated = true) :
    Readable cfg (setInvocation cfg keeper.ta call.args name guid st).2.2 name := by
  obtain ⟨hname, hsize⟩ := policy_name h.policy
  refine ⟨h.admitted.boot, h.admitted.session, hbuffers, hname, by omega, ?_⟩
  obtain ⟨hfirst, hsecond⟩ := h.passes
  have hbits : 2 ^ 32 ≤ 2 ^ cfg.arch.uintnBits :=
    Nat.pow_le_pow_right (by decide) (by cases cfg.arch <;> decide)
  simp only [SetParam.sizeof] at hsecond
  simp only [GetParam.sizeof]
  by_cases hlt : 44 + name.strSize + call.args.dataSize < 2 ^ cfg.arch.uintnBits
  · rw [Arch.uintn_of_lt hlt] at hsecond
    omega
  · -- the sum wraps only for data that alone need a large transport
    omega

/-- What is to be there after a set of the policy. -/
lemma PolicySet.Measures.due_eq (h : call.Measures cfg keeper st name guid) {s : σ} :
    call.due keeper .success s =
      [(Measurement.mk name guid (contentOf (keeper.held s name guid))).event] := by
  simp only [PolicySet.due, h.admitted.variableName_eq, h.admitted.vendorGuid_eq, h.policy,
    and_self, if_true]

lemma PolicySet.due_eq_nil {status : EfiStatus} {s : σ}
    (h : ∀ name guid, call.args.variableName = some name → call.args.vendorGuid = some guid →
      status = .success → isSecureBootPolicyVariable name guid = false) :
    call.due keeper status s = [] := by
  unfold PolicySet.due
  split
  next name guid hname hguid =>
    refine if_neg fun hboth => ?_
    have hpolicy := h name guid hname hguid hboth.1
    rw [hboth.2] at hpolicy
    cases hpolicy
  · rfl

/-- The condition, for a call that sets a variable of the policy. -/
lemma PolicySet.Measures.tells_iff (h : call.Measures cfg keeper st name guid)
    (harch : st.variableArchInstalled = true) :
    call.Tells cfg keeper st ↔
      call.Rereads cfg (keeper.held (call.run cfg keeper st).2.ta name guid) ∧
        call.logPool.isSome = true ∧ (Measurement.mk name guid (contentOf (keeper.held
          (call.run cfg keeper st).2.ta name guid))).eventData.length < 2 ^ 32 := by
  rw [(h.run_eq harch).2.1]
  constructor
  · exact fun htells => htells name guid h
  · intro htells name' guid' h'
    obtain rfl : name = name' :=
      Option.some.inj (h.admitted.variableName_eq.symm.trans h'.admitted.variableName_eq)
    obtain rfl : guid = guid' :=
      Option.some.inj (h.admitted.vendorGuid_eq.symm.trans h'.admitted.vendorGuid_eq)
    exact htells

/-- Its one measurement. -/
lemma PolicySet.Measures.drop_eq (h : call.Measures cfg keeper st name guid)
    (harch : st.variableArchInstalled = true) :
    (call.run cfg keeper st).2.measurements.drop st.measurements.length = [⟨name, guid,
      if (call.reread cfg keeper name guid st).1.isError then []
        else (call.reread cfg keeper name guid st).2.1⟩] := by
  rw [(h.run_eq harch).2.2, List.drop_left]

/-- What the hook of such a call measures, if it gets what the store holds. -/
lemma PolicySet.Measures.of_rereads (h : call.Measures cfg keeper st name guid)
    (harch : st.variableArchInstalled = true) (hbuffers : st.buffersAllocated = true)
    (hrereads : call.Rereads cfg (keeper.held (call.run cfg keeper st).2.ta name guid)) :
    (call.run cfg keeper st).2.measurements.drop st.measurements.length =
        [⟨name, guid, contentOf (keeper.held (call.run cfg keeper st).2.ta name guid)⟩] ∧
      (contentOf (keeper.held (call.run cfg keeper st).2.ta name guid) = [] →
        (call.reread cfg keeper name guid st).1 = .notFound) := by
  have hta := (h.run_eq harch).2.1
  rw [hta] at hrereads ⊢
  obtain ⟨hdata, htold⟩ := internalGetVariable_of_rereads (h.readable hbuffers) hrereads
  have hdata' : (if (call.reread cfg keeper name guid st).1.isError then []
      else (call.reread cfg keeper name guid st).2.1) =
        contentOf (keeper.held (call.answer cfg keeper st name guid).2 name guid) := hdata
  refine ⟨?_, htold⟩
  rw [h.drop_eq harch, hdata']

/-- And if it does not. -/
lemma PolicySet.Measures.of_not_rereads (h : call.Measures cfg keeper st name guid)
    (harch : st.variableArchInstalled = true) (hbuffers : st.buffersAllocated = true)
    (hnot : ¬ call.Rereads cfg (keeper.held (call.run cfg keeper st).2.ta name guid)) :
    (call.run cfg keeper st).2.measurements.drop st.measurements.length = [⟨name, guid, []⟩] ∧
      (call.reread cfg keeper name guid st).1 ≠ .notFound := by
  rw [(h.run_eq harch).2.1] at hnot
  have hfails : (call.reread cfg keeper name guid st).1.isError = true ∧
      (call.reread cfg keeper name guid st).1 ≠ .notFound :=
    internalGetVariable_of_not_rereads (h.readable hbuffers) hnot
  refine ⟨?_, hfails.2⟩
  rw [h.drop_eq harch, if_pos hfails.1]

/-- A call leaves what it is to leave exactly if the hook gets what the store holds, and its
event can be made. -/
theorem PolicySet.logged_iff (harch : st.variableArchInstalled = true)
    (hbuffers : st.mTeecSessionOpened = true → st.buffersAllocated = true) :
    call.Logged cfg keeper st ↔ call.Tells cfg keeper st := by
  by_cases hmeasures : ∃ name guid, call.Measures cfg keeper st name guid
  case neg =>
    obtain ⟨hnone, hpolicy⟩ := @PolicySet.run_of_not_measures _ cfg keeper call st
      fun name guid h => hmeasures ⟨name, guid, h⟩
    have hdrop : (call.run cfg keeper st).2.measurements.drop st.measurements.length = [] := by
      rw [hnone, List.drop_length]
    refine iff_of_true ⟨?_, ?_, ?_⟩ fun name guid h => absurd ⟨name, guid, h⟩ hmeasures
    · rw [PolicySet.events, hdrop, PolicySet.due_eq_nil hpolicy]
      rfl
    · rw [hdrop]
      exact fun m hm => absurd hm List.not_mem_nil
    · rw [hdrop]
      exact fun m hm => absurd hm List.not_mem_nil
  obtain ⟨name, guid, h⟩ := hmeasures
  have hbuffers' := hbuffers h.admitted.session
  rw [h.tells_iff harch]
  by_cases hrereads : call.Rereads cfg (keeper.held (call.run cfg keeper st).2.ta name guid)
  · obtain ⟨hdrop, htold⟩ := h.of_rereads harch hbuffers' hrereads
    have hevents : call.events cfg keeper st = call.due keeper (call.run cfg keeper st).1
        (call.run cfg keeper st).2.ta ↔ call.logPool.isSome = true ∧ (Measurement.mk name guid
          (contentOf (keeper.held (call.run cfg keeper st).2.ta name
            guid))).eventData.length < 2 ^ 32 := by
      rw [PolicySet.events, hdrop, (h.run_eq harch).1, h.due_eq, filterMap_measureVariable]
    constructor
    · exact fun hlogged => ⟨hrereads, hevents.mp hlogged.events⟩
    · rintro ⟨-, hmade⟩
      refine ⟨hevents.mpr hmade, fun m hm => ?_, fun m hm hempty => ?_⟩
      · rw [hdrop] at hm
        obtain rfl := List.mem_singleton.mp hm
        exact keeper.contentOf_eq_nil_iff
      · rw [hdrop] at hm
        obtain rfl := List.mem_singleton.mp hm
        exact htold hempty
  · obtain ⟨hdrop, hne⟩ := h.of_not_rereads harch hbuffers' hrereads
    refine iff_of_false (fun hlogged => ?_) fun htells => hrereads htells.1
    have htold := hlogged.told
    rw [hdrop] at htold
    exact hne (htold ⟨name, guid, []⟩ (List.mem_singleton_self _) rfl)

end Call

/-! ## Runs -/

section Runs

variable {σ : Type*}

/-- A call of a run: what it returned, and what the store then had. -/
structure PolicyStep (σ : Type*) where
  call : PolicySet
  status : EfiStatus
  store : σ

/-- The variable architectural protocol is installed, and an open session has its buffers. -/
structure AuthVarState.Published (st : AuthVarState σ) : Prop where
  arch : st.variableArchInstalled = true
  buffers : st.mTeecSessionOpened = true → st.buffersAllocated = true

lemma AuthVarState.Published.keeps {st st' : AuthVarState σ} (h : st.Published)
    (hkeeps : Keeps st st') : st'.Published := by
  refine ⟨hkeeps.variableArchInstalled.trans h.arch, fun hsession => ?_⟩
  rw [hkeeps.session] at hsession
  exact hkeeps.buffersAllocated.trans (h.buffers hsession)

/-- The driver is so from the installation of the protocol on. -/
lemma published_of_reachable {cfg : DriverConfig} {s : Lifecycle σ}
    (h : (lifecycleSystem cfg).Reachable s) (hpublished : s.driver.gRT.Published)
    (harch : s.driver.variableArch = true) : s.driver.services.Published := by
  refine ⟨harch, fun hsession => ?_⟩
  have hheld := (lifecycleInv_of_reachable h).published hpublished hsession
  show (s.driver.mVariableParamMem.buffer ≠ 0 && s.driver.mVariableResultMem.buffer ≠ 0) = true
  simp [hheld.param.1, hheld.result.1]

/-- Sets of variables once the variable services are there, with the log of the platform. -/
def policySystem (cfg : AuthVarConfig) (keeper : Keeper σ) :
    System (AuthVarState σ × List TpmEvent) (PolicyStep σ) where
  Init s := s.1.Published ∧ s.2 = []
  Step s i s' := i.call.run cfg keeper s.1 = (i.status, s'.1) ∧ i.store = s'.1.ta ∧
    s'.2 = s.2 ++ i.call.events cfg keeper s.1

/-- The log that is to be. -/
def policyLog (keeper : Keeper σ) : System (List TpmEvent) (PolicyStep σ) where
  Init log := log = []
  Step log i log' := log' = log ++ i.call.due keeper i.status i.store

variable {cfg : AuthVarConfig} {keeper : Keeper σ} {s s' : AuthVarState σ × List TpmEvent}
  {i : PolicyStep σ} {is : List (PolicyStep σ)}

/-- A call as a step, and the state it leaves. -/
def PolicySet.step (call : PolicySet) (cfg : AuthVarConfig) (keeper : Keeper σ)
    (s : AuthVarState σ × List TpmEvent) : PolicyStep σ :=
  ⟨call, (call.run cfg keeper s.1).1, (call.run cfg keeper s.1).2.ta⟩

def PolicySet.after (call : PolicySet) (cfg : AuthVarConfig) (keeper : Keeper σ)
    (s : AuthVarState σ × List TpmEvent) : AuthVarState σ × List TpmEvent :=
  ((call.run cfg keeper s.1).2, s.2 ++ call.events cfg keeper s.1)

/-- Every call is a step. -/
lemma policySystem_step (call : PolicySet) :
    (policySystem cfg keeper).Step s (call.step cfg keeper s) (call.after cfg keeper s) :=
  ⟨rfl, rfl, rfl⟩

lemma policySystem_published (h : s.1.Published) (hstep : (policySystem cfg keeper).Step s i s') :
    s'.1.Published := by
  have hkeeps := @keeps_set _ cfg keeper.ta s.1 (i.call.hook keeper) i.call.args
  have hrun : opteeRuntimeSetVariable cfg keeper.ta (i.call.hook keeper) i.call.args s.1 =
      (i.status, s'.1) := hstep.1
  rw [hrun] at hkeeps
  exact h.keeps hkeeps

/-- A step that leaves what it is to leave is a step of the log that is to be. -/
lemma policyLog_step (hlogged : i.call.Logged cfg keeper s.1)
    (hstep : (policySystem cfg keeper).Step s i s') : (policyLog keeper).Step s.2 i s'.2 := by
  obtain ⟨hrun, hstore, hlog⟩ := hstep
  have hevents := hlogged.events
  rw [hrun] at hevents
  show s'.2 = s.2 ++ i.call.due keeper i.status i.store
  rw [hlog, hevents, hstore]

/-- The calls of a run all leave what they are to leave exactly if for each of them the hook gets
what the store holds and its event can be made; and the log is then the log that is to be. -/
theorem run_policyLog (cfg : AuthVarConfig) (keeper : Keeper σ)
    (s₀ s : AuthVarState σ × List TpmEvent) (is : List (PolicyStep σ))
    (hinit : (policySystem cfg keeper).Init s₀) :
    (((policySystem cfg keeper).restrict fun s i => i.call.Tells cfg keeper s.1).Run s₀ is s ↔
      ((policySystem cfg keeper).restrict fun s i => i.call.Logged cfg keeper s.1).Run s₀ is s) ∧
    (((policySystem cfg keeper).restrict fun s i => i.call.Tells cfg keeper s.1).Run s₀ is s →
      (policyLog keeper).Run [] is s.2) := by
  have hkept : ∀ s i s', AuthVarState.Published (Prod.fst s) →
      (policySystem cfg keeper).Step s i s' → AuthVarState.Published (Prod.fst s') :=
    fun s i s' h hstep => policySystem_published h hstep
  have hiff : ∀ (s : AuthVarState σ × List TpmEvent) (i : PolicyStep σ), s.1.Published →
      (i.call.Logged cfg keeper s.1 ↔ i.call.Tells cfg keeper s.1) :=
    fun s i h => PolicySet.logged_iff h.arch h.buffers
  have hlogged : ((policySystem cfg keeper).restrict fun s i =>
      i.call.Tells cfg keeper s.1).Run s₀ is s →
        ((policySystem cfg keeper).restrict fun s i => i.call.Logged cfg keeper s.1).Run s₀ is s :=
    fun h => h.restrict_mono hkept (fun s i hs htells => (hiff s i hs).mpr htells) hinit.1
  refine ⟨⟨hlogged, fun h => ?_⟩, fun h => ?_⟩
  · exact h.restrict_mono hkept (fun s i hs hl => (hiff s i hs).mp hl) hinit.1
  · obtain ⟨log, hrun, hlog⟩ := @System.Run.simulation _ _ _ _ (policyLog keeper)
      (fun s log => s.2 = log) (fun _ => True)
      (fun s i s' log hR _ hstep => ⟨s'.2, hR ▸ policyLog_step hstep.1 hstep.2, rfl⟩) _ _ _
      (hlogged h) (fun _ _ => trivial) [] hinit.2
    rw [hlog]
    exact hrun

end Runs

/-! ## A TA that appends and deletes -/

/-- Stores in which no variable is empty. -/
abbrev HeldStore := TaKey → Option { v : Variable // v.data ≠ [] }

/-- `EFI_VARIABLE_APPEND_WRITE`. -/
def efiVariableAppendWrite : UInt32 := 0x40

/-- A set of `key`.  No attributes or no data delete the variable, and an append puts the data
behind those that are there. -/
def heldSet (store : HeldStore) (key : TaKey) (attributes : UInt32) (data : List UInt8) :
    TeecResult × HeldStore :=
  let value := if attributes &&& efiVariableAppendWrite = 0 then data
    else contentOf ((store key).map Subtype.val) ++ data
  if h : attributes ≠ 0 ∧ value ≠ [] ∧ GetResult.sizeof + value.length < 2 ^ 32 then
    (teecSuccess, Function.update store key (some ⟨⟨attributes, value, h.2.2⟩, h.2.1⟩))
  else if attributes ≠ 0 ∧ value ≠ [] then (teecErrorOutOfMemory, store)
  else if (store key).isNone then (teecErrorItemNotFound, store)
  else (teecSuccess, Function.update store key none)

def heldTa : Ta HeldStore := fun req store =>
  match req.command with
  | .vsGetOp => (storeGet ((store req.getKey).map Subtype.val) req.resultSize, store)
  | .vsSetOp =>
    match heldSet store req.setKey req.setAttributes req.setData with
    | (result, store) => (⟨result, [], 0⟩, store)
  | _ => (⟨teecErrorBadParameters, [], 0⟩, store)

def heldKeeper : Keeper HeldStore where
  ta := heldTa
  lookup s key := (s key).map Subtype.val
  get_eq req s hreq := by simp only [heldTa, hreq]
  data_ne_nil s key v h := by
    obtain ⟨⟨v, hne⟩, -, rfl⟩ := Option.map_eq_some_iff.mp h
    exact hne

lemma heldKeeper_held {s : HeldStore} {name : Char16String} {guid : EfiGuid} :
    heldKeeper.held s name guid = (s (name.bytes, guid.bytes)).map Subtype.val := rfl

/-- The driver with the variable services installed, over an empty store. -/
def publishedDriver : AuthVarState HeldStore where
  ta _ := none
  param _ := 0
  result _ := 0
  buffersAllocated := true
  atRuntime := false
  mTeecSessionOpened := true
  sessionId := 0
  variableArchInstalled := true
  measurements := []

/-- The TA gets the request of a set as it is meant. -/
lemma heldTa_setRequest {cfg : AuthVarConfig} {args : SetArgs} {name : Char16String}
    {guid : EfiGuid} {param : ByteStore} {store : HeldStore}
    (hlt : SetParam.sizeof + name.strSize + args.dataSize < 2 ^ 32) :
    heldTa (setRequest cfg args name guid param) store =
      (⟨(heldSet store (taKey name guid) args.attributes args.bytes).1, [], 0⟩,
        (heldSet store (taKey name guid) args.attributes args.bytes).2) := by
  have hbits : 2 ^ 32 ≤ 2 ^ cfg.arch.uintnBits :=
    Nat.pow_le_pow_right (by decide) (by cases cfg.arch <;> decide)
  have huintn : cfg.arch.uintn (SetParam.sizeof + name.strSize + args.dataSize) % 2 ^ 32 =
      SetParam.sizeof + name.strSize + args.dataSize := by
    rw [Arch.uintn_of_lt (by omega), Nat.mod_eq_of_lt hlt]
  simp only [setRequest, huintn, heldTa, setKey_encodeSet le_rfl, setAttributes_encodeSet le_rfl,
    setData_encodeSet le_rfl hlt]

/-- A set of `PK` to two bytes. -/
def enrollArgs : SetArgs :=
  ⟨some platformKey.name, some platformKey.guid, 0x27, 2,
    some fun i => if i = 0 then 0x30 else 0x82⟩

/-- The set, where `fault` is what the first get of the hook meets. -/
def enroll (fault : Option TaFault) : PolicySet :=
  ⟨enrollArgs, fault, none, some fun _ => 0, some fun _ => 0⟩

lemma enrolled_lt : GetResult.sizeof + ([0x30, 0x82] : List UInt8).length < 2 ^ 32 := by decide

/-- The variable it leaves. -/
def enrolled : { v : Variable // v.data ≠ [] } :=
  ⟨⟨0x27, [0x30, 0x82], enrolled_lt⟩, fun h => by cases h⟩

lemma heldSet_enroll {key : TaKey} :
    heldSet publishedDriver.ta key enrollArgs.attributes enrollArgs.bytes =
      (teecSuccess, Function.update publishedDriver.ta key (some enrolled)) := by
  have hattributes : enrollArgs.attributes &&& efiVariableAppendWrite = 0 := by decide
  have hbytes : enrollArgs.bytes = [0x30, 0x82] := rfl
  have hset : enrollArgs.attributes ≠ 0 ∧ ([0x30, 0x82] : List UInt8) ≠ [] ∧
      GetResult.sizeof + ([0x30, 0x82] : List UInt8).length < 2 ^ 32 :=
    ⟨by decide, by decide, enrolled_lt⟩
  simp only [heldSet, hattributes, if_true, hbytes]
  rw [dif_pos hset]
  rfl

lemma answer_enroll (fault : Option TaFault) :
    (enroll fault).answer largeConfig heldKeeper publishedDriver platformKey.name
        platformKey.guid =
      (⟨teecSuccess, [], 0⟩, Function.update publishedDriver.ta
        (platformKey.name.bytes, platformKey.guid.bytes) (some enrolled)) := by
  have hlt : SetParam.sizeof + platformKey.name.strSize + enrollArgs.dataSize < 2 ^ 32 := by
    decide
  have hkey : taKey platformKey.name platformKey.guid =
      (platformKey.name.bytes, platformKey.guid.bytes) := by decide
  have hta : heldKeeper.ta = heldTa := rfl
  have hargs : (enroll fault).args = enrollArgs := rfl
  rw [PolicySet.answer, hta, hargs, heldTa_setRequest hlt, heldSet_enroll, hkey]

/-- The set measures `PK`, which is then held. -/
lemma measures_enroll (fault : Option TaFault) :
    (enroll fault).Measures largeConfig heldKeeper publishedDriver platformKey.name
        platformKey.guid ∧
      heldKeeper.held ((enroll fault).run largeConfig heldKeeper publishedDriver).2.ta
        platformKey.name platformKey.guid = some enrolled.val := by
  have hadmitted : enrollArgs.Admitted publishedDriver platformKey.name platformKey.guid :=
    ⟨rfl, rfl, rfl, by decide, by decide, rfl⟩
  have hpasses : enrollArgs.PassesChecks largeConfig platformKey.name := by
    rw [SetArgs.PassesChecks, memSize_largeConfig]
    decide
  have hmeasures : (enroll fault).Measures largeConfig heldKeeper publishedDriver
      platformKey.name platformKey.guid :=
    ⟨hadmitted, hpasses, by rw [answer_enroll], by decide⟩
  have harch : publishedDriver.variableArchInstalled = true := rfl
  refine ⟨hmeasures, ?_⟩
  rw [(hmeasures.run_eq harch).2.1, answer_enroll, heldKeeper_held]
  simp only [Function.update_self, Option.map_some]

/-- The driver before the set, with no event in the log. -/
def published : AuthVarState HeldStore × List TpmEvent := (publishedDriver, [])

lemma published_init : (policySystem largeConfig heldKeeper).Init published :=
  ⟨⟨rfl, fun _ => rfl⟩, rfl⟩

theorem run_policyLog_enroll :
    (policyLog heldKeeper).Run [] [(enroll none).step largeConfig heldKeeper published]
      ((enroll none).after largeConfig heldKeeper published).2 := by
  obtain ⟨hmeasures, hheld⟩ := measures_enroll none
  have htells : (enroll none).Tells largeConfig heldKeeper publishedDriver := by
    rw [hmeasures.tells_iff rfl, hheld]
    refine ⟨⟨rfl, fun v hv => ?_⟩, rfl, by decide⟩
    obtain rfl := Option.some.inj hv
    rw [memSize_largeConfig]
    exact ⟨rfl, rfl, by decide⟩
  exact (run_policyLog largeConfig heldKeeper published
    ((enroll none).after largeConfig heldKeeper published)
    [(enroll none).step largeConfig heldKeeper published] published_init).2
    (.cons ⟨htells, policySystem_step _⟩ (.nil _))

/-- The set of `PK` whose re-read runs out of memory. -/
def enrollOutOfMemory : PolicySet := enroll (some outOfMemoryGet)

/-- `PK` is set to two bytes, and what is measured is its deletion. -/
theorem not_policyLog_outOfMemory :
    (policySystem largeConfig heldKeeper).Run published
        [enrollOutOfMemory.step largeConfig heldKeeper published]
        (enrollOutOfMemory.after largeConfig heldKeeper published) ∧
      (enrollOutOfMemory.after largeConfig heldKeeper published).2 =
        [(Measurement.mk platformKey.name platformKey.guid []).event] ∧
      heldKeeper.held (enrollOutOfMemory.after largeConfig heldKeeper published).1.ta
        platformKey.name platformKey.guid = some enrolled.val ∧
      ¬ (policyLog heldKeeper).Run [] [enrollOutOfMemory.step largeConfig heldKeeper published]
        (enrollOutOfMemory.after largeConfig heldKeeper published).2 := by
  obtain ⟨hmeasures, hheld⟩ := measures_enroll (some outOfMemoryGet)
  have hnot : ¬ enrollOutOfMemory.Rereads largeConfig (heldKeeper.held
      (enrollOutOfMemory.run largeConfig heldKeeper publishedDriver).2.ta
      platformKey.name platformKey.guid) := fun h => by cases h.size
  obtain ⟨hdrop, -⟩ := hmeasures.of_not_rereads rfl rfl hnot
  have hevents : (enrollOutOfMemory.after largeConfig heldKeeper published).2 =
      [(Measurement.mk platformKey.name platformKey.guid []).event] := by
    rw [PolicySet.after, published, List.nil_append, PolicySet.events, enrollOutOfMemory, hdrop,
      filterMap_measureVariable]
    exact ⟨rfl, by decide⟩
  refine ⟨.cons (policySystem_step _) (.nil _), hevents, hheld, fun hrun => ?_⟩
  rw [hevents] at hrun
  cases hrun with
  | cons hstep hrest =>
      cases hrest with
      | nil =>
          have hdue : [(Measurement.mk platformKey.name platformKey.guid []).event] =
              [] ++ enrollOutOfMemory.due heldKeeper
                (enrollOutOfMemory.run largeConfig heldKeeper publishedDriver).1
                (enrollOutOfMemory.run largeConfig heldKeeper publishedDriver).2.ta := hstep
          rw [enrollOutOfMemory, (hmeasures.run_eq rfl).1, hmeasures.due_eq, hheld] at hdue
          exact absurd hdue (by decide)

end AuthVar
end MuPlatform
