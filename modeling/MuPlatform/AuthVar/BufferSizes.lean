import MuPlatform.AuthVar.Requests

/-!
# Bigger buffers

A get that succeeds is to succeed in the same way with a bigger buffer, and so is an
enumeration.  The driver asks the TA for a reply of the size of the caller's buffer, and turns
down a call whose reply would not fit the transport buffer, however small the variable.

* `SizedReplies`: a TA whose successful reply stays the same when it gets more room.
* `biggerWithinTransport`: up to the size of the transport a bigger buffer gets the same
  variable, and from there on `EFI_BAD_BUFFER_SIZE` and nothing else.

The sizes are compared as 32-bit values, so that a buffer of `2 ^ 32` bytes counts as an empty
one (`not_biggerNeverHurts`).
-/

namespace MuPlatform
namespace AuthVar

open Optee

/-! ## Two calls -/

/-- The bytes a get gives its caller. -/
def GetOutcome.bytes (out : GetOutcome) : List UInt8 :=
  (out.data.getD fun _ => 0).read 0 out.dataSize

/-- The second get succeeds with the variable of the first. -/
structure GetOutcome.Repeats (out out' : GetOutcome) : Prop where
  status : out'.status = .success
  attributes : out'.attributes = out.attributes
  dataSize : out'.dataSize = out.dataSize
  bytes : out'.bytes = out.bytes

/-- The bytes of the name an enumeration gives its caller. -/
def GetNextOutcome.bytes (out : GetNextOutcome) : List UInt8 :=
  (out.variableName.getD fun _ => 0).read 0 out.variableNameSize

/-- The second enumeration succeeds with the variable of the first. -/
structure GetNextOutcome.Repeats (out out' : GetNextOutcome) : Prop where
  status : out'.status = .success
  variableNameSize : out'.variableNameSize = out.variableNameSize
  vendorGuid : out'.vendorGuid = out.vendorGuid
  bytes : out'.bytes = out.bytes

/-- The arguments of a get with a buffer of `n` bytes. -/
def VarKey.getArgs (key : VarKey) (n : ℕ) (data : Option ByteStore) : GetArgs :=
  ⟨some key.name, some key.guid, some n, data⟩

/-- The arguments of an enumeration with a buffer of `n` bytes. -/
def NameBuffer.getNextArgs (buffer : NameBuffer) (guid : EfiGuid) (n : ℕ) : GetNextArgs :=
  ⟨some n, some buffer, some guid⟩

section Sized

variable {σ : Type*} (cfg : AuthVarConfig) (ta : Ta σ) (st : AuthVarState σ)

def getSized (key : VarKey) (n : ℕ) (data : Option ByteStore) : GetOutcome :=
  (opteeRuntimeGetVariable cfg ta (key.getArgs n data) st).1

def getNextSized (guid : EfiGuid) (n : ℕ) (buffer : NameBuffer) : GetNextOutcome :=
  (opteeRuntimeGetNextVariableName cfg ta (buffer.getNextArgs guid n) st).1

end Sized

/-- What succeeds on an ideal TA does the same with a bigger buffer. -/
def BiggerNeverHurts (cfg : AuthVarConfig) : Prop :=
  (∀ (st : AuthVarState TaStore) (key : VarKey) (n n' : ℕ) (data data' : Option ByteStore),
    n ≤ n' → n' < 2 ^ cfg.arch.uintnBits → (n' = 0 ∨ data'.isSome = true) →
      (getSized cfg idealTa st key n data).status = .success →
        (getSized cfg idealTa st key n data).Repeats (getSized cfg idealTa st key n' data')) ∧
  (∀ (st : AuthVarState (List VarKey)) (guid : EfiGuid) (n n' : ℕ) (buffer buffer' : NameBuffer),
    buffer'.name = buffer.name → n ≤ n' → n' < 2 ^ cfg.arch.uintnBits →
      (getNextSized cfg enumerationTa st guid n buffer).status = .success →
        (getNextSized cfg enumerationTa st guid n buffer).Repeats
          (getNextSized cfg enumerationTa st guid n' buffer'))

/-- What succeeds on an ideal TA does the same with a bigger buffer if the transport has room
for as much, and is otherwise turned down with `EFI_BAD_BUFFER_SIZE` and nothing written.  The
size with its header is a 32-bit value, and the get is none by which the tests reach the
session id. -/
def BiggerWithinTransport (cfg : AuthVarConfig) : Prop :=
  (∀ (st : AuthVarState TaStore) (key : VarKey) (n n' : ℕ) (data data' : Option ByteStore),
    n ≤ n' → GetResult.sizeof + n' < 2 ^ 32 → (n' = 0 ∨ data'.isSome = true) →
      isTestHook cfg key.name key.guid n = false →
        isTestHook cfg key.name key.guid n' = false →
          (getSized cfg idealTa st key n data).status = .success →
            if GetResult.sizeof + n' ≤ cfg.memSize then
              (getSized cfg idealTa st key n data).Repeats (getSized cfg idealTa st key n' data')
            else getSized cfg idealTa st key n' data' =
              (key.getArgs n' data').exit .badBufferSize) ∧
  (∀ (st : AuthVarState (List VarKey)) (guid : EfiGuid) (n n' : ℕ) (buffer buffer' : NameBuffer),
    buffer'.name = buffer.name → n ≤ n' → GetParam.sizeof + n' < 2 ^ 32 →
      (getNextSized cfg enumerationTa st guid n buffer).status = .success →
        if GetParam.sizeof + n' ≤ cfg.memSize then
          (getNextSized cfg enumerationTa st guid n buffer).Repeats
            (getNextSized cfg enumerationTa st guid n' buffer')
        else getNextSized cfg enumerationTa st guid n' buffer' =
          (buffer'.getNextArgs guid n').exit .badBufferSize n')

/-! ## Replies of a size -/

/-- The replies of the TA have room for what they carry, and one that succeeds is the same with
more room. -/
structure SizedReplies {σ : Type*} (ta : Ta σ) : Prop where
  length_le : ∀ req s, (ta req s).1.result.length ≤ req.resultSize
  same : ∀ command param k k' s, k ≤ k' →
    (ta ⟨command, param, k⟩ s).1.teecResult = teecSuccess →
      (ta ⟨command, param, k'⟩ s).1 = (ta ⟨command, param, k⟩ s).1

lemma length_storeGet_le (found : Option Variable) (k : ℕ) :
    (storeGet found k).result.length ≤ k := by
  cases found with
  | none => exact Nat.zero_le _
  | some v =>
      simp only [storeGet]
      split
      · exact Nat.zero_le _
      next hroom =>
        simp only [length_replyBytes, GetResult.data, GetResult.sizeof] at hroom ⊢
        omega

lemma storeGet_same {found : Option Variable} {k k' : ℕ} (hle : k ≤ k')
    (h : (storeGet found k).teecResult = teecSuccess) : storeGet found k' = storeGet found k := by
  cases found with
  | none => rfl
  | some v =>
      by_cases hroom : k < GetResult.sizeof + v.data.length
      · simp only [storeGet, hroom, if_true] at h
        exact absurd h (by decide)
      · have hroom' : ¬ k' < GetResult.sizeof + v.data.length := by omega
        simp only [storeGet, hroom, hroom', if_false]

lemma sizedReplies_idealTa : SizedReplies idealTa where
  length_le := by
    intro req s
    simp only [idealTa]
    split
    · exact length_storeGet_le _ _
    · exact Nat.zero_le _
    · exact Nat.zero_le _
  same := by
    intro command param k k' s hle h
    cases command with
    | vsGetOp => exact storeGet_same hle h
    | _ => rfl

lemma length_nextAnswer_le (next : Option VarKey) (k : ℕ) :
    (nextAnswer next k).result.length ≤ k := by
  cases next with
  | none => exact Nat.zero_le _
  | some key =>
      simp only [nextAnswer]
      split
      · exact Nat.zero_le _
      next hroom =>
        simp only [length_nextBytes, GetParam.variableName, GetParam.sizeof] at hroom ⊢
        omega

lemma nextAnswer_same {next : Option VarKey} {k k' : ℕ} (hle : k ≤ k')
    (h : (nextAnswer next k).teecResult = teecSuccess) :
    nextAnswer next k' = nextAnswer next k := by
  cases next with
  | none => rfl
  | some key =>
      by_cases hroom : k < GetParam.sizeof + key.name.strSize
      · simp only [nextAnswer, hroom, if_true] at h
        exact absurd h (by decide)
      · have hroom' : ¬ k' < GetParam.sizeof + key.name.strSize := by omega
        simp only [nextAnswer, hroom, hroom', if_false]

lemma sizedReplies_enumerationTa : SizedReplies enumerationTa where
  length_le := by
    intro req s
    simp only [enumerationTa]
    split
    · exact length_nextAnswer_le _ _
    · exact Nat.zero_le _
  same := by
    intro command param k k' s hle h
    cases command with
    | vsGetNextVarOp => exact nextAnswer_same hle h
    | _ => rfl

/-! ## Gets that succeed -/

section Success

variable {σ : Type*} {cfg : AuthVarConfig} {ta : Ta σ} {st : AuthVarState σ}

lemma statusOfTeec_eq_success {result : TeecResult} :
    statusOfTeec result = .success ↔ result = teecSuccess := by
  refine ⟨fun h => ?_, fun h => h ▸ by decide⟩
  obtain ⟨hresult, -⟩ | ⟨-, hs⟩ | ⟨-, hs⟩ | ⟨herror, -⟩ := statusOfTeec_cases result
  · exact hresult
  · cases hs.symm.trans h
  · cases hs.symm.trans h
  · exact absurd h (EfiStatus.ne_success_of_isError herror)

/-- An invocation that succeeds leaves the same result with more room. -/
lemma invoke_same (hta : SizedReplies ta) {command : VariableServiceOp} {p k k' : ℕ}
    (hle : k ≤ k')
    (hsuccess : (opteeRuntimeVariableInvokeCommand ta command p k st).1 = .success) :
    (opteeRuntimeVariableInvokeCommand ta command p k' st).1 = .success ∧
      (opteeRuntimeVariableInvokeCommand ta command p k' st).2.2.result =
        (opteeRuntimeVariableInvokeCommand ta command p k st).2.2.result := by
  have hcode := statusOfTeec_eq_success.mp hsuccess
  have hlen := hta.length_le ⟨command, st.param.read 0 p, k⟩ st.ta
  have hsame := hta.same command (st.param.read 0 p) k k' st.ta hle hcode
  have htake := List.take_of_length_le hlen
  have htake' := List.take_of_length_le (hlen.trans hle)
  simp only at htake htake'
  simp only [opteeRuntimeVariableInvokeCommand, hsame, htake, htake', and_true]
  exact hsuccess

/-- A get that succeeds had its request sent. -/
lemma getVariable_of_success {args : GetArgs} {name : Char16String} {guid : EfiGuid} {n : ℕ}
    (hname : args.variableName = some name) (hguid : args.vendorGuid = some guid)
    (hsize : args.dataSize = some n) (hhook : isTestHook cfg name guid n = false)
    (hsuccess : (opteeRuntimeGetVariable cfg ta args st).1.status = .success) :
    args.Admitted st name guid n ∧ st.mTeecSessionOpened = true ∧ st.buffersAllocated = true ∧
      PassesChecks cfg GetResult.sizeof (name.strSize % 2 ^ 32) (n % 2 ^ 32) := by
  have hadmitted : args.Admitted st name guid n := by
    by_contra hnot
    obtain ⟨status, ⟨herror, -⟩, hstops⟩ := @getVariable_refused _ cfg args st
      fun name' guid' n' h => hnot (by
        obtain rfl := Option.some.inj (h.variableName_eq.symm.trans hname)
        obtain rfl := Option.some.inj (h.vendorGuid_eq.symm.trans hguid)
        obtain rfl := Option.some.inj (h.dataSize_eq.symm.trans hsize)
        exact h)
    rw [hstops.eq] at hsuccess
    exact EfiStatus.ne_success_of_isError herror hsuccess
  refine ⟨hadmitted, ?_⟩
  by_contra hunsent
  obtain ⟨status, ⟨herror, -⟩, hstops⟩ := getVariable_unsent hadmitted hhook hunsent
  rw [hstops.eq] at hsuccess
  exact EfiStatus.ne_success_of_isError herror hsuccess

/-- A reply makes a get succeed if it fits the caller's buffer. -/
lemma getReply_of_success {args : GetArgs} {n l : ℕ} {reply : EfiStatus × ℕ × AuthVarState σ}
    (hsuccess : (getReply cfg args n l reply).1.status = .success) :
    reply.1 = .success ∧ (reply.2.2.result.load32 GetResult.dataSize).toNat ≤ l := by
  obtain ⟨status, size, st⟩ := reply
  simp only [getReply] at hsuccess
  split at hsuccess
  next hshort => exact absurd (hshort.symm.trans hsuccess) (by decide)
  split at hsuccess
  next hne => exact absurd hsuccess hne
  next hstatus =>
    split at hsuccess
    · cases hsuccess
    next hlen => exact ⟨not_ne_iff.mp hstatus, Nat.not_lt.mp hlen⟩

/-- What such a reply gives the caller. -/
lemma getReply_success {args : GetArgs} {n l : ℕ} {reply : EfiStatus × ℕ × AuthVarState σ}
    (hstatus : reply.1 = .success)
    (hlen : (reply.2.2.result.load32 GetResult.dataSize).toNat ≤ l)
    (hdata : l = 0 ∨ args.data.isSome = true) :
    (getReply cfg args n l reply).1.status = .success ∧
      (getReply cfg args n l reply).1.attributes =
        some (reply.2.2.result.load32 GetResult.attributes) ∧
      (getReply cfg args n l reply).1.dataSize =
        (reply.2.2.result.load32 GetResult.dataSize).toNat ∧
      (getReply cfg args n l reply).1.bytes = reply.2.2.result.read GetResult.data
        (reply.2.2.result.load32 GetResult.dataSize).toNat := by
  obtain ⟨status, size, st⟩ := reply
  obtain rfl : status = .success := hstatus
  have hne : EfiStatus.success ≠ .bufferTooSmall := by decide
  simp only at hlen
  simp only [getReply, hne, if_false, ne_eq, not_true_eq_false, Nat.not_lt.mpr hlen,
    GetOutcome.bytes, true_and]
  cases hargs : args.data with
  | some data =>
      have hsame := @ByteStore.read_write_same data 0
        (st.result.read GetResult.data (st.result.load32 GetResult.dataSize).toNat)
      rwa [ByteStore.length_read] at hsame
  | none =>
      have hl : l = 0 := hdata.resolve_right (by simp [hargs])
      have hzero : (st.result.load32 GetResult.dataSize).toNat = 0 := by omega
      rw [hzero]
      rfl

/-- With the same result and more room for it a get succeeds again. -/
lemma getReply_repeats {args args' : GetArgs} {n n' l l' : ℕ}
    {reply reply' : EfiStatus × ℕ × AuthVarState σ} (hle : l ≤ l')
    (hdata : l = 0 ∨ args.data.isSome = true) (hdata' : l' = 0 ∨ args'.data.isSome = true)
    (hstatus' : reply'.1 = .success) (hresult : reply'.2.2.result = reply.2.2.result)
    (hsuccess : (getReply cfg args n l reply).1.status = .success) :
    (getReply cfg args n l reply).1.Repeats (getReply cfg args' n' l' reply').1 := by
  obtain ⟨hstatus, hlen⟩ := getReply_of_success hsuccess
  obtain ⟨-, hattributes, hsize, hbytes⟩ := @getReply_success _ cfg _ n _ _ hstatus hlen hdata
  have hlen' : (reply'.2.2.result.load32 GetResult.dataSize).toNat ≤ l' := by
    rw [hresult]
    exact hlen.trans hle
  obtain ⟨hsuccess', hattributes', hsize', hbytes'⟩ :=
    @getReply_success _ cfg _ n' _ _ hstatus' hlen' hdata'
  rw [hresult] at hattributes' hsize' hbytes'
  exact ⟨hsuccess', hattributes'.trans hattributes.symm, hsize'.trans hsize.symm,
    hbytes'.trans hbytes.symm⟩

lemma room_of_nonNull {n : ℕ} {data : Option ByteStore} (h : ¬ (n ≠ 0 ∧ data.isNone = true)) :
    n = 0 ∨ data.isSome = true := by
  cases data with
  | some data => exact .inr rfl
  | none => exact .inl (not_not.mp fun hne => h ⟨hne, rfl⟩)

/-- A get that succeeds does so with a bigger buffer that the transport has room for. -/
lemma getSized_repeats (hta : SizedReplies ta) {key : VarKey} {n n' : ℕ}
    {data data' : Option ByteStore} (hle : n ≤ n') (hlt : GetResult.sizeof + n' < 2 ^ 32)
    (hdata : n' = 0 ∨ data'.isSome = true) (hhook : isTestHook cfg key.name key.guid n = false)
    (hhook' : isTestHook cfg key.name key.guid n' = false)
    (hsuccess : (getSized cfg ta st key n data).status = .success)
    (hfit : GetResult.sizeof + n' ≤ cfg.memSize) :
    (getSized cfg ta st key n data).Repeats (getSized cfg ta st key n' data') := by
  obtain ⟨hadmitted, hsession, hbuffers, hpass⟩ :=
    getVariable_of_success rfl rfl rfl hhook hsuccess
  have hadmitted' : (key.getArgs n' data').Admitted st key.name key.guid n' := by
    refine ⟨hadmitted.boot, rfl, rfl, rfl, ?_⟩
    rintro ⟨hne, hnone⟩
    rcases hdata with hzero | hsome
    · exact hne hzero
    · have hdata' : data'.isNone = true := hnone
      simp [Option.isNone_iff_eq_none.mp hdata'] at hsome
  simp only [GetResult.sizeof] at hlt hfit
  have hn : n % 2 ^ 32 = n := Nat.mod_eq_of_lt (by omega)
  have hn' : n' % 2 ^ 32 = n' := Nat.mod_eq_of_lt (by omega)
  have hsize : (GetResult.sizeof + n) % 2 ^ 32 = GetResult.sizeof + n :=
    Nat.mod_eq_of_lt (by simp only [GetResult.sizeof]; omega)
  have hsize' : (GetResult.sizeof + n') % 2 ^ 32 = GetResult.sizeof + n' :=
    Nat.mod_eq_of_lt (by simp only [GetResult.sizeof]; omega)
  have hpass' : PassesChecks cfg GetResult.sizeof (key.name.strSize % 2 ^ 32) (n' % 2 ^ 32) := by
    obtain ⟨hfirst, hsecond⟩ := hpass
    rw [PassesChecks, hn', hsize']
    simp only [GetResult.sizeof]
    omega
  rw [getSized, getVariable_eq hadmitted hhook hsession hbuffers hpass, hn, hsize] at hsuccess ⊢
  rw [getSized, getVariable_eq hadmitted' hhook' hsession hbuffers hpass', hn', hsize']
  -- the replies are the same, and the second caller has at least as much room for the data
  obtain ⟨hstatus, -⟩ := getReply_of_success hsuccess
  obtain ⟨hstatus', hresult⟩ := invoke_same hta (Nat.add_le_add_left hle GetResult.sizeof) hstatus
  exact getReply_repeats hle (room_of_nonNull hadmitted.nonNull) hdata hstatus' hresult hsuccess

/-- A bigger buffer than the transport has room for is turned down. -/
lemma getSized_tooBig {key : VarKey} {n n' : ℕ} {data data' : Option ByteStore}
    (hlt : GetResult.sizeof + n' < 2 ^ 32) (hdata : n' = 0 ∨ data'.isSome = true)
    (hhook : isTestHook cfg key.name key.guid n = false)
    (hhook' : isTestHook cfg key.name key.guid n' = false)
    (hsuccess : (getSized cfg ta st key n data).status = .success)
    (hbig : ¬ GetResult.sizeof + n' ≤ cfg.memSize) :
    getSized cfg ta st key n' data' = (key.getArgs n' data').exit .badBufferSize := by
  obtain ⟨hadmitted, hsession, hbuffers, -⟩ := getVariable_of_success rfl rfl rfl hhook hsuccess
  have hnull : ¬ (n' ≠ 0 ∧ data'.isNone = true) := by
    rintro ⟨hne, hnone⟩
    rcases hdata with hzero | hsome
    · exact hne hzero
    · simp [Option.isNone_iff_eq_none.mp hnone] at hsome
  have hn' : n' % 2 ^ 32 = n' := Nat.mod_eq_of_lt (by omega)
  have hsize' : (GetResult.sizeof + n') % 2 ^ 32 = GetResult.sizeof + n' := Nat.mod_eq_of_lt hlt
  simp only [getSized, VarKey.getArgs, opteeRuntimeGetVariable, hadmitted.boot, hnull, hhook',
    hsession, hbuffers, Bool.false_eq_true, Bool.true_eq_false, if_false, getChecked, hn', hsize']
  split
  · rfl
  · rw [if_pos (.inr (Nat.not_le.mp hbig))]

/-! ## Enumerations that succeed -/

/-- An enumeration that succeeds had its request sent. -/
lemma getNextVariableName_of_success {args : GetNextArgs} {size : ℕ} {buffer : NameBuffer}
    {guid : EfiGuid} (hsize : args.variableNameSize = some size)
    (hname : args.variableName = some buffer) (hguid : args.vendorGuid = some guid)
    (hsuccess : (opteeRuntimeGetNextVariableName cfg ta args st).1.status = .success) :
    args.Admitted st size buffer guid ∧
      PassesChecks cfg GetParam.sizeof (localInSize buffer.name) (size % 2 ^ 32) := by
  have hadmitted : args.Admitted st size buffer guid := by
    by_contra hnot
    obtain ⟨status, ⟨herror, -⟩, hstops⟩ := @getNextVariableName_refused _ cfg args st
      fun size' buffer' guid' h => hnot (by
        obtain rfl := Option.some.inj (h.variableNameSize_eq.symm.trans hsize)
        obtain rfl := Option.some.inj (h.variableName_eq.symm.trans hname)
        obtain rfl := Option.some.inj (h.vendorGuid_eq.symm.trans hguid)
        exact h)
    rw [hstops.eq] at hsuccess
    exact EfiStatus.ne_success_of_isError herror hsuccess
  refine ⟨hadmitted, ?_⟩
  by_contra hunsent
  rw [(getNextVariableName_unsent hadmitted hunsent).eq] at hsuccess
  cases hsuccess

lemma getNextReply_of_success {args : GetNextArgs} {n l : ℕ}
    {reply : EfiStatus × ℕ × AuthVarState σ}
    (hsuccess : (getNextReply cfg args n l reply).1.status = .success) : reply.1 = .success ∧
      (reply.2.2.result.load16 GetParam.variableNameSize).toNat ≤ l := by
  obtain ⟨status, size, st⟩ := reply
  simp only [getNextReply] at hsuccess
  split at hsuccess
  next hshort => exact absurd (hshort.symm.trans hsuccess) (by decide)
  split at hsuccess
  next hne => exact absurd hsuccess hne
  next hstatus =>
    split at hsuccess
    · cases hsuccess
    next hlen => exact ⟨not_ne_iff.mp hstatus, Nat.not_lt.mp hlen⟩

lemma getNextReply_success {args : GetNextArgs} {n l : ℕ} {buffer : NameBuffer}
    {reply : EfiStatus × ℕ × AuthVarState σ} (hstatus : reply.1 = .success)
    (hlen : (reply.2.2.result.load16 GetParam.variableNameSize).toNat ≤ l)
    (hname : args.variableName = some buffer) :
    (getNextReply cfg args n l reply).1.status = .success ∧
      (getNextReply cfg args n l reply).1.variableNameSize =
        (reply.2.2.result.load16 GetParam.variableNameSize).toNat ∧
      (getNextReply cfg args n l reply).1.vendorGuid =
        some (.ofStore reply.2.2.result GetParam.vendorGuid) ∧
      (getNextReply cfg args n l reply).1.bytes = reply.2.2.result.read GetParam.variableName
        (reply.2.2.result.load16 GetParam.variableNameSize).toNat := by
  obtain ⟨status, size, st⟩ := reply
  obtain rfl : status = .success := hstatus
  have hne : EfiStatus.success ≠ .bufferTooSmall := by decide
  simp only at hlen
  have hsame := @ByteStore.read_write_same buffer.mem 0 (st.result.read GetParam.variableName
    (st.result.load16 GetParam.variableNameSize).toNat)
  rw [ByteStore.length_read] at hsame
  simp only [getNextReply, hne, if_false, ne_eq, not_true_eq_false, Nat.not_lt.mpr hlen,
    GetNextOutcome.bytes, hname, Option.map_some, Option.getD_some, true_and]
  exact hsame

/-- With the same result and more room for it an enumeration succeeds again. -/
lemma getNextReply_repeats {args args' : GetNextArgs} {buffer buffer' : NameBuffer}
    {n n' l l' : ℕ} {reply reply' : EfiStatus × ℕ × AuthVarState σ} (hle : l ≤ l')
    (hname : args.variableName = some buffer) (hname' : args'.variableName = some buffer')
    (hstatus' : reply'.1 = .success) (hresult : reply'.2.2.result = reply.2.2.result)
    (hsuccess : (getNextReply cfg args n l reply).1.status = .success) :
    (getNextReply cfg args n l reply).1.Repeats (getNextReply cfg args' n' l' reply').1 := by
  obtain ⟨hstatus, hlen⟩ := getNextReply_of_success hsuccess
  obtain ⟨-, hsize, hguid, hbytes⟩ := @getNextReply_success _ cfg _ n _ _ _ hstatus hlen hname
  have hlen' : (reply'.2.2.result.load16 GetParam.variableNameSize).toNat ≤ l' := by
    rw [hresult]
    exact hlen.trans hle
  obtain ⟨hsuccess', hsize', hguid', hbytes'⟩ :=
    @getNextReply_success _ cfg _ n' _ _ _ hstatus' hlen' hname'
  rw [hresult] at hsize' hguid' hbytes'
  exact ⟨hsuccess', hsize'.trans hsize.symm, hguid'.trans hguid.symm, hbytes'.trans hbytes.symm⟩

/-- An enumeration that succeeds does so with a bigger buffer that the transport has room
for. -/
lemma getNextSized_repeats (hta : SizedReplies ta) {guid : EfiGuid} {n n' : ℕ}
    {buffer buffer' : NameBuffer} (hname : buffer'.name = buffer.name) (hle : n ≤ n')
    (hlt : GetParam.sizeof + n' < 2 ^ 32)
    (hsuccess : (getNextSized cfg ta st guid n buffer).status = .success)
    (hfit : GetParam.sizeof + n' ≤ cfg.memSize) :
    (getNextSized cfg ta st guid n buffer).Repeats
      (getNextSized cfg ta st guid n' buffer') := by
  obtain ⟨hadmitted, hpass⟩ := getNextVariableName_of_success rfl rfl rfl hsuccess
  have hadmitted' : (buffer'.getNextArgs guid n').Admitted st n' buffer' guid :=
    ⟨hadmitted.boot, rfl, rfl, rfl, hadmitted.session, hadmitted.buffers⟩
  simp only [GetParam.sizeof] at hlt hfit
  have hn : n % 2 ^ 32 = n := Nat.mod_eq_of_lt (by omega)
  have hn' : n' % 2 ^ 32 = n' := Nat.mod_eq_of_lt (by omega)
  have hsize : (GetParam.sizeof + n) % 2 ^ 32 = GetParam.sizeof + n :=
    Nat.mod_eq_of_lt (by simp only [GetParam.sizeof]; omega)
  have hsize' : (GetParam.sizeof + n') % 2 ^ 32 = GetParam.sizeof + n' :=
    Nat.mod_eq_of_lt (by simp only [GetParam.sizeof]; omega)
  have hpass' : PassesChecks cfg GetParam.sizeof (localInSize buffer'.name) (n' % 2 ^ 32) := by
    obtain ⟨hfirst, hsecond⟩ := hpass
    rw [PassesChecks, hn', hsize', hname]
    simp only [GetParam.sizeof] at hsecond ⊢
    omega
  rw [getNextSized, getNextVariableName_eq hadmitted hpass, hn, hsize] at hsuccess ⊢
  rw [getNextSized, getNextVariableName_eq hadmitted' hpass', hn', hsize', hname]
  -- the replies are the same, and the second caller has at least as much room for the name
  obtain ⟨hstatus, -⟩ := getNextReply_of_success hsuccess
  obtain ⟨hstatus', hresult⟩ := invoke_same hta (Nat.add_le_add_left hle GetParam.sizeof) hstatus
  exact getNextReply_repeats hle rfl rfl hstatus' hresult hsuccess

lemma getNextSized_tooBig {guid : EfiGuid} {n n' : ℕ} {buffer buffer' : NameBuffer}
    (hlt : GetParam.sizeof + n' < 2 ^ 32)
    (hsuccess : (getNextSized cfg ta st guid n buffer).status = .success)
    (hbig : ¬ GetParam.sizeof + n' ≤ cfg.memSize) :
    getNextSized cfg ta st guid n' buffer' =
      (buffer'.getNextArgs guid n').exit .badBufferSize n' := by
  obtain ⟨hadmitted, -⟩ := getNextVariableName_of_success rfl rfl rfl hsuccess
  have hn' : n' % 2 ^ 32 = n' := Nat.mod_eq_of_lt (by omega)
  have hsize' : (GetParam.sizeof + n') % 2 ^ 32 = GetParam.sizeof + n' := Nat.mod_eq_of_lt hlt
  simp only [getNextSized, NameBuffer.getNextArgs, opteeRuntimeGetNextVariableName,
    hadmitted.boot, hadmitted.session, hadmitted.buffers, Bool.false_eq_true,
    Bool.true_eq_false, if_false, getNextChecked, hn', hsize']
  generalize (if buffer'.name.chars = [] then 0 else buffer'.name.strSize % 2 ^ 32) = localIn
  split
  · rfl
  · rw [if_pos (.inr (Nat.not_le.mp hbig))]

end Success

/-! ## Up to the transport -/

theorem biggerWithinTransport (cfg : AuthVarConfig) : BiggerWithinTransport cfg := by
  refine ⟨?_, ?_⟩
  · intro st key n n' data data' hle hlt hdata hhook hhook' hsuccess
    split
    next hfit =>
      exact getSized_repeats sizedReplies_idealTa hle hlt hdata hhook hhook' hsuccess hfit
    next hbig => exact getSized_tooBig hlt hdata hhook hhook' hsuccess hbig
  · intro st guid n n' buffer buffer' hname hle hlt hsuccess
    split
    next hfit => exact getNextSized_repeats sizedReplies_enumerationTa hname hle hlt hsuccess hfit
    next hbig => exact getNextSized_tooBig hlt hsuccess hbig

/-! ## A one-byte variable -/

/-- The driver over a store that has a one-byte variable under every key. -/
def oneByteDriver : AuthVarState TaStore :=
  { emptyDriver with ta := fun _ => some ⟨7, [1], by decide⟩ }

lemma oneByteDriver_ready : oneByteDriver.Ready := ⟨rfl, rfl, rfl⟩

/-- A get of `PK` with a buffer of `n` bytes. -/
def getPlatformKey (n : ℕ) : GetOutcome :=
  getSized largeConfig idealTa oneByteDriver platformKey n (some fun _ => 0)

lemma not_isTestHook_platformKey (n : ℕ) :
    isTestHook largeConfig platformKey.name platformKey.guid n = false := by
  have hhead : platformKey.name.chars.head? ≠ some 1 := by decide
  simp [isTestHook, hhead]

/-- What the get answers for a size that its 32-bit fields hold. -/
lemma getPlatformKey_eq {n : ℕ} (hlt : GetResult.sizeof + n < 2 ^ 32) : getPlatformKey n =
    if largeConfig.memSize < GetResult.sizeof + n then
      (platformKey.getArgs n (some fun _ => 0)).exit .badBufferSize
    else getAnswer (some (7, [1])) n (some fun _ => 0) := by
  have hname : ¬ largeConfig.memSize < GetParam.sizeof + platformKey.name.strSize := by
    rw [memSize_largeConfig]
    decide
  rw [getPlatformKey, getSized, VarKey.getArgs,
    get_of_ready oneByteDriver_ready (.inr rfl) (not_isTestHook_platformKey n)]
  have hget := @getChecked_idealTaWith largeConfig none platformKey.name platformKey.guid n
    oneByteDriver (platformKey.getArgs n (some fun _ => 0)) (by decide) hlt
  simp only [hname, false_or] at hget
  exact hget

/-- A buffer of one byte holds the variable. -/
lemma getPlatformKey_one : (getPlatformKey 1).status = .success := by
  rw [getPlatformKey_eq (by decide), memSize_largeConfig]
  rfl

theorem biggerWithinTransport_platformKey : (getPlatformKey 1).Repeats (getPlatformKey 100) := by
  have hwithin := (biggerWithinTransport largeConfig).1 oneByteDriver platformKey 1 100
    (some fun _ => 0) (some fun _ => 0) (by decide) (by decide) (.inr rfl)
    (not_isTestHook_platformKey 1) (not_isTestHook_platformKey 100) getPlatformKey_one
  rwa [if_pos (by rw [memSize_largeConfig]; decide)] at hwithin

/-- One of the size of the transport is too big for it. -/
lemma getPlatformKey_memSize : (getPlatformKey 131116).status = .badBufferSize := by
  rw [getPlatformKey_eq (by decide), memSize_largeConfig]
  rfl

/-- One of `2 ^ 32` bytes counts as empty. -/
lemma getPlatformKey_wide : (getPlatformKey (2 ^ 32)).status = .bufferTooSmall := by
  have hadmitted : (platformKey.getArgs (2 ^ 32) (some fun _ => 0)).Admitted oneByteDriver
      platformKey.name platformKey.guid (2 ^ 32) := ⟨rfl, rfl, rfl, rfl, by decide⟩
  have hpass : PassesChecks largeConfig GetResult.sizeof
      (platformKey.name.strSize % 2 ^ 32) (2 ^ 32 % 2 ^ 32) := by
    rw [PassesChecks, memSize_largeConfig]
    decide
  rw [getPlatformKey, getSized,
    getVariable_eq hadmitted (not_isTestHook_platformKey _) rfl rfl hpass]
  rfl

/-- A name and a GUID of the tests. -/
def testHookKey : VarKey where
  name := ⟨[1], by simp⟩
  guid := ⟨1 :: List.replicate 15 0, rfl⟩

lemma getTestHook_eight : (getSized largeConfig idealTa emptyDriver testHookKey 8
    (some fun _ => 0)).status = .success := by
  have hstops := @getVariable_testHook _ largeConfig (testHookKey.getArgs 8 (some fun _ => 0))
    emptyDriver testHookKey.name testHookKey.guid 8 ⟨rfl, rfl, rfl, rfl, by decide⟩ (by decide)
  rw [getSized, hstops.eq]
  rfl

lemma getTestHook_nine : (getSized largeConfig idealTa emptyDriver testHookKey 9
    (some fun _ => 0)).status = .notFound := by
  have hget := @getChecked_idealTaWith largeConfig none testHookKey.name testHookKey.guid 9
    emptyDriver (testHookKey.getArgs 9 (some fun _ => 0)) (by decide) (by decide)
  rw [memSize_largeConfig] at hget
  rw [getSized, VarKey.getArgs, get_of_ready emptyDriver_ready (.inr rfl) (by decide)]
  exact congrArg GetOutcome.status hget

/-- The variable fits one byte, but not a buffer of the size of the transport, nor one of
`2 ^ 32` bytes; and the answer of a hook of the tests is not repeated. -/
theorem not_biggerNeverHurts : ¬ BiggerNeverHurts largeConfig ∧
    ((getPlatformKey 1).status = .success ∧
      (getPlatformKey 131116).status = .badBufferSize ∧
      (getPlatformKey (2 ^ 32)).status = .bufferTooSmall) ∧
    (getSized largeConfig idealTa emptyDriver testHookKey 8 (some fun _ => 0)).status = .success ∧
    (getSized largeConfig idealTa emptyDriver testHookKey 9 (some fun _ => 0)).status =
      .notFound := by
  refine ⟨fun hclaim => ?_, ⟨getPlatformKey_one, getPlatformKey_memSize, getPlatformKey_wide⟩,
    getTestHook_eight, getTestHook_nine⟩
  have hrepeats := hclaim.1 oneByteDriver platformKey 1 131116 (some fun _ => 0)
    (some fun _ => 0) (by decide) (by decide) (.inr rfl) getPlatformKey_one
  exact absurd (getPlatformKey_memSize.symm.trans hrepeats.status) (by decide)

end AuthVar
end MuPlatform
