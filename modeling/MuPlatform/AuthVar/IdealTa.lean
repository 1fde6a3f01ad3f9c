import Mathlib.Logic.Function.Basic
import MuPlatform.AuthVar.Variables

/-!
# An ideal trusted application

A TA that keeps the variables in a map and reads its requests by the layout of
`UEFIVarServices.h`, and what the services do on top of it.  An invocation may also fail on
the way, for want of memory or in the transport; the store is then left alone.

* `getAnswer` is what a get is to answer from what the store has.
* `getChecked_idealTa` and `setChecked_idealTa`: on the ideal TA the services do what the
  store says, at the key `taKey`.
* `Frame`: a get changes nothing but the transport buffers.
-/

namespace MuPlatform
namespace AuthVar

open Optee

/-! ## The store -/

/-- A stored variable.  Its size, with the header of a reply, fits the 32-bit fields that
report it. -/
structure Variable where
  attributes : UInt32
  data : List UInt8
  data_lt : GetResult.sizeof + data.length < 2 ^ 32
  deriving DecidableEq

/-- The attributes and the data of a variable. -/
abbrev Contents := UInt32 × List UInt8

def Variable.contents (v : Variable) : Contents := (v.attributes, v.data)

/-- Variables are kept by the bytes of their name and of their GUID. -/
abbrev TaKey := List UInt8 × List UInt8

abbrev TaStore := TaKey → Option Variable

/-- The parameter bytes of a request as the TA reads them. -/
def TaRequest.mem (req : TaRequest) : ByteStore := ByteStore.write (fun _ => 0) 0 req.param

/-- `VARIABLE_GET_RESULT` for a variable. -/
def replyBytes (v : Variable) : List UInt8 :=
  ByteStore.leBytes 4 (GetResult.sizeof + v.data.length) ++
    (ByteStore.leBytes 4 v.attributes.toNat ++ (ByteStore.leBytes 4 v.data.length ++ v.data))

namespace TaRequest

/-! The fields of a request, by its layout. -/

def getKey (req : TaRequest) : TaKey :=
  (req.mem.read GetParam.variableName (req.mem.load16 GetParam.variableNameSize).toNat,
    req.mem.read GetParam.vendorGuid 16)

def setKey (req : TaRequest) : TaKey :=
  (req.mem.read (SetParam.payload + (req.mem.load32 SetParam.offsetVariableName).toNat)
      (req.mem.load16 SetParam.variableNameSize).toNat,
    req.mem.read SetParam.vendorGuid 16)

def setData (req : TaRequest) : List UInt8 :=
  req.mem.read (SetParam.payload + (req.mem.load32 SetParam.offsetData).toNat)
    (req.mem.load32 SetParam.dataSize).toNat

def setAttributes (req : TaRequest) : UInt32 := req.mem.load32 SetParam.attributes

end TaRequest

/-- The answer to a get of `found`.  Without room for the variable it carries the size of the
buffer it takes. -/
def storeGet (found : Option Variable) (resultSize : ℕ) : TaReply :=
  match found with
  | none => ⟨teecErrorItemNotFound, [], 0⟩
  | some v =>
    let required := GetResult.sizeof + v.data.length
    if resultSize < required then ⟨teecErrorShortBuffer, [], UInt32.ofNat required⟩
    else ⟨teecSuccess, replyBytes v, UInt32.ofNat required⟩

/-- A set of `key`.  No attributes delete the variable. -/
def storeSet (store : TaStore) (key : TaKey) (attributes : UInt32) (data : List UInt8) :
    TeecResult × TaStore :=
  if attributes = 0 then
    match store key with
    | none => (teecErrorItemNotFound, store)
    | some _ => (teecSuccess, Function.update store key none)
  else if h : GetResult.sizeof + data.length < 2 ^ 32 then
    (teecSuccess, Function.update store key (some ⟨attributes, data, h⟩))
  else (teecErrorBadParameters, store)

/-- The ideal TA for gets and sets. -/
def idealTa : Ta TaStore := fun req store =>
  match req.command with
  | .vsGetOp => (storeGet (store req.getKey) req.resultSize, store)
  | .vsSetOp =>
    match storeSet store req.setKey req.setAttributes req.setData with
    | (result, store) => (⟨result, [], 0⟩, store)
  | _ => (⟨teecErrorBadParameters, [], 0⟩, store)

/-- An invocation that fails on the way; the TA has a say in none of these results. -/
structure TaFault where
  code : TeecResult
  ne_success : code ≠ teecSuccess
  ne_itemNotFound : code ≠ teecErrorItemNotFound
  ne_shortBuffer : code ≠ teecErrorShortBuffer

/-- The ideal TA behind an invocation that may fail. -/
def idealTaWith : Option TaFault → Ta TaStore
  | none => idealTa
  | some fault => fun _ store => (⟨fault.code, [], 0⟩, store)

/-- A failed invocation is an error, and none of those the ideal TA answers. -/
lemma TaFault.status (fault : TaFault) : (statusOfTeec fault.code).isError = true ∧
    statusOfTeec fault.code ≠ .notFound ∧ statusOfTeec fault.code ≠ .bufferTooSmall := by
  obtain ⟨h, -⟩ | ⟨h, -⟩ | ⟨h, -⟩ | hother := statusOfTeec_cases fault.code
  · exact absurd h fault.ne_success
  · exact absurd h fault.ne_itemNotFound
  · exact absurd h fault.ne_shortBuffer
  · exact hother

/-! ## Frames -/

section Frame

variable {σ : Type*} {cfg : AuthVarConfig} {ta : Ta σ} {st st' st'' : AuthVarState σ}

/-- Nothing but the transport buffers and the measurements is different. -/
structure Frame (st st' : AuthVarState σ) : Prop where
  ta : st'.ta = st.ta
  buffersAllocated : st'.buffersAllocated = st.buffersAllocated
  atRuntime : st'.atRuntime = st.atRuntime
  session : st'.mTeecSessionOpened = st.mTeecSessionOpened
  sessionId : st'.sessionId = st.sessionId
  variableArchInstalled : st'.variableArchInstalled = st.variableArchInstalled

lemma Frame.refl (st : AuthVarState σ) : Frame st st := ⟨rfl, rfl, rfl, rfl, rfl, rfl⟩

lemma Frame.trans (h : Frame st st') (h' : Frame st' st'') : Frame st st'' :=
  ⟨h'.ta.trans h.ta, h'.buffersAllocated.trans h.buffersAllocated,
    h'.atRuntime.trans h.atRuntime, h'.session.trans h.session, h'.sessionId.trans h.sessionId,
    h'.variableArchInstalled.trans h.variableArchInstalled⟩

/-- The TA keeps its state over a get. -/
def KeepsOnGet (ta : Ta σ) : Prop := ∀ req s, req.command = .vsGetOp → (ta req s).2 = s

lemma keepsOnGet_idealTaWith (fault : Option TaFault) : KeepsOnGet (idealTaWith fault) := by
  intro req s hreq
  cases fault with
  | none => simp only [idealTaWith, idealTa, hreq]
  | some fault => rfl

lemma getReply_snd {args : GetArgs} {m n : ℕ} {reply : EfiStatus × ℕ × AuthVarState σ} :
    (getReply cfg args m n reply).2 = reply.2.2 := by
  obtain ⟨status, size, st⟩ := reply
  simp only [getReply]
  split
  · rfl
  split
  · rfl
  split
  · rfl
  · rfl

lemma frame_getChecked (hta : KeepsOnGet ta) {args : GetArgs} {name : Char16String}
    {guid : EfiGuid} {dataSize : ℕ} :
    Frame st (getChecked cfg ta args name guid dataSize st).2 := by
  simp only [getChecked]
  split
  · exact Frame.refl st
  split
  · exact Frame.refl st
  · rw [getReply_snd]
    exact ⟨hta _ _ rfl, rfl, rfl, rfl, rfl, rfl⟩

/-- A get leaves the state of the driver and of the TA as they are. -/
lemma frame_get (hta : KeepsOnGet ta) {args : GetArgs} :
    Frame st (opteeRuntimeGetVariable cfg ta args st).2 := by
  unfold opteeRuntimeGetVariable
  split
  · exact Frame.refl st
  split
  · split
    · exact Frame.refl st
    split
    · exact Frame.refl st
    split
    · exact Frame.refl st
    split
    · exact Frame.refl st
    · exact frame_getChecked hta
  · exact Frame.refl st

lemma frame_internalGetVariable {hook : HookEnv σ} (hta : KeepsOnGet hook.ta)
    {name : Char16String} {guid : EfiGuid} :
    Frame st (internalGetVariable cfg hook name guid st).2.2 := by
  have hsize := @frame_get σ cfg hook.ta st hta ⟨some name, some guid, some 0, none⟩
  simp only [internalGetVariable]
  split
  · exact hsize
  split
  · exact hsize
  · split
    · exact hsize.trans (frame_get hta)
    · exact hsize.trans (frame_get hta)

/-- The hook reads and measures. -/
lemma frame_secureBootHook {hook : HookEnv σ} (hta : KeepsOnGet hook.ta)
    {name : Char16String} {guid : EfiGuid} :
    Frame st (secureBootHook cfg hook name guid st) := by
  unfold secureBootHook
  split
  · exact Frame.refl st
  split
  · exact Frame.refl st
  · obtain ⟨h₀, h₁, h₂, h₃, h₄, h₅⟩ :=
      @frame_internalGetVariable σ cfg st hook hta name guid
    exact ⟨h₀, h₁, h₂, h₃, h₄, h₅⟩

end Frame

/-! ## Requests as the TA reads them -/

/-- The key the TA gets for a name and a GUID: `VariableNameSize` has sixteen bits. -/
def taKey (name : Char16String) (guid : EfiGuid) : TaKey :=
  (name.bytes.take (name.strSize % 2 ^ 16), guid.bytes)

section Decode

variable {cfg : AuthVarConfig} {name : Char16String} {guid : EfiGuid} {m : ByteStore}
  {command : VariableServiceOp} {n k x : ℕ}

/-- Inside the request the TA sees the transport buffer. -/
lemma TaRequest.mem_apply (hx : x < n) :
    TaRequest.mem ⟨command, m.read 0 n, k⟩ x = m x := by
  have hlen : x < (m.read 0 n).length := by simpa using hx
  have happly := @ByteStore.write_apply_on (fun _ => 0) 0 x (m.read 0 n) hlen
  rw [Nat.zero_add] at happly
  show ByteStore.write (fun _ => 0) 0 (m.read 0 n) x = m x
  rw [happly, ByteStore.getElem_read, Nat.zero_add]

lemma TaRequest.mem_load16 (hx : x + 2 ≤ n) :
    (TaRequest.mem ⟨command, m.read 0 n, k⟩).load16 x = m.load16 x :=
  ByteStore.load16_congr fun _ _ => TaRequest.mem_apply (by omega)

lemma TaRequest.mem_load32 (hx : x + 4 ≤ n) :
    (TaRequest.mem ⟨command, m.read 0 n, k⟩).load32 x = m.load32 x :=
  ByteStore.load32_congr fun _ _ => TaRequest.mem_apply (by omega)

lemma TaRequest.mem_read {l : ℕ} (hx : x + l ≤ n) :
    (TaRequest.mem ⟨command, m.read 0 n, k⟩).read x l = m.read x l :=
  ByteStore.read_congr fun _ _ => TaRequest.mem_apply (by omega)

/-- What a get lays out in the transport buffer. -/
lemma encodeGet_fields : (encodeGet cfg name guid name.strSize m).load16
      GetParam.variableNameSize = UInt16.ofNat name.strSize ∧
    (encodeGet cfg name guid name.strSize m).read GetParam.vendorGuid 16 = guid.bytes ∧
    (encodeGet cfg name guid name.strSize m).read GetParam.variableName name.strSize =
      name.bytes := by
  have hguid := guid.length_eq
  have hname : name.bytes.take name.strSize = name.bytes :=
    List.take_of_length_le name.length_bytes.le
  simp only [encodeGet, hname, GetParam.variableNameSize, GetParam.vendorGuid,
    GetParam.variableName]
  refine ⟨?_, ?_, ?_⟩
  · rw [ByteStore.load16_write_off (by omega), ByteStore.load16_write_off (by omega),
      ByteStore.load16_store16_same]
  · rw [ByteStore.read_write_disjoint (by omega), ← hguid, ByteStore.read_write_same]
  · rw [← name.length_bytes, ByteStore.read_write_same]

/-- The TA reads the name and the GUID of a get. -/
lemma getKey_encodeGet (hn : GetParam.sizeof + name.strSize ≤ n) :
    TaRequest.getKey ⟨command, (encodeGet cfg name guid name.strSize m).read 0 n, k⟩ =
      taKey name guid := by
  obtain ⟨hsize, hguid, hname⟩ := @encodeGet_fields cfg name guid m
  have hle : name.strSize % 2 ^ 16 ≤ name.strSize := Nat.mod_le _ _
  simp only [GetParam.sizeof] at hn
  rw [TaRequest.getKey, TaRequest.mem_load16 (by simp only [GetParam.variableNameSize]; omega),
    hsize, UInt16.toNat_ofNat', TaRequest.mem_read (by simp only [GetParam.variableName]; omega),
    TaRequest.mem_read (by simp only [GetParam.vendorGuid]; omega), hguid, taKey, ← hname,
    ByteStore.read_take hle]

/-- What a set lays out in the transport buffer. -/
lemma encodeSet_fields {args : SetArgs} :
    (encodeSet cfg args name guid m).load16 SetParam.variableNameSize =
      UInt16.ofNat name.strSize ∧
    (encodeSet cfg args name guid m).read SetParam.vendorGuid 16 = guid.bytes ∧
    (encodeSet cfg args name guid m).load32 SetParam.attributes = args.attributes ∧
    (encodeSet cfg args name guid m).load32 SetParam.dataSize = UInt32.ofNat args.dataSize ∧
    (encodeSet cfg args name guid m).load32 SetParam.offsetVariableName = 0 ∧
    (encodeSet cfg args name guid m).load32 SetParam.offsetData = UInt32.ofNat name.strSize ∧
    (encodeSet cfg args name guid m).read SetParam.payload name.strSize = name.bytes ∧
    (encodeSet cfg args name guid m).read (SetParam.payload + name.strSize) args.dataSize =
      args.bytes := by
  have hguid := guid.length_eq
  have hname := name.length_bytes
  have hdata : args.bytes.length = args.dataSize := ByteStore.length_read
  simp only [encodeSet, SetParam.size, SetParam.variableNameSize, SetParam.vendorGuid,
    SetParam.attributes, SetParam.dataSize, SetParam.offsetVariableName, SetParam.offsetData,
    SetParam.payload]
  refine ⟨?_, ?_, ?_, ?_, ?_, ?_, ?_, ?_⟩
  · rw [ByteStore.load16_write_off (by omega), ByteStore.load16_write_off (by omega),
      ByteStore.load16_write_off (by omega), ByteStore.load16_store32_off (by omega),
      ByteStore.load16_store32_off (by omega), ByteStore.load16_store32_off (by omega),
      ByteStore.load16_store32_off (by omega), ByteStore.load16_store16_same]
  · rw [ByteStore.read_write_disjoint (by omega), ByteStore.read_write_disjoint (by omega),
      ← hguid, ByteStore.read_write_same]
  · rw [ByteStore.load32_write_off (by omega), ByteStore.load32_write_off (by omega),
      ByteStore.load32_write_off (by omega), ByteStore.load32_store32_off (by omega),
      ByteStore.load32_store32_off (by omega), ByteStore.load32_store32_off (by omega),
      ByteStore.load32_store32_same]
  · rw [ByteStore.load32_write_off (by omega), ByteStore.load32_write_off (by omega),
      ByteStore.load32_write_off (by omega), ByteStore.load32_store32_off (by omega),
      ByteStore.load32_store32_off (by omega), ByteStore.load32_store32_same]
  · rw [ByteStore.load32_write_off (by omega), ByteStore.load32_write_off (by omega),
      ByteStore.load32_write_off (by omega), ByteStore.load32_store32_off (by omega),
      ByteStore.load32_store32_same]
  · rw [ByteStore.load32_write_off (by omega), ByteStore.load32_write_off (by omega),
      ByteStore.load32_write_off (by omega), ByteStore.load32_store32_same]
  · rw [ByteStore.read_write_disjoint (by omega), ← hname, ByteStore.read_write_same]
  · rw [← hdata, ByteStore.read_write_same]

section DecodeSet

variable {args : SetArgs} (hn : SetParam.sizeof + name.strSize + args.dataSize ≤ n)
include hn

lemma setKey_encodeSet : TaRequest.setKey
    ⟨command, (encodeSet cfg args name guid m).read 0 n, k⟩ = taKey name guid := by
  obtain ⟨hsize, hguid, -, -, hoffset, -, hname, -⟩ := @encodeSet_fields cfg name guid m args
  have hle : name.strSize % 2 ^ 16 ≤ name.strSize := Nat.mod_le _ _
  simp only [SetParam.sizeof] at hn
  rw [TaRequest.setKey, TaRequest.mem_load16 (by simp only [SetParam.variableNameSize]; omega),
    hsize, UInt16.toNat_ofNat',
    TaRequest.mem_load32 (by simp only [SetParam.offsetVariableName]; omega), hoffset,
    UInt32.toNat_zero, Nat.add_zero,
    TaRequest.mem_read (by simp only [SetParam.payload]; omega),
    TaRequest.mem_read (by simp only [SetParam.vendorGuid]; omega), hguid, taKey, ← hname,
    ByteStore.read_take hle]

lemma setAttributes_encodeSet : TaRequest.setAttributes
    ⟨command, (encodeSet cfg args name guid m).read 0 n, k⟩ = args.attributes := by
  obtain ⟨-, -, hattributes, -⟩ := @encodeSet_fields cfg name guid m args
  simp only [SetParam.sizeof] at hn
  rw [TaRequest.setAttributes,
    TaRequest.mem_load32 (by simp only [SetParam.attributes]; omega), hattributes]

lemma setData_encodeSet (hlt : n < 2 ^ 32) : TaRequest.setData
    ⟨command, (encodeSet cfg args name guid m).read 0 n, k⟩ = args.bytes := by
  obtain ⟨-, -, -, hsize, -, hoffset, -, hdata⟩ := @encodeSet_fields cfg name guid m args
  simp only [SetParam.sizeof] at hn
  rw [TaRequest.setData, TaRequest.mem_load32 (by simp only [SetParam.offsetData]; omega),
    hoffset, TaRequest.mem_load32 (by simp only [SetParam.dataSize]; omega), hsize,
    UInt32.toNat_ofNat', UInt32.toNat_ofNat', Nat.mod_eq_of_lt (by omega),
    Nat.mod_eq_of_lt (by omega), TaRequest.mem_read (by simp only [SetParam.payload]; omega),
    hdata]

end DecodeSet

end Decode

/-! ## Replies as the driver reads them -/

section Reply

variable {m : ByteStore} {v : Variable}

lemma length_replyBytes (v : Variable) :
    (replyBytes v).length = GetResult.data + v.data.length := by
  simp only [replyBytes, List.length_append, ByteStore.length_leBytes, GetResult.data]
  omega

/-- A reply gives the attributes, the size and the data of its variable. -/
lemma replyBytes_fields :
    (m.write 0 (replyBytes v)).load32 GetResult.attributes = v.attributes ∧
    (m.write 0 (replyBytes v)).load32 GetResult.dataSize = UInt32.ofNat v.data.length ∧
    (m.write 0 (replyBytes v)).read GetResult.data v.data.length = v.data := by
  have hlen : (UInt32.ofNat v.data.length).toNat = v.data.length := by
    have hlt := v.data_lt
    rw [UInt32.toNat_ofNat']
    exact Nat.mod_eq_of_lt (by omega)
  have hwrite : m.write 0 (replyBytes v) =
      (((m.write 0 (ByteStore.leBytes 4 (GetResult.sizeof + v.data.length))).store32 4
        v.attributes).store32 8 (UInt32.ofNat v.data.length)).write 12 v.data := by
    simp only [replyBytes, ByteStore.write_append, ByteStore.length_leBytes,
      ByteStore.store32, hlen]
  rw [hwrite]
  refine ⟨?_, ?_, ?_⟩
  · rw [GetResult.attributes, ByteStore.load32_write_off (by omega),
      ByteStore.load32_store32_off (by omega), ByteStore.load32_store32_same]
  · rw [GetResult.dataSize, ByteStore.load32_write_off (by omega),
      ByteStore.load32_store32_same]
  · exact ByteStore.read_write_same

end Reply

/-! ## The services on the ideal TA -/

/-- What a get into `dataSize` bytes at `data` answers where the store has `found`. -/
def getAnswer (found : Option Contents) (dataSize : ℕ) (data : Option ByteStore) : GetOutcome :=
  match found with
  | none => ⟨.notFound, some 0, dataSize, data⟩
  | some (attributes, bytes) =>
    if dataSize < bytes.length then ⟨.bufferTooSmall, some 0, bytes.length, data⟩
    else ⟨.success, some attributes, bytes.length, data.map (·.write 0 bytes)⟩

/-- The same where the invocation may have failed. -/
def getAnswerWith (fault : Option TaFault) (found : Option Contents) (dataSize : ℕ)
    (data : Option ByteStore) : GetOutcome :=
  match fault with
  | none => getAnswer found dataSize data
  | some fault => ⟨statusOfTeec fault.code, some 0, dataSize, data⟩

section Services

variable {cfg : AuthVarConfig} {fault : Option TaFault} {name : Char16String} {guid : EfiGuid}
  {dataSize n k : ℕ} {st : AuthVarState TaStore}

lemma load32_fill_zero {m : ByteStore} (h : k + 4 ≤ n) : (m.fill 0 n 0).load32 k = 0 := by
  have hread : (m.fill 0 n 0).load32 k = ByteStore.load32 (fun _ => 0) k :=
    ByteStore.load32_congr fun i hi => ByteStore.fill_apply_on ⟨Nat.zero_le _, by omega⟩
  rw [hread]
  rfl

/-- The reply to a get, read from a cleared result buffer. -/
lemma getReply_storeGet {σ : Type*} {st : AuthVarState σ} {args : GetArgs}
    {found : Option Variable} {m : ByteStore}
    (hmem : GetResult.sizeof + dataSize ≤ cfg.memSize)
    (hresult : st.result = (m.fill 0 cfg.memSize 0).write 0
      ((storeGet found (GetResult.sizeof + dataSize)).result.take
        (GetResult.sizeof + dataSize))) :
    (getReply cfg args dataSize dataSize
      (statusOfTeec (storeGet found (GetResult.sizeof + dataSize)).teecResult,
        (storeGet found (GetResult.sizeof + dataSize)).valueA.toNat, st)).1 =
      getAnswer (found.map Variable.contents) dataSize args.data := by
  simp only [GetResult.sizeof] at hmem
  have hattributes : (m.fill 0 cfg.memSize 0).load32 GetResult.attributes = 0 :=
    load32_fill_zero (by simp only [GetResult.attributes]; omega)
  cases found with
  | none =>
      have hstatus : statusOfTeec teecErrorItemNotFound = .notFound := by decide
      simp [getReply, hresult, storeGet, getAnswer, hattributes, hstatus]
  | some v =>
      have hlt := v.data_lt
      simp only [GetResult.sizeof] at hlt
      by_cases hroom : dataSize < v.data.length
      · -- the short buffer: the size of the header is taken off the size of the reply
        have hstatus : statusOfTeec teecErrorShortBuffer = .bufferTooSmall := by decide
        have hsize : cfg.arch.uintn ((16 + v.data.length) % 2 ^ 32 + 2 ^ cfg.arch.uintnBits - 16) =
            v.data.length := by
          have hbits : 2 ^ 32 ≤ 2 ^ cfg.arch.uintnBits :=
            Nat.pow_le_pow_right (by decide) (by cases cfg.arch <;> decide)
          have hsub : (16 + v.data.length) % 2 ^ 32 + 2 ^ cfg.arch.uintnBits - 16 =
              v.data.length + 2 ^ cfg.arch.uintnBits := by
            rw [Nat.mod_eq_of_lt hlt]
            omega
          rw [hsub, Arch.uintn, Nat.add_mod_right, Nat.mod_eq_of_lt (by omega)]
        have hget : storeGet (some v) (GetResult.sizeof + dataSize) =
            ⟨teecErrorShortBuffer, [], UInt32.ofNat (GetResult.sizeof + v.data.length)⟩ :=
          if_pos (by omega)
        rw [hget] at hresult ⊢
        simp only [getReply, hresult, hstatus, if_true, UInt32.toNat_ofNat', GetResult.sizeof,
          hsize, List.take_nil, ByteStore.write_nil, hattributes, getAnswer, Option.map_some,
          Variable.contents, hroom]
      · have hstatus : statusOfTeec teecSuccess = .success := by decide
        have hget : storeGet (some v) (GetResult.sizeof + dataSize) =
            ⟨teecSuccess, replyBytes v, UInt32.ofNat (GetResult.sizeof + v.data.length)⟩ :=
          if_neg (by omega)
        have htake : (replyBytes v).take (GetResult.sizeof + dataSize) = replyBytes v := by
          refine List.take_of_length_le ?_
          rw [length_replyBytes, GetResult.data, GetResult.sizeof]
          omega
        have hlen : (UInt32.ofNat v.data.length).toNat = v.data.length := by
          rw [UInt32.toNat_ofNat']
          exact Nat.mod_eq_of_lt (by omega)
        obtain ⟨hattr, hsize, hdata⟩ := @replyBytes_fields (m.fill 0 cfg.memSize 0) v
        have hne : EfiStatus.success ≠ .bufferTooSmall := by decide
        rw [hget] at hresult ⊢
        simp only [getReply, hresult, hstatus, hne, if_false, ne_eq, not_true_eq_false, htake,
          hattr, hsize, hlen, hdata, getAnswer, Option.map_some, Variable.contents, hroom]

/-- A get on the ideal TA answers from the store, if its request fits the buffers. -/
theorem getChecked_idealTaWith {args : GetArgs} (hname : GetParam.sizeof + name.strSize < 2 ^ 32)
    (hsize : GetResult.sizeof + dataSize < 2 ^ 32) :
    (getChecked cfg (idealTaWith fault) args name guid dataSize st).1 =
      if cfg.memSize < GetParam.sizeof + name.strSize ∨
        cfg.memSize < GetResult.sizeof + dataSize then args.exit .badBufferSize
      else getAnswerWith fault ((st.ta (taKey name guid)).map Variable.contents) dataSize
        args.data := by
  have hs : name.strSize % 2 ^ 32 = name.strSize := Nat.mod_eq_of_lt (by omega)
  have hd : dataSize % 2 ^ 32 = dataSize := Nat.mod_eq_of_lt (by omega)
  simp only [getChecked, hs, hd, Nat.mod_eq_of_lt hname, Nat.mod_eq_of_lt hsize]
  by_cases hfit : cfg.memSize < GetParam.sizeof + name.strSize ∨
      cfg.memSize < GetResult.sizeof + dataSize
  · rw [if_pos hfit, if_pos hfit, ite_self]
  · have hfirst : ¬ (cfg.memSize ≤ name.strSize ∨ cfg.memSize ≤ dataSize) := by
      simp only [GetParam.sizeof, GetResult.sizeof] at hfit
      omega
    rw [if_neg hfirst, if_neg hfit, if_neg hfit]
    obtain ⟨-, hmem⟩ := not_or.mp hfit
    rw [Nat.not_lt] at hmem
    cases fault with
    | none =>
        have hkey := @getKey_encodeGet cfg name guid st.param .vsGetOp _
          (GetResult.sizeof + dataSize) le_rfl
        simp only [opteeRuntimeVariableInvokeCommand, idealTaWith, idealTa, hkey, getAnswerWith]
        exact getReply_storeGet hmem rfl
    | some fault =>
        obtain ⟨herror, -, hshort⟩ := fault.status
        have hne := EfiStatus.ne_success_of_isError herror
        have hattributes : (st.result.fill 0 cfg.memSize 0).load32 GetResult.attributes = 0 :=
          load32_fill_zero (by simp only [GetResult.attributes, GetResult.sizeof] at hmem ⊢; omega)
        simp only [opteeRuntimeVariableInvokeCommand, idealTaWith, getReply, hshort, if_false, hne,
          ne_eq, not_false_eq_true, if_true, List.take_nil, ByteStore.write_nil, hattributes,
          getAnswerWith]

/-- The result of a set on the ideal TA: the status, and the store it leaves. -/
def setAnswer (fault : Option TaFault) (store : TaStore) (key : TaKey) (attributes : UInt32)
    (data : List UInt8) : EfiStatus × TaStore :=
  match fault with
  | none =>
    match storeSet store key attributes data with
    | (result, store) => (statusOfTeec result, store)
  | some fault => (statusOfTeec fault.code, store)

/-- A set on the ideal TA updates the store, if its request fits the buffer. -/
theorem setChecked_idealTaWith {hook : HookEnv TaStore} (hhook : KeepsOnGet hook.ta)
    {args : SetArgs} (hsize : SetParam.sizeof + name.strSize + args.dataSize < 2 ^ 32)
    (hfit : SetParam.sizeof + name.strSize + args.dataSize ≤ cfg.memSize) :
    (setChecked cfg (idealTaWith fault) hook args name guid st).1 =
        (setAnswer fault st.ta (taKey name guid) args.attributes args.bytes).1 ∧
      (setChecked cfg (idealTaWith fault) hook args name guid st).2.ta =
        (setAnswer fault st.ta (taKey name guid) args.attributes args.bytes).2 := by
  have hbits : 2 ^ 32 ≤ 2 ^ cfg.arch.uintnBits :=
    Nat.pow_le_pow_right (by decide) (by cases cfg.arch <;> decide)
  have huintn : cfg.arch.uintn (SetParam.sizeof + name.strSize + args.dataSize) =
      SetParam.sizeof + name.strSize + args.dataSize := Arch.uintn_of_lt (by omega)
  have hfirst : ¬ (cfg.memSize ≤ name.strSize ∨ cfg.memSize ≤ args.dataSize) := by
    simp only [SetParam.sizeof] at hfit
    omega
  have hta : ∀ st' : AuthVarState TaStore,
      (secureBootHook cfg hook name guid st').ta = st'.ta :=
    fun st' => (frame_secureBootHook hhook).ta
  simp only [setChecked, huintn, if_neg hfirst, if_neg (Nat.not_lt.mpr hfit),
    Nat.mod_eq_of_lt hsize]
  cases fault with
  | none =>
      simp only [opteeRuntimeVariableInvokeCommand, idealTaWith, idealTa,
        setKey_encodeSet le_rfl, setAttributes_encodeSet le_rfl,
        setData_encodeSet le_rfl hsize, setAnswer]
      split
      · exact ⟨rfl, rfl⟩
      · exact ⟨rfl, hta _⟩
  | some fault =>
      simp only [opteeRuntimeVariableInvokeCommand, idealTaWith, setAnswer, fault.status.1,
        if_true, true_and]

/-- At boot time with a session, a get with good pointers gets to the TA. -/
lemma get_of_ready (hready : st.Ready) {ta : Ta TaStore} {data : Option ByteStore}
    (hdata : dataSize = 0 ∨ data.isSome) (hhook : isTestHook cfg name guid dataSize = false) :
    opteeRuntimeGetVariable cfg ta ⟨some name, some guid, some dataSize, data⟩ st =
      getChecked cfg ta ⟨some name, some guid, some dataSize, data⟩ name guid dataSize st := by
  obtain ⟨hboot, hsession, hbuffers⟩ := hready
  have hnull : ¬ (dataSize ≠ 0 ∧ data.isNone = true) := by
    rintro ⟨hne, hnone⟩
    rcases hdata with h | h
    · exact hne h
    · simp [Option.isNone_iff_eq_none.mp hnone] at h
  simp only [opteeRuntimeGetVariable, hboot, hsession, hbuffers, hnull, hhook,
    Bool.false_eq_true, Bool.true_eq_false, if_false]

/-- At boot time with a session, a set with good arguments gets to the TA. -/
lemma set_of_ready (hready : st.Ready) {ta : Ta TaStore} {hook : HookEnv TaStore}
    {attributes : UInt32} {data : Option ByteStore} (hname : name.chars ≠ [])
    (hdata : dataSize = 0 ∨ data.isSome) (hhook : isTestHook cfg name guid dataSize = false) :
    opteeRuntimeSetVariable cfg ta hook ⟨some name, some guid, attributes, dataSize, data⟩ st =
      setChecked cfg ta hook ⟨some name, some guid, attributes, dataSize, data⟩ name guid
        st := by
  obtain ⟨hboot, hsession, -⟩ := hready
  have hnull : ¬ (dataSize ≠ 0 ∧ data.isNone = true) := by
    rintro ⟨hne, hnone⟩
    rcases hdata with h | h
    · exact hne h
    · simp [Option.isNone_iff_eq_none.mp hnone] at h
  simp only [opteeRuntimeSetVariable, hboot, hsession, hname, hnull, hhook,
    Bool.false_eq_true, Bool.true_eq_false, if_false]

end Services

end AuthVar
end MuPlatform
