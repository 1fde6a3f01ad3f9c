import MuPlatform.AuthVar.VariableMap

/-!
# The enumeration of the variables

The loop of a caller of `OpteeRuntimeGetNextVariableName` (as `VerifyVariableEnumerable` in
`AuthVarTest.c` has it): it starts with the empty name, passes back the name and the GUID it
was given, and regrows its buffer to the size a short buffer asks for.

`enumerationTa` is an ideal TA that has the variables in a fixed order.  The loop visits all
of them in that order and ends with `EFI_NOT_FOUND` exactly when `VariableNameSize`, which has
sixteen bits in a reply, counts the bytes of every name (`enumeratesAll_iff`).
-/

namespace MuPlatform
namespace AuthVar

open Optee

/-! ## Strings in memory -/

/-- The string at `a`, if one of the `n` characters there ends it. -/
def readString (m : ByteStore) : ℕ → ℕ → Option Char16String
  | 0, _ => none
  | n + 1, a =>
    if h : m.load16 a = 0 then some ⟨[], fun _ hc => by simp at hc⟩
    else (readString m n (a + 2)).map fun s =>
      ⟨m.load16 a :: s.chars, fun c hc => by
        rcases List.mem_cons.mp hc with rfl | hc
        · exact h
        · exact s.chars_ne_zero c hc⟩

namespace Char16String

variable {m : ByteStore} {s s' : Char16String} {n a : ℕ}

lemma read_load16 (m : ByteStore) (a : ℕ) :
    m.read a 2 = ByteStore.leBytes 2 (m.load16 a).toNat := by
  have hlt : ByteStore.loadNat m a 2 < 2 ^ 16 := ByteStore.loadNat_lt
  have hread := ByteStore.leBytes_leNat (m.read a 2)
  rw [ByteStore.length_read] at hread
  rw [ByteStore.load16, UInt16.toNat_ofNat', Nat.mod_eq_of_lt hlt]
  exact hread.symm

/-- What `readString` finds lies in memory with its terminator. -/
lemma holds_of_readString (h : readString m n a = some s) : m.read a s.strSize = s.bytes := by
  induction n generalizing a s with
  | zero => cases h
  | succ n ih =>
      rw [readString] at h
      by_cases hzero : m.load16 a = 0
      · rw [dif_pos hzero] at h
        obtain rfl := (Option.some.inj h).symm
        show m.read a 2 = ByteStore.leBytes 2 (0 : UInt16).toNat ++ []
        rw [read_load16, hzero, List.append_nil]
      · rw [dif_neg hzero] at h
        obtain ⟨tail, htail, rfl⟩ := Option.map_eq_some_iff.mp h
        have hsize : 2 * ((m.load16 a :: tail.chars).length + 1) = 2 + tail.strSize := by
          simp only [strSize, List.length_cons]
          omega
        show m.read a (2 * ((m.load16 a :: tail.chars).length + 1)) = _
        rw [hsize, ByteStore.read_append, read_load16, ih htail]
        exact (wideBytes_cons _ _).symm

/-- A string that lies in memory is found, if its terminator is within reach. -/
lemma readString_of_holds (h : m.read a s.strSize = s.bytes) (hn : s.strSize ≤ 2 * n) :
    readString m n a = some s := by
  obtain ⟨chars, hchars⟩ := s
  induction chars generalizing a n with
  | nil =>
      obtain _ | n := n
      · simp [strSize] at hn
      have hzero : m.load16 a = 0 := by
        have hread : m.read a 2 = ByteStore.leBytes 2 0 := h
        have hload : ByteStore.loadNat m a 2 = 0 := by
          rw [ByteStore.loadNat, hread, ByteStore.leNat_leBytes]
          rfl
        rw [ByteStore.load16, hload]
        rfl
      rw [readString, dif_pos hzero]
  | cons c cs ih =>
      obtain _ | n := n
      · simp [strSize] at hn
      have hc : c ≠ 0 := hchars c List.mem_cons_self
      have hcs : ∀ c ∈ cs, c ≠ 0 := fun c' hc' => hchars c' (List.mem_cons_of_mem _ hc')
      have hsize : strSize ⟨c :: cs, hchars⟩ = 2 + strSize ⟨cs, hcs⟩ := by
        simp only [strSize, List.length_cons]
        omega
      have hbytes : bytes ⟨c :: cs, hchars⟩ =
          ByteStore.leBytes 2 c.toNat ++ bytes ⟨cs, hcs⟩ := wideBytes_cons _ _
      rw [hsize, ByteStore.read_append, hbytes] at h
      obtain ⟨hhead, htail⟩ := List.append_inj h (by simp)
      have hload : m.load16 a = c := by
        rw [ByteStore.load16, ByteStore.loadNat, hhead, ByteStore.leNat_leBytes]
        have hlt := c.toNat_lt
        rw [Nat.mod_eq_of_lt (by omega), UInt16.ofNat_toNat]
      have hrest : readString m n (a + 2) = some ⟨cs, hcs⟩ :=
        ih hcs htail (by rw [hsize] at hn; omega)
      subst hload
      rw [readString, dif_neg hc, hrest]
      rfl

/-- Strings with the same bytes are the same. -/
lemma eq_of_bytes (h : s.bytes = s'.bytes) : s = s' := by
  have hsize : s.strSize = s'.strSize := by
    rw [← s.length_bytes, h, s'.length_bytes]
  have hs : readString (ByteStore.write (fun _ => 0) 0 s.bytes) s.strSize 0 = some s := by
    refine readString_of_holds ?_ (by omega)
    rw [← s.length_bytes, ByteStore.read_write_same]
  have hs' : readString (ByteStore.write (fun _ => 0) 0 s.bytes) s.strSize 0 = some s' := by
    refine readString_of_holds ?_ (by omega)
    rw [h, ← s'.length_bytes, ByteStore.read_write_same]
  exact Option.some.inj (hs.symm.trans hs')

lemma strSize_le_of_readString (h : readString m n a = some s) : s.strSize ≤ 2 * n := by
  induction n generalizing a s with
  | zero => cases h
  | succ n ih =>
      rw [readString] at h
      by_cases hzero : m.load16 a = 0
      · rw [dif_pos hzero] at h
        obtain rfl := (Option.some.inj h).symm
        simp only [strSize, List.length_nil]
        omega
      · rw [dif_neg hzero] at h
        obtain ⟨tail, htail, rfl⟩ := Option.map_eq_some_iff.mp h
        have hle := ih htail
        simp only [strSize, List.length_cons] at hle ⊢
        omega

/-- The string that is found is the one that lies in memory. -/
lemma eq_of_readString (h : readString m n a = some s)
    (hs' : m.read a s'.strSize = s'.bytes) : s = s' := by
  have hfound : ∀ k, s.strSize ≤ 2 * k → readString m k a = some s := fun k hk =>
    readString_of_holds (holds_of_readString h) hk
  have hlies : readString m (s.strSize + s'.strSize) a = some s' :=
    readString_of_holds hs' (by omega)
  exact Option.some.inj ((hfound _ (by omega)).symm.trans hlies)

end Char16String

lemma EfiGuid.eq_of_bytes {guid guid' : EfiGuid} (h : guid.bytes = guid'.bytes) :
    guid = guid' := by
  cases guid
  cases guid'
  simpa using h

/-! ## The trusted application -/

/-- The name and the GUID of a variable as bytes. -/
def VarKey.bytes (key : VarKey) : TaKey := (key.name.bytes, key.guid.bytes)

/-- The variable after the one with the given bytes; an empty name asks for the first. -/
def nextKey (store : List VarKey) (key : TaKey) : Option VarKey :=
  if key.1 = [] then store.head?
  else ((store.dropWhile fun k => k.bytes ≠ key).drop 1).head?

/-- `VARIABLE_GET_NEXT_RESULT` for a variable. -/
def nextBytes (key : VarKey) : List UInt8 :=
  ByteStore.leBytes 4 GetParam.sizeof ++ (ByteStore.leBytes 2 key.name.strSize ++
    ([0, 0] ++ (key.guid.bytes ++ key.name.bytes)))

/-- The answer to a request for the next variable. -/
def nextAnswer (next : Option VarKey) (resultSize : ℕ) : TaReply :=
  match next with
  | none => ⟨teecErrorItemNotFound, [], 0⟩
  | some key =>
    let required := GetParam.sizeof + key.name.strSize
    if resultSize < required then ⟨teecErrorShortBuffer, [], UInt32.ofNat required⟩
    else ⟨teecSuccess, nextBytes key, UInt32.ofNat required⟩

/-- An ideal TA for the enumeration: it has the variables in a fixed order. -/
def enumerationTa : Ta (List VarKey) := fun req store =>
  match req.command with
  | .vsGetNextVarOp => (nextAnswer (nextKey store req.getKey) req.resultSize, store)
  | _ => (⟨teecErrorBadParameters, [], 0⟩, store)

/-! ## The caller -/

/-- The caller between two calls: its buffer, the size of it, and the GUID. -/
structure Enumerator where
  mem : ByteStore
  variableNameBufferSize : ℕ
  vendorGuid : EfiGuid

/-- `ReallocatePool` of the buffer: `pool size` is what a block of `size` bytes has in it
before the copy. -/
def Enumerator.regrow (pool : ℕ → ByteStore) (e : Enumerator) (size : ℕ) : Enumerator where
  mem := (pool size).blit 0 e.mem 0 (min e.variableNameBufferSize size)
  variableNameBufferSize := size
  vendorGuid := e.vendorGuid

section Loop

variable {σ : Type*} (cfg : AuthVarConfig) (ta : Ta σ)

/-- A call with the buffer of the caller; none without a string in it. -/
def Enumerator.call (e : Enumerator) (st : AuthVarState σ) :
    Option (GetNextOutcome × AuthVarState σ) :=
  match h : readString e.mem (e.variableNameBufferSize / 2) 0 with
  | none => none
  | some name => some (opteeRuntimeGetNextVariableName cfg ta
      ⟨some e.variableNameBufferSize,
        some ⟨e.mem, name, Char16String.holds_of_readString h⟩, some e.vendorGuid⟩ st)

/-- The loop over the variables, for at most `fuel` calls: the names, as the bytes that
`*VariableNameSize` counts, and GUIDs it visits, and the status it ends with. -/
def enumerate (pool : ℕ → ByteStore) : ℕ → Enumerator → AuthVarState σ →
    List (List UInt8 × EfiGuid) × Option EfiStatus
  | 0, _, _ => ([], none)
  | fuel + 1, e, st =>
    match e.call cfg ta st with
    | none => ([], none)
    | some (out, st) =>
      let e : Enumerator := ⟨out.variableName.getD e.mem, e.variableNameBufferSize,
        out.vendorGuid.getD e.vendorGuid⟩
      if out.status = .bufferTooSmall then
        enumerate pool fuel (e.regrow pool out.variableNameSize) st
      else if out.status = .success then
        match enumerate pool fuel e st with
        | (visited, status) =>
          ((e.mem.read 0 out.variableNameSize, e.vendorGuid) :: visited, status)
      else ([], some out.status)

end Loop

/-! ## What the enumeration is to do -/

/-- The caller starts with the empty name, in a buffer that the transport can take. -/
structure Enumerator.Starts (cfg : AuthVarConfig) (e : Enumerator) : Prop where
  empty : e.mem.load16 0 = 0
  size_ge : 2 ≤ e.variableNameBufferSize
  fits : GetParam.sizeof + e.variableNameBufferSize ≤ cfg.memSize
  size_lt : GetParam.sizeof + e.variableNameBufferSize < 2 ^ 32

/-- The variables have different keys, and names that fit the transport. -/
structure Enumerable (cfg : AuthVarConfig) (store : List VarKey) : Prop where
  nodup : store.Nodup
  named : ∀ key ∈ store, key.name.chars ≠ []
  fits : ∀ key ∈ store, GetParam.sizeof + key.name.strSize ≤ cfg.memSize

/-- Every variable is visited exactly once, in the order of the TA, and then the loop ends with
`EFI_NOT_FOUND`; no call that asks for a larger buffer changes the name or the GUID. -/
def EnumeratesAll (cfg : AuthVarConfig) (pool : ℕ → ByteStore) (e : Enumerator)
    (st : AuthVarState (List VarKey)) : Prop :=
  (∃ fuel, enumerate cfg enumerationTa pool fuel e st =
    (st.ta.map fun key => (key.name.bytes, key.guid), some .notFound)) ∧
  ∀ (args : GetNextArgs) (st' : AuthVarState (List VarKey)),
    (opteeRuntimeGetNextVariableName cfg enumerationTa args st').1.status = .bufferTooSmall →
    (opteeRuntimeGetNextVariableName cfg enumerationTa args st').1.variableName =
        args.variableName.map NameBuffer.mem ∧
      (opteeRuntimeGetNextVariableName cfg enumerationTa args st').1.vendorGuid = args.vendorGuid

/-! ## A call -/

section Call

variable {σ : Type*} {cfg : AuthVarConfig} {ta : Ta σ} {args : GetNextArgs}

/-- A call leaves the name and the GUID alone, or succeeds with a size of sixteen bits. -/
def LeavesOrSucceeds (args : GetNextArgs) (out : GetNextOutcome) : Prop :=
  (∃ status size, status ≠ .success ∧ out = args.exit status size) ∨
    out.status = .success ∧ out.variableNameSize < 2 ^ 16

lemma getNextReply_snd {m n : ℕ} {reply : EfiStatus × ℕ × AuthVarState σ} :
    (getNextReply cfg args m n reply).2 = reply.2.2 := by
  obtain ⟨status, size, st⟩ := reply
  simp only [getNextReply]
  split
  · rfl
  split
  · rfl
  split
  · rfl
  · rfl

lemma frame_getNextChecked (hta : ∀ req s, (ta req s).2 = s) {name : Char16String}
    {guid : EfiGuid} {size : ℕ} {st : AuthVarState σ} :
    Frame st (getNextChecked cfg ta args name guid size st).2 := by
  simp only [getNextChecked]
  generalize (if name.chars = [] then 0 else name.strSize % 2 ^ 32) = localIn
  split
  · exact Frame.refl st
  split
  · exact Frame.refl st
  · rw [getNextReply_snd]
    exact ⟨hta _ _, rfl, rfl, rfl, rfl, rfl⟩

/-- A call leaves the state of the driver as it is, and that of a TA which keeps its own. -/
lemma frame_getNext (hta : ∀ req s, (ta req s).2 = s) {st : AuthVarState σ} :
    Frame st (opteeRuntimeGetNextVariableName cfg ta args st).2 := by
  unfold opteeRuntimeGetNextVariableName
  simp only
  split
  · exact Frame.refl st
  split
  · split
    · exact Frame.refl st
    split
    · exact Frame.refl st
    · exact frame_getNextChecked hta
  · exact Frame.refl st

lemma getNextReply_cases {m n : ℕ} {reply : EfiStatus × ℕ × AuthVarState σ} :
    LeavesOrSucceeds args (getNextReply cfg args m n reply).1 := by
  obtain ⟨status, size, st⟩ := reply
  simp only [getNextReply]
  split
  next h => exact .inl ⟨status, _, by rw [h]; decide, rfl⟩
  split
  next h => exact .inl ⟨status, _, h, rfl⟩
  split
  · exact .inl ⟨_, _, by decide, rfl⟩
  · exact .inr ⟨rfl, UInt16.toNat_lt _⟩

lemma getNextChecked_cases {name : Char16String} {guid : EfiGuid} {size : ℕ}
    {st : AuthVarState σ} :
    LeavesOrSucceeds args (getNextChecked cfg ta args name guid size st).1 := by
  simp only [getNextChecked]
  generalize (if name.chars = [] then 0 else name.strSize % 2 ^ 32) = localIn
  split
  · exact .inl ⟨_, _, by decide, rfl⟩
  split
  · exact .inl ⟨_, _, by decide, rfl⟩
  · exact getNextReply_cases

lemma getNext_cases (cfg : AuthVarConfig) (ta : Ta σ) (args : GetNextArgs)
    (st : AuthVarState σ) :
    LeavesOrSucceeds args (opteeRuntimeGetNextVariableName cfg ta args st).1 := by
  unfold opteeRuntimeGetNextVariableName
  simp only
  split
  · exact .inl ⟨_, _, by decide, rfl⟩
  split
  · split
    · exact .inl ⟨_, _, by decide, rfl⟩
    split
    · exact .inl ⟨_, _, by decide, rfl⟩
    · exact getNextChecked_cases
  · exact .inl ⟨_, _, by decide, rfl⟩

/-- A call that asks for a larger buffer changes nothing else. -/
lemma getNext_tooSmall {st : AuthVarState σ}
    (h : (opteeRuntimeGetNextVariableName cfg ta args st).1.status = .bufferTooSmall) :
    (opteeRuntimeGetNextVariableName cfg ta args st).1.variableName =
        args.variableName.map NameBuffer.mem ∧
      (opteeRuntimeGetNextVariableName cfg ta args st).1.vendorGuid = args.vendorGuid := by
  rcases getNext_cases cfg ta args st with ⟨status, size, -, hout⟩ | ⟨hsuccess, -⟩
  · rw [hout]
    exact ⟨rfl, rfl⟩
  · rw [hsuccess] at h
    cases h

lemma Enumerator.args_of_call {e : Enumerator} {st st' : AuthVarState σ} {out : GetNextOutcome}
    (h : e.call cfg ta st = some (out, st')) :
    ∃ args, opteeRuntimeGetNextVariableName cfg ta args st = (out, st') := by
  rw [Enumerator.call] at h
  split at h
  · cases h
  · exact ⟨_, Option.some.inj h⟩

/-- The sizes of the names that are visited have sixteen bits. -/
lemma length_lt_of_visited {pool : ℕ → ByteStore} {fuel : ℕ} {e : Enumerator}
    {st : AuthVarState σ} {visit : List UInt8 × EfiGuid}
    (h : visit ∈ (enumerate cfg ta pool fuel e st).1) : visit.1.length < 2 ^ 16 := by
  induction fuel generalizing e st with
  | zero => simp [enumerate] at h
  | succ fuel ih =>
      rw [enumerate] at h
      split at h
      · simp at h
      next out st' hcall =>
        simp only at h
        split at h
        · exact ih h
        split at h
        next hsuccess =>
          rcases List.mem_cons.mp h with rfl | h
          · obtain ⟨args, hargs⟩ := Enumerator.args_of_call hcall
            have hsize : out.variableNameSize < 2 ^ 16 := by
              rcases getNext_cases cfg ta args st with ⟨status, size, hne, heq⟩ | ⟨-, hlt⟩
              · rw [hargs] at heq
                exact absurd ((congrArg GetNextOutcome.status heq).symm.trans hsuccess) hne
              · rwa [hargs] at hlt
            simpa using hsize
          · exact ih h
        · simp at h

end Call

/-! ## A call on the ideal TA -/

section Answer

variable {cfg : AuthVarConfig} {name : Char16String} {guid : EfiGuid} {m : ByteStore}
  {command : VariableServiceOp} {n k size : ℕ} {st : AuthVarState (List VarKey)}

/-- The bytes the driver passes for the previous name and GUID. -/
def requestKey (name : Char16String) (guid : EfiGuid) : TaKey :=
  (if name.chars = [] then [] else name.bytes, guid.bytes)

/-- The size the driver passes for the previous name. -/
def requestSize (name : Char16String) : ℕ := if name.chars = [] then 0 else name.strSize

/-- The TA reads the previous name and GUID, if sixteen bits count the name. -/
lemma getKey_encodeNext (hname : name.strSize < 2 ^ 16) :
    TaRequest.getKey ⟨command, (encodeGet cfg name guid (requestSize name) m).read 0
      (GetParam.sizeof + requestSize name), k⟩ = requestKey name guid := by
  by_cases hempty : name.chars = []
  · have hguid := guid.length_eq
    have hsize : (encodeGet cfg name guid 0 m).load16 GetParam.variableNameSize = 0 := by
      simp only [encodeGet, List.take_zero, ByteStore.write_nil, GetParam.vendorGuid,
        GetParam.variableNameSize]
      rw [ByteStore.load16_write_off (by omega), ByteStore.load16_store16_same]
      rfl
    have hread : (encodeGet cfg name guid 0 m).read GetParam.vendorGuid 16 = guid.bytes := by
      simp only [encodeGet, List.take_zero, ByteStore.write_nil]
      rw [← hguid, ByteStore.read_write_same]
    simp only [requestSize, requestKey, hempty, if_true]
    rw [TaRequest.getKey, TaRequest.mem_load16 (by decide), hsize, UInt16.toNat_zero,
      ByteStore.read_zero, TaRequest.mem_read (by decide), hread]
  · simp only [requestSize, requestKey, hempty, if_false]
    rw [getKey_encodeGet le_rfl, taKey, Nat.mod_eq_of_lt hname,
      List.take_of_length_le name.length_bytes.le]

lemma length_nextBytes (key : VarKey) :
    (nextBytes key).length = GetParam.variableName + key.name.strSize := by
  simp only [nextBytes, List.length_append, ByteStore.length_leBytes, List.length_cons,
    List.length_nil, key.guid.length_eq, key.name.length_bytes, GetParam.variableName]
  omega

/-- A reply gives the size, the GUID and the name of its variable. -/
lemma nextBytes_fields (m : ByteStore) (key : VarKey) :
    (m.write 0 (nextBytes key)).load16 GetParam.variableNameSize =
      UInt16.ofNat key.name.strSize ∧
    (m.write 0 (nextBytes key)).read GetParam.vendorGuid 16 = key.guid.bytes ∧
    (m.write 0 (nextBytes key)).read GetParam.variableName key.name.strSize =
      key.name.bytes := by
  have hguid := key.guid.length_eq
  have hsize : ByteStore.leBytes 2 (UInt16.ofNat key.name.strSize).toNat =
      ByteStore.leBytes 2 key.name.strSize := by
    rw [UInt16.toNat_ofNat']
    exact ByteStore.leBytes_mod 2 _
  have hwrite : m.write 0 (nextBytes key) =
      ((((m.write 0 (ByteStore.leBytes 4 GetParam.sizeof)).store16 4
        (UInt16.ofNat key.name.strSize)).write 6 [0, 0]).write 8 key.guid.bytes).write 24
        key.name.bytes := by
    simp only [nextBytes, ByteStore.write_append, ByteStore.length_leBytes, ByteStore.store16,
      hsize, List.length_cons, List.length_nil, hguid]
  rw [hwrite]
  simp only [GetParam.variableNameSize, GetParam.vendorGuid, GetParam.variableName]
  refine ⟨?_, ?_, ?_⟩
  · rw [ByteStore.load16_write_off (by omega), ByteStore.load16_write_off (by omega),
      ByteStore.load16_write_off (by simp), ByteStore.load16_store16_same]
  · rw [ByteStore.read_write_disjoint (by omega), ← hguid, ByteStore.read_write_same]
  · rw [← key.name.length_bytes, ByteStore.read_write_same]

/-- What a call answers where the TA has `next` after the previous variable. -/
def nextOutcome (size : ℕ) (mem : ByteStore) (guid : EfiGuid) (next : Option VarKey) :
    GetNextOutcome :=
  match next with
  | none => ⟨.notFound, size, some mem, some guid⟩
  | some key =>
    if size < key.name.strSize then ⟨.bufferTooSmall, key.name.strSize, some mem, some guid⟩
    else ⟨.success, key.name.strSize, some (mem.write 0 key.name.bytes), some key.guid⟩

/-- The reply to a request, as the driver reads it. -/
lemma getNextReply_nextAnswer {buffer : NameBuffer} {next : Option VarKey}
    (hnext : ∀ key ∈ next, key.name.strSize < 2 ^ 16)
    (hresult : st.result = m.write 0 ((nextAnswer next (GetParam.sizeof + size)).result.take
      (GetParam.sizeof + size))) :
    (getNextReply cfg ⟨some size, some buffer, some guid⟩ size size
      (statusOfTeec (nextAnswer next (GetParam.sizeof + size)).teecResult,
        (nextAnswer next (GetParam.sizeof + size)).valueA.toNat, st)).1 =
      nextOutcome size buffer.mem guid next := by
  cases next with
  | none =>
      have hstatus : statusOfTeec teecErrorItemNotFound = .notFound := by decide
      simp [getNextReply, nextAnswer, hstatus, nextOutcome, GetNextArgs.exit]
  | some key =>
      have hlt := hnext key rfl
      by_cases hroom : size < key.name.strSize
      · -- the short buffer: the size of the header is taken off the size of the reply
        have hstatus : statusOfTeec teecErrorShortBuffer = .bufferTooSmall := by decide
        have hanswer : nextAnswer (some key) (GetParam.sizeof + size) =
            ⟨teecErrorShortBuffer, [], UInt32.ofNat (GetParam.sizeof + key.name.strSize)⟩ :=
          if_pos (by omega)
        have hsize : cfg.arch.uintn ((28 + key.name.strSize) % 2 ^ 32 +
            2 ^ cfg.arch.uintnBits - 28) = key.name.strSize := by
          have hbits : 2 ^ 32 ≤ 2 ^ cfg.arch.uintnBits :=
            Nat.pow_le_pow_right (by decide) (by cases cfg.arch <;> decide)
          have hsub : (28 + key.name.strSize) % 2 ^ 32 + 2 ^ cfg.arch.uintnBits - 28 =
              key.name.strSize + 2 ^ cfg.arch.uintnBits := by
            rw [Nat.mod_eq_of_lt (by omega)]
            omega
          rw [hsub, Arch.uintn, Nat.add_mod_right, Nat.mod_eq_of_lt (by omega)]
        rw [hanswer]
        simp only [getNextReply, hstatus, if_true, UInt32.toNat_ofNat', GetParam.sizeof, hsize,
          GetNextArgs.exit, Option.map_some, nextOutcome, hroom]
      · have hstatus : statusOfTeec teecSuccess = .success := by decide
        have hanswer : nextAnswer (some key) (GetParam.sizeof + size) =
            ⟨teecSuccess, nextBytes key, UInt32.ofNat (GetParam.sizeof + key.name.strSize)⟩ :=
          if_neg (by omega)
        have htake : (nextBytes key).take (GetParam.sizeof + size) = nextBytes key := by
          refine List.take_of_length_le ?_
          rw [length_nextBytes, GetParam.variableName, GetParam.sizeof]
          omega
        have hlen : (UInt16.ofNat key.name.strSize).toNat = key.name.strSize := by
          rw [UInt16.toNat_ofNat']
          exact Nat.mod_eq_of_lt hlt
        obtain ⟨hsize, hguid, hname⟩ := nextBytes_fields m key
        have hofStore : EfiGuid.ofStore (m.write 0 (nextBytes key)) GetParam.vendorGuid =
            key.guid := EfiGuid.eq_of_bytes hguid
        have hne : EfiStatus.success ≠ .bufferTooSmall := by decide
        rw [hanswer] at hresult ⊢
        simp only [getNextReply, hresult, hstatus, hne, if_false, ne_eq, not_true_eq_false,
          htake, hsize, hlen, hname, hofStore, hroom, Option.map_some, nextOutcome]

/-- A call on the ideal TA answers with the next variable. -/
lemma getNext_enumerationTa (hready : st.Ready) {buffer : NameBuffer}
    (hname : buffer.name.strSize < 2 ^ 16)
    (hparam : GetParam.sizeof + buffer.name.strSize ≤ cfg.memSize)
    (hresult : GetParam.sizeof + size ≤ cfg.memSize) (hsize : GetParam.sizeof + size < 2 ^ 32)
    (hnext : ∀ key ∈ nextKey st.ta (requestKey buffer.name guid), key.name.strSize < 2 ^ 16) :
    (opteeRuntimeGetNextVariableName cfg enumerationTa
        ⟨some size, some buffer, some guid⟩ st).1 =
      nextOutcome size buffer.mem guid (nextKey st.ta (requestKey buffer.name guid)) := by
  obtain ⟨hboot, hsession, hbuffers⟩ := hready
  have hlocal : (if buffer.name.chars = [] then 0 else buffer.name.strSize % 2 ^ 32) =
      requestSize buffer.name := by
    rw [requestSize, Nat.mod_eq_of_lt (by omega)]
  have hle : requestSize buffer.name ≤ buffer.name.strSize := by
    rw [requestSize]
    split
    · exact Nat.zero_le _
    · exact le_rfl
  simp only [GetParam.sizeof] at hparam hresult hsize
  have hfirst : ¬ (cfg.memSize ≤ requestSize buffer.name ∨ cfg.memSize ≤ size) := by omega
  have hsecond : ¬ (cfg.memSize < GetParam.sizeof + requestSize buffer.name ∨
      cfg.memSize < GetParam.sizeof + size) := by
    simp only [GetParam.sizeof]
    omega
  have hparamSize : (GetParam.sizeof + requestSize buffer.name) % 2 ^ 32 =
      GetParam.sizeof + requestSize buffer.name :=
    Nat.mod_eq_of_lt (by simp only [GetParam.sizeof]; omega)
  have hresultSize : (GetParam.sizeof + size) % 2 ^ 32 = GetParam.sizeof + size :=
    Nat.mod_eq_of_lt hsize
  have hlocalSize : size % 2 ^ 32 = size := Nat.mod_eq_of_lt (by omega)
  simp only [opteeRuntimeGetNextVariableName, hboot, hsession, hbuffers, Bool.false_eq_true,
    Bool.true_eq_false, if_false, getNextChecked, hlocal, hlocalSize, hparamSize, hresultSize,
    hfirst, hsecond, opteeRuntimeVariableInvokeCommand, enumerationTa,
    getKey_encodeNext hname]
  exact getNextReply_nextAnswer hnext rfl

end Answer

/-! ## The loop on the ideal TA -/

section Loop

variable {cfg : AuthVarConfig} {pool : ℕ → ByteStore} {name : Char16String} {guid : EfiGuid}
  {store done rest : List VarKey} {e : Enumerator} {st : AuthVarState (List VarKey)}

lemma VarKey.eq_of_bytes {key key' : VarKey} (h : key.bytes = key'.bytes) : key = key' := by
  obtain ⟨hname, hguid⟩ := Prod.mk.inj h
  cases key
  cases key'
  congr 1
  · exact Char16String.eq_of_bytes hname
  · exact EfiGuid.eq_of_bytes hguid

/-- The caller is between `done` and `rest`: it has the empty name before the first variable
and the last of `done` afterwards. -/
structure Between (store done rest : List VarKey) (name : Char16String) (guid : EfiGuid) :
    Prop where
  store_eq : store = done ++ rest
  last : (done = [] ∧ name.chars = []) ∨ done.getLast? = some ⟨name, guid⟩

/-- The TA finds the place of the caller. -/
lemma Between.nextKey_eq (h : Between store done rest name guid)
    (hstore : Enumerable cfg store) : nextKey store (requestKey name guid) = rest.head? := by
  rcases h.last with ⟨rfl, hempty⟩ | hlast
  · rw [nextKey, requestKey, if_pos hempty, if_pos rfl, h.store_eq]
    rfl
  · obtain ⟨front, hfront⟩ := List.getLast?_eq_some_iff.mp hlast
    have hsplit : store = front ++ ⟨name, guid⟩ :: rest := by
      rw [h.store_eq, hfront, List.append_assoc]
      rfl
    have hmem : (⟨name, guid⟩ : VarKey) ∈ store := by simp [hsplit]
    have hnamed : name.chars ≠ [] := hstore.named _ hmem
    have hbytes : name.bytes ≠ [] := by
      intro hnil
      have hlen := name.length_bytes
      rw [hnil, Char16String.strSize] at hlen
      simp at hlen
    have hkey : requestKey name guid = VarKey.bytes ⟨name, guid⟩ := by
      rw [requestKey, if_neg hnamed]
      rfl
    have hbefore : ∀ key ∈ front, decide (key.bytes ≠ VarKey.bytes ⟨name, guid⟩) = true := by
      intro key hkey
      have hnodup := hstore.nodup
      rw [hsplit] at hnodup
      refine decide_eq_true fun heq => ?_
      exact (List.nodup_append.mp hnodup).2.2 key hkey _ List.mem_cons_self
        (VarKey.eq_of_bytes heq)
    have hnonempty : (VarKey.bytes ⟨name, guid⟩).1 ≠ [] := hbytes
    rw [nextKey, hkey, if_neg hnonempty, hsplit, List.dropWhile_append_of_pos hbefore,
      List.dropWhile_cons_of_neg (by simp)]
    rfl

/-- The caller between two calls: the name is in its buffer, and the buffer fits the
transport. -/
structure Enumerator.Has (cfg : AuthVarConfig) (e : Enumerator) (name : Char16String) :
    Prop where
  holds : e.mem.read 0 name.strSize = name.bytes
  strSize_le : name.strSize ≤ e.variableNameBufferSize
  fits : GetParam.sizeof + e.variableNameBufferSize ≤ cfg.memSize
  size_lt : GetParam.sizeof + e.variableNameBufferSize < 2 ^ 32

lemma Enumerator.call_eq {σ : Type*} {ta : Ta σ} {st : AuthVarState σ} (h : e.Has cfg name) :
    e.call cfg ta st = some (opteeRuntimeGetNextVariableName cfg ta
      ⟨some e.variableNameBufferSize, some ⟨e.mem, name, h.holds⟩, some e.vendorGuid⟩ st) := by
  have hle := h.strSize_le
  have hread : readString e.mem (e.variableNameBufferSize / 2) 0 = some name := by
    refine Char16String.readString_of_holds h.holds ?_
    rw [Char16String.strSize] at hle ⊢
    omega
  rw [Enumerator.call]
  split
  next hnone => rw [hread] at hnone; cases hnone
  next name' hsome =>
    obtain rfl := Option.some.inj (hread.symm.trans hsome)
    rfl

/-- A call of the caller, where the names of the store have sizes of sixteen bits. -/
lemma Enumerator.call_enumerationTa (hready : st.Ready) (hstore : Enumerable cfg st.ta)
    (hsmall : ∀ key ∈ st.ta, key.name.strSize < 2 ^ 16)
    (hplace : Between st.ta done rest name e.vendorGuid) (h : e.Has cfg name) :
    ∃ st', st'.Ready ∧ st'.ta = st.ta ∧ e.call cfg enumerationTa st =
      some (nextOutcome e.variableNameBufferSize e.mem e.vendorGuid rest.head?, st') := by
  have hname : name.strSize < 2 ^ 16 := by
    rcases hplace.last with ⟨-, hempty⟩ | hlast
    · rw [Char16String.strSize, hempty]
      decide
    · refine hsmall ⟨name, e.vendorGuid⟩ ?_
      rw [hplace.store_eq]
      exact List.mem_append_left _ (List.mem_of_getLast? hlast)
  have hnext := hplace.nextKey_eq hstore
  have hrest : ∀ key ∈ nextKey st.ta (requestKey name e.vendorGuid),
      key.name.strSize < 2 ^ 16 := by
    intro key hkey
    rw [hnext] at hkey
    refine hsmall key ?_
    rw [hplace.store_eq]
    exact List.mem_append_right _ (List.mem_of_mem_head? hkey)
  have hle := h.strSize_le
  have hout := @getNext_enumerationTa cfg e.vendorGuid e.variableNameBufferSize st hready
    ⟨e.mem, name, h.holds⟩ hname ((Nat.add_le_add_left hle _).trans h.fits) h.fits h.size_lt
    hrest
  have hframe := @frame_getNext _ cfg enumerationTa
    ⟨some e.variableNameBufferSize, some ⟨e.mem, name, h.holds⟩, some e.vendorGuid⟩
    (fun req s => by simp only [enumerationTa]; split <;> rfl) st
  rw [hnext] at hout
  refine ⟨_, ⟨?_, ?_, ?_⟩, hframe.ta, (Enumerator.call_eq h).trans ?_⟩
  · exact hframe.atRuntime.trans hready.boot
  · exact hframe.session.trans hready.session
  · exact hframe.buffersAllocated.trans hready.buffers
  · exact congrArg some (Prod.ext hout rfl)

/-- A visited name is in the buffer. -/
lemma Enumerator.Has.visit (h : e.Has cfg name) {key : VarKey}
    (hroom : key.name.strSize ≤ e.variableNameBufferSize) :
    Enumerator.Has cfg ⟨e.mem.write 0 key.name.bytes, e.variableNameBufferSize, key.guid⟩
      key.name where
  holds := by
    show (e.mem.write 0 key.name.bytes).read 0 key.name.strSize = key.name.bytes
    rw [← key.name.length_bytes, ByteStore.read_write_same]
  strSize_le := hroom
  fits := h.fits
  size_lt := h.size_lt

/-- The name is still in the buffer once this has grown. -/
lemma Enumerator.Has.regrow (h : e.Has cfg name) {size : ℕ}
    (hgrow : e.variableNameBufferSize ≤ size) (hfits : GetParam.sizeof + size ≤ cfg.memSize)
    (hlt : GetParam.sizeof + size < 2 ^ 32) : (e.regrow pool size).Has cfg name where
  holds := by
    have hle := h.strSize_le
    rw [← h.holds]
    refine ByteStore.read_congr fun i hi => ?_
    exact ByteStore.blit_apply_on (by omega)
  strSize_le := h.strSize_le.trans hgrow
  fits := hfits
  size_lt := hlt

/-- From a place in the store the loop visits the rest of it. -/
lemma enumerate_rest (hready : st.Ready) (hstore : Enumerable cfg st.ta)
    (hsmall : ∀ key ∈ st.ta, key.name.strSize < 2 ^ 16)
    (hplace : Between st.ta done rest name e.vendorGuid) (h : e.Has cfg name) :
    ∃ fuel, enumerate cfg enumerationTa pool fuel e st =
      (rest.map fun key => (key.name.bytes, key.guid), some .notFound) := by
  induction rest generalizing done name e st with
  | nil =>
      obtain ⟨st', -, -, hcall⟩ := Enumerator.call_enumerationTa hready hstore hsmall hplace h
      refine ⟨1, ?_⟩
      rw [enumerate, hcall]
      rfl
  | cons key rest ih =>
      have hmem : key ∈ st.ta := by simp [hplace.store_eq]
      -- with room for the name, it is visited and the loop goes on behind it
      have hvisit : ∀ (e : Enumerator) (st' : AuthVarState (List VarKey)), st'.Ready →
          st'.ta = st.ta → Between st.ta done (key :: rest) name e.vendorGuid →
          e.Has cfg name → key.name.strSize ≤ e.variableNameBufferSize →
          ∃ fuel, enumerate cfg enumerationTa pool fuel e st' =
            ((key :: rest).map fun key => (key.name.bytes, key.guid), some .notFound) := by
        intro e st' hready' hta hplace' he hroom
        rw [← hta] at hstore hsmall hplace'
        obtain ⟨st'', hready'', hta', hcall⟩ :=
          Enumerator.call_enumerationTa hready' hstore hsmall hplace' he
        have hnext : Between st''.ta (done ++ [key]) rest key.name key.guid := by
          refine ⟨?_, .inr List.getLast?_concat⟩
          rw [hta', hplace'.store_eq, List.append_assoc]
          rfl
        rw [← hta'] at hstore hsmall
        obtain ⟨fuel, hfuel⟩ := ih hready'' hstore hsmall hnext (he.visit hroom)
        have hread : (e.mem.write 0 key.name.bytes).read 0 key.name.strSize =
            key.name.bytes := (he.visit hroom).holds
        refine ⟨fuel + 1, ?_⟩
        rw [enumerate, hcall]
        simp only [List.head?_cons, nextOutcome, Nat.not_lt.mpr hroom, if_false,
          Option.getD_some, hfuel, hread, List.map_cons, reduceCtorEq, if_true]
      by_cases hroom : key.name.strSize ≤ e.variableNameBufferSize
      · exact hvisit e st hready rfl hplace h hroom
      · obtain ⟨st', hready', hta, hcall⟩ :=
          Enumerator.call_enumerationTa hready hstore hsmall hplace h
        have hlt : GetParam.sizeof + key.name.strSize < 2 ^ 32 := by
          have hkey := hsmall key hmem
          simp only [GetParam.sizeof]
          omega
        obtain ⟨fuel, hfuel⟩ := hvisit (e.regrow pool key.name.strSize) st' hready' hta hplace
          (h.regrow (by omega) (hstore.fits key hmem) hlt) le_rfl
        refine ⟨fuel + 1, ?_⟩
        rw [enumerate, hcall]
        simp only [List.head?_cons, nextOutcome, Nat.not_le.mp hroom, if_true,
          Option.getD_some]
        exact hfuel

/-- The caller that starts has the empty name. -/
lemma Enumerator.Starts.has (h : e.Starts cfg) : e.Has cfg ⟨[], fun _ hc => by simp at hc⟩ where
  holds := by
    show e.mem.read 0 2 = ByteStore.leBytes 2 (0 : UInt16).toNat ++ []
    rw [Char16String.read_load16, h.empty, List.append_nil]
  strSize_le := h.size_ge
  fits := h.fits
  size_lt := h.size_lt

/-- A complete enumeration counts every name in sixteen bits. -/
lemma EnumeratesAll.strSize_lt (h : EnumeratesAll cfg pool e st) {key : VarKey}
    (hkey : key ∈ st.ta) : key.name.strSize < 2 ^ 16 := by
  obtain ⟨⟨fuel, hfuel⟩, -⟩ := h
  have hvisited : (key.name.bytes, key.guid) ∈
      (enumerate cfg enumerationTa pool fuel e st).1 := by
    rw [hfuel]
    exact List.mem_map_of_mem hkey
  have hlt := length_lt_of_visited hvisited
  rwa [key.name.length_bytes] at hlt

end Loop

/-- The enumeration is complete and without repetition exactly when the sizes of the names have
sixteen bits. -/
theorem enumeratesAll_iff (cfg : AuthVarConfig) (pool : ℕ → ByteStore) (e : Enumerator)
    (st : AuthVarState (List VarKey)) (hready : st.Ready) (hstore : Enumerable cfg st.ta)
    (hstart : e.Starts cfg) :
    EnumeratesAll cfg pool e st ↔ ∀ key ∈ st.ta, key.name.strSize < 2 ^ 16 := by
  constructor
  · exact fun h key hkey => h.strSize_lt hkey
  · intro hsmall
    have hplace : Between st.ta [] st.ta ⟨[], fun _ hc => by simp at hc⟩ e.vendorGuid :=
      ⟨rfl, .inl ⟨rfl, rfl⟩⟩
    exact ⟨enumerate_rest hready hstore hsmall hplace hstart.has,
      fun args st' => getNext_tooSmall⟩

/-- The driver as `TaOpenSession` leaves it, over a TA with these variables. -/
def enumerationDriver (store : List VarKey) : AuthVarState (List VarKey) where
  ta := store
  param _ := 0
  result _ := 0
  buffersAllocated := true
  atRuntime := false
  mTeecSessionOpened := true
  sessionId := 0
  variableArchInstalled := false
  measurements := []

lemma enumerationDriver_ready (store : List VarKey) : (enumerationDriver store).Ready :=
  ⟨rfl, rfl, rfl⟩

/-- A caller with a buffer for one character. -/
def firstEnumerator : Enumerator := ⟨fun _ => 0, 2, efiGlobalVariableGuid⟩

lemma firstEnumerator_starts : firstEnumerator.Starts largeConfig :=
  ⟨by decide, le_rfl, by decide, by decide⟩

/-- `KEK` as a variable. -/
def keyExchangeKey : VarKey := ⟨efiKeyExchangeKeyName, efiGlobalVariableGuid⟩

theorem enumeratesAll_iff_secureBootKeys :
    EnumeratesAll largeConfig (fun _ _ => 0) firstEnumerator
      (enumerationDriver [platformKey, keyExchangeKey]) :=
  (enumeratesAll_iff largeConfig (fun _ _ => 0) firstEnumerator
    (enumerationDriver [platformKey, keyExchangeKey]) (enumerationDriver_ready _)
    ⟨by decide, by decide, by decide⟩ firstEnumerator_starts).mpr (by decide)

/-- With a name of `2 ^ 16` bytes the enumeration is not complete. -/
theorem not_enumeratesAll_longName : (enumerationDriver [longKeyA]).Ready ∧
    Enumerable largeConfig (enumerationDriver [longKeyA]).ta ∧
    firstEnumerator.Starts largeConfig ∧
    ¬ EnumeratesAll largeConfig (fun _ _ => 0) firstEnumerator (enumerationDriver [longKeyA]) := by
  have hsize : longKeyA.name.strSize = 65536 := longKeyA_long.strSize
  refine ⟨enumerationDriver_ready _, ⟨List.nodup_singleton _, ?_, ?_⟩, firstEnumerator_starts, ?_⟩
  · intro key hkey
    obtain rfl := List.mem_singleton.mp hkey
    exact longKeyA_long.chars_ne_nil
  · intro key hkey
    obtain rfl := List.mem_singleton.mp hkey
    rw [hsize, memSize_largeConfig]
    decide
  · intro h
    have hlt := h.strSize_lt (List.mem_singleton_self longKeyA)
    rw [hsize] at hlt
    exact absurd hlt (by decide)

end AuthVar
end MuPlatform
