import MuPlatform.AuthVar.BufferSizes

/-!
# Replies that are not trusted

The TA may answer anything: any result, any size in `params[2].value.a`, any bytes in the result
buffer.  Whatever it answers, a get and an enumeration are to stay inside the caller's buffer and
the result buffer, and a size they ask for is to be a larger one.

* `GetArgs.Distrusts` and `GetNextArgs.Distrusts`: that this is so for one call.
* `distrusts_iff`: it is so exactly for the replies that are `SoundGetReply` and
  `SoundGetNextReply`.

The size of a short reply is only asserted to count its header, and never compared with the size
the caller has.
-/

namespace MuPlatform
namespace AuthVar

open Optee

/-! ## Calls that distrust the reply -/

/-- The memories have the same bytes below `n`. -/
def AgreeBelow (n : ℕ) (m m' : ByteStore) : Prop := ∀ x, x < n → m' x = m x

section Distrusts

variable {σ : Type*} (cfg : AuthVarConfig) (ta : Ta σ) (st : AuthVarState σ)

/-- The get passes its checks, and the TA gets its request. -/
structure GetArgs.Sends (args : GetArgs) (name : Char16String) (guid : EfiGuid) (n : ℕ) :
    Prop where
  admitted : args.Admitted st name guid n
  hook : isTestHook cfg name guid n = false
  session : st.mTeecSessionOpened = true
  buffers : st.buffersAllocated = true
  passes : PassesChecks cfg GetResult.sizeof (name.strSize % 2 ^ 32) (n % 2 ^ 32)

/-- The enumeration passes its checks, and the TA gets its request. -/
structure GetNextArgs.Sends (args : GetNextArgs) (n : ℕ) (buffer : NameBuffer)
    (guid : EfiGuid) : Prop where
  admitted : args.Admitted st n buffer guid
  passes : PassesChecks cfg GetParam.sizeof (localInSize buffer.name) (n % 2 ^ 32)

/-- What the TA replies to a get. -/
def replyToGet (name : Char16String) (guid : EfiGuid) (n : ℕ) : TaReply :=
  (ta (getRequest cfg name guid n st.param) st.ta).1

/-- What the TA replies to an enumeration. -/
def replyToGetNext (name : Char16String) (guid : EfiGuid) (n : ℕ) : TaReply :=
  (ta (getNextRequest cfg name guid n st.param) st.ta).1

/-- The get writes no byte of the caller's memory behind the size it was given and reads none
behind the result buffer, and a size that it asks for is larger than that of the caller and no
difference that wrapped. -/
structure GetArgs.Distrusts (args : GetArgs) : Prop where
  writes : ∀ mem mem', args.data = some mem →
    (opteeRuntimeGetVariable cfg ta args st).1.data = some mem' →
      ∀ x, args.dataSize.getD 0 ≤ x → mem' x = mem x
  reads : ∀ result, AgreeBelow cfg.memSize st.result result →
    (opteeRuntimeGetVariable cfg ta args { st with result := result }).1 =
      (opteeRuntimeGetVariable cfg ta args st).1
  tooSmall : ∀ name guid n, args.Admitted st name guid n →
    (opteeRuntimeGetVariable cfg ta args st).1.status = .bufferTooSmall →
      n < (opteeRuntimeGetVariable cfg ta args st).1.dataSize ∧
        GetResult.sizeof ≤ (replyToGet cfg ta st name guid n).valueA.toNat

/-- The same of an enumeration and the caller's memory for the name. -/
structure GetNextArgs.Distrusts (args : GetNextArgs) : Prop where
  writes : ∀ buffer mem', args.variableName = some buffer →
    (opteeRuntimeGetNextVariableName cfg ta args st).1.variableName = some mem' →
      ∀ x, args.variableNameSize.getD 0 ≤ x → mem' x = buffer.mem x
  reads : ∀ result, AgreeBelow cfg.memSize st.result result →
    (opteeRuntimeGetNextVariableName cfg ta args { st with result := result }).1 =
      (opteeRuntimeGetNextVariableName cfg ta args st).1
  tooSmall : ∀ n buffer guid, args.Admitted st n buffer guid →
    (opteeRuntimeGetNextVariableName cfg ta args st).1.status = .bufferTooSmall →
      n < (opteeRuntimeGetNextVariableName cfg ta args st).1.variableNameSize ∧
        GetParam.sizeof ≤ (replyToGetNext cfg ta st buffer.name guid n).valueA.toNat

end Distrusts

/-! ## Sound replies -/

/-- The first `room` bytes of a reply, in memory. -/
def TaReply.mem (room : ℕ) (reply : TaReply) : ByteStore :=
  ByteStore.write (fun _ => 0) 0 (reply.result.take room)

/-- The `DataSize` field of a reply to a get of `n` bytes. -/
def TaReply.dataSize (n : ℕ) (reply : TaReply) : ℕ :=
  ((reply.mem ((GetResult.sizeof + n % 2 ^ 32) % 2 ^ 32)).load32 GetResult.dataSize).toNat

/-- A short reply to a get of `n` bytes counts its header and more than these bytes, and one that
succeeds with no more data than the 32-bit size of the caller has it inside the result buffer. -/
structure SoundGetReply (cfg : AuthVarConfig) (n : ℕ) (reply : TaReply) : Prop where
  short : reply.teecResult = teecErrorShortBuffer →
    GetResult.sizeof + n < reply.valueA.toNat
  fits : reply.teecResult = teecSuccess → reply.dataSize n ≤ n % 2 ^ 32 →
    GetResult.data + reply.dataSize n ≤ cfg.memSize

/-- A short reply to an enumeration with `n` bytes counts its header and more than these
bytes. -/
def SoundGetNextReply (n : ℕ) (reply : TaReply) : Prop :=
  reply.teecResult = teecErrorShortBuffer → GetParam.sizeof + n < reply.valueA.toNat

/-! ## A reply to a get -/

section GetVariable

variable {σ : Type*} {cfg : AuthVarConfig} {ta : Ta σ} {st : AuthVarState σ} {args : GetArgs}
  {name : Char16String} {guid : EfiGuid} {n : ℕ}

lemma statusOfTeec_eq_bufferTooSmall {result : TeecResult} :
    statusOfTeec result = .bufferTooSmall ↔ result = teecErrorShortBuffer := by
  refine ⟨fun h => ?_, fun h => h ▸ by decide⟩
  obtain ⟨-, hs⟩ | ⟨-, hs⟩ | ⟨hresult, -⟩ | ⟨-, -, hne⟩ := statusOfTeec_cases result
  · cases hs.symm.trans h
  · cases hs.symm.trans h
  · exact hresult
  · exact absurd h hne

/-- The result buffer after a reply. -/
def AuthVarState.replied (st : AuthVarState σ) (cfg : AuthVarConfig) (room : ℕ)
    (reply : TaReply) : ByteStore :=
  (st.result.fill 0 cfg.memSize 0).write 0 (reply.result.take room)

/-- Inside the buffer there is nothing but the reply. -/
lemma agreeBelow_replied {room : ℕ} {reply : TaReply} :
    AgreeBelow cfg.memSize (reply.mem room) (st.replied cfg room reply) := by
  intro x hx
  by_cases hon : x < (reply.result.take room).length
  · have hreplied := @ByteStore.write_apply_on (st.result.fill 0 cfg.memSize 0) 0 x _ hon
    have hmem := @ByteStore.write_apply_on (fun _ => 0) 0 x _ hon
    rw [Nat.zero_add] at hreplied hmem
    rw [AuthVarState.replied, TaReply.mem, hreplied, hmem]
  · have hoff : 0 + (reply.result.take room).length ≤ x := by omega
    rw [AuthVarState.replied, TaReply.mem, ByteStore.write_apply_of_le hoff,
      ByteStore.write_apply_of_le hoff, ByteStore.fill_apply_on ⟨Nat.zero_le x, by omega⟩]

/-- Behind the buffer there is what was there. -/
lemma replied_apply_off {room x : ℕ} {reply : TaReply} (hroom : room ≤ cfg.memSize)
    (hx : cfg.memSize ≤ x) : st.replied cfg room reply x = st.result x := by
  have hlen : (reply.result.take room).length ≤ room := List.length_take_le _ _
  rw [AuthVarState.replied, ByteStore.write_apply_of_le (by omega),
    ByteStore.fill_apply_off (.inr (by omega))]

lemma AgreeBelow.symm {k : ℕ} {m m' : ByteStore} (h : AgreeBelow k m m') : AgreeBelow k m' m :=
  fun x hx => (h x hx).symm

lemma AgreeBelow.trans {k : ℕ} {m m' m'' : ByteStore} (h : AgreeBelow k m m')
    (h' : AgreeBelow k m' m'') : AgreeBelow k m m'' :=
  fun x hx => (h' x hx).trans (h x hx)

lemma AgreeBelow.load32 {k a : ℕ} {m m' : ByteStore} (h : AgreeBelow k m m') (ha : a + 4 ≤ k) :
    m'.load32 a = m.load32 a :=
  ByteStore.load32_congr fun i hi => h (a + i) (by omega)

lemma AgreeBelow.load16 {k a : ℕ} {m m' : ByteStore} (h : AgreeBelow k m m') (ha : a + 2 ≤ k) :
    m'.load16 a = m.load16 a :=
  ByteStore.load16_congr fun i hi => h (a + i) (by omega)

lemma AgreeBelow.read {k a l : ℕ} {m m' : ByteStore} (h : AgreeBelow k m m') (ha : a + l ≤ k) :
    m'.read a l = m.read a l :=
  ByteStore.read_congr fun i hi => h (a + i) (by omega)

/-- A get reads the header of the reply, and the data if it succeeds with it. -/
lemma getReply_congr {l size : ℕ} {status : EfiStatus} {after after' : AuthVarState σ}
    (hagree : AgreeBelow cfg.memSize after.result after'.result)
    (hheader : GetResult.data ≤ cfg.memSize)
    (hfits : status = .success → (after.result.load32 GetResult.dataSize).toNat ≤ l →
      GetResult.data + (after.result.load32 GetResult.dataSize).toNat ≤ cfg.memSize) :
    (getReply cfg args n l (status, size, after')).1 =
      (getReply cfg args n l (status, size, after)).1 := by
  simp only [GetResult.data] at hheader
  have hattributes : after'.result.load32 GetResult.attributes =
      after.result.load32 GetResult.attributes :=
    hagree.load32 (by simp only [GetResult.attributes]; omega)
  have hsize : after'.result.load32 GetResult.dataSize =
      after.result.load32 GetResult.dataSize :=
    hagree.load32 (by simp only [GetResult.dataSize]; omega)
  simp only [getReply, hattributes, hsize]
  split
  · rfl
  split
  · rfl
  next hstatus =>
    split
    · rfl
    next hlen =>
      rw [hagree.read (hfits (not_ne_iff.mp hstatus) (Nat.not_lt.mp hlen))]

/-- A get writes no more than the size it compares the reply with. -/
lemma getReply_writes {l : ℕ} {reply : EfiStatus × ℕ × AuthVarState σ} {mem mem' : ByteStore}
    (hmem : args.data = some mem) (hmem' : (getReply cfg args n l reply).1.data = some mem')
    {x : ℕ} (hx : l ≤ x) : mem' x = mem x := by
  obtain ⟨status, size, after⟩ := reply
  have hkept : ∀ {out : GetOutcome}, out.data = args.data → out.data = some mem' →
      mem' x = mem x := fun h h' => by
    rw [Option.some.inj (h'.symm.trans (h.trans hmem))]
  simp only [getReply] at hmem'
  split at hmem'
  · exact hkept rfl hmem'
  split at hmem'
  · exact hkept rfl hmem'
  split at hmem'
  · exact hkept rfl hmem'
  next hlen =>
    rw [hmem, Option.map_some, Option.some.injEq] at hmem'
    rw [← hmem', ByteStore.write_apply_of_le (by rw [ByteStore.length_read]; omega)]

/-- A get asks for a larger buffer after a short reply only. -/
lemma getReply_tooSmall {l : ℕ} {reply : EfiStatus × ℕ × AuthVarState σ} :
    (getReply cfg args n l reply).1.status = .bufferTooSmall ↔ reply.1 = .bufferTooSmall := by
  obtain ⟨status, size, after⟩ := reply
  simp only [getReply]
  split
  next h => exact iff_of_true h h
  next h =>
    split
    · exact Iff.rfl
    next hstatus =>
      split
      · exact iff_of_false (fun h => by cases h) h
      · exact iff_of_false (fun h => by cases h) h

lemma getReply_dataSize {l size : ℕ} {status : EfiStatus} {after : AuthVarState σ}
    (h : status = .bufferTooSmall) : (getReply cfg args n l (status, size, after)).1.dataSize =
      cfg.arch.uintn (size + 2 ^ cfg.arch.uintnBits - GetResult.sizeof) := by
  simp only [getReply, h, if_true]

/-- The difference of a size and that of its header, as a `UINTN`. -/
lemma uintn_sub_header {arch : Arch} {size header : ℕ} (hsize : size < 2 ^ 32)
    (hle : header ≤ size) : arch.uintn (size + 2 ^ arch.uintnBits - header) = size - header := by
  have hbits : 2 ^ 32 ≤ 2 ^ arch.uintnBits :=
    Nat.pow_le_pow_right (by decide) (by cases arch <;> decide)
  have hsub : size + 2 ^ arch.uintnBits - header = (size - header) + 2 ^ arch.uintnBits := by
    omega
  rw [hsub, Arch.uintn, Nat.add_mod_right, Nat.mod_eq_of_lt (by omega)]

/-- A larger size that is no wrapped difference is one that the reply counts. -/
lemma lt_uintn_sub_header {arch : Arch} {size header : ℕ} (hsize : size < 2 ^ 32) :
    (n < arch.uintn (size + 2 ^ arch.uintnBits - header) ∧ header ≤ size) ↔
      header + n < size := by
  constructor
  · rintro ⟨hlt, hle⟩
    rw [uintn_sub_header hsize hle] at hlt
    omega
  · intro hlt
    rw [uintn_sub_header hsize (by omega)]
    omega

/-- A get whose request is not sent leaves the buffers alone, and at most tells the session id
to a caller who has room for it. -/
lemma getVariable_stops (hnone : ∀ name guid n, ¬ args.Sends cfg st name guid n) :
    ∃ out, out.status ≠ .bufferTooSmall ∧ (∀ mem mem', args.data = some mem →
      out.data = some mem' → ∀ x, args.dataSize.getD 0 ≤ x → mem' x = mem x) ∧
        args.Stops cfg st out := by
  have hkept : ∀ (status : EfiStatus) (mem mem' : ByteStore), args.data = some mem →
      (args.exit status).data = some mem' → ∀ x, args.dataSize.getD 0 ≤ x → mem' x = mem x :=
    fun status mem mem' hmem hmem' x _ => by rw [Option.some.inj (hmem'.symm.trans hmem)]
  by_cases hadmitted : ∃ name guid n, args.Admitted st name guid n
  case neg =>
    obtain ⟨status, ⟨-, hshort⟩, hstops⟩ := @getVariable_refused _ cfg args st
      fun name guid n h => hadmitted ⟨name, guid, n, h⟩
    exact ⟨_, hshort, hkept status, hstops⟩
  obtain ⟨name, guid, n, h⟩ := hadmitted
  cases hhook : isTestHook cfg name guid n with
  | true =>
      refine ⟨_, (fun h => by cases h), fun mem mem' hmem hmem' x hx => ?_,
        getVariable_testHook h hhook⟩
      have hn : n = cfg.arch.uintnBytes := by
        simp only [isTestHook, Bool.and_eq_true, decide_eq_true_eq] at hhook
        exact hhook.2
      rw [h.dataSize_eq, Option.getD_some, hn] at hx
      simp only [hmem, Option.map_some, Option.some.injEq] at hmem'
      rw [← hmem', ByteStore.write_apply_of_le (by rw [ByteStore.length_leBytes]; omega)]
  | false =>
      obtain ⟨status, ⟨-, hshort⟩, hstops⟩ := getVariable_unsent h hhook
        fun hsent => hnone name guid n ⟨h, hhook, hsent.1, hsent.2.1, hsent.2.2⟩
      exact ⟨_, hshort, hkept status, hstops⟩

lemma GetArgs.Sends.unique {name' : Char16String} {guid' : EfiGuid} {n' : ℕ}
    (h : args.Sends cfg st name guid n) (h' : args.Admitted st name' guid' n') :
    name' = name ∧ guid' = guid ∧ n' = n := h.admitted.unique h'

/-- The result buffer has room for the header of a reply to a request that is sent. -/
lemma GetArgs.Sends.header_le (h : args.Sends cfg st name guid n) :
    GetResult.data ≤ cfg.memSize := by
  obtain ⟨hfirst, hsecond⟩ := h.passes
  have hmem : cfg.memSize = cfg.arch.uintn (cfg.maxVariableSize + sizeofVariableParam) := rfl
  simp only [GetParam.sizeof, GetResult.sizeof, GetResult.data] at hfirst hsecond ⊢
  by_cases hwrap : 28 + name.strSize % 2 ^ 32 < 2 ^ 32
  · rw [Nat.mod_eq_of_lt hwrap] at hsecond
    omega
  · omega

/-- The room a request leaves for the reply is inside the result buffer. -/
lemma GetArgs.Sends.room_le (h : args.Sends cfg st name guid n) :
    (GetResult.sizeof + n % 2 ^ 32) % 2 ^ 32 ≤ cfg.memSize :=
  Nat.not_lt.mp (not_or.mp h.passes.2).2

/-- A get whose request is sent reads the reply to it. -/
lemma GetArgs.Sends.eq (h : args.Sends cfg st name guid n) :
    ∃ after : AuthVarState σ, after.result = st.replied cfg
        ((GetResult.sizeof + n % 2 ^ 32) % 2 ^ 32) (replyToGet cfg ta st name guid n) ∧
      opteeRuntimeGetVariable cfg ta args st = getReply cfg args n (n % 2 ^ 32)
        (statusOfTeec (replyToGet cfg ta st name guid n).teecResult,
          (replyToGet cfg ta st name guid n).valueA.toNat, after) :=
  ⟨_, rfl, getVariable_eq h.admitted h.hook h.session h.buffers h.passes⟩

lemma GetArgs.Sends.withResult (h : args.Sends cfg st name guid n) (result : ByteStore) :
    args.Sends cfg { st with result := result } name guid n :=
  ⟨⟨h.1.1, h.1.2, h.1.3, h.1.4, h.1.5⟩, h.hook, h.session, h.buffers, h.passes⟩

/-- The size in the result buffer is that of the reply. -/
lemma GetArgs.Sends.dataSize_eq (h : args.Sends cfg st name guid n) {reply : TaReply} :
    ((st.replied cfg ((GetResult.sizeof + n % 2 ^ 32) % 2 ^ 32) reply).load32
      GetResult.dataSize).toNat = reply.dataSize n := by
  have hheader := h.header_le
  simp only [GetResult.data] at hheader
  rw [TaReply.dataSize,
    agreeBelow_replied.load32 (by simp only [GetResult.dataSize]; omega)]

/-- A sound reply is distrusted. -/
lemma GetArgs.Sends.distrusts (h : args.Sends cfg st name guid n)
    (hsound : SoundGetReply cfg n (replyToGet cfg ta st name guid n)) :
    args.Distrusts cfg ta st where
  writes := by
    obtain ⟨after, -, hget⟩ := @GetArgs.Sends.eq _ cfg ta _ _ _ _ _ h
    intro mem mem' hmem hmem' x hx
    rw [hget] at hmem'
    rw [h.admitted.dataSize_eq, Option.getD_some] at hx
    have hle : n % 2 ^ 32 ≤ n := Nat.mod_le _ _
    exact getReply_writes hmem hmem' (hle.trans hx)
  reads := by
    intro result hresult
    obtain ⟨after, hafter, hget⟩ := @GetArgs.Sends.eq _ cfg ta _ _ _ _ _ h
    obtain ⟨after', hafter', hget'⟩ := @GetArgs.Sends.eq _ cfg ta _ _ _ _ _ (h.withResult result)
    rw [hget, hget']
    have hagree : AgreeBelow cfg.memSize after.result after'.result := by
      rw [hafter, hafter']
      exact agreeBelow_replied.symm.trans agreeBelow_replied
    refine getReply_congr hagree h.header_le fun hstatus hlen => ?_
    rw [hafter, h.dataSize_eq] at hlen ⊢
    exact hsound.fits (statusOfTeec_eq_success.mp hstatus) hlen
  tooSmall := by
    obtain ⟨after, -, hget⟩ := @GetArgs.Sends.eq _ cfg ta _ _ _ _ _ h
    intro name' guid' n' h' hshort
    obtain ⟨rfl, rfl, rfl⟩ := h.unique h'
    rw [hget] at hshort ⊢
    have hstatus := getReply_tooSmall.mp hshort
    rw [getReply_dataSize hstatus, lt_uintn_sub_header (UInt32.toNat_lt _)]
    exact hsound.short (statusOfTeec_eq_bufferTooSmall.mp hstatus)

/-- What a get that succeeds gives its caller. -/
lemma GetArgs.Sends.bytes_eq (h : args.Sends cfg st name guid n)
    (hsuccess : (replyToGet cfg ta st name guid n).teecResult = teecSuccess)
    (hlen : (replyToGet cfg ta st name guid n).dataSize n ≤ n % 2 ^ 32) :
    (opteeRuntimeGetVariable cfg ta args st).1.bytes =
      (st.replied cfg ((GetResult.sizeof + n % 2 ^ 32) % 2 ^ 32)
        (replyToGet cfg ta st name guid n)).read GetResult.data
          ((replyToGet cfg ta st name guid n).dataSize n) := by
  obtain ⟨after, hafter, hget⟩ := @GetArgs.Sends.eq _ cfg ta _ _ _ _ _ h
  have hsize := @GetArgs.Sends.dataSize_eq _ _ _ _ _ _ _ h (replyToGet cfg ta st name guid n)
  have hdata : n % 2 ^ 32 = 0 ∨ args.data.isSome = true :=
    (room_of_nonNull h.admitted.nonNull).imp_left fun hn => by rw [hn]; rfl
  rw [← hafter] at hsize ⊢
  have hsuccess' := @getReply_success _ cfg args n (n % 2 ^ 32)
    (statusOfTeec (replyToGet cfg ta st name guid n).teecResult,
      (replyToGet cfg ta st name guid n).valueA.toNat, after)
    (statusOfTeec_eq_success.mpr hsuccess) (by rw [hsize]; exact hlen) hdata
  rw [hget, hsuccess'.2.2.2, hsize]

/-- Of two bytes one is different. -/
lemma exists_byte_ne (v : UInt8) : ∃ w : UInt8, w ≠ v := by
  by_cases hv : v = 0
  · exact ⟨1, fun h => absurd (h.trans hv) (by decide)⟩
  · exact ⟨0, fun h => hv h.symm⟩

/-- Data that a get copies from behind the result buffer depends on what is there. -/
lemma GetArgs.Sends.fits_of_reads (h : args.Sends cfg st name guid n)
    (hreads : ∀ result, AgreeBelow cfg.memSize st.result result →
      (opteeRuntimeGetVariable cfg ta args { st with result := result }).1 =
        (opteeRuntimeGetVariable cfg ta args st).1)
    (hsuccess : (replyToGet cfg ta st name guid n).teecResult = teecSuccess)
    (hlen : (replyToGet cfg ta st name guid n).dataSize n ≤ n % 2 ^ 32) :
    GetResult.data + (replyToGet cfg ta st name guid n).dataSize n ≤ cfg.memSize := by
  by_contra hover
  have hheader := h.header_le
  -- the last byte that is copied is behind the buffer
  obtain ⟨k, hk⟩ : ∃ k, (replyToGet cfg ta st name guid n).dataSize n = k + 1 :=
    ⟨_, (Nat.succ_pred_eq_of_pos (by omega)).symm⟩
  have hbehind : cfg.memSize ≤ GetResult.data + k := by omega
  obtain ⟨w, hw⟩ := exists_byte_ne (st.result (GetResult.data + k))
  have hsame := congrArg GetOutcome.bytes
    (hreads (Function.update st.result (GetResult.data + k) w)
      fun x hx => Function.update_of_ne (by omega) _ _)
  have hbytes := (h.withResult (Function.update st.result (GetResult.data + k) w)).bytes_eq
    hsuccess hlen
  have hreply : replyToGet cfg ta
      { st with result := Function.update st.result (GetResult.data + k) w } name guid n =
        replyToGet cfg ta st name guid n := rfl
  rw [h.bytes_eq hsuccess hlen, hbytes, hreply, hk] at hsame
  have hcopied := (ByteStore.read_eq_read_iff.mp hsame) (GetResult.data + k) (by omega) (by omega)
  rw [replied_apply_off h.room_le hbehind, replied_apply_off h.room_le hbehind] at hcopied
  exact hw ((Function.update_self _ _ _).symm.trans hcopied)

lemma getVariable_distrusts_iff : args.Distrusts cfg ta st ↔
    ∀ name guid n, args.Sends cfg st name guid n →
      SoundGetReply cfg n (replyToGet cfg ta st name guid n) := by
  constructor
  · intro hdistrusts name guid n h
    refine ⟨fun hshort => ?_, h.fits_of_reads hdistrusts.reads⟩
    have hstatus := statusOfTeec_eq_bufferTooSmall.mpr hshort
    obtain ⟨after, -, hget⟩ := @GetArgs.Sends.eq _ cfg ta _ _ _ _ _ h
    have hlarger := hdistrusts.tooSmall name guid n h.admitted
      (by rw [hget]; exact getReply_tooSmall.mpr hstatus)
    rw [hget, getReply_dataSize hstatus, lt_uintn_sub_header (UInt32.toNat_lt _)] at hlarger
    exact hlarger
  · intro hsound
    by_cases hsends : ∃ name guid n, args.Sends cfg st name guid n
    · obtain ⟨name, guid, n, h⟩ := hsends
      exact h.distrusts (hsound name guid n h)
    · obtain ⟨out, hshort, hwrites, hstops⟩ := getVariable_stops
        fun name guid n h => hsends ⟨name, guid, n, h⟩
      refine ⟨?_, fun result _ => ?_, fun name guid n _ hstatus => ?_⟩
      · rw [hstops.eq]
        exact hwrites
      · have hsame := congrArg Prod.fst (hstops ta st.param result)
        rw [hstops.eq]
        exact hsame
      · rw [hstops.eq] at hstatus
        exact absurd hstatus hshort

end GetVariable

/-! ## A reply to an enumeration -/

section GetNextVariableName

variable {σ : Type*} {cfg : AuthVarConfig} {ta : Ta σ} {st : AuthVarState σ}
  {args : GetNextArgs} {buffer : NameBuffer} {guid : EfiGuid} {n : ℕ}

/-- An enumeration reads the header of the reply, and the name if it succeeds with it. -/
lemma getNextReply_congr {l size : ℕ} {status : EfiStatus} {after after' : AuthVarState σ}
    (hagree : AgreeBelow cfg.memSize after.result after'.result)
    (hheader : GetParam.variableName ≤ cfg.memSize)
    (hfits : (after.result.load16 GetParam.variableNameSize).toNat ≤ l →
      GetParam.variableName + (after.result.load16 GetParam.variableNameSize).toNat ≤
        cfg.memSize) :
    (getNextReply cfg args n l (status, size, after')).1 =
      (getNextReply cfg args n l (status, size, after)).1 := by
  simp only [GetParam.variableName] at hheader
  have hsize : after'.result.load16 GetParam.variableNameSize =
      after.result.load16 GetParam.variableNameSize :=
    hagree.load16 (by simp only [GetParam.variableNameSize]; omega)
  have hguid : EfiGuid.ofStore after'.result GetParam.vendorGuid =
      .ofStore after.result GetParam.vendorGuid :=
    EfiGuid.eq_of_bytes (hagree.read (by simp only [GetParam.vendorGuid]; omega))
  simp only [getNextReply, hsize, hguid]
  split
  · rfl
  split
  · rfl
  split
  · rfl
  next hlen => rw [hagree.read (hfits (Nat.not_lt.mp hlen))]

/-- An enumeration writes no more than the size it compares the reply with. -/
lemma getNextReply_writes {l : ℕ} {reply : EfiStatus × ℕ × AuthVarState σ} {mem' : ByteStore}
    (hmem : args.variableName = some buffer)
    (hmem' : (getNextReply cfg args n l reply).1.variableName = some mem') {x : ℕ}
    (hx : l ≤ x) : mem' x = buffer.mem x := by
  obtain ⟨status, size, after⟩ := reply
  have hkept : ∀ {status : EfiStatus} {size : ℕ},
      (args.exit status size).variableName = some mem' → mem' x = buffer.mem x := fun h => by
    rw [GetNextArgs.exit, hmem] at h
    rw [← Option.some.inj h]
  simp only [getNextReply] at hmem'
  split at hmem'
  · exact hkept hmem'
  split at hmem'
  · exact hkept hmem'
  split at hmem'
  · exact hkept hmem'
  next hlen =>
    rw [hmem, Option.map_some, Option.some.injEq] at hmem'
    rw [← hmem', ByteStore.write_apply_of_le (by rw [ByteStore.length_read]; omega)]

/-- An enumeration asks for a larger buffer after a short reply only. -/
lemma getNextReply_tooSmall {l : ℕ} {reply : EfiStatus × ℕ × AuthVarState σ} :
    (getNextReply cfg args n l reply).1.status = .bufferTooSmall ↔
      reply.1 = .bufferTooSmall := by
  obtain ⟨status, size, after⟩ := reply
  simp only [getNextReply]
  split
  next h => exact iff_of_true h h
  next h =>
    split
    · exact Iff.rfl
    next hstatus =>
      split
      · exact iff_of_false (fun h => by cases h) h
      · exact iff_of_false (fun h => by cases h) h

lemma getNextReply_variableNameSize {l size : ℕ} {status : EfiStatus}
    {after : AuthVarState σ} (h : status = .bufferTooSmall) :
    (getNextReply cfg args n l (status, size, after)).1.variableNameSize =
      cfg.arch.uintn (size + 2 ^ cfg.arch.uintnBits - GetParam.sizeof) := by
  simp only [getNextReply, h, if_true, GetNextArgs.exit]

/-- An enumeration whose request is not sent leaves the buffers and the name alone. -/
lemma getNextVariableName_stops (hnone : ∀ n buffer guid, ¬ args.Sends cfg st n buffer guid) :
    ∃ status size, status ≠ .bufferTooSmall ∧ args.Stops cfg st (args.exit status size) := by
  by_cases hadmitted : ∃ n buffer guid, args.Admitted st n buffer guid
  case neg =>
    obtain ⟨status, ⟨-, hshort⟩, hstops⟩ := @getNextVariableName_refused _ cfg args st
      fun n buffer guid h => hadmitted ⟨n, buffer, guid, h⟩
    exact ⟨_, _, hshort, hstops⟩
  obtain ⟨n, buffer, guid, h⟩ := hadmitted
  exact ⟨_, _, by decide, getNextVariableName_unsent h fun hpass => hnone n buffer guid ⟨h, hpass⟩⟩

/-- A name whose size has sixteen bits is inside the result buffer, if it is no longer than the
caller's buffer. -/
lemma GetNextArgs.Sends.name_le (h : args.Sends cfg st n buffer guid) :
    GetParam.variableName ≤ cfg.memSize ∧ ∀ size : UInt16, size.toNat ≤ n % 2 ^ 32 →
      GetParam.variableName + size.toNat ≤ cfg.memSize := by
  obtain ⟨hfirst, hsecond⟩ := h.passes
  simp only [GetParam.sizeof, GetParam.variableName] at hfirst hsecond ⊢
  have hheader : 24 ≤ cfg.memSize := by
    by_cases hwrap : 28 + n % 2 ^ 32 < 2 ^ 32
    · rw [Nat.mod_eq_of_lt hwrap] at hsecond
      omega
    · omega
  refine ⟨hheader, fun size hsize => ?_⟩
  have hlt := UInt16.toNat_lt size
  by_cases hwrap : 28 + n % 2 ^ 32 < 2 ^ 32
  · rw [Nat.mod_eq_of_lt hwrap] at hsecond
    omega
  · omega

/-- An enumeration whose request is sent reads the reply to it. -/
lemma GetNextArgs.Sends.eq (h : args.Sends cfg st n buffer guid) :
    ∃ after : AuthVarState σ, after.result = st.replied cfg
        ((GetParam.sizeof + n % 2 ^ 32) % 2 ^ 32) (replyToGetNext cfg ta st buffer.name guid n) ∧
      opteeRuntimeGetNextVariableName cfg ta args st = getNextReply cfg args n (n % 2 ^ 32)
        (statusOfTeec (replyToGetNext cfg ta st buffer.name guid n).teecResult,
          (replyToGetNext cfg ta st buffer.name guid n).valueA.toNat, after) :=
  ⟨_, rfl, getNextVariableName_eq h.admitted h.passes⟩

lemma GetNextArgs.Sends.withResult (h : args.Sends cfg st n buffer guid) (result : ByteStore) :
    args.Sends cfg { st with result := result } n buffer guid :=
  ⟨⟨h.1.1, h.1.2, h.1.3, h.1.4, h.1.5, h.1.6⟩, h.passes⟩

/-- A sound reply is distrusted. -/
lemma GetNextArgs.Sends.distrusts (h : args.Sends cfg st n buffer guid)
    (hsound : SoundGetNextReply n (replyToGetNext cfg ta st buffer.name guid n)) :
    args.Distrusts cfg ta st where
  writes := by
    obtain ⟨after, -, hget⟩ := @GetNextArgs.Sends.eq _ cfg ta _ _ _ _ _ h
    intro buffer' mem' hbuffer' hmem' x hx
    rw [hget] at hmem'
    rw [h.admitted.variableNameSize_eq, Option.getD_some] at hx
    have hle : n % 2 ^ 32 ≤ n := Nat.mod_le _ _
    exact getNextReply_writes hbuffer' hmem' (hle.trans hx)
  reads := by
    intro result hresult
    obtain ⟨after, hafter, hget⟩ := @GetNextArgs.Sends.eq _ cfg ta _ _ _ _ _ h
    obtain ⟨after', hafter', hget'⟩ :=
      @GetNextArgs.Sends.eq _ cfg ta _ _ _ _ _ (h.withResult result)
    rw [hget, hget']
    have hagree : AgreeBelow cfg.memSize after.result after'.result := by
      rw [hafter, hafter']
      exact agreeBelow_replied.symm.trans agreeBelow_replied
    obtain ⟨hheader, hname⟩ := h.name_le
    exact getNextReply_congr hagree hheader (hname _)
  tooSmall := by
    obtain ⟨after, -, hget⟩ := @GetNextArgs.Sends.eq _ cfg ta _ _ _ _ _ h
    intro n' buffer' guid' h' hshort
    obtain rfl := Option.some.inj
      (h'.variableNameSize_eq.symm.trans h.admitted.variableNameSize_eq)
    obtain rfl := Option.some.inj (h'.variableName_eq.symm.trans h.admitted.variableName_eq)
    obtain rfl := Option.some.inj (h'.vendorGuid_eq.symm.trans h.admitted.vendorGuid_eq)
    rw [hget] at hshort ⊢
    have hstatus := getNextReply_tooSmall.mp hshort
    rw [getNextReply_variableNameSize hstatus, lt_uintn_sub_header (UInt32.toNat_lt _)]
    exact hsound (statusOfTeec_eq_bufferTooSmall.mp hstatus)

lemma getNextVariableName_distrusts_iff : args.Distrusts cfg ta st ↔
    ∀ n buffer guid, args.Sends cfg st n buffer guid →
      SoundGetNextReply n (replyToGetNext cfg ta st buffer.name guid n) := by
  constructor
  · intro hdistrusts n buffer guid h hshort
    have hstatus := statusOfTeec_eq_bufferTooSmall.mpr hshort
    obtain ⟨after, -, hget⟩ := @GetNextArgs.Sends.eq _ cfg ta _ _ _ _ _ h
    have hlarger := hdistrusts.tooSmall n buffer guid h.admitted
      (by rw [hget]; exact getNextReply_tooSmall.mpr hstatus)
    rw [hget, getNextReply_variableNameSize hstatus,
      lt_uintn_sub_header (UInt32.toNat_lt _)] at hlarger
    exact hlarger
  · intro hsound
    by_cases hsends : ∃ n buffer guid, args.Sends cfg st n buffer guid
    · obtain ⟨n, buffer, guid, h⟩ := hsends
      exact h.distrusts (hsound n buffer guid h)
    · obtain ⟨status, size, hshort, hstops⟩ := getNextVariableName_stops
        fun n buffer guid h => hsends ⟨n, buffer, guid, h⟩
      refine ⟨fun buffer mem' hbuffer hmem' x _ => ?_, fun result _ => ?_,
        fun n buffer guid _ hstatus => ?_⟩
      · rw [hstops.eq, GetNextArgs.exit, hbuffer] at hmem'
        rw [← Option.some.inj hmem']
      · have hsame := congrArg Prod.fst (hstops ta st.param result)
        rw [hstops.eq]
        exact hsame
      · rw [hstops.eq] at hstatus
        exact absurd hstatus hshort

end GetNextVariableName

/-! ## Any reply -/

/-- The replies are distrusted exactly as far as they are sound. -/
theorem distrusts_iff {σ : Type*} (cfg : AuthVarConfig) (ta : Ta σ) (st : AuthVarState σ) :
    (∀ args : GetArgs, args.Distrusts cfg ta st ↔
      ∀ name guid n, args.Sends cfg st name guid n →
        SoundGetReply cfg n (replyToGet cfg ta st name guid n)) ∧
    (∀ args : GetNextArgs, args.Distrusts cfg ta st ↔
      ∀ n buffer guid, args.Sends cfg st n buffer guid →
        SoundGetNextReply n (replyToGetNext cfg ta st buffer.name guid n)) :=
  ⟨fun _ => getVariable_distrusts_iff, fun _ => getNextVariableName_distrusts_iff⟩

/-- A TA that asks for a larger buffer, and for none. -/
def shortTa : Ta TaStore := fun _ store => (⟨teecErrorShortBuffer, [], 0⟩, store)

lemma nil_ne_zero : ∀ c ∈ ([] : List UInt16), c ≠ 0 := fun _ h => by cases h

/-- A buffer with the empty name. -/
def emptyNameBuffer : NameBuffer := ⟨fun _ => 0, ⟨[], nil_ne_zero⟩, rfl⟩

/-- The size of a short reply is below that of its header, and the difference wraps. -/
theorem not_distrusts_shortReply :
    (opteeRuntimeGetVariable largeConfig shortTa (platformKey.getArgs 1 (some fun _ => 0))
        emptyDriver).1.status = .bufferTooSmall ∧
      (opteeRuntimeGetVariable largeConfig shortTa (platformKey.getArgs 1 (some fun _ => 0))
        emptyDriver).1.dataSize = 2 ^ 64 - 16 ∧
      ¬ (platformKey.getArgs 1 (some fun _ => 0)).Distrusts largeConfig shortTa emptyDriver ∧
      ¬ (emptyNameBuffer.getNextArgs efiGlobalVariableGuid 2).Distrusts largeConfig shortTa
        emptyDriver := by
  have hsends : (platformKey.getArgs 1 (some fun _ => 0)).Sends largeConfig emptyDriver
      platformKey.name platformKey.guid 1 := by
    refine ⟨⟨rfl, rfl, rfl, rfl, by decide⟩, not_isTestHook_platformKey 1, rfl, rfl, ?_⟩
    rw [PassesChecks, memSize_largeConfig]
    decide
  have hnext : (emptyNameBuffer.getNextArgs efiGlobalVariableGuid 2).Sends largeConfig emptyDriver
      2 emptyNameBuffer efiGlobalVariableGuid := by
    refine ⟨⟨rfl, rfl, rfl, rfl, rfl, rfl⟩, ?_⟩
    rw [PassesChecks, memSize_largeConfig]
    decide
  obtain ⟨after, -, hget⟩ := @GetArgs.Sends.eq _ _ shortTa _ _ _ _ _ hsends
  have hstatus : statusOfTeec (replyToGet largeConfig shortTa emptyDriver platformKey.name
    platformKey.guid 1).teecResult = .bufferTooSmall := by
    rw [statusOfTeec_eq_bufferTooSmall]
    rfl
  refine ⟨?_, ?_, ?_, ?_⟩
  · rw [hget]
    exact getReply_tooSmall.mpr hstatus
  · rw [hget, getReply_dataSize hstatus]
    rfl
  · rw [getVariable_distrusts_iff]
    intro hsound
    exact absurd ((hsound _ _ _ hsends).short rfl) (by decide)
  · rw [getNextVariableName_distrusts_iff]
    intro hsound
    exact absurd (hsound _ _ _ hnext rfl) (by decide)

end AuthVar
end MuPlatform
