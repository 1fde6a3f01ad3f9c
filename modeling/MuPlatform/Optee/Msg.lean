import MuPlatform.Optee.Mem

/-!
# OP-TEE messages

The message the two worlds exchange (`optee_msg.h`), the operation a client passes
(`tee_client_api.h`), and the two loops that move parameters between them, `SetMsgParams` and
`GetMsgParams` (`OpteeClientSMC.c`).

A message lives in memory; its fields are named by their offsets.  A parameter of an
operation is a C union, so it is its storage: a value and a memory reference are two views of
the same bytes.
-/

namespace MuPlatform
namespace Optee

/-! ## Results -/

/-- `TEEC_Result`. -/
abbrev TeecResult := UInt32

def teecSuccess : TeecResult := 0x00000000
def teecErrorGeneric : TeecResult := 0xFFFF0000
def teecErrorAccessDenied : TeecResult := 0xFFFF0001
def teecErrorBadParameters : TeecResult := 0xFFFF0006
def teecErrorBadState : TeecResult := 0xFFFF0007
def teecErrorItemNotFound : TeecResult := 0xFFFF0008
def teecErrorNotImplemented : TeecResult := 0xFFFF0009
def teecErrorNotSupported : TeecResult := 0xFFFF000A
def teecErrorOutOfMemory : TeecResult := 0xFFFF000C
def teecErrorCommunication : TeecResult := 0xFFFF000E
def teecErrorShortBuffer : TeecResult := 0xFFFF0010

def teecOriginApi : UInt32 := 1
def teecOriginComms : UInt32 := 2

/-! ## Layout -/

namespace MsgArg

/-! The offsets of `struct optee_msg_arg`. -/

def cmd : ℕ := 0
def func : ℕ := 4
def session : ℕ := 8
def ret : ℕ := 20
def retOrigin : ℕ := 24
def numParams : ℕ := 28
def params : ℕ := 32

end MsgArg

namespace MsgParam

/-! The offsets of `struct optee_msg_param`; a `tmem` parameter overlays a `value`. -/

def attr : ℕ := 0
def valueA : ℕ := 8
def valueB : ℕ := 16
def valueC : ℕ := 24
def tmemBufPtr : ℕ := 8
def tmemSize : ℕ := 16
def tmemShmRef : ℕ := 24

/-- `sizeof (struct optee_msg_param)`. -/
def sizeof : ℕ := 32

/-- The address of `MsgParam[i]`. -/
def slot (msgParam i : ℕ) : ℕ := msgParam + sizeof * i

end MsgParam

/-- `OPTEE_MSG_GET_ARG_SIZE`. -/
def opteeMsgGetArgSize (numParams : ℕ) : ℕ := MsgArg.params + MsgParam.sizeof * numParams

def opteeMsgAttrTypeNone : UInt64 := 0x0
def opteeMsgAttrTypeValueInput : UInt64 := 0x1
def opteeMsgAttrTypeValueOutput : UInt64 := 0x2
def opteeMsgAttrTypeTmemInput : UInt64 := 0x9
def opteeMsgAttrTypeTmemOutput : UInt64 := 0xa
def opteeMsgAttrMeta : UInt64 := 0x100

/-- `OPTEE_MSG_ATTR_GET_TYPE`. -/
def opteeMsgAttrGetType (attr : UInt64) : UInt64 := attr &&& 0xFF

/-! ## Operations -/

/-- `TEEC_CONFIG_PAYLOAD_REF_COUNT`. -/
def teecConfigPayloadRefCount : ℕ := 4

def teecNone : ℕ := 0
def teecValueInput : ℕ := 1
def teecValueInout : ℕ := 3
def teecMemrefTempInput : ℕ := 5
def teecMemrefTempInout : ℕ := 7

/-- The fields of `TEEC_Operation` a call uses; each parameter is its storage. -/
structure TeecOperation where
  paramTypes : ℕ
  params : ℕ → ByteStore

/-- `TEEC_PARAM_TYPE_GET`. -/
def TeecOperation.paramType (op : TeecOperation) (i : ℕ) : ℕ := (op.paramTypes >>> (i * 4)) &&& 0xF

/-- The cases of the switches in `SetMsgParams` and `GetMsgParams`. -/
inductive ParamKind
  | none | value | tmem | unsupported
  deriving DecidableEq, Repr

/-- The case a parameter type falls in. -/
def paramKind (type : ℕ) : ParamKind :=
  if type = teecNone then .none
  else if teecValueInput ≤ type ∧ type ≤ teecValueInout then .value
  else if teecMemrefTempInput ≤ type ∧ type ≤ teecMemrefTempInout then .tmem
  else .unsupported

/-- A parameter as a `TEEC_Value`. -/
def valueA (param : ByteStore) : UInt32 := param.load32 0
def valueB (param : ByteStore) : UInt32 := param.load32 4

/-- A parameter as a `TEEC_TempMemoryReference`. -/
def tmprefBuffer (arch : Arch) (param : ByteStore) : ℕ := param.loadNat 0 arch.uintnBytes
def tmprefSize (arch : Arch) (param : ByteStore) : ℕ :=
  param.loadNat arch.uintnBytes arch.uintnBytes

def setValue (a b : UInt32) (param : ByteStore) : ByteStore := (param.store32 0 a).store32 4 b

def setTmpref (arch : Arch) (buffer size : ℕ) (param : ByteStore) : ByteStore :=
  (param.write 0 (ByteStore.leBytes arch.uintnBytes buffer)).write arch.uintnBytes
    (ByteStore.leBytes arch.uintnBytes size)

section Views

variable {arch : Arch} {param : ByteStore} {a b : UInt32} {buffer size : ℕ}

@[simp] lemma valueA_setValue : valueA (setValue a b param) = a := by
  rw [valueA, setValue, ByteStore.load32_store32_off (by omega), ByteStore.load32_store32_same]

@[simp] lemma valueB_setValue : valueB (setValue a b param) = b :=
  ByteStore.load32_store32_same _

/-- The conversion to `void *` keeps the low bits. -/
@[simp] lemma tmprefBuffer_setTmpref :
    tmprefBuffer arch (setTmpref arch buffer size param) = arch.uintn buffer := by
  rw [tmprefBuffer, setTmpref, ByteStore.loadNat_write_off (by simp),
    ByteStore.loadNat_write_leBytes, arch.pow_uintnBytes, Arch.uintn]

@[simp] lemma tmprefSize_setTmpref :
    tmprefSize arch (setTmpref arch buffer size param) = arch.uintn size := by
  rw [tmprefSize, setTmpref, ByteStore.loadNat_write_leBytes, arch.pow_uintnBytes, Arch.uintn]

lemma setValue_self : setValue (valueA param) (valueB param) param = param := by
  rw [setValue, valueA, valueB, ByteStore.store32_load32_same, ByteStore.store32_load32_same]

/-- Only the low bits of an address and a size are stored. -/
lemma setTmpref_congr {buffer' size' : ℕ} (hbuffer : arch.uintn buffer = arch.uintn buffer')
    (hsize : arch.uintn size = arch.uintn size') :
    setTmpref arch buffer size param = setTmpref arch buffer' size' param := by
  have hbytes : ∀ m n : ℕ, arch.uintn m = arch.uintn n →
      ByteStore.leBytes arch.uintnBytes m = ByteStore.leBytes arch.uintnBytes n := by
    intro m n h
    rw [Arch.uintn, Arch.uintn, ← arch.pow_uintnBytes] at h
    rw [← ByteStore.leBytes_mod, h, ByteStore.leBytes_mod]
  rw [setTmpref, setTmpref, hbytes _ _ hbuffer, hbytes _ _ hsize]

lemma setTmpref_self :
    setTmpref arch (tmprefBuffer arch param) (tmprefSize arch param) param = param := by
  rw [setTmpref, tmprefBuffer, tmprefSize, ByteStore.write_loadNat_same,
    ByteStore.write_loadNat_same]

end Views

/-! ## SetMsgParams -/

section SetMsgParams

variable (arch : Arch) (op : TeecOperation)

/-- One round of the loop of `SetMsgParams`. -/
def setMsgParam (msgParam i : ℕ) (mem : ByteStore) : ByteStore :=
  let p := MsgParam.slot msgParam i
  let type := op.paramType i
  match paramKind type with
  | .none => mem.store64 (p + MsgParam.attr) opteeMsgAttrTypeNone
  | .value =>
      ((mem.store64 (p + MsgParam.attr)
          (opteeMsgAttrTypeValueInput + UInt64.ofNat (type - teecValueInput))).store64
        (p + MsgParam.valueA) (valueA (op.params i)).toUInt64).store64
        (p + MsgParam.valueB) (valueB (op.params i)).toUInt64
  | .tmem =>
      ((mem.store64 (p + MsgParam.attr)
          (opteeMsgAttrTypeTmemInput + UInt64.ofNat (type - teecMemrefTempInput))).store64
        (p + MsgParam.tmemBufPtr) (UInt64.ofNat (tmprefBuffer arch (op.params i)))).store64
        (p + MsgParam.tmemSize) (UInt64.ofNat (tmprefSize arch (op.params i)))
  | .unsupported => mem

/-- The first `n` rounds of `SetMsgParams`. -/
def setMsgParamsUpTo (msgParam : ℕ) : ℕ → ByteStore → ByteStore
  | 0, mem => mem
  | n + 1, mem => setMsgParam arch op msgParam n (setMsgParamsUpTo msgParam n mem)

/-- `SetMsgParams`. -/
def setMsgParams (msgParam : ℕ) (mem : ByteStore) : ByteStore :=
  setMsgParamsUpTo arch op msgParam teecConfigPayloadRefCount mem

/-- The parameter at `p` carries the attribute and the contents of parameter `i`. -/
def Carries (mem : ByteStore) (p i : ℕ) : Prop :=
  let type := op.paramType i
  match paramKind type with
  | .none => mem.load64 (p + MsgParam.attr) = opteeMsgAttrTypeNone
  | .value =>
      mem.load64 (p + MsgParam.attr) =
        opteeMsgAttrTypeValueInput + UInt64.ofNat (type - teecValueInput) ∧
      mem.load64 (p + MsgParam.valueA) = (valueA (op.params i)).toUInt64 ∧
      mem.load64 (p + MsgParam.valueB) = (valueB (op.params i)).toUInt64
  | .tmem =>
      mem.load64 (p + MsgParam.attr) =
        opteeMsgAttrTypeTmemInput + UInt64.ofNat (type - teecMemrefTempInput) ∧
      (mem.load64 (p + MsgParam.tmemBufPtr)).toNat = tmprefBuffer arch (op.params i) ∧
      (mem.load64 (p + MsgParam.tmemSize)).toNat = tmprefSize arch (op.params i)
  | .unsupported => True

variable {arch op} {mem mem' : ByteStore} {msgParam i n p x : ℕ}

lemma setMsgParam_apply_off (h : x < MsgParam.slot msgParam i ∨ MsgParam.slot msgParam (i + 1) ≤ x) :
    setMsgParam arch op msgParam i mem x = mem x := by
  simp only [MsgParam.slot, MsgParam.sizeof] at h
  simp only [setMsgParam, MsgParam.slot, MsgParam.sizeof, MsgParam.attr, MsgParam.valueA,
    MsgParam.valueB, MsgParam.tmemBufPtr, MsgParam.tmemSize]
  cases paramKind (op.paramType i) with
  | none => exact ByteStore.store64_apply_off (by omega)
  | value =>
      simp only
      rw [ByteStore.store64_apply_off (by omega), ByteStore.store64_apply_off (by omega),
        ByteStore.store64_apply_off (by omega)]
  | tmem =>
      simp only
      rw [ByteStore.store64_apply_off (by omega), ByteStore.store64_apply_off (by omega),
        ByteStore.store64_apply_off (by omega)]
  | unsupported => rfl

/-- Whether a parameter is carried depends on its own bytes. -/
lemma Carries.congr (h : Carries arch op mem p i)
    (hmem : ∀ x, p ≤ x → x < p + MsgParam.sizeof → mem' x = mem x) :
    Carries arch op mem' p i := by
  have hload : ∀ k, k + 8 ≤ MsgParam.sizeof → mem'.load64 (p + k) = mem.load64 (p + k) :=
    fun k hk => ByteStore.load64_congr fun j hj => hmem _ (by omega) (by omega)
  simp only [Carries] at h ⊢
  cases hkind : paramKind (op.paramType i) with
  | none =>
      rw [hkind] at h
      simpa only [hload _ (show MsgParam.attr + 8 ≤ _ by decide)] using h
  | value =>
      rw [hkind] at h
      simpa only [hload _ (show MsgParam.attr + 8 ≤ _ by decide),
        hload _ (show MsgParam.valueA + 8 ≤ _ by decide),
        hload _ (show MsgParam.valueB + 8 ≤ _ by decide)] using h
  | tmem =>
      rw [hkind] at h
      simpa only [hload _ (show MsgParam.attr + 8 ≤ _ by decide),
        hload _ (show MsgParam.tmemBufPtr + 8 ≤ _ by decide),
        hload _ (show MsgParam.tmemSize + 8 ≤ _ by decide)] using h
  | unsupported => trivial

/-- A round of the loop leaves its own parameter carried. -/
lemma carries_setMsgParam :
    Carries arch op (setMsgParam arch op msgParam i mem) (MsgParam.slot msgParam i) i := by
  have hlt : ∀ k, (UInt64.ofNat (ByteStore.loadNat (op.params i) k arch.uintnBytes)).toNat =
      ByteStore.loadNat (op.params i) k arch.uintnBytes := by
    intro k
    rw [UInt64.toNat_ofNat']
    refine Nat.mod_eq_of_lt (ByteStore.loadNat_lt.trans_le ?_)
    rw [arch.pow_uintnBytes]
    exact Nat.pow_le_pow_right (by decide) (by cases arch <;> decide)
  simp only [Carries, setMsgParam, MsgParam.attr, MsgParam.valueA,
    MsgParam.valueB, MsgParam.tmemBufPtr, MsgParam.tmemSize]
  cases paramKind (op.paramType i) with
  | none => exact ByteStore.load64_store64_same _
  | value =>
      refine ⟨?_, ?_, ByteStore.load64_store64_same _⟩
      · rw [ByteStore.load64_store64_off (by omega), ByteStore.load64_store64_off (by omega),
          ByteStore.load64_store64_same]
      · rw [ByteStore.load64_store64_off (by omega), ByteStore.load64_store64_same]
  | tmem =>
      refine ⟨?_, ?_, ?_⟩
      · rw [ByteStore.load64_store64_off (by omega), ByteStore.load64_store64_off (by omega),
          ByteStore.load64_store64_same]
      · rw [ByteStore.load64_store64_off (by omega), ByteStore.load64_store64_same]
        exact hlt _
      · rw [ByteStore.load64_store64_same]
        exact hlt _
  | unsupported => trivial

lemma carries_setMsgParamsUpTo (hi : i < n) :
    Carries arch op (setMsgParamsUpTo arch op msgParam n mem) (MsgParam.slot msgParam i) i := by
  induction n with
  | zero => omega
  | succ n ih =>
      rcases Nat.eq_or_lt_of_le (Nat.lt_succ_iff.mp hi) with rfl | hlt
      · exact carries_setMsgParam
      · refine (ih hlt).congr fun x hx hxn => setMsgParam_apply_off ?_
        simp only [MsgParam.slot, MsgParam.sizeof] at hx hxn ⊢
        omega

lemma setMsgParamsUpTo_apply_below (hx : x < msgParam) :
    setMsgParamsUpTo arch op msgParam n mem x = mem x := by
  induction n with
  | zero => rfl
  | succ n ih =>
      rw [setMsgParamsUpTo, setMsgParam_apply_off (by simp only [MsgParam.slot]; omega), ih]

lemma setMsgParamsUpTo_apply_above (hx : MsgParam.slot msgParam n ≤ x) :
    setMsgParamsUpTo arch op msgParam n mem x = mem x := by
  induction n with
  | zero => rfl
  | succ n ih =>
      rw [setMsgParamsUpTo, setMsgParam_apply_off (.inr hx), ih]
      simp only [MsgParam.slot, MsgParam.sizeof] at hx ⊢
      omega

/-- `SetMsgParams` touches nothing behind its parameters. -/
lemma setMsgParams_apply_above (hx : MsgParam.slot msgParam teecConfigPayloadRefCount ≤ x) :
    setMsgParams arch op msgParam mem x = mem x :=
  setMsgParamsUpTo_apply_above hx

/-- `SetMsgParams` touches nothing in front of its parameters. -/
lemma setMsgParams_apply_below (hx : x < msgParam) :
    setMsgParams arch op msgParam mem x = mem x :=
  setMsgParamsUpTo_apply_below hx

/-- `SetMsgParams` leaves every parameter of the operation in its place. -/
theorem carries_setMsgParams (hi : i < teecConfigPayloadRefCount) :
    Carries arch op (setMsgParams arch op msgParam mem) (MsgParam.slot msgParam i) i :=
  carries_setMsgParamsUpTo hi

end SetMsgParams

/-! ## GetMsgParams -/

section GetMsgParams

variable (arch : Arch) (op : TeecOperation)

/-- One round of the loop of `GetMsgParams`: the new storage of parameter `i`. -/
def getMsgParam (msgParam : ℕ) (mem : ByteStore) (i : ℕ) : ByteStore :=
  let p := MsgParam.slot msgParam i
  match paramKind (op.paramType i) with
  | .none => op.params i
  | .value =>
      setValue (mem.load64 (p + MsgParam.valueA)).toUInt32
        (mem.load64 (p + MsgParam.valueB)).toUInt32 (op.params i)
  | .tmem =>
      setTmpref arch (mem.load64 (p + MsgParam.tmemBufPtr)).toNat
        (mem.load64 (p + MsgParam.tmemSize)).toNat (op.params i)
  | .unsupported => op.params i

/-- `GetMsgParams`; a round touches the parameter of its own index only. -/
def getMsgParams (msgParam : ℕ) (mem : ByteStore) : TeecOperation :=
  { op with params := fun i =>
      if i < teecConfigPayloadRefCount then getMsgParam arch op msgParam mem i else op.params i }

/-- Parameter storage equals, truncated to the field widths, the parameter at `p` of a
message; a parameter without contents is the old one. -/
def Received (type : ℕ) (old param mem : ByteStore) (p : ℕ) : Prop :=
  match paramKind type with
  | .none => param = old
  | .value =>
      valueA param = (mem.load64 (p + MsgParam.valueA)).toUInt32 ∧
      valueB param = (mem.load64 (p + MsgParam.valueB)).toUInt32
  | .tmem =>
      tmprefBuffer arch param = arch.uintn (mem.load64 (p + MsgParam.tmemBufPtr)).toNat ∧
      tmprefSize arch param = arch.uintn (mem.load64 (p + MsgParam.tmemSize)).toNat
  | .unsupported => True

/-- Two parameters of a message have the same contents after truncation. -/
def SameContents (type : ℕ) (mem : ByteStore) (p q : ℕ) : Prop :=
  match paramKind type with
  | .none => True
  | .value =>
      (mem.load64 (p + MsgParam.valueA)).toUInt32 = (mem.load64 (q + MsgParam.valueA)).toUInt32 ∧
      (mem.load64 (p + MsgParam.valueB)).toUInt32 = (mem.load64 (q + MsgParam.valueB)).toUInt32
  | .tmem =>
      arch.uintn (mem.load64 (p + MsgParam.tmemBufPtr)).toNat =
        arch.uintn (mem.load64 (q + MsgParam.tmemBufPtr)).toNat ∧
      arch.uintn (mem.load64 (p + MsgParam.tmemSize)).toNat =
        arch.uintn (mem.load64 (q + MsgParam.tmemSize)).toNat
  | .unsupported => True

variable {arch op} {mem : ByteStore} {msgParam i q : ℕ}

@[simp] lemma getMsgParams_paramTypes :
    (getMsgParams arch op msgParam mem).paramTypes = op.paramTypes := rfl

lemma getMsgParams_params : (getMsgParams arch op msgParam mem).params i =
    if i < teecConfigPayloadRefCount then getMsgParam arch op msgParam mem i else op.params i :=
  rfl

/-- What `GetMsgParams` takes from one parameter equals another exactly when the two agree. -/
lemma received_getMsgParam_iff :
    Received arch (op.paramType i) (op.params i) (getMsgParam arch op msgParam mem i) mem q ↔
      SameContents arch (op.paramType i) mem (MsgParam.slot msgParam i) q := by
  unfold Received SameContents getMsgParam
  cases hkind : paramKind (op.paramType i) <;> simp

lemma SameContents.refl (type : ℕ) (mem : ByteStore) (p : ℕ) :
    SameContents arch type mem p p := by
  unfold SameContents
  cases paramKind type <;> simp

/-- A parameter that agrees with one that carries parameter `i` gives parameter `i` back. -/
lemma getMsgParam_of_carries
    (hsame : SameContents arch (op.paramType i) mem (MsgParam.slot msgParam i) q)
    (h : Carries arch op mem q i) : getMsgParam arch op msgParam mem i = op.params i := by
  simp only [SameContents, Carries] at hsame h
  simp only [getMsgParam]
  cases hkind : paramKind (op.paramType i) with
  | none => rfl
  | value =>
      rw [hkind] at hsame h
      obtain ⟨-, ha, hb⟩ := h
      obtain ⟨hsa, hsb⟩ := hsame
      simp only [hsa, hsb, ha, hb, UInt32.toUInt32_toUInt64]
      exact setValue_self
  | tmem =>
      rw [hkind] at hsame h
      obtain ⟨-, hbuffer, hsize⟩ := h
      obtain ⟨hsb, hss⟩ := hsame
      rw [hbuffer] at hsb
      rw [hsize] at hss
      have hbuf : setTmpref arch (mem.load64 (MsgParam.slot msgParam i + MsgParam.tmemBufPtr)).toNat
          (mem.load64 (MsgParam.slot msgParam i + MsgParam.tmemSize)).toNat (op.params i) =
          setTmpref arch (tmprefBuffer arch (op.params i)) (tmprefSize arch (op.params i))
            (op.params i) := setTmpref_congr hsb hss
      rw [hbuf]
      exact setTmpref_self
  | unsupported => rfl

end GetMsgParams

end Optee
end MuPlatform
