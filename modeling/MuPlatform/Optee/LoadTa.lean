import Mathlib.Data.UInt
import Mathlib.Tactic.IntervalCases
import MuPlatform.AuthVar.Variables
import MuPlatform.Optee.Smc

/-!
# Loading a trusted application

`OpteeRpcCmdLoadTa` looks an image up by the UUID the secure world asks for.  The UUID is the
one a client opened a session with, and the client made it from a GUID by swapping the first
three fields (`TaOpenSession`, `Tpm2RequestUseTpm`); the handler swaps them back.

The secure world calls twice, first for the size and then with a buffer of that size.  The size
comes back only where the buffer was too small, which is what the handler documents; two calls
obtain the whole image all the same (`taLoaded`).
-/

namespace MuPlatform
namespace Optee

open AuthVar (EfiGuid)

/-! ## Byte order -/

/-- `SWAP_B16`. -/
def swapB16 (u16 : UInt16) : UInt16 :=
  (u16 <<< 8 &&& (0xFF00 : UInt16)) ||| (u16 >>> 8 &&& (0x00FF : UInt16))

/-- `SWAP_B32`. -/
def swapB32 (u32 : UInt32) : UInt32 :=
  (u32 <<< 24 &&& (0xFF000000 : UInt32)) ||| (u32 <<< 8 &&& (0x00FF0000 : UInt32)) |||
    (u32 >>> 8 &&& (0x0000FF00 : UInt32)) ||| (u32 >>> 24 &&& (0x000000FF : UInt32))

/-- `SwapBytes16` and `SwapBytes32` of `BaseLib`, which reverse the bytes of a value. -/
structure SwapBytes where
  swapBytes16 : UInt16 → UInt16
  swapBytes32 : UInt32 → UInt32
  leBytes_swapBytes16 : ∀ v, ByteStore.leBytes 2 (swapBytes16 v).toNat =
    (ByteStore.leBytes 2 v.toNat).reverse
  leBytes_swapBytes32 : ∀ v, ByteStore.leBytes 4 (swapBytes32 v).toNat =
    (ByteStore.leBytes 4 v.toNat).reverse

lemma leBytes_swapB16 (v : UInt16) :
    ByteStore.leBytes 2 (swapB16 v).toNat = (ByteStore.leBytes 2 v.toNat).reverse := by
  apply ByteStore.leBytes_eq_reverse
  intro k b hk hb
  rw [← UInt16.toNat_toBitVec, ← UInt16.toNat_toBitVec, BitVec.testBit_toNat,
    BitVec.testBit_toNat]
  interval_cases k <;> interval_cases b <;> simp [swapB16]

lemma leBytes_swapB32 (v : UInt32) :
    ByteStore.leBytes 4 (swapB32 v).toNat = (ByteStore.leBytes 4 v.toNat).reverse := by
  apply ByteStore.leBytes_eq_reverse
  intro k b hk hb
  rw [← UInt32.toNat_toBitVec, ← UInt32.toNat_toBitVec, BitVec.testBit_toNat,
    BitVec.testBit_toNat]
  interval_cases k <;> interval_cases b <;> simp [swapB32]

/-- The macros of the client library swap as `BaseLib` does. -/
def swapMacros : SwapBytes := ⟨swapB16, swapB32, leBytes_swapB16, leBytes_swapB32⟩

namespace SwapBytes

variable (lib : SwapBytes)

/-- `timeLow`, `timeMid` and `timeHiAndVersion` of a UUID swapped in place. -/
def swapFields (uuid : List UInt8) : List UInt8 :=
  ByteStore.leBytes 4 (lib.swapBytes32 (UInt32.ofNat (ByteStore.leNat (uuid.take 4)))).toNat ++
    ByteStore.leBytes 2
      (lib.swapBytes16 (UInt16.ofNat (ByteStore.leNat ((uuid.drop 4).take 2)))).toNat ++
    ByteStore.leBytes 2
      (lib.swapBytes16 (UInt16.ofNat (ByteStore.leNat ((uuid.drop 6).take 2)))).toNat ++
    uuid.drop 8

variable {lib} {bs uuid : List UInt8}

lemma leBytes_swapBytes16_ofNat (h : bs.length = 2) :
    ByteStore.leBytes 2 (lib.swapBytes16 (UInt16.ofNat (ByteStore.leNat bs))).toNat =
      bs.reverse := by
  have hback := ByteStore.leBytes_leNat bs
  have hmod : ByteStore.leBytes 2 (ByteStore.leNat bs % 2 ^ 16) =
      ByteStore.leBytes 2 (ByteStore.leNat bs) := ByteStore.leBytes_mod 2 _
  rw [h] at hback
  rw [lib.leBytes_swapBytes16, UInt16.toNat_ofNat', hmod, hback]

lemma leBytes_swapBytes32_ofNat (h : bs.length = 4) :
    ByteStore.leBytes 4 (lib.swapBytes32 (UInt32.ofNat (ByteStore.leNat bs))).toNat =
      bs.reverse := by
  have hback := ByteStore.leBytes_leNat bs
  have hmod : ByteStore.leBytes 4 (ByteStore.leNat bs % 2 ^ 32) =
      ByteStore.leBytes 4 (ByteStore.leNat bs) := ByteStore.leBytes_mod 4 _
  rw [h] at hback
  rw [lib.leBytes_swapBytes32, UInt32.toNat_ofNat', hmod, hback]

/-- Swapping the fields reverses their bytes, whichever swap is used. -/
lemma swapFields_eq (h : uuid.length = 16) : lib.swapFields uuid = swapUuid uuid := by
  have hlow : (uuid.take 4).length = 4 := by simp [h]
  have hmid : ((uuid.drop 4).take 2).length = 2 := by simp [h]
  have hhigh : ((uuid.drop 6).take 2).length = 2 := by simp [h]
  rw [swapFields, leBytes_swapBytes32_ofNat hlow, leBytes_swapBytes16_ofNat hmid,
    leBytes_swapBytes16_ofNat hhigh, swapUuid]

end SwapBytes

lemma length_swapUuid {uuid : List UInt8} (h : uuid.length = 16) :
    (swapUuid uuid).length = 16 := by
  simp [swapUuid, h]

/-- Swapping twice gives the UUID back. -/
lemma swapUuid_swapUuid {uuid : List UInt8} (h : uuid.length = 16) :
    swapUuid (swapUuid uuid) = uuid := by
  match uuid, h with
  | [_, _, _, _, _, _, _, _, _, _, _, _, _, _, _, _], _ => rfl

/-- The UUID a client makes from the GUID of a TA. -/
def taUuid (lib : SwapBytes) (guid : EfiGuid) : TeecUuid where
  bytes := lib.swapFields guid.bytes
  length_eq := by
    rw [SwapBytes.swapFields_eq guid.length_eq, length_swapUuid guid.length_eq]

/-- The handler has the GUID of the client again. -/
lemma swapUuid_taUuid (lib : SwapBytes) (guid : EfiGuid) :
    swapUuid (taUuid lib guid).bytes = guid.bytes := by
  change swapUuid (lib.swapFields guid.bytes) = guid.bytes
  rw [SwapBytes.swapFields_eq guid.length_eq, swapUuid_swapUuid guid.length_eq]

/-! ## The call -/

section Call

variable {arch : Arch} {env : RpcEnv} {lib : SwapBytes} {guid : EfiGuid} {msg : ℕ}
  {mem : ByteStore}

/-- A call for the TA with this UUID. -/
structure LoadTaRequest (msg : ℕ) (mem : ByteStore) (uuid : TeecUuid) : Prop where
  numParams : mem.load32 (msg + MsgArg.numParams) = 2
  valueInput : paramAttrType msg mem 0 = opteeMsgAttrTypeValueInput
  tmemOutput : paramAttrType msg mem 1 = opteeMsgAttrTypeTmemOutput
  uuid : mem.read (MsgParam.slot (msg + MsgArg.params) 0 + MsgParam.valueA) 16 = uuid.bytes

/-- `param[1].u.tmem.size`. -/
def taSize (msg : ℕ) (mem : ByteStore) : ℕ :=
  (mem.load64 (MsgParam.slot (msg + MsgArg.params) 1 + MsgParam.tmemSize)).toNat

/-- `param[1].u.tmem.buf_ptr`. -/
def taBuffer (arch : Arch) (msg : ℕ) (mem : ByteStore) : ℕ :=
  arch.uintn (mem.load64 (MsgParam.slot (msg + MsgArg.params) 1 + MsgParam.tmemBufPtr)).toNat

/-- The message of the call. -/
def taMessage (msg : ℕ) : Span := ⟨msg, opteeMsgGetArgSize 2⟩

/-- The image of the TA. -/
def taImage (env : RpcEnv) (guid : EfiGuid) : List UInt8 :=
  (env.getSectionFromAnyFv guid.bytes).2

/-- What the call is expected to do, with the image size returned by every successful call. -/
structure TaDelivered (arch : Arch) (env : RpcEnv) (guid : EfiGuid) (msg : ℕ)
    (mem : ByteStore) : Prop where
  lookup : swapMacros.swapFields
    (mem.read (MsgParam.slot (msg + MsgArg.params) 0 + MsgParam.valueA) 16) = guid.bytes
  found : (opteeRpcCmdLoadTa arch env msg mem).1 = teecSuccess ↔
    (env.getSectionFromAnyFv guid.bytes).1.isError = false
  size : (opteeRpcCmdLoadTa arch env msg mem).1 = teecSuccess →
    taSize msg (opteeRpcCmdLoadTa arch env msg mem).2 = (taImage env guid).length
  copied : (opteeRpcCmdLoadTa arch env msg mem).1 = teecSuccess →
    (taImage env guid).length ≤ taSize msg mem →
    (opteeRpcCmdLoadTa arch env msg mem).2.read (taBuffer arch msg mem)
        (taImage env guid).length = taImage env guid ∧
      ∀ x, ¬ (taMessage msg).Has x → ¬ Span.Has ⟨taBuffer arch msg mem, taSize msg mem⟩ x →
        (opteeRpcCmdLoadTa arch env msg mem).2 x = mem x
  untouched : (opteeRpcCmdLoadTa arch env msg mem).1 = teecSuccess →
    taSize msg mem < (taImage env guid).length →
    ∀ x, Span.Has ⟨taBuffer arch msg mem, taSize msg mem⟩ x →
      (opteeRpcCmdLoadTa arch env msg mem).2 x = mem x

/-- The supplied buffer takes the image.  Its size counts as the `UINTN` it is converted to. -/
def TaFits (arch : Arch) (env : RpcEnv) (guid : EfiGuid) (msg : ℕ) (mem : ByteStore) : Prop :=
  (taImage env guid).length ≤ arch.uintn (taSize msg mem)

/-- The copy of the image leaves the message alone. -/
def CopyApart (arch : Arch) (env : RpcEnv) (guid : EfiGuid) (msg : ℕ) (mem : ByteStore) : Prop :=
  Span.Apart ⟨taBuffer arch msg mem, (taImage env guid).length⟩ (taMessage msg)

/-- What the call does: the size of the image replaces the supplied one only where the buffer is
too small. -/
structure TaLoaded (arch : Arch) (env : RpcEnv) (guid : EfiGuid) (msg : ℕ)
    (mem : ByteStore) : Prop where
  lookup : swapMacros.swapFields
    (mem.read (MsgParam.slot (msg + MsgArg.params) 0 + MsgParam.valueA) 16) = guid.bytes
  found : (opteeRpcCmdLoadTa arch env msg mem).1 = teecSuccess ↔
    (env.getSectionFromAnyFv guid.bytes).1.isError = false
  tooSmall : (opteeRpcCmdLoadTa arch env msg mem).1 = teecSuccess →
    ¬ TaFits arch env guid msg mem →
    taSize msg (opteeRpcCmdLoadTa arch env msg mem).2 = (taImage env guid).length ∧
      ∀ x, ¬ (taMessage msg).Has x → (opteeRpcCmdLoadTa arch env msg mem).2 x = mem x
  copied : (opteeRpcCmdLoadTa arch env msg mem).1 = teecSuccess →
    TaFits arch env guid msg mem → CopyApart arch env guid msg mem →
    taSize msg (opteeRpcCmdLoadTa arch env msg mem).2 = taSize msg mem ∧
      (opteeRpcCmdLoadTa arch env msg mem).2.read (taBuffer arch msg mem)
        (taImage env guid).length = taImage env guid
  /-- No byte past the supplied size is written. -/
  frame : ∀ x, ¬ (taMessage msg).Has x →
    ¬ Span.Has ⟨taBuffer arch msg mem, taSize msg mem⟩ x →
    (opteeRpcCmdLoadTa arch env msg mem).2 x = mem x

/-- The handler on such a call. -/
lemma opteeRpcCmdLoadTa_eq (hreq : LoadTaRequest msg mem (taUuid lib guid)) :
    opteeRpcCmdLoadTa arch env msg mem =
      if (env.getSectionFromAnyFv guid.bytes).1.isError then
        (teecErrorItemNotFound, setRet msg teecErrorItemNotFound mem)
      else if arch.uintn (taSize msg mem) < (taImage env guid).length then
        (teecSuccess, setRet msg teecSuccess
          (mem.store64 (MsgParam.slot (msg + MsgArg.params) 1 + MsgParam.tmemSize)
            (UInt64.ofNat (taImage env guid).length)))
      else
        (teecSuccess, setRet msg teecSuccess
          (mem.write (taBuffer arch msg mem) (taImage env guid))) := by
  have hattr : ¬ (paramAttrType msg mem 0 ≠ opteeMsgAttrTypeValueInput ∨
      paramAttrType msg mem 1 ≠ opteeMsgAttrTypeTmemOutput) := by
    simp [hreq.valueInput, hreq.tmemOutput]
  simp only [opteeRpcCmdLoadTa]
  rw [if_neg (not_not_intro hreq.numParams), if_neg hattr, hreq.uuid, swapUuid_taUuid]
  rfl

/-- A TA without an image is the only failure. -/
lemma opteeRpcCmdLoadTa_fst (hreq : LoadTaRequest msg mem (taUuid lib guid)) :
    (opteeRpcCmdLoadTa arch env msg mem).1 = teecSuccess ↔
      (env.getSectionFromAnyFv guid.bytes).1.isError = false := by
  rw [opteeRpcCmdLoadTa_eq hreq]
  cases herr : (env.getSectionFromAnyFv guid.bytes).1.isError with
  | true => simp [teecErrorItemNotFound, teecSuccess]
  | false =>
      rw [if_neg Bool.false_ne_true]
      split <;> simp

lemma taSize_setRet {result : TeecResult} :
    taSize msg (setRet msg result mem) = taSize msg mem := by
  rw [taSize, taSize]
  refine congrArg UInt64.toNat (ByteStore.load64_congr fun i _ => setRet_apply_off (Or.inr ?_))
  simp only [MsgParam.slot, MsgParam.sizeof, MsgParam.tmemSize, MsgArg.params, MsgArg.numParams]
  omega

lemma taMessage_has_iff {x : ℕ} : (taMessage msg).Has x ↔ msg ≤ x ∧ x < msg + 96 := Iff.rfl

lemma setRet_frame {result : TeecResult} {x : ℕ} (h : ¬ (taMessage msg).Has x) :
    setRet msg result mem x = mem x := by
  rw [taMessage_has_iff] at h
  exact setRet_apply_off (by simp only [MsgArg.ret, MsgArg.numParams]; omega)

/-- A buffer that is too small gets the size of the image. -/
lemma opteeRpcCmdLoadTa_tooSmall (hreq : LoadTaRequest msg mem (taUuid lib guid))
    (himage : (taImage env guid).length < 2 ^ arch.uintnBits)
    (hok : (env.getSectionFromAnyFv guid.bytes).1.isError = false)
    (hfits : ¬ TaFits arch env guid msg mem) :
    taSize msg (opteeRpcCmdLoadTa arch env msg mem).2 = (taImage env guid).length ∧
      ∀ x, ¬ (taMessage msg).Has x → (opteeRpcCmdLoadTa arch env msg mem).2 x = mem x := by
  rw [TaFits, Nat.not_le] at hfits
  rw [opteeRpcCmdLoadTa_eq hreq, hok, if_neg Bool.false_ne_true, if_pos hfits]
  constructor
  · have h64 : (taImage env guid).length < 2 ^ 64 :=
      himage.trans_le (Nat.pow_le_pow_right (by decide) arch.uintnBits_le)
    rw [taSize_setRet, taSize, ByteStore.load64_store64_same, UInt64.toNat_ofNat',
      Nat.mod_eq_of_lt h64]
  · intro x hx
    refine (setRet_frame hx).trans (ByteStore.store64_apply_off ?_)
    rw [taMessage_has_iff] at hx
    simp only [MsgParam.slot, MsgParam.sizeof, MsgParam.tmemSize, MsgArg.params]
    omega

/-- A buffer that is large enough gets the image. -/
lemma opteeRpcCmdLoadTa_copied (hreq : LoadTaRequest msg mem (taUuid lib guid))
    (hok : (env.getSectionFromAnyFv guid.bytes).1.isError = false)
    (hfits : TaFits arch env guid msg mem) :
    (opteeRpcCmdLoadTa arch env msg mem).2 =
      setRet msg teecSuccess (mem.write (taBuffer arch msg mem) (taImage env guid)) := by
  rw [TaFits, ← Nat.not_lt] at hfits
  rw [opteeRpcCmdLoadTa_eq hreq, hok, if_neg Bool.false_ne_true, if_neg hfits]

/-- A copy apart from the message leaves the supplied size there. -/
lemma copied_apart (hapart : CopyApart arch env guid msg mem) {result : TeecResult} :
    taSize msg (setRet msg result (mem.write (taBuffer arch msg mem) (taImage env guid))) =
        taSize msg mem ∧
      (setRet msg result (mem.write (taBuffer arch msg mem) (taImage env guid))).read
        (taBuffer arch msg mem) (taImage env guid).length = taImage env guid := by
  constructor
  · rw [taSize_setRet, taSize, taSize]
    refine congrArg UInt64.toNat (ByteStore.load64_write_off ?_)
    simp only [CopyApart, Span.Apart, taMessage, opteeMsgGetArgSize, MsgArg.params,
      MsgParam.sizeof] at hapart
    simp only [MsgParam.slot, MsgParam.sizeof, MsgParam.tmemSize, MsgArg.params]
    omega
  · have hframe : (setRet msg result
        (mem.write (taBuffer arch msg mem) (taImage env guid))).read (taBuffer arch msg mem)
          (taImage env guid).length =
        (mem.write (taBuffer arch msg mem) (taImage env guid)).read (taBuffer arch msg mem)
          (taImage env guid).length :=
      ByteStore.read_congr fun i hi =>
        setRet_frame (hapart.not_has ⟨Nat.le_add_right _ i, Nat.add_lt_add_left hi _⟩)
    rw [hframe, ByteStore.read_write_same]

/-- Nothing outside the message and the supplied buffer changes. -/
lemma opteeRpcCmdLoadTa_frame (hreq : LoadTaRequest msg mem (taUuid lib guid))
    (himage : (taImage env guid).length < 2 ^ arch.uintnBits) {x : ℕ}
    (hmsg : ¬ (taMessage msg).Has x)
    (hbuf : ¬ Span.Has ⟨taBuffer arch msg mem, taSize msg mem⟩ x) :
    (opteeRpcCmdLoadTa arch env msg mem).2 x = mem x := by
  cases hok : (env.getSectionFromAnyFv guid.bytes).1.isError with
  | true =>
      rw [opteeRpcCmdLoadTa_eq hreq, hok, if_pos rfl]
      exact setRet_frame hmsg
  | false =>
      by_cases hfits : TaFits arch env guid msg mem
      · have hlen : (taImage env guid).length ≤ taSize msg mem :=
          Nat.le_trans hfits (arch.uintn_le _)
        simp only [Span.Has] at hbuf
        rw [opteeRpcCmdLoadTa_copied hreq hok hfits, setRet_frame hmsg,
          ByteStore.write_apply_off (by omega)]
      · exact (opteeRpcCmdLoadTa_tooSmall hreq himage hok hfits).2 x hmsg

/-- Every call for a TA does that. -/
lemma taLoaded_of_request (hreq : LoadTaRequest msg mem (taUuid lib guid))
    (himage : (taImage env guid).length < 2 ^ arch.uintnBits) :
    TaLoaded arch env guid msg mem where
  lookup := by
    rw [SwapBytes.swapFields_eq ByteStore.length_read, hreq.uuid, swapUuid_taUuid]
  found := opteeRpcCmdLoadTa_fst hreq
  tooSmall hsuccess hfits :=
    opteeRpcCmdLoadTa_tooSmall hreq himage ((opteeRpcCmdLoadTa_fst hreq).mp hsuccess) hfits
  copied hsuccess hfits hapart := by
    rw [opteeRpcCmdLoadTa_copied hreq ((opteeRpcCmdLoadTa_fst hreq).mp hsuccess) hfits]
    exact copied_apart hapart
  frame x hmsg hbuf := opteeRpcCmdLoadTa_frame hreq himage hmsg hbuf

/-- The size a successful call returns is large enough for the next one. -/
lemma TaLoaded.returned_ge (h : TaLoaded arch env guid msg mem)
    (hsuccess : (opteeRpcCmdLoadTa arch env msg mem).1 = teecSuccess)
    (hapart : TaFits arch env guid msg mem → CopyApart arch env guid msg mem)
    (himage : (taImage env guid).length < 2 ^ arch.uintnBits) :
    (taImage env guid).length ≤
      arch.uintn (taSize msg (opteeRpcCmdLoadTa arch env msg mem).2) := by
  by_cases hfits : TaFits arch env guid msg mem
  · rw [(h.copied hsuccess hfits (hapart hfits)).1]
    exact hfits
  · rw [(h.tooSmall hsuccess hfits).1, Arch.uintn_of_lt himage]

/-- A call for a TA looks its GUID up and does what `TaLoaded` says; a second call with the size
the first returned obtains the whole image. -/
theorem taLoaded (arch : Arch) (env : RpcEnv) (lib : SwapBytes) (guid : EfiGuid)
    (himage : (taImage env guid).length < 2 ^ arch.uintnBits) (msg : ℕ) (mem : ByteStore)
    (hreq : LoadTaRequest msg mem (taUuid lib guid)) :
    TaLoaded arch env guid msg mem ∧
      ((opteeRpcCmdLoadTa arch env msg mem).1 = teecSuccess →
        (TaFits arch env guid msg mem → CopyApart arch env guid msg mem) →
        ∀ msg' mem', LoadTaRequest msg' mem' (taUuid lib guid) →
          taSize msg' mem' = taSize msg (opteeRpcCmdLoadTa arch env msg mem).2 →
          CopyApart arch env guid msg' mem' →
          (opteeRpcCmdLoadTa arch env msg' mem').1 = teecSuccess ∧
            (opteeRpcCmdLoadTa arch env msg' mem').2.read (taBuffer arch msg' mem')
              (taImage env guid).length = taImage env guid) := by
  have hfirst := taLoaded_of_request hreq himage
  refine ⟨hfirst, fun hsuccess hapart msg' mem' hreq' hsize hapart' => ?_⟩
  have hsecond := taLoaded_of_request hreq' himage
  have hsuccess' := hsecond.found.mpr (hfirst.found.mp hsuccess)
  have hfits : TaFits arch env guid msg' mem' := by
    rw [TaFits, hsize]
    exact hfirst.returned_ge hsuccess hapart himage
  exact ⟨hsuccess', (hsecond.copied hsuccess' hfits hapart').2⟩

end Call

/-! ## A call for the variable TA -/

/-- `gOpteeAuthVarTaGuid`. -/
def gOpteeAuthVarTaGuid : EfiGuid where
  bytes := [0xf7, 0xc0, 0x57, 0x2d, 0xdf, 0xbd, 0xea, 0x48,
    0x83, 0x2f, 0xd8, 0x4a, 0x1a, 0x21, 0x93, 0x01]
  length_eq := rfl

/-- Firmware with an image of four bytes under every GUID. -/
def fourByteFirmware : RpcEnv :=
  { bareFirmware with getSectionFromAnyFv := fun _ => (.success, [1, 2, 3, 4]) }

/-- A message for the variable TA at address 0, with this buffer. -/
def taCall (buf size : UInt64) : ByteStore :=
  ((((((ByteStore.store32 (fun _ => 0) MsgArg.numParams 2).store64
    (MsgParam.slot MsgArg.params 0 + MsgParam.attr) opteeMsgAttrTypeValueInput).write
    (MsgParam.slot MsgArg.params 0 + MsgParam.valueA)
      (taUuid swapMacros gOpteeAuthVarTaGuid).bytes).store64
    (MsgParam.slot MsgArg.params 1 + MsgParam.attr) opteeMsgAttrTypeTmemOutput).store64
    (MsgParam.slot MsgArg.params 1 + MsgParam.tmemBufPtr) buf).store64
    (MsgParam.slot MsgArg.params 1 + MsgParam.tmemSize) size)

lemma taCall_request (buf size : UInt64) :
    LoadTaRequest 0 (taCall buf size) (taUuid swapMacros gOpteeAuthVarTaGuid) := by
  have hlen := (taUuid swapMacros gOpteeAuthVarTaGuid).length_eq
  constructor <;> simp only [taCall, paramAttrType, MsgArg.numParams, MsgArg.params,
    MsgParam.slot, MsgParam.sizeof, MsgParam.attr, MsgParam.valueA, MsgParam.tmemBufPtr,
    MsgParam.tmemSize, Nat.zero_add]
  · rw [ByteStore.load32_store64_off (by omega), ByteStore.load32_store64_off (by omega),
      ByteStore.load32_store64_off (by omega), ByteStore.load32_write_off (by omega),
      ByteStore.load32_store64_off (by omega), ByteStore.load32_store32_same]
  · rw [ByteStore.load64_store64_off (by omega), ByteStore.load64_store64_off (by omega),
      ByteStore.load64_store64_off (by omega), ByteStore.load64_write_off (by omega),
      ByteStore.load64_store64_same]
    decide
  · rw [ByteStore.load64_store64_off (by omega), ByteStore.load64_store64_off (by omega),
      ByteStore.load64_store64_same]
    decide
  · rw [ByteStore.read_store64_off (by omega), ByteStore.read_store64_off (by omega),
      ByteStore.read_store64_off (by omega), ← hlen, ByteStore.read_write_same]

lemma taSize_taCall (buf size : UInt64) : taSize 0 (taCall buf size) = size.toNat := by
  rw [taSize, taCall, Nat.zero_add, ByteStore.load64_store64_same]

lemma taBuffer_taCall (arch : Arch) (buf size : UInt64) :
    taBuffer arch 0 (taCall buf size) = arch.uintn buf.toNat := by
  rw [taBuffer, taCall, Nat.zero_add, ByteStore.load64_store64_off (by decide),
    ByteStore.load64_store64_same]

/-- A query with no buffer returns the size, and with a buffer of that size at 4096 the image
comes. -/
theorem taLoaded_variableTa :
    taSize 0 (opteeRpcCmdLoadTa .aarch64 fourByteFirmware 0 (taCall 0 0)).2 = 4 ∧
      (opteeRpcCmdLoadTa .aarch64 fourByteFirmware 0 (taCall 4096 4)).2.read 4096 4 =
        [1, 2, 3, 4] := by
  have htwice := taLoaded .aarch64 fourByteFirmware swapMacros gOpteeAuthVarTaGuid (by decide) 0
    (taCall 0 0) (taCall_request 0 0)
  have hsuccess : (opteeRpcCmdLoadTa .aarch64 fourByteFirmware 0 (taCall 0 0)).1 = teecSuccess :=
    htwice.1.found.mpr rfl
  have hsmall : ¬ TaFits .aarch64 fourByteFirmware gOpteeAuthVarTaGuid 0 (taCall 0 0) := by
    rw [TaFits, taSize_taCall]
    decide
  have hreturned := (htwice.1.tooSmall hsuccess hsmall).1
  have himage := (htwice.2 hsuccess (fun hfits => absurd hfits hsmall) 0 (taCall 4096 4)
    (taCall_request 4096 4) (by rw [hreturned, taSize_taCall]; rfl)
    (by rw [CopyApart, taBuffer_taCall]; exact Or.inr (by decide))).2
  rw [taBuffer_taCall] at himage
  exact ⟨hreturned, himage⟩

/-- A buffer of 16 bytes gets the image and no size; a buffer of `2 ^ 32` bytes is none to 32-bit
code; a buffer in the message loses the image to the result. -/
theorem not_taDelivered :
    ¬ TaDelivered .aarch64 fourByteFirmware gOpteeAuthVarTaGuid 0 (taCall 4096 16) ∧
      ¬ TaDelivered .arm fourByteFirmware gOpteeAuthVarTaGuid 0 (taCall 4096 (2 ^ 32)) ∧
      ¬ TaDelivered .aarch64 fourByteFirmware gOpteeAuthVarTaGuid 0 (taCall 20 4) := by
  have hsuccess : ∀ arch buf size,
      (opteeRpcCmdLoadTa arch fourByteFirmware 0 (taCall buf size)).1 = teecSuccess :=
    fun _ buf size => (opteeRpcCmdLoadTa_fst (taCall_request buf size)).mpr rfl
  refine ⟨fun hdelivered => ?_, fun hdelivered => ?_, fun hdelivered => ?_⟩
  · have hfits : TaFits .aarch64 fourByteFirmware gOpteeAuthVarTaGuid 0 (taCall 4096 16) := by
      rw [TaFits, taSize_taCall]
      decide
    have hsize := hdelivered.size (hsuccess _ _ _)
    rw [opteeRpcCmdLoadTa_copied (taCall_request 4096 16) rfl hfits, (copied_apart (by
      rw [CopyApart, taBuffer_taCall]; exact Or.inr (by decide))).1, taSize_taCall] at hsize
    exact absurd hsize (by decide)
  · have hsmall :
        ¬ TaFits .arm fourByteFirmware gOpteeAuthVarTaGuid 0 (taCall 4096 (2 ^ 32)) := by
      rw [TaFits, taSize_taCall]
      decide
    have himage := (hdelivered.copied (hsuccess _ _ _) (by rw [taSize_taCall]; decide)).1
    rw [taBuffer_taCall] at himage
    have hbyte := ByteStore.apply_eq_of_read_eq (k := 0) himage (by decide)
    rw [(opteeRpcCmdLoadTa_tooSmall (taCall_request _ _) (by decide) rfl hsmall).2 _
      (by rw [taMessage_has_iff]; decide)] at hbyte
    exact absurd hbyte (by decide +kernel)
  · have hfits : TaFits .aarch64 fourByteFirmware gOpteeAuthVarTaGuid 0 (taCall 20 4) := by
      rw [TaFits, taSize_taCall]
      decide
    have himage := (hdelivered.copied (hsuccess _ _ _) (by rw [taSize_taCall]; decide)).1
    rw [taBuffer_taCall, opteeRpcCmdLoadTa_copied (taCall_request 20 4) rfl hfits,
      taBuffer_taCall] at himage
    exact absurd himage (by decide +kernel)

end Optee
end MuPlatform
