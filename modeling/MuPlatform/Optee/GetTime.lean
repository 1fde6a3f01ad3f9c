import Mathlib.Data.Nat.ModEq
import MuPlatform.Optee.Rpc

/-!
# The time for the secure world

`OpteeRpcCmdGetTime` answers with the ticks of the performance counter as seconds and
nanoseconds.  The nanoseconds come from a 64-bit product that wraps; what is left of it is still
the time modulo `2 ^ 64` where the frequency divides the part of the product that is lost, and
only there (`timeRight_iff`).
-/

namespace MuPlatform
namespace Optee

/-! ## Quotients of wrapped naturals -/

section Wrapped

variable {n f w : ℕ}

/-- Dividing what is left of a natural modulo `w` agrees with dividing the natural, modulo `w`,
exactly where the divisor divides what is lost. -/
lemma mod_div_modEq_iff (hf : 0 < f) (hfw : f ≤ w) :
    n % w / f ≡ n / f [MOD w] ↔ f ∣ n / w := by
  have hn := Nat.div_add_mod n w
  have hdiv := Nat.div_add_mod n f
  have hrest := Nat.div_add_mod (n % w) f
  have hn' := Nat.mod_lt n hf
  have hrest' := Nat.mod_lt (n % w) hf
  constructor
  · intro hmod
    have hle : n % w / f ≤ n / f := Nat.div_le_div_right (Nat.mod_le n w)
    obtain ⟨k, hk⟩ := (Nat.modEq_iff_dvd' hle).mp hmod
    have hquot : n / f = n % w / f + w * k := by omega
    -- both sides as a multiple of `w` and a remainder below `f`
    have heq : w * (f * k) + n % f = w * (n / w) + n % w % f := by
      rw [hquot] at hdiv
      have hexpand : f * (n % w / f + w * k) = f * (n % w / f) + w * (f * k) := by ring
      omega
    refine ⟨k, ?_⟩
    have hleft : (w * (f * k) + n % f) / w = f * k := by
      rw [Nat.mul_add_div (hf.trans_le hfw), Nat.div_eq_of_lt (hn'.trans_le hfw), Nat.add_zero]
    have hright : (w * (n / w) + n % w % f) / w = n / w := by
      rw [Nat.mul_add_div (hf.trans_le hfw), Nat.div_eq_of_lt (hrest'.trans_le hfw),
        Nat.add_zero]
    rw [← hright, ← heq, hleft]
  · rintro ⟨k, hk⟩
    have hsplit : n = n % w + f * (w * k) := by
      rw [hk] at hn
      have hexpand : w * (f * k) = f * (w * k) := by ring
      omega
    have hquot : n / f = n % w / f + w * k := by
      conv_lhs => rw [hsplit, Nat.add_mul_div_left _ _ hf]
    rw [hquot]
    exact (Nat.ModEq.rfl.add (Nat.modEq_zero_iff_dvd.mpr (Nat.dvd_mul_right w k))).symm

/-- The whole part of a quotient, scaled before and after. -/
lemma scaled_div (t k : ℕ) (hf : 0 < f) (hk : 0 < k) :
    t / f * k ≤ t * k / f ∧ t * k / f < t / f * k + k := by
  have ht := Nat.div_add_mod t f
  have hlt := Nat.mod_lt t hf
  have hsplit : t * k = t % f * k + f * (t / f * k) := by
    conv_lhs => rw [← ht]
    ring
  have hquot : t * k / f = t % f * k / f + t / f * k := by
    rw [hsplit, Nat.add_mul_div_left _ _ hf]
  have hrest : t % f * k / f < k :=
    (Nat.div_lt_iff_lt_mul hf).mpr (by
      rw [Nat.mul_comm k f]
      exact Nat.mul_lt_mul_of_pos_right hlt hk)
  rw [hquot]
  exact ⟨Nat.le_add_left _ _, by rw [Nat.add_comm]; exact Nat.add_lt_add_left hrest _⟩

end Wrapped

/-! ## The answer -/

/-- `NANOS_PER_SEC`. -/
def nanosPerSec : ℕ := 1000000000

/-- The seconds and nanoseconds in the answer. -/
def answeredSeconds (msg : ℕ) (mem : ByteStore) : ℕ :=
  (mem.load64 (MsgParam.slot (msg + MsgArg.params) 0 + MsgParam.valueA)).toNat

def answeredNanos (msg : ℕ) (mem : ByteStore) : ℕ :=
  (mem.load64 (MsgParam.slot (msg + MsgArg.params) 0 + MsgParam.valueB)).toNat

/-- The answer is the number of ticks in nanoseconds, rounded down. -/
def TimeExact (env : RpcEnv) (msg : ℕ) (mem : ByteStore) : Prop :=
  answeredNanos msg mem < nanosPerSec ∧
    answeredSeconds msg mem * nanosPerSec + answeredNanos msg mem =
      env.performanceCounter.toNat * nanosPerSec / env.performanceCounterFrequency.toNat

section Answer

variable {env : RpcEnv} {msg : ℕ} {mem mem' : ByteStore}

lemma getTime_success (h : opteeRpcCmdGetTime env msg mem = (teecSuccess, mem')) :
    answeredSeconds msg mem' =
        (env.performanceCounter / env.performanceCounterFrequency).toNat ∧
      answeredNanos msg mem' =
        (env.performanceCounter * 1000000000 / env.performanceCounterFrequency -
          env.performanceCounter / env.performanceCounterFrequency * 1000000000).toNat := by
  rw [opteeRpcCmdGetTime] at h
  split at h
  · cases h
  split at h
  · cases h
  cases h
  refine ⟨?_, ?_⟩
  · rw [answeredSeconds, ByteStore.load64_store64_off (by
      simp only [MsgParam.valueA, MsgParam.valueB]; omega), ByteStore.load64_store64_same]
  · rw [answeredNanos, ByteStore.load64_store64_same]

/-- The seconds are those of the ticks, and with the nanoseconds they are, modulo `2 ^ 64`, the
quotient of what is left of the product. -/
lemma getTime_modEq (h : opteeRpcCmdGetTime env msg mem = (teecSuccess, mem')) :
    answeredSeconds msg mem' =
        env.performanceCounter.toNat / env.performanceCounterFrequency.toNat ∧
      answeredSeconds msg mem' * nanosPerSec + answeredNanos msg mem' ≡
        env.performanceCounter.toNat * nanosPerSec % 2 ^ 64 /
          env.performanceCounterFrequency.toNat [MOD 2 ^ 64] := by
  obtain ⟨hseconds, hnanos⟩ := getTime_success h
  rw [UInt64.toNat_div] at hseconds
  refine ⟨hseconds, ?_⟩
  rw [hnanos, hseconds, UInt64.toNat_sub, UInt64.toNat_div, UInt64.toNat_mul, UInt64.toNat_mul,
    UInt64.toNat_div]
  have hlit : (1000000000 : UInt64).toNat = nanosPerSec := rfl
  rw [hlit, Nat.ModEq, Nat.add_mod_mod]
  have hle : env.performanceCounter.toNat / env.performanceCounterFrequency.toNat *
      nanosPerSec % 2 ^ 64 < 2 ^ 64 := Nat.mod_lt _ (by decide)
  generalize env.performanceCounter.toNat / env.performanceCounterFrequency.toNat *
    nanosPerSec = s at hle ⊢
  omega

/-- The answer is exact where the frequency divides what is lost of the product, which it does
where nothing is. -/
lemma exact_iff (hfreq : env.performanceCounterFrequency ≠ 0)
    (h : opteeRpcCmdGetTime env msg mem = (teecSuccess, mem')) :
    TimeExact env msg mem' ↔ env.performanceCounterFrequency.toNat ∣
      env.performanceCounter.toNat * nanosPerSec / 2 ^ 64 := by
  obtain ⟨hseconds, hmod⟩ := getTime_modEq h
  have hpos : 0 < env.performanceCounterFrequency.toNat :=
    Nat.pos_of_ne_zero fun hzero => hfreq (UInt64.toNat_inj.mp hzero)
  have hlt : env.performanceCounterFrequency.toNat ≤ 2 ^ 64 :=
    env.performanceCounterFrequency.toNat_lt.le
  obtain ⟨hlow, hhigh⟩ := @scaled_div _ env.performanceCounter.toNat nanosPerSec hpos (by decide)
  rw [← mod_div_modEq_iff hpos hlt]
  constructor
  · rintro ⟨-, heq⟩
    rw [heq] at hmod
    exact hmod.symm
  · intro hquot
    have hsum := hmod.trans hquot
    rw [← hseconds] at hlow hhigh
    have hnanos : answeredNanos msg mem' < 2 ^ 64 := UInt64.toNat_lt _
    obtain ⟨d, hd⟩ := Nat.exists_eq_add_of_le hlow
    rw [hd] at hsum hhigh
    have hlast : answeredNanos msg mem' ≡ d [MOD 2 ^ 64] :=
      Nat.ModEq.add_left_cancel Nat.ModEq.rfl hsum
    have hsmall : d < nanosPerSec := Nat.lt_of_add_lt_add_left hhigh
    have heq := Nat.ModEq.eq_of_lt_of_lt hlast hnanos (hsmall.trans (by decide))
    exact ⟨heq ▸ hsmall, by rw [hd, heq]⟩

/-- The answered time in nanoseconds. -/
def answeredTime (msg : ℕ) (mem : ByteStore) : ℕ :=
  answeredSeconds msg mem * nanosPerSec + answeredNanos msg mem

/-- An exact answer is not before one to fewer ticks. -/
lemma TimeExact.mono {env' : RpcEnv} {msg' : ℕ}
    (hfreq : env'.performanceCounterFrequency = env.performanceCounterFrequency)
    (hticks : env.performanceCounter ≤ env'.performanceCounter)
    (h : TimeExact env msg mem) (h' : TimeExact env' msg' mem') :
    answeredTime msg mem ≤ answeredTime msg' mem' := by
  rw [answeredTime, answeredTime, h.2, h'.2, hfreq]
  exact Nat.div_le_div_right (Nat.mul_le_mul_right _ (UInt64.le_iff_toNat_le.mp hticks))

/-- What `OpteeRpcCmdGetTime` should answer: the exact time, and one that does not go back from an
exact answer to fewer ticks. -/
def TimeRight (env : RpcEnv) (msg : ℕ) (mem : ByteStore) : Prop :=
  TimeExact env msg mem ∧
    ∀ env₀ msg₀ mem₀ mem₁, opteeRpcCmdGetTime env₀ msg₀ mem₀ = (teecSuccess, mem₁) →
      env₀.performanceCounterFrequency = env.performanceCounterFrequency →
      env₀.performanceCounter ≤ env.performanceCounter → TimeExact env₀ msg₀ mem₁ →
        answeredTime msg₀ mem₁ ≤ answeredTime msg mem

/-- The time is right exactly where the frequency divides the part of the product of ticks and
`NANOS_PER_SEC` that 64 bits lose. -/
theorem timeRight_iff (hfreq : env.performanceCounterFrequency ≠ 0)
    (h : opteeRpcCmdGetTime env msg mem = (teecSuccess, mem')) :
    TimeRight env msg mem' ↔ env.performanceCounterFrequency.toNat ∣
      env.performanceCounter.toNat * nanosPerSec / 2 ^ 64 := by
  rw [← exact_iff hfreq h]
  exact ⟨And.left, fun hexact => ⟨hexact, fun env₀ msg₀ mem₀ mem₁ _ hsame hticks hexact₀ =>
    hexact₀.mono hsame.symm hticks hexact⟩⟩

end Answer

/-! A counter of 8 MHz. -/

/-- Firmware whose performance counter shows the given ticks. -/
def counterFirmware (ticks : UInt64) : RpcEnv :=
  { bareFirmware with performanceCounter := ticks, performanceCounterFrequency := 8000000 }

/-- A message at 0 with one parameter, a value to be answered. -/
def getTimeMessage : ByteStore :=
  (ByteStore.store32 (fun _ => 0) MsgArg.numParams 1).store64 MsgArg.params
    opteeMsgAttrTypeValueOutput

lemma getTimeMessage_success (ticks : UInt64) :
    (opteeRpcCmdGetTime (counterFirmware ticks) 0 getTimeMessage).1 = teecSuccess := rfl

/-- After one second and one tick. -/
theorem timeRight_iff_secondTick :
    TimeRight (counterFirmware 8000001) 0
      (opteeRpcCmdGetTime (counterFirmware 8000001) 0 getTimeMessage).2 :=
  (timeRight_iff (by decide) (Prod.ext (getTimeMessage_success _) rfl)).mpr ⟨0, rfl⟩

/-- After thirty-eight minutes the nanoseconds are those of a wrapped product. -/
theorem not_timeExact_wrapped :
    (opteeRpcCmdGetTime (counterFirmware 18446744074) 0 getTimeMessage).1 = teecSuccess ∧
      ¬ TimeExact (counterFirmware 18446744074) 0
        (opteeRpcCmdGetTime (counterFirmware 18446744074) 0 getTimeMessage).2 := by
  refine ⟨getTimeMessage_success _, fun hexact => ?_⟩
  have hdvd := (exact_iff (by decide) (Prod.ext (getTimeMessage_success _) rfl)).mp hexact
  norm_num [counterFirmware, nanosPerSec, UInt64.toNat_ofNat] at hdvd

end Optee
end MuPlatform
