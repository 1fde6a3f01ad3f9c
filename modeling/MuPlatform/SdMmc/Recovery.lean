import MuPlatform.SdMmc.Steps

/-!
# Error recovery is bounded and balanced

A recovery sends commands whose failures are recovered from in turn.  What bounds the recursion
is `ErrorRecoveryAttemptCount`: `recoveriesLeft` is how many recoveries can be nested from a
counter on, and with that many allowed, every function comes back with the counter it started
with (`recover_agree`).  Allowing more changes nothing, so `recovery` is `SdhcRecoverFromErrors`
itself, without a bound.
-/

namespace MuPlatform
namespace SdMmc

open Prog

variable {H B : Type} {host : SdhcHost H} {boot : BootServices B}

/-- The recoveries that can be nested when the counter is at `attempts`.  At the largest value
the counter wraps to `0`, and the whole budget is there again. -/
def recoveriesLeft (attempts : UInt32) : ℕ :=
  if attempts + 1 = 0 then sdmmcErrorRecoveryAttemptThreshold + 2
  else max 1 (sdmmcErrorRecoveryAttemptThreshold + 1 - attempts.toNat)

lemma recoveriesLeft_pos (attempts : UInt32) : 0 < recoveriesLeft attempts := by
  unfold recoveriesLeft
  split
  · omega
  · exact lt_of_lt_of_le Nat.one_pos (le_max_left _ _)

lemma recoveriesLeft_le (attempts : UInt32) :
    recoveriesLeft attempts ≤ sdmmcErrorRecoveryAttemptThreshold + 2 := by
  unfold recoveriesLeft
  split
  · exact le_rfl
  · omega

lemma recoveriesLeft_of_le {attempts : UInt32}
    (h : attempts.toNat ≤ sdmmcErrorRecoveryAttemptThreshold) :
    recoveriesLeft attempts = sdmmcErrorRecoveryAttemptThreshold + 1 - attempts.toNat := by
  have hne : attempts + 1 ≠ 0 := by
    intro h0
    have := congrArg UInt32.toNat h0
    rw [UInt32.toNat_add] at this
    simp only [sdmmcErrorRecoveryAttemptThreshold] at h
    simp at this
    omega
  rw [recoveriesLeft, if_neg hne]
  omega

/-- Below the threshold a recovery uses up one of those left. -/
lemma recoveriesLeft_succ {attempts : UInt32}
    (h : (attempts + 1).toNat ≤ sdmmcErrorRecoveryAttemptThreshold) :
    recoveriesLeft attempts = recoveriesLeft (attempts + 1) + 1 := by
  rw [recoveriesLeft_of_le h]
  by_cases h0 : attempts + 1 = 0
  · rw [recoveriesLeft, if_pos h0, h0]
    simp
  · have hsucc : (attempts + 1).toNat = attempts.toNat + 1 := by
      have hne : (attempts + 1).toNat ≠ 0 := fun hz => h0 (UInt32.toNat_inj.mp (by simpa using hz))
      have hlt := attempts.toNat_lt
      rw [UInt32.toNat_add] at hne ⊢
      simp at hne ⊢
      omega
    rw [recoveriesLeft, if_neg h0]
    simp only [sdmmcErrorRecoveryAttemptThreshold] at h ⊢
    omega

/-! ## The counter -/

/-- The counter of the world is `attempts`. -/
def Attempts (attempts : UInt32) (w : World H B) : Prop :=
  w.inst.errorRecoveryAttemptCount = attempts

lemma HostInst.setInstalled_errorRecoveryAttemptCount (inst : HostInst) (b : Bool)
    (p : Interface) :
    (inst.setInstalled b p).errorRecoveryAttemptCount = inst.errorRecoveryAttemptCount := by
  cases p <;> rfl

lemma DeviceStep.errorRecoveryAttemptCount {w w' : World H B} (h : DeviceStep host w w') :
    w'.inst.errorRecoveryAttemptCount = w.inst.errorRecoveryAttemptCount := by
  cases h with
  | bus h =>
      cases h with
      | read _ size buffer bytes h ok => cases buffer <;> rfl
      | _ => rfl
  | card inst h => exact h.errorRecoveryAttemptCount
  | extCsd => rfl

/-- Only `SdhcRecoverFromErrors` itself moves the counter. -/
lemma DriverStep.attempts {w w' : World H B} (h : DriverStep host boot w w') {attempts : UInt32}
    (hw : Attempts attempts w) : Attempts attempts w' := by
  unfold Attempts at hw ⊢
  rw [← hw]
  cases h with
  | request h =>
      cases h with
      | device h => exact h.errorRecoveryAttemptCount
      | _ => rfl
  | install p =>
      simp only [afterInstall]
      split
      · rfl
      · exact HostInst.setInstalled_errorRecoveryAttemptCount _ _ _
  | uninstall p =>
      simp only [afterUninstall]
      split
      · rfl
      · exact HostInst.setInstalled_errorRecoveryAttemptCount _ _ _
  | _ => rfl

/-! ## The recursion -/

/-- With the recoveries that can be nested allowed, a recovery comes back with the counter it
started with, and allowing more makes no difference. -/
lemma recover_agree {n n' : ℕ} {attempts : UInt32} (hn : recoveriesLeft attempts ≤ n)
    (hn' : recoveriesLeft attempts ≤ n') (cmd : SdCommand) :
    Agree (Attempts attempts) (sdhcRecoverFromErrors host boot n cmd)
      (sdhcRecoverFromErrors host boot n' cmd) := by
  induction n generalizing n' attempts cmd with
  | zero => exact absurd hn (by have := recoveriesLeft_pos attempts; omega)
  | succ n ih =>
      obtain ⟨n', rfl⟩ : ∃ m, n' = m + 1 :=
        ⟨n' - 1, by have := recoveriesLeft_pos attempts; omega⟩
      have hbody : Agree (Attempts (attempts + 1))
          (boundedRecovery host boot (sdhcRecoverFromErrors host boot n) cmd (attempts + 1))
          (boundedRecovery host boot (sdhcRecoverFromErrors host boot n') cmd (attempts + 1)) := by
        unfold boundedRecovery
        split
        · intro w hw
          exact ⟨_, w, rfl, rfl, hw⟩
        · next hle =>
            -- below the threshold the nested recoveries have one less to nest
            have hleft := @recoveriesLeft_succ attempts (by omega)
            exact (recoverySteps_built cmd).agree
              (fun w w' (h : DriverStep host boot w w') hw => h.attempts hw)
              fun cmd' => ih (by omega) (by omega) cmd'
      intro w hw
      have henter : Attempts (attempts + 1) (w.enterRecovery cmd) := by
        unfold Attempts at hw ⊢
        rw [← hw]
        rfl
      obtain ⟨status, w', hrun, hrun', hw'⟩ := hbody _ henter
      have hcount : w.inst.errorRecoveryAttemptCount + 1 = attempts + 1 := by rw [hw]
      refine ⟨status, w'.leaveRecovery, ?_, ?_, ?_⟩
      · rw [sdhcRecoverFromErrors_succ, hcount, hrun]
        rfl
      · rw [sdhcRecoverFromErrors_succ, hcount, hrun']
        rfl
      · show w'.inst.errorRecoveryAttemptCount - 1 = attempts
        rw [show w'.inst.errorRecoveryAttemptCount = attempts + 1 from hw']
        exact UInt32.add_sub_cancel attempts 1

/-- The function comes back from `w` with the counter it started with, once `n` nested
recoveries are allowed, and allowing more makes no difference. -/
def Balanced (host : SdhcHost H) (boot : BootServices B) {α : Type}
    (f : (SdCommand → Prog (World H B) EfiStatus) → Prog (World H B) α) (w : World H B)
    (n : ℕ) : Prop :=
  ∃ a w', (∀ m, n ≤ m → f (sdhcRecoverFromErrors host boot m) w = some (a, w')) ∧
    w'.inst.errorRecoveryAttemptCount = w.inst.errorRecoveryAttemptCount

/-- A function built from the steps of the driver is balanced. -/
lemma DriverProg.balanced {α : Type}
    {f : (SdCommand → Prog (World H B) EfiStatus) → Prog (World H B) α}
    (hf : DriverProg host boot f) (w : World H B) :
    Balanced host boot f w (recoveriesLeft w.inst.errorRecoveryAttemptCount) := by
  have hagree : ∀ m, recoveriesLeft w.inst.errorRecoveryAttemptCount ≤ m →
      Agree (Attempts w.inst.errorRecoveryAttemptCount)
        (f (sdhcRecoverFromErrors host boot (recoveriesLeft w.inst.errorRecoveryAttemptCount)))
        (f (sdhcRecoverFromErrors host boot m)) := fun m hm =>
    hf.agree (fun w w' h hw => h.attempts hw) fun cmd => recover_agree le_rfl hm cmd
  obtain ⟨a, w', hrun, -, hw'⟩ := hagree _ le_rfl w rfl
  refine ⟨a, w', fun m hm => ?_, hw'⟩
  obtain ⟨b, u, hrun', hm', -⟩ := hagree m hm w rfl
  rw [hm', ← hrun', hrun]

/-- `SdhcRecoverFromErrors`.  The bound is large enough for every counter. -/
def recovery (host : SdhcHost H) (boot : BootServices B) :
    SdCommand → Prog (World H B) EfiStatus :=
  sdhcRecoverFromErrors host boot (sdmmcErrorRecoveryAttemptThreshold + 2)

/-- With the recovery tied in, a function of the driver comes back, with the counter it started
with. -/
lemma DriverProg.returns {α : Type}
    {f : (SdCommand → Prog (World H B) EfiStatus) → Prog (World H B) α}
    (hf : DriverProg host boot f) (w : World H B) :
    ∃ a w', f (recovery host boot) w = some (a, w') ∧
      w'.inst.errorRecoveryAttemptCount = w.inst.errorRecoveryAttemptCount := by
  obtain ⟨a, w', hrun, hw'⟩ := hf.balanced w
  exact ⟨a, w', hrun _ (recoveriesLeft_le _), hw'⟩

/-! ## What every run keeps -/

/-- What every step of the driver keeps, and the bookkeeping of a recovery, every recovery keeps. -/
lemma sdhcRecoverFromErrors_keeps {P : World H B → Prop}
    (hstep : ∀ w w', DriverStep host boot w w' → P w → P w')
    (henter : ∀ cmd w, P w → P (w.enterRecovery cmd)) (hleave : ∀ w, P w → P w.leaveRecovery)
    (n : ℕ) (cmd : SdCommand) : Preserves P (sdhcRecoverFromErrors host boot n cmd) :=
  sdhcRecoverFromErrors_preserves (fun w w' h => hstep w w' (.request (.device (.bus h))))
    henter hleave (fun _ hrec => Built.preserves softReset_built hstep hrec) n cmd

/-- What every step of the driver keeps, and the bookkeeping of a recovery, every run keeps. -/
theorem DriverProg.preserves {α : Type} {P : World H B → Prop}
    {f : (SdCommand → Prog (World H B) EfiStatus) → Prog (World H B) α}
    (hf : DriverProg host boot f) (hstep : ∀ w w', DriverStep host boot w w' → P w → P w')
    (henter : ∀ cmd w, P w → P (w.enterRecovery cmd)) (hleave : ∀ w, P w → P w.leaveRecovery) :
    Preserves P (f (recovery host boot)) := by
  exact Built.preserves hf hstep fun cmd => sdhcRecoverFromErrors_keeps hstep henter hleave _ cmd

/-- `w` comes after `w₀` on the same controller: the trace has grown, and what identifies the
controller is the same. -/
structure World.Later (w₀ w : World H B) : Prop where
  trace : w₀.trace <+: w.trace
  address : w.address = w₀.address
  mmcHandle : w.inst.mmcHandle = w₀.inst.mmcHandle
  hostCapabilities : w.inst.hostCapabilities = w₀.inst.hostCapabilities

lemma World.Later.refl (w : World H B) : w.Later w := ⟨List.prefix_rfl, rfl, rfl, rfl⟩

lemma World.Later.trans {w₀ w w' : World H B} (h : w₀.Later w) (h' : w.Later w') :
    w₀.Later w' where
  trace := h.trace.trans h'.trace
  address := h'.address.trans h.address
  mmcHandle := h'.mmcHandle.trans h.mmcHandle
  hostCapabilities := h'.hostCapabilities.trans h.hostCapabilities

lemma BusStep.later {w w' : World H B} (h : BusStep host w w') : w.Later w' := by
  cases h with
  | stay => exact .refl w
  | hostCall => exact ⟨List.prefix_rfl, rfl, rfl, rfl⟩
  | read _ size buffer bytes h ok =>
      refine ⟨List.prefix_append .., ?_, ?_, ?_⟩ <;> cases buffer <;> rfl
  | _ => exact ⟨List.prefix_append .., rfl, rfl, rfl⟩

lemma DriverStep.later {w w' : World H B} (h : DriverStep host boot w w') : w.Later w' := by
  have hset (inst : HostInst) (b : Bool) (p : Interface) :
      (inst.setInstalled b p).mmcHandle = inst.mmcHandle ∧
        (inst.setInstalled b p).hostCapabilities = inst.hostCapabilities := by
    cases p <;> exact ⟨rfl, rfl⟩
  cases h with
  | request h =>
      cases h with
      | device h =>
          cases h with
          | bus h => exact h.later
          | card inst h => exact ⟨List.prefix_rfl, rfl, h.mmcHandle, h.hostCapabilities⟩
          | extCsd => exact ⟨List.prefix_append .., rfl, rfl, rfl⟩
      | partition => exact ⟨List.prefix_rfl, rfl, rfl, rfl⟩
      | _ => exact ⟨List.prefix_append .., rfl, rfl, rfl⟩
  | softReset => exact ⟨List.prefix_append .., rfl, rfl, rfl⟩
  | install p =>
      refine ⟨List.prefix_append .., rfl, ?_, ?_⟩
      · simp only [afterInstall]
        split
        · rfl
        · exact (hset _ _ _).1
      · simp only [afterInstall]
        split
        · rfl
        · exact (hset _ _ _).2
  | uninstall p =>
      refine ⟨List.prefix_append .., rfl, ?_, ?_⟩
      · simp only [afterUninstall]
        split
        · rfl
        · exact (hset _ _ _).1
      · simp only [afterUninstall]
        split
        · rfl
        · exact (hset _ _ _).2
  | _ => exact ⟨List.prefix_rfl, rfl, rfl, rfl⟩

lemma DriverProg.later {α : Type}
    {f : (SdCommand → Prog (World H B) EfiStatus) → Prog (World H B) α}
    (hf : DriverProg host boot f) {w w' : World H B} {a : α}
    (hrun : f (recovery host boot) w = some (a, w')) : w.Later w' :=
  hf.preserves (fun _ _ h hw => hw.trans h.later)
    (fun _ _ hw => hw.trans ⟨List.prefix_append .., rfl, rfl, rfl⟩)
    (fun _ hw => hw.trans ⟨List.prefix_rfl, rfl, rfl, rfl⟩) w (.refl w) a w' hrun

/-- `SoftReset` was entered between two states of one controller. -/
def PerformsReset (c c' : Controller) : Prop := .softReset ∈ c'.trace.drop c.trace.length

instance (c c' : Controller) : Decidable (PerformsReset c c') :=
  inferInstanceAs (Decidable (_ ∈ _))

lemma PerformsReset.later {c : Controller} {w w' : World H B}
    (h : PerformsReset c w.toController) (hlater : w.Later w') : PerformsReset c w'.toController := by
  obtain ⟨es, hes⟩ := hlater.trace
  unfold PerformsReset at h ⊢
  rw [← hes, List.drop_append]
  exact List.mem_append_left _ h

/-- A reset records itself first, and nothing is taken back from the trace. -/
lemma softReset_trace {recover : SdCommand → Prog (World H B) EfiStatus}
    (hlater : ∀ cmd, Within World.Later (recover cmd)) {w w' : World H B} {status : EfiStatus}
    (hrun : softReset host boot recover w = some (status, w')) :
    w.trace ++ [.softReset] <+: w'.trace := by
  have hbuilt : DriverProg host boot fun recover =>
      resetSteps host boot recover >>= rollback boot :=
    .bind (.orReturn uninstallAllProtocols_built detectCard_built) rollback_built
  let u : World H B := { w with trace := w.trace ++ [.softReset] }
  have hwithin : u.Later w' := Built.preserves hbuilt (P := u.Later)
    (fun _ _ h hw => hw.trans h.later)
    (fun cmd => (hlater cmd).triple fun _ _ h hw => hw.trans h) u (.refl u) status w' hrun
  exact hwithin.trace

lemma softReset_performsReset {recover : SdCommand → Prog (World H B) EfiStatus}
    (hlater : ∀ cmd, Within World.Later (recover cmd)) {c : Controller} {w w' : World H B}
    (hc : c.trace <+: w.trace) {status : EfiStatus}
    (hrun : softReset host boot recover w = some (status, w')) :
    PerformsReset c w'.toController := by
  obtain ⟨es, hes⟩ := hc
  obtain ⟨fs, hfs⟩ := softReset_trace hlater hrun
  simp [PerformsReset, ← hfs, ← hes]

lemma sdhcRecoverFromErrors_later (n : ℕ) (cmd : SdCommand) :
    Within World.Later (sdhcRecoverFromErrors host boot n cmd) := fun w status w' hrun =>
  sdhcRecoverFromErrors_keeps (P := w.Later) (fun _ _ h hw => hw.trans h.later)
    (fun _ _ hw => hw.trans ⟨List.prefix_append .., rfl, rfl, rfl⟩)
    (fun _ hw => hw.trans ⟨List.prefix_rfl, rfl, rfl, rfl⟩) n cmd w (.refl w) status w' hrun

lemma recovery_later (cmd : SdCommand) : Within World.Later (recovery host boot cmd) :=
  sdhcRecoverFromErrors_later _ cmd

end SdMmc
end MuPlatform
