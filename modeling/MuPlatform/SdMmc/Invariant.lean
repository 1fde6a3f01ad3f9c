import MuPlatform.SdMmc.Recovery

/-!
# Invariants of a reset

`SoftReset` writes the fields that say what is published and whether the slot is usable, in an
order that matters: it takes the protocols down before it clears the instance, and publishes them
again behind a completed initialisation.  `ResetInvariant` lists what an invariant has to be kept
by, each item with what `SoftReset` has established by then, and `ResetInvariant.softReset` and
`ResetInvariant.recovery` say that this is enough, through all nested recoveries and resets.
-/

namespace MuPlatform
namespace SdMmc

open Prog

variable {H B : Type} {host : SdhcHost H} {boot : BootServices B}

/-! ## Interfaces -/

@[simp] lemma HostInst.installed_setInstalled (inst : HostInst) (b : Bool) (p q : Interface) :
    (inst.setInstalled b p).installed q = if q = p then b else inst.installed q := by
  cases p <;> cases q <;> rfl

/-- None of the interfaces of the instance is installed. -/
def HostInst.Unpublished (inst : HostInst) : Prop := ∀ p, inst.installed p = false

lemma afterUninstall_of_ok {p : Interface} {w : World H B}
    (h : (afterUninstall boot p w).1.isError = false) :
    (afterUninstall boot p w).2.inst = w.inst.setInstalled false p := by
  unfold afterUninstall at h ⊢
  simp only at h ⊢
  rw [if_neg (by simp [h])]

/-- One block of `UninstallAllProtocols` that succeeds takes its interface down. -/
lemma uninstallInstalled_ok (p : Interface) {D : Interface → Prop} :
    Triple (fun w : World H B => ∀ q, D q → w.inst.installed q = false)
      (uninstallInstalled boot p)
      fun status w => status.isError = false → ∀ q, D q ∨ q = p → w.inst.installed q = false := by
  unfold uninstallInstalled
  refine Triple.bind (Q := fun installed w => w.inst.installed p = installed ∧
    ∀ q, D q → w.inst.installed q = false) (Triple.read fun w hw => ⟨rfl, hw⟩) fun installed => ?_
  cases installed with
  | false =>
      refine Triple.pure fun w hw _ q hq => ?_
      rcases hq with hq | rfl
      · exact hw.2 q hq
      · exact hw.1
  | true =>
      refine Triple.step fun w hw hok q hq => ?_
      rw [afterUninstall_of_ok hok, HostInst.installed_setInstalled]
      by_cases hqp : q = p
      · rw [if_pos hqp]
      · rw [if_neg hqp]
        exact hw.2 q (hq.resolve_right hqp)

/-- `UninstallAllProtocols` that succeeds leaves nothing installed. -/
lemma uninstallAllProtocols_ok :
    Triple (fun _ : World H B => True) (uninstallAllProtocols boot)
      fun status w => status.isError = false → w.inst.Unpublished := by
  have hlink (p : Interface) {D : Interface → Prop} {k : Prog (World H B) EfiStatus}
      (hk : Triple (fun w => ∀ q, D q ∨ q = p → w.inst.installed q = false) k
        fun status w => status.isError = false → w.inst.Unpublished) :
      Triple (fun w => ∀ q, D q → w.inst.installed q = false)
        ((uninstallInstalled boot p).orReturn k)
        fun status w => status.isError = false → w.inst.Unpublished := by
    refine Triple.orReturn (uninstallInstalled_ok p) ?_ (hk.strengthen ?_)
    · intro status w herr _ hok
      rw [herr] at hok
      cases hok
    · rintro w ⟨status, hok, hw⟩
      exact hw hok
  unfold uninstallAllProtocols untilError
  refine (hlink (D := fun _ => False) .blockIo (hlink .rpmbIo (hlink .devicePath ?_))).strengthen
    fun w _ q hq => hq.elim
  refine Triple.pure fun w hw _ q => hw q ?_
  cases q <;> simp

/-- The RPMB protocol installed, and the partition noted. -/
def afterPublishRpmb (boot : BootServices B) (w : World H B) : EfiStatus × World H B :=
  match afterInstall boot .rpmbIo w with
  | (status, w) =>
    (status, { w with inst := if status.isError then w.inst else w.inst.readPartition })

/-- The RPMB protocol is installed for an MMC card where no handle carries it. -/
lemma publishRpmb_apply (w : World H B) :
    publishRpmb boot w =
      if w.inst.cardFunction = .mmc ∧ (boot.locateProtocol .rpmbIo w.boot).isError = true then
        some (afterPublishRpmb boot w)
      else some (.success, w) := by
  by_cases h : w.inst.cardFunction = .mmc ∧ (boot.locateProtocol .rpmbIo w.boot).isError = true
  · rw [if_pos h]
    simp only [publishRpmb, inspect, isRpmbInstalledOnTheSystem, bind_apply, read_apply,
      Option.bind_some, h.1, h.2, Bool.not_true, and_self, if_true, installInterface, step_apply,
      update, modify_apply, afterPublishRpmb]
    rfl
  · rw [if_neg h]
    simp only [publishRpmb, inspect, isRpmbInstalledOnTheSystem, bind_apply, read_apply,
      Option.bind_some, Bool.not_eq_false']
    rw [if_neg h]
    rfl

/-! ## What a reset keeps -/

/-- `P` is an invariant of `SoftReset` and of error recovery, by what each step does.  `Ready` is
what an initialisation that got to its end has established. -/
structure ResetInvariant (host : SdhcHost H) (boot : BootServices B)
    (P Ready : World H B → Prop) : Prop where
  bus : ∀ w w', BusStep host w w' → P w → P w'
  enterRecovery : ∀ cmd w, P w → P (w.enterRecovery cmd)
  leaveRecovery : ∀ w, P w → P w.leaveRecovery
  softReset : ∀ w, P w → P { w with trace := w.trace ++ [.softReset] }
  uninstall : ∀ p w, w.inst.installed p = true → P w → P (afterUninstall boot p w).2
  cleared : ∀ w, w.inst.Unpublished → P w → P { w with inst := w.inst.cleared }
  mediaPresent : ∀ present w, w.inst.Unpublished → w.inst.media.blockSize = 0 → P w →
    P { w with inst := w.inst.setMediaPresent present }
  readOnly : ∀ readOnly w, P w → P { w with inst := w.inst.setReadOnly readOnly }
  identify : ∀ n, (∀ cmd, Preserves P (sdhcRecoverFromErrors host boot n cmd)) →
    Triple P (identifyDevice host (sdhcRecoverFromErrors host boot n)) fun status w =>
      P w ∧ (status.isError = false → Ready w)
  initialized : ∀ w, Ready w → P w →
    Ready { w with inst := w.inst.initialized } ∧ P { w with inst := w.inst.initialized }
  convert : ∀ w, P w → P { w with boot := (boot.convertDevicePathToText w.boot).2 }
  ready_convert : ∀ w, Ready w → Ready { w with boot := (boot.convertDevicePathToText w.boot).2 }
  installBlockIo : ∀ w, (w.inst.media.mediaPresent = true → w.inst.slotInitialized = true) →
    P w → P (afterInstall boot .blockIo w).2
  installDevicePath : ∀ w, P w → P (afterInstall boot .devicePath w).2
  ready_install : ∀ p w, Ready w → Ready (afterInstall boot p w).2
  installRpmb : ∀ w, Ready w → w.inst.slotInitialized = true → w.inst.cardFunction = .mmc →
    (boot.locateProtocol .rpmbIo w.boot).isError = true → P w → P (afterPublishRpmb boot w).2

namespace ResetInvariant

variable {P Ready : World H B → Prop} (h : ResetInvariant host boot P Ready) {n : ℕ}
include h

lemma uninstallInstalled (p : Interface) : Preserves P (uninstallInstalled boot p) := by
  unfold SdMmc.uninstallInstalled
  refine Triple.bind (Q := fun installed w => w.inst.installed p = installed ∧ P w)
    (Triple.read fun w hw => ⟨rfl, hw⟩) fun installed => ?_
  cases installed with
  | false => exact Triple.pure fun w hw => hw.2
  | true => exact Triple.step fun w hw => h.uninstall p w hw.1 hw.2

lemma uninstallAllProtocols : Preserves P (uninstallAllProtocols boot) := by
  unfold SdMmc.uninstallAllProtocols untilError
  exact Preserves.orReturn (h.uninstallInstalled _) (Preserves.orReturn (h.uninstallInstalled _)
    (Preserves.orReturn (h.uninstallInstalled _) (Triple.pure fun w hw => hw)))

/-- What holds when `SoftReset` starts to publish the card. -/
lemma initializeDevice (hrec : ∀ cmd, Preserves P (sdhcRecoverFromErrors host boot n cmd)) :
    Triple P (initializeDevice host (sdhcRecoverFromErrors host boot n)) fun status w =>
      P w ∧ (status.isError = false → Ready w ∧ w.inst.slotInitialized = true) := by
  unfold SdMmc.initializeDevice
  refine Triple.orReturn (h.identify n hrec) ?_ ?_
  · intro status w herr hw
    refine ⟨hw.1, fun hok => ?_⟩
    rw [herr] at hok
    cases hok
  · refine Triple.bind (Triple.modify (Q := fun _ w => P w ∧ Ready w ∧
      w.inst.slotInitialized = true) ?_) fun _ => Triple.pure fun w hw => ⟨hw.1, fun _ => hw.2⟩
    rintro w ⟨status, hok, hP, hR⟩
    obtain ⟨hR', hP'⟩ := h.initialized w (hR hok) hP
    exact ⟨hP', hR', rfl⟩

lemma publishCard :
    Triple (fun w => P w ∧ Ready w ∧ w.inst.slotInitialized = true) (publishCard boot)
      fun _ => P := by
  have hslot (p : Interface) (w : World H B) :
      (afterInstall boot p w).2.inst.slotInitialized = w.inst.slotInitialized := by
    simp only [afterInstall]
    split
    · rfl
    · cases p <;> rfl
  unfold SdMmc.publishCard
  refine Triple.orReturn (Q := fun _ w => P w ∧ Ready w ∧ w.inst.slotInitialized = true)
    (Triple.step fun w hw => ⟨h.convert w hw.1, h.ready_convert w hw.2.1, hw.2.2⟩)
    (fun _ _ _ hw => hw.1) ?_
  refine Triple.orReturn (Q := fun _ w => P w ∧ Ready w ∧ w.inst.slotInitialized = true)
    (Triple.step ?_) (fun _ _ _ hw => hw.1) ?_
  · rintro w ⟨-, -, hP, hR, hs⟩
    exact ⟨h.installBlockIo w (fun _ => hs) hP, h.ready_install _ w hR, by rw [hslot, hs]⟩
  refine Triple.orReturn (Q := fun _ w => P w ∧ Ready w ∧ w.inst.slotInitialized = true)
    (Triple.step ?_) (fun _ _ _ hw => hw.1) ?_
  · rintro w ⟨-, -, hP, hR, hs⟩
    exact ⟨h.installDevicePath w hP, h.ready_install _ w hR, by rw [hslot, hs]⟩
  · rintro w ⟨-, -, hP, hR, hs⟩ status w' hrun
    rw [publishRpmb_apply] at hrun
    split at hrun
    case isTrue hmmc =>
      obtain ⟨rfl, rfl⟩ : (afterPublishRpmb boot w).1 = status ∧
          (afterPublishRpmb boot w).2 = w' := by simpa [Prod.ext_iff] using hrun
      exact h.installRpmb w hR hs hmmc.1 hmmc.2 hP
    case isFalse =>
      obtain ⟨-, rfl⟩ : EfiStatus.success = status ∧ w = w' := by simpa using hrun
      exact hP

lemma detectCard (hrec : ∀ cmd, Preserves P (sdhcRecoverFromErrors host boot n cmd)) :
    Triple (fun w => P w ∧ w.inst.Unpublished)
      (detectCard host boot (sdhcRecoverFromErrors host boot n)) fun _ => P := by
  unfold SdMmc.detectCard
  refine Triple.bind (Q := fun _ w => P w ∧ w.inst.Unpublished ∧ w.inst.media.blockSize = 0)
    (Triple.modify fun w hw => ⟨h.cleared w hw.2 hw.1, fun p => ?_, rfl⟩) fun _ => ?_
  · have := hw.2 p
    cases p <;> exact this
  refine Triple.bind (Q := fun _ w => P w ∧ w.inst.Unpublished ∧ w.inst.media.blockSize = 0)
    (Triple.step fun w hw => ⟨h.bus w _ (.hostCall w _) hw.1, hw.2⟩) fun present => ?_
  refine Triple.bind (Q := fun _ w => P w ∧ w.inst.media.mediaPresent = present)
    (Triple.modify fun w hw => ⟨h.mediaPresent present w hw.2.1 hw.2.2 hw.1, rfl⟩) fun _ => ?_
  cases present with
  | true =>
      refine Triple.bind (Q := fun _ w => P w) (Triple.step fun w hw =>
        h.bus w _ (.hostCall w _) hw.1) fun readOnly => ?_
      refine Triple.bind (Q := fun _ w => P w) (Triple.modify fun w hw =>
        h.readOnly readOnly w hw) fun _ => ?_
      refine Triple.orReturn (h.initializeDevice hrec) (fun _ _ _ hw => hw.1)
        (h.publishCard.strengthen ?_)
      rintro w ⟨status, hok, hP, hready⟩
      exact ⟨hP, hready hok⟩
  | false =>
      refine Triple.step fun w hw => h.installBlockIo w (fun hpresent => ?_) hw.1
      rw [hw.2] at hpresent
      cases hpresent

lemma rollback (status : EfiStatus) : Preserves P (rollback boot status) := by
  have hone (p : Interface) (status : EfiStatus) : Preserves P (rollbackInterface boot p status) := by
    unfold rollbackInterface
    refine Triple.bind (Q := fun installed w => w.inst.installed p = installed ∧ P w)
      (Triple.read fun w hw => ⟨rfl, hw⟩) fun installed => ?_
    cases installed with
    | false => exact Triple.pure fun w hw => hw.2
    | true => exact Triple.step fun w hw => h.uninstall p w hw.1 hw.2
  unfold SdMmc.rollback
  split
  · exact Triple.bind (hone _ _) fun _ => hone _ _
  · exact Triple.pure fun w hw => hw

/-- An invariant of the recovery is an invariant of `SoftReset`. -/
theorem preserves_softReset (hrec : ∀ cmd, Preserves P (sdhcRecoverFromErrors host boot n cmd)) :
    Preserves P (SdMmc.softReset host boot (sdhcRecoverFromErrors host boot n)) := by
  unfold SdMmc.softReset resetSteps
  refine Triple.bind (Q := fun _ => P) (Triple.modify fun w hw => h.softReset w hw) fun _ => ?_
  refine Triple.bind (Q := fun _ => P) ?_ fun status => h.rollback status
  refine Triple.orReturn (Triple.and h.uninstallAllProtocols
    (uninstallAllProtocols_ok.strengthen fun _ _ => trivial)) (fun _ _ _ hw => hw.1)
    ((h.detectCard hrec).strengthen ?_)
  rintro w ⟨status, hok, hP, hdown⟩
  exact ⟨hP, hdown hok⟩

/-- Every recovery keeps the invariant. -/
theorem preserves_recovery (cmd : SdCommand) : Preserves P (recovery host boot cmd) :=
  sdhcRecoverFromErrors_preserves h.bus h.enterRecovery h.leaveRecovery
    (fun _ hrec => h.preserves_softReset hrec) _ cmd

end ResetInvariant

end SdMmc
end MuPlatform
