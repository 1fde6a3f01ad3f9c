import MuPlatform.SdMmc.Publication

/-!
# How a reset ends

The exits of `SoftReset` meet at one label.  Behind it, an error uninstalls the RPMB and the
device path protocol, and a comment says that `BlockIo` is always present.

* `reportsFailure_iff`: the status of a failed step is overwritten by what the rollback returns,
  and `SoftReset` reports success if the last uninstallation there succeeds.
* `blockIoSurvives_iff`: `BlockIo` is taken down first and installed late, so it is missing after
  every exit in between.
-/

namespace MuPlatform
namespace SdMmc

open Prog

variable {H B : Type} {hosts : ℕ → SdhcHost H} {host : SdhcHost H} {boot : BootServices B}

/-! ## Rollback -/

/-- The world in which `SoftReset` takes its first step. -/
def World.enterReset (w : World H B) : World H B := { w with trace := w.trace ++ [.softReset] }

lemma softReset_apply (recover : SdCommand → Prog (World H B) EfiStatus) (w : World H B) :
    softReset host boot recover w =
      (resetSteps host boot recover w.enterReset).bind fun r => rollback boot r.1 r.2 := rfl

/-- One block behind the label `Exit`: its status, and the world after it. -/
def afterRollback (boot : BootServices B) (p : Interface) (status : EfiStatus) (w : World H B) :
    EfiStatus × World H B :=
  if w.inst.installed p then afterUninstall boot p w else (status, w)

lemma rollbackInterface_apply (p : Interface) (status : EfiStatus) (w : World H B) :
    rollbackInterface boot p status w = some (afterRollback boot p status w) := by
  unfold rollbackInterface afterRollback
  rw [bind_of_eq_some (show inspect (·.installed p) w = some (w.inst.installed p, w) from rfl)]
  split
  · rfl
  · rfl

lemma rollback_apply {status : EfiStatus} (h : status.isError = true) (w : World H B) :
    rollback boot status w =
      some (afterRollback boot .devicePath (afterRollback boot .rpmbIo status w).1
        (afterRollback boot .rpmbIo status w).2) := by
  unfold rollback
  rw [if_pos h]
  exact (bind_of_eq_some (rollbackInterface_apply .rpmbIo status w)).trans
    (rollbackInterface_apply .devicePath _ _)

lemma rollback_of_ok {status : EfiStatus} (h : status.isError = false) (w : World H B) :
    rollback boot status w = some (status, w) := by
  unfold rollback
  rw [if_neg (by simp [h])]
  rfl

lemma afterRollback_installed {p q : Interface} (hpq : q ≠ p) (status : EfiStatus)
    (w : World H B) :
    (afterRollback boot p status w).2.inst.installed q = w.inst.installed q := by
  unfold afterRollback afterUninstall
  split
  · simp only
    split
    · rfl
    · rw [HostInst.installed_setInstalled, if_neg hpq]
  · rfl

/-! ## The status -/

/-- `SoftReset` returns success only if no step before the label `Exit` failed. -/
def ReportsFailure (host : SdhcHost H) (boot : BootServices B) (w : World H B) : Prop :=
  ∀ status w', softReset host boot (recovery host boot) w = some (status, w') →
    status.isError = false →
    ∀ exitStatus u, resetSteps host boot (recovery host boot) w.enterReset = some (exitStatus, u) →
      exitStatus.isError = false

/-- The uninstallation that comes last behind `Exit` fails, or there is nothing to uninstall. -/
def LastUninstallFails (boot : BootServices B) (w : World H B) : Prop :=
  if w.inst.devicePathProtocolInstalled then
    (afterUninstall boot .devicePath (afterRollback boot .rpmbIo .success w).2).1.isError = true
  else w.inst.rpmbIoProtocolInstalled = true → (afterUninstall boot .rpmbIo w).1.isError = true

/-- What the rollback returns after an error. -/
lemma rollback_isError_iff {status : EfiStatus} (h : status.isError = true) (w : World H B) :
    ((rollback boot status w).map fun r => r.1.isError) = some true ↔
      LastUninstallFails boot w := by
  have hworld (status' : EfiStatus) : (afterRollback boot .rpmbIo status w).2 =
      (afterRollback boot .rpmbIo status' w).2 := by
    unfold afterRollback
    split
    · rfl
    · rfl
  have hflag : (afterRollback boot .rpmbIo status w).2.inst.installed .devicePath =
      w.inst.devicePathProtocolInstalled :=
    afterRollback_installed (by decide) status w
  rw [rollback_apply h, Option.map_some, Option.some_inj, LastUninstallFails]
  cases hdp : w.inst.devicePathProtocolInstalled with
  | true =>
      rw [afterRollback, hflag, hdp, if_pos rfl, if_pos rfl, hworld .success]
  | false =>
      rw [afterRollback, hflag, hdp, if_neg Bool.false_ne_true, if_neg Bool.false_ne_true,
        afterRollback]
      cases hrpmb : w.inst.rpmbIoProtocolInstalled with
      | true => rw [show w.inst.installed .rpmbIo = true from hrpmb, if_pos rfl]; simp
      | false =>
          rw [show w.inst.installed .rpmbIo = false from hrpmb, if_neg Bool.false_ne_true]
          simp [h]

/-- A reset reports failure exactly if no step before `Exit` failed, or the uninstallation that
comes last behind it fails, or there is none. -/
theorem reportsFailure_iff (host : SdhcHost H) (boot : BootServices B) (w : World H B) :
    ∃ exitStatus u,
      resetSteps host boot (recovery host boot) w.enterReset = some (exitStatus, u) ∧
      (ReportsFailure host boot w ↔ exitStatus.isError = false ∨ LastUninstallFails boot u) := by
  have hbuilt : DriverProg host boot (resetSteps host boot) :=
    .orReturn uninstallAllProtocols_built detectCard_built
  obtain ⟨exitStatus, u, hsteps, -⟩ := hbuilt.returns w.enterReset
  have hreset : softReset host boot (recovery host boot) w = rollback boot exitStatus u := by
    rw [softReset_apply, hsteps, Option.bind_some]
  refine ⟨exitStatus, u, hsteps, fun hreports => ?_,
    fun hcond status w' hrun hok exit' u' hexit => ?_⟩
  · by_cases herr : exitStatus.isError = true
    · refine .inr ((rollback_isError_iff herr u).mp ?_)
      have happly := @rollback_apply H B boot exitStatus herr u
      rw [happly, Option.map_some, Option.some_inj]
      by_contra hne
      have hsuccess := hreports _ _ (hreset.trans happly) (eq_false_of_ne_true hne) exitStatus u
        hsteps
      rw [herr] at hsuccess
      cases hsuccess
    · exact .inl (eq_false_of_ne_true herr)
  · obtain ⟨rfl, rfl⟩ : exitStatus = exit' ∧ u = u' := by simpa using hsteps.symm.trans hexit
    rcases hcond with hok' | hlast
    · exact hok'
    · by_contra hne
      have herr := eq_true_of_ne_false hne
      have hmap := (rollback_isError_iff herr u).mpr hlast
      rw [← hreset, hrun, Option.map_some, Option.some_inj, hok] at hmap
      cases hmap

/-- The first uninstallation of the RPMB protocol is refused, after the three installations and
the uninstallation of `BlockIo`. -/
def busyRpmb : Script := { Script.quiet true with refuses := fun n => n == 4 }

lemma busyRun : (scriptedRun busyRpmb [.start 7 1]).isSome = true := by decide +kernel

/-- The pool after the driver was started on the MMC card. -/
def busyPool : Pool ScriptedCard (ℕ × List Published) :=
  (scriptedRun busyRpmb [.start 7 1]).get busyRun

lemma busyPool_live : (busyPool.live 1).isSome = true := by decide +kernel

/-- A call on the card. -/
def busyWorld : World ScriptedCard (ℕ × List Published) :=
  busyPool.world ((busyPool.live 1).get busyPool_live)

/-- The reset ends, and so do its steps. -/
lemma busyReset : (softReset (scriptedHost busyRpmb) (scriptedBoot busyRpmb)
      (recovery (scriptedHost busyRpmb) (scriptedBoot busyRpmb)) busyWorld).isSome = true ∧
    (resetSteps (scriptedHost busyRpmb) (scriptedBoot busyRpmb)
      (recovery (scriptedHost busyRpmb) (scriptedBoot busyRpmb))
      busyWorld.enterReset).isSome = true := by
  decide +kernel

/-- The uninstallation is refused, the rollback succeeds with it, and so does the reset. -/
theorem not_reportsFailure_busyRpmb :
    ¬ ∀ p, (scriptedSystem busyRpmb).Reachable p → ∀ a c, p.live a = some c →
      ReportsFailure (scriptedHost busyRpmb) (scriptedBoot busyRpmb) (p.world c) := by
  intro hall
  have hreports : ReportsFailure (scriptedHost busyRpmb) (scriptedBoot busyRpmb) busyWorld :=
    hall busyPool (scriptedRun_reachable busyRun) 1 _ (Option.some_get busyPool_live).symm
  have hexit := hreports _ _ (eq_some_get busyReset.1) (by decide +kernel) _ _
    (eq_some_get busyReset.2)
  exact absurd hexit (by decide +kernel)

/-! ## The block I/O protocol -/

/-- No installation and no uninstallation of `BlockIo` failed. -/
def BlockIoServed (es : List Event) : Prop :=
  .install .blockIo false ∉ es ∧ .uninstall .blockIo false ∉ es

instance (es : List Event) : Decidable (BlockIoServed es) := inferInstanceAs (Decidable (_ ∧ _))

lemma blockIoServed_append {es es' : List Event} :
    BlockIoServed (es ++ es') ↔ BlockIoServed es ∧ BlockIoServed es' := by
  simp only [BlockIoServed, List.mem_append, not_or]
  tauto

/-- Since `c`, an installation or uninstallation of `BlockIo` failed. -/
def BlockIoFailedSince (c c' : Controller) : Prop :=
  ∃ es, c'.trace = c.trace ++ es ∧ ¬ BlockIoServed es

/-- After a reset the interface is on the handle, unless a service for it failed. -/
def BlockIoSurvives (host : SdhcHost H) (boot : BootServices B) (w : World H B) : Prop :=
  ∀ status w', softReset host boot (recovery host boot) w = some (status, w') →
    w'.published .blockIo ∈ boot.handleDatabase w'.boot ∨
      BlockIoFailedSince w.toController w'.toController

/-- The world in which `SoftReset` calls `InitializeDevice`. -/
def World.cardFound (host : SdhcHost H) (w : World H B) : World H B :=
  match host.isCardPresent w.host with
  | (present, h) => match host.isReadOnly h with
    | (readOnly, h) => { w with
        inst := (w.inst.cleared.setMediaPresent present).setReadOnly readOnly
        host := h }

/-- The world in which `SoftReset` publishes an empty slot. -/
def World.cardMissing (host : SdhcHost H) (w : World H B) : World H B :=
  match host.isCardPresent w.host with
  | (present, h) => { w with inst := w.inst.cleared.setMediaPresent present, host := h }

lemma detectCard_apply (recover : SdCommand → Prog (World H B) EfiStatus) (w : World H B) :
    detectCard host boot recover w =
      if (host.isCardPresent w.host).1 then
        ((initializeDevice host recover).orReturn (publishCard boot)) (w.cardFound host)
      else some (afterInstall boot .blockIo (w.cardMissing host)) := by
  have hrun : detectCard host boot recover w =
      (if (host.isCardPresent w.host).1 then do
        let readOnly ← callHost host.isReadOnly
        update (HostInst.setReadOnly readOnly)
        (initializeDevice host recover).orReturn (publishCard boot)
      else installInterface boot .blockIo) (w.cardMissing host) := rfl
  rw [hrun]
  split
  · rfl
  · rfl

/-! ### What happens to the flag -/

/-- The flag of `BlockIo` is the same, and no service for it failed in between. -/
structure SameBlockIo (w w' : World H B) : Prop where
  flag : w'.inst.blockIoProtocolInstalled = w.inst.blockIoProtocolInstalled
  trace : ∃ es, w'.trace = w.trace ++ es ∧ BlockIoServed es

lemma SameBlockIo.refl (w : World H B) : SameBlockIo w w :=
  ⟨rfl, [], by simp, by simp [BlockIoServed]⟩

lemma SameBlockIo.trans {w w' w'' : World H B} (h : SameBlockIo w w') (h' : SameBlockIo w' w'') :
    SameBlockIo w w'' := by
  obtain ⟨es, hes, hserved⟩ := h.trace
  obtain ⟨es', hes', hserved'⟩ := h'.trace
  exact ⟨h'.flag.trans h.flag, es ++ es', by rw [hes', hes, List.append_assoc],
    blockIoServed_append.mpr ⟨hserved, hserved'⟩⟩

lemma afterInstall_sameBlockIo {p : Interface} (hp : p ≠ .blockIo) (w : World H B) :
    SameBlockIo w (afterInstall boot p w).2 := by
  refine ⟨?_, [.install p !(boot.installProtocol (w.published p) w.boot).1.isError], rfl, ?_⟩
  · simp only [afterInstall]
    split
    · rfl
    · cases p with
      | blockIo => exact absurd rfl hp
      | _ => rfl
  · simp [BlockIoServed, hp.symm]

lemma afterUninstall_sameBlockIo {p : Interface} (hp : p ≠ .blockIo) (w : World H B) :
    SameBlockIo w (afterUninstall boot p w).2 := by
  refine ⟨?_, [.uninstall p !(boot.uninstallProtocol (w.published p) w.boot).1.isError], rfl, ?_⟩
  · simp only [afterUninstall]
    split
    · rfl
    · cases p with
      | blockIo => exact absurd rfl hp
      | _ => rfl
  · simp [BlockIoServed, hp.symm]

lemma rollback_sameBlockIo {status status' : EfiStatus} {w w' : World H B}
    (hrun : rollback boot status w = some (status', w')) : SameBlockIo w w' := by
  have hone {p : Interface} (hp : p ≠ .blockIo) (status : EfiStatus) (w : World H B) :
      SameBlockIo w (afterRollback boot p status w).2 := by
    unfold afterRollback
    split
    · exact afterUninstall_sameBlockIo hp w
    · exact .refl w
  by_cases herr : status.isError = true
  · obtain rfl := (Prod.mk.inj (Option.some.inj ((rollback_apply herr w).symm.trans hrun))).2
    exact (hone (by decide) _ _).trans (hone (by decide) _ _)
  · obtain rfl := (Prod.mk.inj (Option.some.inj
      ((rollback_of_ok (eq_false_of_ne_true herr) w).symm.trans hrun))).2
    exact .refl w

lemma afterPublishRpmb_sameBlockIo (w : World H B) :
    SameBlockIo w (afterPublishRpmb boot w).2 := by
  have h := @afterInstall_sameBlockIo H B boot .rpmbIo (by decide) w
  refine ⟨?_, h.trace⟩
  rw [← h.flag]
  unfold afterPublishRpmb
  simp only
  split
  · rfl
  · rfl

/-- What `SoftReset` publishes behind `BlockIo` leaves it alone. -/
lemma publishBehind_sameBlockIo (v : World H B) :
    Preserves (SameBlockIo v) ((installInterface boot .devicePath).orReturn (publishRpmb boot)) := by
  refine Preserves.orReturn (Triple.step fun w hw =>
    hw.trans (afterInstall_sameBlockIo (by decide) w)) ?_
  intro w hw status w' hrun
  rw [publishRpmb_apply] at hrun
  split at hrun
  · obtain rfl := (Prod.mk.inj (Option.some.inj hrun)).2
    exact hw.trans (afterPublishRpmb_sameBlockIo w)
  · obtain rfl := (Prod.mk.inj (Option.some.inj hrun)).2
    exact hw

/-- Since `v`, every service for `BlockIo` succeeded. -/
def ServedSince (v w : World H B) : Prop := ∃ es, w.trace = v.trace ++ es ∧ BlockIoServed es

lemma ServedSince.trans {v w w' : World H B} (h : ServedSince v w) (h' : ServedSince w w') :
    ServedSince v w' := by
  obtain ⟨es, hes, hserved⟩ := h
  obtain ⟨es', hes', hserved'⟩ := h'
  exact ⟨es ++ es', by rw [hes', hes, List.append_assoc],
    blockIoServed_append.mpr ⟨hserved, hserved'⟩⟩

/-- The block of `UninstallAllProtocols` for `BlockIo` fails only if the interface stays. -/
lemma uninstallInstalled_blockIo (v : World H B) :
    Triple (ServedSince v) (uninstallInstalled boot .blockIo) fun status w =>
      (status.isError = true → w.inst.blockIoProtocolInstalled = true) ∧
        (status.isError = false → ServedSince v w) := by
  unfold uninstallInstalled
  refine Triple.bind (Q := fun installed w => w.inst.installed .blockIo = installed ∧
    ServedSince v w) (Triple.read fun w hw => ⟨rfl, hw⟩) fun installed => ?_
  cases installed with
  | false => exact Triple.pure fun w hw => ⟨fun herr => (by cases herr), fun _ => hw.2⟩
  | true =>
      refine Triple.step fun w hw => ⟨fun herr => ?_, fun hok => hw.2.trans ?_⟩
      · have hsame : (afterUninstall boot .blockIo w).2.inst = w.inst := if_pos herr
        rw [hsame]
        exact hw.1
      · refine ⟨[.uninstall .blockIo !(afterUninstall boot .blockIo w).1.isError], rfl, ?_⟩
        rw [hok]
        decide

/-- `UninstallAllProtocols` that takes `BlockIo` down had no failure there. -/
lemma uninstallAllProtocols_blockIo (v : World H B) :
    Triple (ServedSince v) (uninstallAllProtocols boot) fun _ w =>
      w.inst.blockIoProtocolInstalled = true ∨ ServedSince v w := by
  have hone {p : Interface} (hp : p ≠ .blockIo) :
      Preserves (ServedSince v) (uninstallInstalled boot p) := by
    unfold uninstallInstalled
    refine Triple.bind (Q := fun _ => ServedSince v) (Triple.read fun w hw => hw) fun installed => ?_
    split
    · exact Triple.step fun w hw => hw.trans (afterUninstall_sameBlockIo hp w).trace
    · exact Triple.pure fun w hw => hw
  unfold uninstallAllProtocols untilError
  refine Triple.orReturn (uninstallInstalled_blockIo v) (fun _ _ herr hw => .inl (hw.1 herr)) ?_
  have hrest : Preserves (ServedSince v) ((uninstallInstalled boot .rpmbIo).orReturn
      ((uninstallInstalled boot .devicePath).orReturn (pure .success))) :=
    Preserves.orReturn (hone (by decide)) (Preserves.orReturn (hone (by decide))
      (Triple.pure fun w hw => hw))
  refine (hrest.weaken fun _ _ hw => .inr hw).strengthen ?_
  rintro w ⟨status, hok, hw⟩
  exact hw.2 hok

/-! ### When it survives -/

/-- The interface is installed, or a service for it failed since `c`. -/
def BlockIoSettled (c : Controller) (w : World H B) : Prop :=
  w.inst.blockIoProtocolInstalled = true ∨ BlockIoFailedSince c w.toController

lemma blockIoFailedSince_iff {c c' : Controller} {es : List Event}
    (h : c'.trace = c.trace ++ es) : BlockIoFailedSince c c' ↔ ¬ BlockIoServed es := by
  constructor
  · rintro ⟨es', hes', hfailed⟩
    rwa [List.append_cancel_left (h.symm.trans hes')]
  · exact fun hfailed => ⟨es, h, hfailed⟩

lemma SameBlockIo.settled_iff {c : Controller} {w w' : World H B} (h : SameBlockIo w w')
    (hpast : c.trace <+: w.trace) : BlockIoSettled c w' ↔ BlockIoSettled c w := by
  obtain ⟨es₀, hes₀⟩ := hpast
  obtain ⟨es, hes, hserved⟩ := h.trace
  rw [← hes₀, List.append_assoc] at hes
  unfold BlockIoSettled
  rw [h.flag, blockIoFailedSince_iff hes, blockIoFailedSince_iff hes₀.symm, blockIoServed_append]
  tauto

/-- Behind an attempt to install it, the interface is installed or the attempt failed. -/
lemma settled_afterInstall {c : Controller} {w : World H B} (hpast : c.trace <+: w.trace) :
    BlockIoSettled c (afterInstall boot .blockIo w).2 := by
  obtain ⟨es₀, hes₀⟩ := hpast
  by_cases herr : (afterInstall boot .blockIo w).1.isError = true
  · refine .inr ⟨es₀ ++ [.install .blockIo !(afterInstall boot .blockIo w).1.isError], ?_, ?_⟩
    · rw [← List.append_assoc, hes₀]
      rfl
    · rw [blockIoServed_append, herr]
      exact fun h => h.2.1 (by decide)
  · refine .inl ?_
    have hinst : (afterInstall boot .blockIo w).2.inst = w.inst.setInstalled true .blockIo :=
      if_neg herr
    rw [hinst]
    rfl

/-- The end of `SoftReset` for an initialised card. -/
lemma publishCard_settled {c : Controller} {v w : World H B} {status : EfiStatus}
    (hpast : c.trace <+: v.trace) (hrun : publishCard boot v = some (status, w)) :
    BlockIoSettled c w ↔ (boot.convertDevicePathToText v.boot).1 = true ∨ BlockIoSettled c v := by
  set v' : World H B := { v with boot := (boot.convertDevicePathToText v.boot).2 } with hv'
  have hstep : publishCard boot v =
      (if (if (boot.convertDevicePathToText v.boot).1 then EfiStatus.success
          else .outOfResources).isError then
        pure (if (boot.convertDevicePathToText v.boot).1 then EfiStatus.success
          else .outOfResources)
      else (installInterface boot .blockIo).orReturn
        ((installInterface boot .devicePath).orReturn (publishRpmb boot))) v' := rfl
  rw [hstep] at hrun
  cases htext : (boot.convertDevicePathToText v.boot).1 with
  | false =>
      rw [htext, if_pos (by decide)] at hrun
      obtain rfl := (Prod.mk.inj (Option.some.inj hrun)).2
      simp [BlockIoSettled, BlockIoFailedSince, hv']
  | true =>
      rw [htext, if_neg (by decide)] at hrun
      refine iff_of_true ?_ (.inl rfl)
      have hlater : (afterInstall boot .blockIo v').2.trace = v.trace ++
          [.install .blockIo !(afterInstall boot .blockIo v').1.isError] := rfl
      have hbehind : SameBlockIo (afterInstall boot .blockIo v').2 w := by
        have hlink : Triple (fun u => u = v') ((installInterface boot .blockIo).orReturn
            ((installInterface boot .devicePath).orReturn (publishRpmb boot)))
            fun _ => SameBlockIo (afterInstall boot .blockIo v').2 := by
          refine Triple.orReturn (Q := fun _ => SameBlockIo (afterInstall boot .blockIo v').2)
            (Triple.step fun u hu => ?_) (fun _ _ _ hu => hu)
            ((publishBehind_sameBlockIo _).strengthen fun u hu => hu.choose_spec.2)
          rw [hu]
          exact .refl _
        exact hlink v' rfl status w hrun
      refine (hbehind.settled_iff ?_).mpr (settled_afterInstall hpast)
      rw [hlater]
      exact hpast.trans (List.prefix_append ..)

/-- What `SoftReset` has to get past for `BlockIo` to be there afterwards: `UninstallAllProtocols`
must not fail behind `BlockIo`, and where a card is found and its initialisation or the conversion
of the device path fails, a reset nested in the initialisation must have settled it. -/
def ResetKeepsBlockIo (host : SdhcHost H) (boot : BootServices B) (w : World H B) : Prop :=
  ∀ status u, uninstallAllProtocols boot w.enterReset = some (status, u) →
    (status.isError = true → u.inst.blockIoProtocolInstalled = true) ∧
    (status.isError = false → (host.isCardPresent u.host).1 = true →
      ∀ status' v,
        initializeDevice host (recovery host boot) (u.cardFound host) = some (status', v) →
        status'.isError = true ∨ (boot.convertDevicePathToText v.boot).1 = false →
        BlockIoSettled w.toController v)

/-- The interface is settled after a reset exactly if the reset gets past what takes it down. -/
lemma softReset_settled_iff {w w' : World H B} {status : EfiStatus}
    (hrun : softReset host boot (recovery host boot) w = some (status, w')) :
    BlockIoSettled w.toController w' ↔ ResetKeepsBlockIo host boot w := by
  obtain ⟨status₁, u, hdown, -⟩ :=
    DriverProg.returns (@uninstallAllProtocols_built H B host boot _ _) w.enterReset
  have hlater := DriverProg.later (@uninstallAllProtocols_built H B host boot _ _) hdown
  have hpast : w.trace <+: u.trace := (List.prefix_append ..).trans hlater.trace
  have hkeeps : ResetKeepsBlockIo host boot w ↔
      (status₁.isError = true → u.inst.blockIoProtocolInstalled = true) ∧
      (status₁.isError = false → (host.isCardPresent u.host).1 = true → ∀ status' v,
        initializeDevice host (recovery host boot) (u.cardFound host) = some (status', v) →
        status'.isError = true ∨ (boot.convertDevicePathToText v.boot).1 = false →
        BlockIoSettled w.toController v) := by
    refine ⟨fun h => h status₁ u hdown, fun h status u' hrun' => ?_⟩
    obtain ⟨rfl, rfl⟩ : status₁ = status ∧ u = u' := by simpa using hdown.symm.trans hrun'
    exact h
  rw [softReset_apply, resetSteps, Prog.orReturn, bind_of_eq_some hdown] at hrun
  rw [hkeeps]
  by_cases hs : status₁.isError = true
  · rw [if_pos hs] at hrun
    rw [(rollback_sameBlockIo hrun).settled_iff hpast]
    refine ⟨fun hsettled => ⟨fun _ => ?_, fun hok => ?_⟩, fun h => .inl (h.1 hs)⟩
    · rcases hsettled with hflag | hfailed
      · exact hflag
      · rcases uninstallAllProtocols_blockIo w.enterReset w.enterReset ⟨[], by simp, by decide⟩ _ _
          hdown with hflag | ⟨es, hes, hserved⟩
        · exact hflag
        · have htrace : u.trace = w.trace ++ ([.softReset] ++ es) := by
            rw [hes, ← List.append_assoc]
            rfl
          refine absurd ?_ ((blockIoFailedSince_iff htrace).mp hfailed)
          exact blockIoServed_append.mpr ⟨by decide, hserved⟩
    · rw [hs] at hok
      cases hok
  · have hok := eq_false_of_ne_true hs
    rw [if_neg hs, detectCard_apply] at hrun
    by_cases hpresent : (host.isCardPresent u.host).1 = true
    · rw [if_pos hpresent] at hrun
      obtain ⟨status₂, v, hinit, -⟩ :=
        DriverProg.returns (@initializeDevice_built H B host boot _ _) (u.cardFound host)
      have hpast' : w.trace <+: v.trace :=
        hpast.trans (DriverProg.later (@initializeDevice_built H B host boot _ _) hinit).trace
      have hcond : ((status₁.isError = true → u.inst.blockIoProtocolInstalled = true) ∧
          (status₁.isError = false → (host.isCardPresent u.host).1 = true → ∀ status' v,
            initializeDevice host (recovery host boot) (u.cardFound host) = some (status', v) →
            status'.isError = true ∨ (boot.convertDevicePathToText v.boot).1 = false →
            BlockIoSettled w.toController v)) ↔
          (status₂.isError = true ∨ (boot.convertDevicePathToText v.boot).1 = false →
            BlockIoSettled w.toController v) := by
        refine ⟨fun h => h.2 hok hpresent status₂ v hinit, fun h =>
          ⟨fun herr => absurd herr hs, fun _ _ status' v' hinit' => ?_⟩⟩
        obtain ⟨rfl, rfl⟩ : status₂ = status' ∧ v = v' := by simpa using hinit.symm.trans hinit'
        exact h
      rw [hcond]
      rw [Prog.orReturn, bind_of_eq_some hinit] at hrun
      by_cases hs₂ : status₂.isError = true
      · rw [if_pos hs₂] at hrun
        rw [(rollback_sameBlockIo hrun).settled_iff hpast']
        exact ⟨fun h _ => h, fun h => h (.inl hs₂)⟩
      · rw [if_neg hs₂] at hrun
        obtain ⟨⟨status₃, x⟩, hpublish, hroll⟩ := Option.bind_eq_some_iff.mp hrun
        have hpast'' : w.trace <+: x.trace :=
          hpast'.trans (DriverProg.later (@publishCard_built H B host boot _ _) hpublish).trace
        rw [(rollback_sameBlockIo hroll).settled_iff hpast'', publishCard_settled hpast' hpublish]
        constructor
        · rintro (htext | hsettled) (herr | hnull)
          · exact absurd herr hs₂
          · rw [htext] at hnull
            cases hnull
          · exact hsettled
          · exact hsettled
        · intro h
          by_cases htext : (boot.convertDevicePathToText v.boot).1 = true
          · exact .inl htext
          · exact .inr (h (.inr (eq_false_of_ne_true htext)))
    · rw [if_neg hpresent] at hrun
      have hpast' : w.trace <+: (u.cardMissing host).trace := hpast
      refine iff_of_true ?_ ⟨fun herr => absurd herr hs, fun _ h => absurd h hpresent⟩
      refine ((rollback_sameBlockIo hrun).settled_iff ?_).mpr (settled_afterInstall hpast')
      exact hpast'.trans (List.prefix_append ..)

/-- In every reachable pool, a reset of an instance leaves `BlockIo` installed, or had a service for
it fail, exactly if it gets past what takes `BlockIo` down. -/
theorem blockIoSurvives_iff {p : Pool H B} (h : (poolSystem hosts boot).Reachable p) {a : ℕ}
    {c : Controller} (hc : p.live a = some c) :
    BlockIoSurvives (hosts c.inst.mmcHandle) boot (p.world c) ↔
      ResetKeepsBlockIo (hosts c.inst.mmcHandle) boot (p.world c) := by
  have hinv := @bookkeeping_resetInvariant H B (hosts c.inst.mmcHandle) boot a
    (boot.handleDatabase p.boot)
  have hstart := (consistent_poolInvariant.reachable h).bookkeeping hc
  have hflag {status : EfiStatus} {w' : World H B} (hrun : softReset (hosts c.inst.mmcHandle) boot
      (recovery (hosts c.inst.mmcHandle) boot) (p.world c) = some (status, w')) :
      w'.published .blockIo ∈ boot.handleDatabase w'.boot ↔
        w'.inst.blockIoProtocolInstalled = true :=
    ((hinv.preserves_softReset hinv.preserves_recovery _ hstart _ _ hrun).installed_iff
      .blockIo).symm
  obtain ⟨status, w', hrun, -⟩ :=
    DriverProg.returns (@softReset_built H B (hosts c.inst.mmcHandle) boot _ _) (p.world c)
  rw [← softReset_settled_iff hrun]
  constructor
  · intro hsurvives
    exact (hsurvives status w' hrun).imp_left (hflag hrun).mp
  · intro hsettled status' u hrun'
    obtain ⟨rfl, rfl⟩ : status = status' ∧ w' = u := by simpa using hrun.symm.trans hrun'
    exact hsettled.imp_left (hflag hrun).mpr

theorem blockIoSurvives_iff_mmcPool :
    BlockIoSurvives (scriptedHost (.quiet true)) (scriptedBoot (.quiet true))
        (mmcPool.world ((mmcPool.live 1).get mmcPool_live)) ↔
      ResetKeepsBlockIo (scriptedHost (.quiet true)) (scriptedBoot (.quiet true))
        (mmcPool.world ((mmcPool.live 1).get mmcPool_live)) :=
  @blockIoSurvives_iff ScriptedCard (ℕ × List Published) (fun _ => scriptedHost (.quiet true))
    (scriptedBoot (.quiet true)) mmcPool (scriptedRun_reachable mmcRun) 1 _
    (Option.some_get mmcPool_live).symm

/-- A card that answers no command any more once it is initialised. -/
def fadingCard : Script := { Script.quiet true with fails := fun n => 21 ≤ n }

lemma fadingRun : (scriptedRun fadingCard [.start 7 1]).isSome = true := by decide +kernel

/-- The pool after the driver was started on the card. -/
def fadingPool : Pool ScriptedCard (ℕ × List Published) :=
  (scriptedRun fadingCard [.start 7 1]).get fadingRun

lemma fadingPool_live : (fadingPool.live 1).isSome = true := by decide +kernel

/-- A call on the card. -/
def fadingWorld : World ScriptedCard (ℕ × List Published) :=
  fadingPool.world ((fadingPool.live 1).get fadingPool_live)

lemma fadingReset : (softReset (scriptedHost fadingCard) (scriptedBoot fadingCard)
    (recovery (scriptedHost fadingCard) (scriptedBoot fadingCard)) fadingWorld).isSome = true := by
  decide +kernel

/-- The world after a reset of the card. -/
def fadedWorld : World ScriptedCard (ℕ × List Published) :=
  ((softReset (scriptedHost fadingCard) (scriptedBoot fadingCard)
    (recovery (scriptedHost fadingCard) (scriptedBoot fadingCard)) fadingWorld).get fadingReset).2

/-- No service for `BlockIo` has failed, and it is not on the handle. -/
lemma fadedWorld_facts : fadedWorld.trace =
      fadingWorld.trace ++ fadedWorld.trace.drop fadingWorld.trace.length ∧
    BlockIoServed (fadedWorld.trace.drop fadingWorld.trace.length) ∧
    fadedWorld.published .blockIo ∉
      (scriptedBoot fadingCard).handleDatabase fadedWorld.boot := by
  decide +kernel

/-- The card is there and fails to initialise, and `BlockIo` is gone. -/
theorem not_blockIoSurvives_fadingCard :
    ¬ ∀ p, (scriptedSystem fadingCard).Reachable p → ∀ a c, p.live a = some c →
      BlockIoSurvives (scriptedHost fadingCard) (scriptedBoot fadingCard) (p.world c) := by
  intro hall
  have hsurvives : BlockIoSurvives (scriptedHost fadingCard) (scriptedBoot fadingCard) fadingWorld :=
    hall fadingPool (scriptedRun_reachable fadingRun) 1 _ (Option.some_get fadingPool_live).symm
  obtain ⟨htrace, hserved, hpublished⟩ := fadedWorld_facts
  rcases hsurvives _ fadedWorld (eq_some_get fadingReset) with hmem | hfailed
  · exact hpublished hmem
  · exact (blockIoFailedSince_iff htrace).mp hfailed hserved

end SdMmc
end MuPlatform
