import MuPlatform.SdMmc.CardPresence
import MuPlatform.SdMmc.Publication

/-!
# Stopping the driver

`SdMmcDriverStop` takes the first entry of `gSdhcInstancePool` and, as long as `CloseProtocol`
returns `EFI_SUCCESS`, closes, unlinks and destroys the instance it belongs to.  It does not look at
the controller of the instance, and it stays with the entry: another round is about the same
instance, which may have been freed.

`StopsController` is what stopping one controller means for the pool, and `stopsController_iff` says
for which pools and boot services the driver does it.
-/

namespace MuPlatform
namespace SdMmc

open Prog

variable {H B : Type}

/-! ## The loop -/

/-- The boot services with `CloseProtocol`, which is given the controller and a pointer into the
instance at an address, and installs and uninstalls nothing. -/
structure StopServices (B : Type) extends BootServices B where
  closeProtocol : (controller address : ℕ) → B → EfiStatus × B
  close_database : ∀ controller address b,
    handleDatabase (closeProtocol controller address b).2 = handleDatabase b

/-- How `SdMmcDriverStop` ends: with a status, or when it touches an instance that is freed. -/
inductive StopResult
  | returned (status : EfiStatus)
  | touchedFreed (address : ℕ)
  deriving DecidableEq, Repr

section Stop

variable (hosts : ℕ → SdhcHost H) (boot : StopServices B) (controller : ℕ)

/-- `CloseProtocol` on the world of an instance. -/
def afterClose (w : World H B) : EfiStatus × World H B :=
  match boot.closeProtocol controller w.address w.boot with
  | (status, b) => (status, { w with boot := b })

/-- `CloseProtocol` for the instance at an address. -/
def closeProtocol (address : ℕ) : Prog (Pool H B) EfiStatus :=
  step fun p => match boot.closeProtocol controller address p.boot with
    | (status, b) => (status, { p with boot := b })

/-- The loop of `SdMmcDriverStop` at one link, which is never advanced; the first argument bounds
the rounds. -/
def stopLoop (address : ℕ) : ℕ → EfiStatus → Prog (Pool H B) StopResult
  | 0, _ => fun _ => none
  | n + 1, status => do
      let isLive ← read fun p => (p.live address).isSome
      if status ≠ .success then return .returned status
      else if isLive then
        let status ← closeProtocol boot controller address
        removeAndDestroy hosts boot.toBootServices address
        stopLoop address n status
      else return .touchedFreed address

/-- `SdMmcDriverStop`. -/
def sdMmcDriverStop (bound : ℕ) : Prog (Pool H B) StopResult := fun p =>
  match p.listed with
  | [] => some (.returned .success, p)
  | address :: _ => stopLoop hosts boot controller address bound .success p

end Stop

/-- The instance at an address was created for a controller. -/
def Pool.IsOf (p : Pool H B) (controller address : ℕ) : Prop :=
  ∃ c, p.live address = some c ∧ c.inst.mmcHandle = controller

/-! ## Stopping one controller -/

open Classical in
/-- A run from `p` has stopped the controller: it returned, the instances of the controller are
destroyed and out of the list, and the others are as they were, with their protocols. -/
structure StopsController (boot : BootServices B) (controller : ℕ) (p : Pool H B) (r : StopResult)
    (p' : Pool H B) : Prop where
  returned : ∃ status, r = .returned status
  listed : p'.listed = p.listed.filter fun a => ¬ p.IsOf controller a
  destroyed : ∀ a ∈ p.listed, p.IsOf controller a → p'.live a = none
  others : ∀ a ∈ p.listed, ¬ p.IsOf controller a → p'.live a = p.live a ∧
    ∀ e, e.address = a → (e ∈ boot.handleDatabase p'.boot ↔ e ∈ boot.handleDatabase p.boot)

/-- Rounds of `CloseProtocol` and `DestroySdhcInstance` on one instance, up to the first that
destroys it: `CloseProtocol` returns `EFI_SUCCESS` in the rounds before and not in this one. -/
inductive ClosesUntilDestroyed (hosts : ℕ → SdhcHost H) (boot : StopServices B) (controller : ℕ) :
    World H B → Prop
  | last {w w' : World H B} {r : Option EfiStatus}
      (hclose : (afterClose boot controller w).1 ≠ .success)
      (hrun : InstanceCall.destroySdhcInstance.run (hosts w.inst.mmcHandle) boot.toBootServices
        (afterClose boot controller w).2 = some (r, w'))
      (hok : r.elim true EfiStatus.isError = false) : ClosesUntilDestroyed hosts boot controller w
  | retry {w w' : World H B} {r : Option EfiStatus}
      (hclose : (afterClose boot controller w).1 = .success)
      (hrun : InstanceCall.destroySdhcInstance.run (hosts w.inst.mmcHandle) boot.toBootServices
        (afterClose boot controller w).2 = some (r, w'))
      (herr : r.elim true EfiStatus.isError = true)
      (hnext : ClosesUntilDestroyed hosts boot controller w') :
      ClosesUntilDestroyed hosts boot controller w

section Rounds

variable {hosts : ℕ → SdhcHost H} {boot : StopServices B} {controller a n : ℕ} {p p' : Pool H B}
  {c : Controller} {w : World H B} {r : Option EfiStatus}

/-- The pool after a round that left the instance in the world `w`. -/
def Pool.unlinked (p : Pool H B) (a : ℕ) (w : World H B) : Pool H B :=
  { p.put a w with listed := p.listed.erase a }

lemma stopLoop_returned {status : EfiStatus} (hs : status ≠ .success) :
    stopLoop hosts boot controller a (n + 1) status p = some (.returned status, p) := by
  rw [stopLoop, bind_of_eq_some (read_apply _ p), if_pos hs]
  rfl

lemma stopLoop_freed (hnone : p.live a = none) :
    stopLoop hosts boot controller a (n + 1) .success p = some (.touchedFreed a, p) := by
  rw [stopLoop, bind_of_eq_some (read_apply _ p), if_neg (not_not.mpr rfl), hnone]
  rfl

/-- One round. -/
lemma stopLoop_round (hc : p.live a = some c) (haddress : c.address = a)
    (hrun : InstanceCall.destroySdhcInstance.run (hosts c.inst.mmcHandle) boot.toBootServices
      (afterClose boot controller (p.world c)).2 = some (r, w)) :
    stopLoop hosts boot controller a (n + 1) .success p =
      stopLoop hosts boot controller a n (afterClose boot controller (p.world c)).1
        (if r.elim true EfiStatus.isError then p.unlinked a w else (p.unlinked a w).free a) := by
  have hclose : closeProtocol boot controller a p =
      some ((afterClose boot controller (p.world c)).1,
        { p with boot := (afterClose boot controller (p.world c)).2.boot }) := by
    simp [closeProtocol, afterClose, Pool.world, haddress]
  have hdestroy : removeAndDestroy hosts boot.toBootServices a
      { p with boot := (afterClose boot controller (p.world c)).2.boot } =
      some ((), if r.elim true EfiStatus.isError then p.unlinked a w
        else (p.unlinked a w).free a) := by
    have hcall : onInstance hosts boot.toBootServices a .destroySdhcInstance
        { p with
          boot := (afterClose boot controller (p.world c)).2.boot
          listed := p.listed.erase a } = some (r, p.unlinked a w) :=
      onInstance_eq_some.mpr ⟨c, w, hc, hrun, rfl⟩
    unfold removeAndDestroy
    rw [bind_of_eq_some (modify_apply _ _), bind_of_eq_some hcall, modify_apply]
  rw [stopLoop, bind_of_eq_some (read_apply _ p), if_neg (not_not.mpr rfl), hc,
    Option.isSome_some, if_pos rfl, bind_of_eq_some hclose, bind_of_eq_some hdestroy]

lemma afterClose_bookkeeping {others : List Published}
    (h : Bookkeeping boot.toBootServices a others w) :
    Bookkeeping boot.toBootServices a others (afterClose boot controller w).2 :=
  h.same ⟨rfl, rfl, fun _ => rfl, rfl, rfl, boot.close_database _ _ _⟩

/-- A round keeps the books of the instance and of the others. -/
lemma round_bookkeeping {others : List Published} {w' : World H B}
    (h : Bookkeeping boot.toBootServices a others w)
    (hrun : InstanceCall.destroySdhcInstance.run (hosts w.inst.mmcHandle) boot.toBootServices
      (afterClose boot controller w).2 = some (r, w')) :
    Bookkeeping boot.toBootServices a others w' :=
  InstanceCall.destroySdhcInstance.preserves_bookkeeping a others _ (afterClose_bookkeeping h) r w'
    hrun

/-- A loop on an instance that is destroyed in its last round. -/
lemma stopLoop_of_closes {others : List Published} (h : ClosesUntilDestroyed hosts boot controller w)
    (hbooks : Bookkeeping boot.toBootServices a others w) :
    ∀ p : Pool H B, p.live a = some w.toController → p.world w.toController = w → p.listed.Nodup →
      ∃ bound status p', stopLoop hosts boot controller a bound .success p =
          some (.returned status, p') ∧
        p'.listed = p.listed.erase a ∧ p'.live = Function.update p.live a none ∧
        ∀ e, e.address ≠ a → (e ∈ boot.handleDatabase p'.boot ↔ e ∈ others) := by
  induction h with
  | @last w w' r hclose hrun hok =>
      intro p hlive hworld _
      refine ⟨2, (afterClose boot controller w).1, (p.unlinked a w').free a, ?_, rfl, ?_,
        (round_bookkeeping hbooks hrun).others_iff⟩
      · rw [stopLoop_round hlive hbooks.address (by rwa [hworld]), hworld,
          if_neg (ne_true_of_eq_false hok)]
        exact stopLoop_returned hclose
      · exact Function.update_idem _ _ _
  | @retry w w' r hclose hrun herr _ ih =>
      intro p hlive hworld hnodup
      obtain ⟨bound, status, p', hloop, hlisted, hlive', hothers⟩ :=
        ih (round_bookkeeping hbooks hrun) (p.unlinked a w') (Function.update_self ..) rfl
          (hnodup.erase a)
      refine ⟨bound + 1, status, p', ?_, ?_, ?_, hothers⟩
      · rw [stopLoop_round hlive hbooks.address (by rwa [hworld]), if_pos herr, hworld, hclose,
          hloop]
      · rw [hlisted]
        exact List.erase_of_not_mem hnodup.not_mem_erase
      · rw [hlive']
        exact Function.update_idem _ _ _

/-- A loop that returned: the entry is out of the list and no other instance was changed; and if the
instance is destroyed, it was in the last round. -/
lemma closes_of_stopLoop {others : List Published} {bound : ℕ} {status : EfiStatus} :
    ∀ (p : Pool H B) (w : World H B), Bookkeeping boot.toBootServices a others w →
      p.live a = some w.toController → p.world w.toController = w → p.listed.Nodup →
      stopLoop hosts boot controller a bound .success p = some (.returned status, p') →
        p'.listed = p.listed.erase a ∧ (∀ b, b ≠ a → p'.live b = p.live b) ∧
        (p'.live a = none → ClosesUntilDestroyed hosts boot controller w) := by
  induction bound with
  | zero => exact fun p w _ _ _ _ hloop => by cases hloop
  | succ bound ih =>
      intro p w hbooks hlive hworld hnodup hloop
      obtain ⟨⟨r, w'⟩, hrun⟩ := @InstanceCall.returns H B (hosts w.inst.mmcHandle)
        boot.toBootServices .destroySdhcInstance (afterClose boot controller w).2
      rw [stopLoop_round hlive hbooks.address (by rwa [hworld]), hworld] at hloop
      have hunlinked : ∀ b, b ≠ a → (p.unlinked a w').live b = p.live b := fun b hb =>
        Function.update_of_ne hb ..
      by_cases hclose : (afterClose boot controller w).1 = .success
      swap
      · -- the loop ends after this round
        cases bound with
        | zero => cases hloop
        | succ bound =>
            rw [stopLoop_returned hclose] at hloop
            obtain ⟨-, rfl⟩ := Prod.mk.inj (Option.some.inj hloop)
            by_cases herr : r.elim true EfiStatus.isError = true
            · rw [if_pos herr]
              refine ⟨rfl, hunlinked, fun hnone => ?_⟩
              simp [Pool.unlinked, Pool.put] at hnone
            · rw [if_neg herr]
              refine ⟨rfl, fun b hb => ?_, fun _ => .last hclose hrun (eq_false_of_ne_true herr)⟩
              exact (Function.update_of_ne hb ..).trans (hunlinked b hb)
      rw [hclose] at hloop
      by_cases herr : r.elim true EfiStatus.isError = true
      · -- the instance is still there for the next round
        rw [if_pos herr] at hloop
        obtain ⟨hlisted, hothers, hnext⟩ := ih (p.unlinked a w') w' (round_bookkeeping hbooks hrun)
          (Function.update_self ..) rfl (hnodup.erase a) hloop
        refine ⟨?_, fun b hb => (hothers b hb).trans (hunlinked b hb), fun hnone =>
          .retry hclose hrun herr (hnext hnone)⟩
        rw [hlisted]
        exact List.erase_of_not_mem hnodup.not_mem_erase
      · -- the next round is about a freed instance
        rw [if_neg herr] at hloop
        cases bound with
        | zero => cases hloop
        | succ bound =>
            rw [stopLoop_freed (Function.update_self ..)] at hloop
            cases hloop

end Rounds

section Pool

variable {hosts : ℕ → SdhcHost H} {boot : StopServices B}

/-- `SdMmcDriverStop` comes back and has stopped the controller. -/
def DriverStops (hosts : ℕ → SdhcHost H) (boot : StopServices B) (controller : ℕ) (p : Pool H B) :
    Prop :=
  ∃ bound r p', sdMmcDriverStop hosts boot controller bound p = some (r, p') ∧
    StopsController boot.toBootServices controller p r p'

/-- `SdMmcDriverStop` stops the controller exactly where the pool is empty, or the first instance and
no other is that of the controller, and of the rounds on it `CloseProtocol` fails in the one that
destroys the instance and in none before. -/
theorem driverStops_iff {p : Pool H B} (h : (poolSystem hosts boot.toBootServices).Reachable p)
    (controller : ℕ) :
    DriverStops hosts boot controller p ↔
      p.listed = [] ∨ ∃ a rest c, p.listed = a :: rest ∧ p.live a = some c ∧
        c.inst.mmcHandle = controller ∧ (∀ b ∈ rest, ¬ p.IsOf controller b) ∧
        ClosesUntilDestroyed hosts boot controller (p.world c) := by
  have hL := listed_of_reachable h
  have hcons := consistent_poolInvariant.reachable h
  unfold DriverStops sdMmcDriverStop
  cases hlisted : p.listed with
  | nil =>
      refine iff_of_true ⟨0, .returned .success, p, rfl, ?_⟩ (.inl rfl)
      constructor <;> simp [hlisted]
  | cons a rest =>
      have hnodup := hL.nodup
      rw [hlisted, List.nodup_cons] at hnodup
      obtain ⟨c, hc⟩ := Option.ne_none_iff_exists'.mp (hL.live a (by simp [hlisted]))
      have hbooks := hcons.bookkeeping hc
      have herase : p.listed.erase a = rest := by rw [hlisted, List.erase_cons_head]
      rw [or_iff_right (List.cons_ne_nil _ _)]
      constructor
      · rintro ⟨bound, r, p', hrun, hstops⟩
        obtain ⟨status, rfl⟩ := hstops.returned
        obtain ⟨hrest, -, hcloses⟩ :=
          closes_of_stopLoop p (p.world c) hbooks hc rfl hL.nodup hrun
        have hfilter := hstops.listed
        rw [hrest, herase] at hfilter
        have hof : ∀ b ∈ p.listed, (b ∈ rest ↔ ¬ p.IsOf controller b) := by
          intro b hb
          rw [hfilter, List.mem_filter]
          simp [hb]
        have ha : p.IsOf controller a := by
          by_contra hnot
          exact hnodup.1 ((hof a (by simp [hlisted])).mpr hnot)
        obtain ⟨c', hc', hhandle⟩ := ha
        obtain rfl : c = c' := Option.some.inj (hc.symm.trans hc')
        refine ⟨a, rest, c, rfl, hc, hhandle, fun b hb => ?_, hcloses ?_⟩
        · exact (hof b (by simp [hlisted, hb])).mp hb
        · exact hstops.destroyed a (by simp [hlisted]) ⟨c, hc, hhandle⟩
      · rintro ⟨a', rest', c', heq, hc', hhandle, hrest, hcloses⟩
        obtain ⟨rfl, rfl⟩ := List.cons.inj heq
        obtain rfl : c = c' := Option.some.inj (hc.symm.trans hc')
        obtain ⟨bound, status, p', hrun, hlisted', hlive, hothers⟩ :=
          stopLoop_of_closes hcloses hbooks p hc rfl hL.nodup
        have hof : p.IsOf controller a := ⟨c, hc, hhandle⟩
        refine ⟨bound, .returned status, p', hrun, ⟨status, rfl⟩, ?_, fun b hb hbof => ?_,
          fun b hb hbnot => ?_⟩
        · rw [hlisted', herase, hlisted, List.filter_cons_of_neg (by simpa using hof)]
          exact (List.filter_eq_self.mpr fun b hb => by simpa using hrest b hb).symm
        · obtain rfl : b = a := by
            by_contra hne
            rw [hlisted] at hb
            exact hrest b (List.mem_of_ne_of_mem hne hb) hbof
          rw [hlive, Function.update_self]
        · have hne : b ≠ a := fun heq => hbnot (heq ▸ hof)
          refine ⟨by rw [hlive, Function.update_of_ne hne], fun e he => ?_⟩
          exact hothers e fun hea => hne (he.symm.trans hea)

end Pool

/-! ## An instance that is freed and touched -/

/-- Where `CloseProtocol` succeeds and the first instance can be destroyed, the driver does not stop
its controller: the loop goes on with the instance it has freed. -/
lemma not_driverStops_of_close_success {hosts : ℕ → SdhcHost H} {boot : StopServices B}
    {controller a : ℕ} {rest : List ℕ} {c : Controller} {p : Pool H B}
    (h : (poolSystem hosts boot.toBootServices).Reachable p) (hlisted : p.listed = a :: rest)
    (hc : p.live a = some c) (hof : c.inst.mmcHandle = controller)
    (hclose : ∀ w : World H B, afterClose boot controller w = (.success, w))
    (hdestroy : (InstanceCall.destroySdhcInstance.run (hosts c.inst.mmcHandle) boot.toBootServices
      (p.world c)).map Prod.fst = some (some .success)) : ¬ DriverStops hosts boot controller p := by
  rintro ⟨bound, r, p', hrun, hstops⟩
  obtain ⟨status, rfl⟩ := hstops.returned
  have hgone := hstops.destroyed a (by simp [hlisted]) ⟨c, hc, hof⟩
  unfold sdMmcDriverStop at hrun
  rw [hlisted] at hrun
  have hbooks := (consistent_poolInvariant.reachable h).bookkeeping hc
  obtain ⟨-, -, hcloses⟩ := closes_of_stopLoop p (p.world c) hbooks hc rfl
    (listed_of_reachable h).nodup hrun
  cases hcloses hgone with
  | last hlast => exact hlast (by rw [hclose])
  | @retry _ w r _ hnext herr =>
      rw [hclose] at hnext
      have hfst : some r = some (some EfiStatus.success) :=
        (congrArg (Option.map Prod.fst) hnext).symm.trans hdestroy
      rw [Option.some.inj hfst] at herr
      cases herr

/-- The scripted boot services, with one answer to `CloseProtocol`. -/
def closingBoot (o : Script) (status : EfiStatus) : StopServices (ℕ × List Published) where
  toBootServices := scriptedBoot o
  closeProtocol _ _ b := (status, b)
  close_database _ _ _ := rfl

lemma afterClose_closingBoot (o : Script) (status : EfiStatus) (controller : ℕ)
    (w : World H (ℕ × List Published)) :
    afterClose (closingBoot o status) controller w = (status, w) := rfl

lemma mmcPool_reachable (status : EfiStatus) :
    (poolSystem (fun _ => scriptedHost (.quiet true))
      (closingBoot (.quiet true) status).toBootServices).Reachable mmcPool :=
  scriptedRun_reachable mmcRun

theorem driverStops_iff_mmcPool :
    DriverStops (fun _ => scriptedHost (.quiet true)) (closingBoot (.quiet true) .notFound) 7
        mmcPool ↔
      mmcPool.listed = [] ∨ ∃ a rest c, mmcPool.listed = a :: rest ∧ mmcPool.live a = some c ∧
        c.inst.mmcHandle = 7 ∧ (∀ b ∈ rest, ¬ mmcPool.IsOf 7 b) ∧
        ClosesUntilDestroyed (fun _ => scriptedHost (.quiet true))
          (closingBoot (.quiet true) .notFound) 7 (mmcPool.world c) :=
  driverStops_iff (mmcPool_reachable .notFound) 7

/-- The one instance of the pool is that of controller 7, and it can be destroyed. -/
lemma mmcPool_facts : mmcPool.listed = [1] ∧
    ((mmcPool.live 1).get mmcPool_live).inst.mmcHandle = 7 ∧
    (InstanceCall.destroySdhcInstance.run (scriptedHost (.quiet true))
      (closingBoot (.quiet true) .success).toBootServices
      (mmcPool.world ((mmcPool.live 1).get mmcPool_live))).map Prod.fst = some (some .success) := by
  decide +kernel

/-- `CloseProtocol` succeeds, and so the loop goes on with the instance it has freed. -/
theorem not_driverStops_mmcPool :
    ¬ DriverStops (fun _ => scriptedHost (.quiet true)) (closingBoot (.quiet true) .success) 7
      mmcPool :=
  not_driverStops_of_close_success (mmcPool_reachable .success) mmcPool_facts.1
    (Option.some_get mmcPool_live).symm mmcPool_facts.2.1 (afterClose_closingBoot _ _ _)
    mmcPool_facts.2.2

end SdMmc
end MuPlatform
