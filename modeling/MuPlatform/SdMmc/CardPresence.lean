import MuPlatform.SdMmc.Pool
import MuPlatform.SdMmc.ScriptedCard

/-!
# The presence check

`CheckCardsCallback` visits the listed instances and resets some of them; a comment states as a
table of presence and `SlotInitialized` which.  The code decides from `Media->MediaPresent`
instead.  `SoftReset` sets that before it initialises the card, so the two differ after an
initialisation that failed, and `followsTable_iff` says that nothing else makes them differ.
-/

namespace MuPlatform
namespace SdMmc

open Prog

variable {H B : Type} {hosts : ℕ → SdhcHost H} {boot : BootServices B}

/-! ## The table -/

/-- The table in `CheckCardsCallback`: whether an instance is reset. -/
def presenceTable : (isCardPresent slotInitialized : Bool) → Bool
  | true, true => false
  | true, false => true
  | false, true => true
  | false, false => false

/-- The table tells two values apart that differ, whatever the presence. -/
lemma presenceTable_iff (present a b : Bool) :
    (presenceTable present a = true ↔ presenceTable present b = true) ↔ a = b := by
  cases present <;> cases a <;> cases b <;> decide

/-- Every visit of one run of `CheckCardsCallback` follows the table. -/
def FollowsTable (hosts : ℕ → SdhcHost H) (boot : BootServices B) (p : Pool H B) : Prop :=
  ∀ before address after q c r w, p.listed = before ++ address :: after →
    checkCards hosts boot before p = some ((), q) → q.live address = some c →
    InstanceCall.checkCard.run (hosts c.inst.mmcHandle) boot (q.world c) = some (r, w) →
    (PerformsReset c w.toController ↔
      presenceTable ((hosts c.inst.mmcHandle).isCardPresent q.host).1 c.inst.slotInitialized = true)

/-! ## One visit -/

/-- A visit applies the table to `MediaPresent`. -/
lemma performsReset_iff {host : SdhcHost H} {w w' : World H B} {r : Option EfiStatus}
    (hrun : InstanceCall.checkCard.run host boot w = some (r, w')) :
    PerformsReset w.toController w'.toController ↔
      presenceTable (host.isCardPresent w.host).1 w.inst.media.mediaPresent = true := by
  obtain ⟨status, hcheck, -⟩ := map_eq_some.mp hrun
  set v : World H B := { w with host := (host.isCardPresent w.host).2 } with hv
  have hstep : checkCard host boot (recovery host boot) w =
      (if (w.inst.media.mediaPresent && !(host.isCardPresent w.host).1) ||
          (!w.inst.media.mediaPresent && (host.isCardPresent w.host).1) then
        softReset host boot (recovery host boot) else pure .success) v := rfl
  rw [hstep] at hcheck
  by_cases hreset : presenceTable (host.isCardPresent w.host).1 w.inst.media.mediaPresent = true
  · rw [if_pos (by revert hreset; cases w.inst.media.mediaPresent <;>
      cases (host.isCardPresent w.host).1 <;> simp [presenceTable])] at hcheck
    have hpast : w.trace <+: v.trace := List.prefix_rfl
    exact iff_of_true (softReset_performsReset recovery_later hpast hcheck) hreset
  · rw [if_neg (by revert hreset; cases w.inst.media.mediaPresent <;>
      cases (host.isCardPresent w.host).1 <;> simp [presenceTable])] at hcheck
    obtain ⟨-, rfl⟩ : EfiStatus.success = status ∧ v = w' := by simpa using hcheck
    exact iff_of_false (by simp [PerformsReset, hv]) hreset

/-! ## The pool -/

/-- The listed instances exist, each is listed once, and an instance knows its address. -/
structure Listed (p : Pool H B) : Prop where
  nodup : p.listed.Nodup
  live : ∀ address ∈ p.listed, p.live address ≠ none

lemma Listed.put {p : Pool H B} (h : Listed p) (address : ℕ) (w : World H B) :
    Listed (p.put address w) where
  nodup := h.nodup
  live a ha := by
    rcases eq_or_ne a address with rfl | hne
    · simp [Pool.put]
    · simpa [Pool.put, Function.update_of_ne hne] using h.live a ha

lemma Listed.onInstance {p q : Pool H B} (h : Listed p) {address : ℕ} {call : InstanceCall}
    {r : Option EfiStatus} (hrun : onInstance hosts boot address call p = some (r, q)) :
    Listed q ∧ q.listed = p.listed ∧ ∀ a, a ≠ address → q.live a = p.live a := by
  obtain ⟨c, w, -, -, rfl⟩ := onInstance_eq_some.mp hrun
  exact ⟨h.put address w, rfl, fun a hne => Function.update_of_ne hne ..⟩

/-- The visits come back, and an instance is changed by its own only. -/
lemma Listed.checkCards {addresses : List ℕ} {p : Pool H B} (h : Listed p)
    (hlisted : ∀ address ∈ addresses, address ∈ p.listed) :
    ∃ q, checkCards hosts boot addresses p = some ((), q) ∧ Listed q ∧ q.listed = p.listed ∧
      ∀ a, a ∉ addresses → q.live a = p.live a := by
  induction addresses generalizing p with
  | nil => exact ⟨p, rfl, h, rfl, fun _ _ => rfl⟩
  | cons address rest ih =>
      obtain ⟨c, hc⟩ := Option.ne_none_iff_exists'.mp
        (h.live address (hlisted address List.mem_cons_self))
      obtain ⟨⟨r, w⟩, hcall⟩ :=
        @InstanceCall.returns H B (hosts c.inst.mmcHandle) boot .checkCard (p.world c)
      have hrun : SdMmc.onInstance hosts boot address .checkCard p = some (r, p.put address w) :=
        onInstance_eq_some.mpr ⟨c, w, hc, hcall, rfl⟩
      obtain ⟨hput, hsame, hother⟩ := h.onInstance hrun
      obtain ⟨q, hq, hLq, hlq, hlive⟩ := ih hput fun a ha => by
        rw [hsame]
        exact hlisted a (List.mem_cons_of_mem _ ha)
      refine ⟨q, ?_, hLq, hlq.trans hsame, fun a ha => ?_⟩
      · show (SdMmc.onInstance hosts boot address .checkCard >>= fun _ =>
          SdMmc.checkCards hosts boot rest) p = some ((), q)
        rw [bind_of_eq_some hrun, hq]
      · rw [hlive a fun hmem => ha (List.mem_cons_of_mem _ hmem),
          hother a fun heq => ha (heq ▸ List.mem_cons_self)]

/-- Up to its visit an instance is what it was before the callback. -/
lemma Listed.visit {p : Pool H B} (h : Listed p) {before after : List ℕ} {address : ℕ}
    (hsplit : p.listed = before ++ address :: after) :
    ∃ q, SdMmc.checkCards hosts boot before p = some ((), q) ∧
      q.live address = p.live address := by
  have hnodup := h.nodup
  rw [hsplit] at hnodup
  have hnot : address ∉ before := fun hmem =>
    (List.nodup_append.mp hnodup).2.2 address hmem address List.mem_cons_self rfl
  obtain ⟨q, hq, -, -, hlive⟩ := @Listed.checkCards H B hosts boot before p h fun a ha => by
    rw [hsplit]
    exact List.mem_append_left _ ha
  exact ⟨q, hq, hlive address hnot⟩

lemma Listed.insert {p : Pool H B} (h : Listed p) {address : ℕ} (hfree : p.live address = none)
    (handle : ℕ) (caps : SdhcCapabilities) : Listed (p.insert address handle caps) where
  nodup := by
    refine List.Nodup.append h.nodup (List.nodup_singleton address) ?_
    rw [List.disjoint_singleton]
    exact fun hmem => h.live address hmem hfree
  live a ha := by
    rcases eq_or_ne a address with rfl | hne
    · simp [Pool.insert]
    · have hmem : a ∈ p.listed := by simpa [Pool.insert, hne] using ha
      simpa [Pool.insert, Function.update_of_ne hne] using h.live a hmem

lemma Listed.removeAndDestroy {p q : Pool H B} (h : Listed p) {address : ℕ}
    (hrun : removeAndDestroy hosts boot address p = some ((), q)) : Listed q := by
  have herase : Listed { p with listed := p.listed.erase address } :=
    ⟨h.nodup.erase address, fun a ha => h.live a (List.mem_of_mem_erase ha)⟩
  obtain ⟨u, t₀, hmodify, hrest⟩ := bind_eq_some.mp hrun
  obtain rfl := (Prod.mk.inj (Option.some.inj hmodify)).2
  obtain ⟨r, t, hcall, ht⟩ := bind_eq_some.mp hrest
  obtain ⟨hLt, hlisted, -⟩ := herase.onInstance hcall
  obtain ⟨-, rfl⟩ : () = () ∧ (if r.elim true EfiStatus.isError then t else t.free address) = q := by
    simpa using ht
  split
  · exact hLt
  · refine ⟨hLt.nodup, fun a ha => ?_⟩
    have hne : a ≠ address := by
      rintro rfl
      exact h.nodup.not_mem_erase (hlisted ▸ ha)
    simpa [Pool.free, Function.update_of_ne hne] using hLt.live a ha

lemma listed_of_reachable {p : Pool H B} (h : (poolSystem hosts boot).Reachable p) : Listed p := by
  refine h.invariant (P := Listed) ?_ ?_
  · rintro p ⟨-, hlisted, -⟩
    exact ⟨by rw [hlisted]; exact List.nodup_nil, by rw [hlisted]; simp⟩
  · intro p call p' hL hstep
    replace hstep : call.run hosts boot p = some ((), p') := hstep
    cases call with
    | start handle address =>
        simp only [PoolCall.run, sdMmcDriverStart] at hstep
        split at hstep
        case isFalse => cases hstep
        case isTrue hfree =>
          split at hstep
          · obtain rfl : p = p' := by simpa using hstep
            exact hL
          · have hnew := hL.insert hfree.1 handle (hosts handle).capabilities
            obtain ⟨q, hq, hLq, -⟩ := @Listed.checkCards H B hosts boot _ _ hnew fun _ ha => ha
            obtain rfl : q = p' := by simpa using hq.symm.trans hstep
            exact hLq
    | checkCardsCallback =>
        obtain ⟨q, hq, hLq, -⟩ := @Listed.checkCards H B hosts boot _ _ hL fun _ ha => ha
        obtain rfl : q = p' := by simpa using hq.symm.trans hstep
        exact hLq
    | onInstance address call =>
        obtain ⟨r, q, hcall, hq⟩ := bind_eq_some.mp hstep
        obtain rfl : q = p' := by simpa using hq
        exact (hL.onInstance hcall).1
    | destroy address => exact hL.removeAndDestroy hstep
    | outside host b m =>
        simp only [PoolCall.run] at hstep
        split at hstep
        case isFalse => cases hstep
        case isTrue =>
          obtain rfl := (Prod.mk.inj (Option.some.inj hstep)).2
          exact ⟨hL.nodup, hL.live⟩

/-- `CheckCardsCallback` comes back, and it follows the table exactly if every listed instance has
`MediaPresent` set as `SlotInitialized` is. -/
theorem followsTable_iff {p : Pool H B} (h : (poolSystem hosts boot).Reachable p) :
    (∃ q, checkCardsCallback hosts boot p = some ((), q)) ∧
      (FollowsTable hosts boot p ↔ ∀ address ∈ p.listed, ∀ c, p.live address = some c →
        c.inst.media.mediaPresent = c.inst.slotInitialized) := by
  have hL := listed_of_reachable h
  refine ⟨?_, fun hfollows address hmem c hc => ?_, fun hsame before address after q c r w hsplit
    hbefore hc hrun => ?_⟩
  · obtain ⟨q, hq, -⟩ := @Listed.checkCards H B hosts boot _ _ hL fun _ ha => ha
    exact ⟨q, hq⟩
  · obtain ⟨before, after, hsplit⟩ := List.append_of_mem hmem
    obtain ⟨q, hq, hlive⟩ := @Listed.visit H B hosts boot _ hL _ _ _ hsplit
    obtain ⟨⟨r, w⟩, hrun⟩ :=
      @InstanceCall.returns H B (hosts c.inst.mmcHandle) boot .checkCard (q.world c)
    have htable := hfollows before address after q c r w hsplit hq (hlive.trans hc) hrun
    rw [show PerformsReset c w.toController ↔ _ from performsReset_iff hrun] at htable
    exact (presenceTable_iff _ _ _).mp htable
  · have hmem : address ∈ p.listed := by rw [hsplit]; simp
    obtain ⟨q', hq', hlive⟩ := @Listed.visit H B hosts boot _ hL _ _ _ hsplit
    obtain rfl : q' = q := by simpa using hq'.symm.trans hbefore
    rw [show PerformsReset c w.toController ↔ _ from performsReset_iff hrun]
    exact (presenceTable_iff _ _ _).mpr (hsame address hmem c (hlive.symm.trans hc))

/-! ## A card that does not answer -/

/-- A card that is in the slot and answers no command. -/
def silentCard : Script := { Script.quiet false with fails := fun _ => true }

lemma silentRun : (scriptedRun silentCard [.start 7 1]).isSome = true := by decide +kernel

/-- The pool after the driver was started on it. -/
def silentPool : Pool ScriptedCard (ℕ × List Published) :=
  (scriptedRun silentCard [.start 7 1]).get silentRun

theorem followsTable_iff_silentCard :
    (∃ q, checkCardsCallback (fun _ => scriptedHost silentCard) (scriptedBoot silentCard)
      silentPool = some ((), q)) ∧
    (FollowsTable (fun _ => scriptedHost silentCard) (scriptedBoot silentCard) silentPool ↔
      ∀ address ∈ silentPool.listed, ∀ c, silentPool.live address = some c →
        c.inst.media.mediaPresent = c.inst.slotInitialized) :=
  followsTable_iff (scriptedRun_reachable silentRun)

lemma silentPool_live : (silentPool.live 1).isSome = true := by decide +kernel

lemma silentPool_visit :
    (InstanceCall.checkCard.run (scriptedHost silentCard) (scriptedBoot silentCard)
      (silentPool.world ((silentPool.live 1).get silentPool_live))).isSome = true := by
  decide +kernel

/-- The initialisation of the card failed, and the next check leaves the instance alone. -/
theorem not_followsTable_silentCard :
    ¬ ∀ p, (scriptedSystem silentCard).Reachable p →
      FollowsTable (fun _ => scriptedHost silentCard) (scriptedBoot silentCard) p := by
  intro hall
  have hvisit := hall silentPool (scriptedRun_reachable silentRun) [] 1 [] silentPool
    ((silentPool.live 1).get silentPool_live) _ _ (by decide +kernel) (by rfl)
    (Option.some_get _).symm (eq_some_get silentPool_visit)
  exact absurd hvisit (by decide +kernel)

end SdMmc
end MuPlatform
