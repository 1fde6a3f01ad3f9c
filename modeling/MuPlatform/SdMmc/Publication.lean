import MuPlatform.SdMmc.ScriptedCard
import Mathlib.Data.List.Pairwise

/-!
# Protocols and the handle database

The instance notes in three flags which of its interfaces are installed.  `Bookkeeping` says that
the flags are the truth about the handle database, and what else holds of the database: a handle
carries a protocol once, the RPMB protocol is there once, and `BlockIo` is not published for a
present card that is not initialised.  `bookkeeping_resetInvariant` shows it for `SoftReset` with
all resets nested in it, and `consistent_of_reachable` for the pool.
-/

namespace MuPlatform
namespace SdMmc

open Prog

variable {H B : Type} {hosts : ℕ → SdhcHost H} {host : SdhcHost H} {boot : BootServices B}

/-! ## One instance -/

/-- The flags of the instance at an address are right, and the entries of the others are those of
`others`. -/
structure Bookkeeping (boot : BootServices B) (a : ℕ) (others : List Published)
    (w : World H B) : Prop where
  address : w.address = a
  installed_iff : ∀ p, w.inst.installed p = true ↔ w.published p ∈ boot.handleDatabase w.boot
  owned : ∀ e ∈ boot.handleDatabase w.boot, e.address = a → e.handle = w.inst.mmcHandle
  apart : (boot.handleDatabase w.boot).Pairwise Published.Apart
  usable : w.inst.blockIoProtocolInstalled = true → w.inst.media.mediaPresent = true →
    w.inst.slotInitialized = true
  others_iff : ∀ e, e.address ≠ a → (e ∈ boot.handleDatabase w.boot ↔ e ∈ others)

/-- What `Bookkeeping` looks at is the same. -/
structure SamePublication (boot : BootServices B) (w w' : World H B) : Prop where
  address : w'.address = w.address
  mmcHandle : w'.inst.mmcHandle = w.inst.mmcHandle
  installed : ∀ p, w'.inst.installed p = w.inst.installed p
  mediaPresent : w'.inst.media.mediaPresent = w.inst.media.mediaPresent
  slotInitialized : w'.inst.slotInitialized = w.inst.slotInitialized
  handleDatabase : boot.handleDatabase w'.boot = boot.handleDatabase w.boot

lemma Bookkeeping.same {address : ℕ} {others : List Published} {w w' : World H B}
    (h : Bookkeeping boot address others w) (hs : SamePublication boot w w') :
    Bookkeeping boot address others w' where
  address := hs.address.trans h.address
  installed_iff p := by
    have hpub : w'.published p = w.published p := by
      simp only [Controller.published, hs.address, hs.mmcHandle]
    rw [hs.installed, h.installed_iff, hs.handleDatabase, hpub]
  owned e he hea := by
    rw [hs.mmcHandle]
    exact h.owned e (hs.handleDatabase ▸ he) hea
  apart := hs.handleDatabase ▸ h.apart
  usable hblock hpresent := by
    rw [hs.slotInitialized]
    rw [hs.mediaPresent] at hpresent
    exact h.usable ((hs.installed .blockIo).symm.trans hblock) hpresent
  others_iff e hne := by
    rw [hs.handleDatabase]
    exact h.others_iff e hne

lemma DeviceStep.samePublication {w w' : World H B} (h : DeviceStep host w w') :
    SamePublication boot w w' := by
  cases h with
  | bus h =>
      cases h with
      | read _ size buffer bytes h ok =>
          cases buffer <;> exact ⟨rfl, rfl, fun p => by cases p <;> rfl, rfl, rfl, rfl⟩
      | _ => exact ⟨rfl, rfl, fun p => by cases p <;> rfl, rfl, rfl, rfl⟩
  | card inst h =>
      exact ⟨rfl, h.mmcHandle, h.installed, h.mediaPresent, h.slotInitialized, rfl⟩
  | extCsd => exact ⟨rfl, rfl, fun p => by cases p <;> rfl, rfl, rfl, rfl⟩

/-- A request leaves the protocols and the slot alone. -/
lemma RequestStep.samePublication {w w' : World H B} (h : RequestStep host w w') :
    SamePublication boot w w' := by
  cases h with
  | device h => exact h.samePublication
  | _ => exact ⟨rfl, rfl, fun p => by cases p <;> rfl, rfl, rfl, rfl⟩

/-! ## Installing and uninstalling -/

lemma published_injective (c : Controller) {p q : Interface} (h : c.published p = c.published q) :
    p = q :=
  congrArg Published.protocol h

lemma Bookkeeping.nodup {address : ℕ} {others : List Published} {w : World H B}
    (h : Bookkeeping boot address others w) : (boot.handleDatabase w.boot).Nodup :=
  h.apart.imp fun hapart heq => (hapart (congrArg _ heq)).1 (congrArg _ heq)

lemma Bookkeeping.uninstall {address : ℕ} {others : List Published} {w : World H B}
    (h : Bookkeeping boot address others w) (p : Interface) :
    Bookkeeping boot address others (afterUninstall boot p w).2 := by
  by_cases herr : (boot.uninstallProtocol (w.published p) w.boot).1.isError = true
  · refine h.same ⟨rfl, ?_, fun q => ?_, ?_, ?_, boot.uninstall_error _ _ herr⟩ <;>
      simp [afterUninstall, herr]
  have hok := eq_false_of_ne_true herr
  have hdb := boot.uninstall_success _ _ hok
  have hinst : (afterUninstall boot p w).2.inst = w.inst.setInstalled false p :=
    afterUninstall_of_ok hok
  have hhandle : (afterUninstall boot p w).2.inst.mmcHandle = w.inst.mmcHandle := by
    rw [hinst]
    cases p <;> rfl
  have hpub (q : Interface) : (afterUninstall boot p w).2.published q = w.published q := by
    rw [Controller.published, hhandle]
    rfl
  have hdb' : boot.handleDatabase (afterUninstall boot p w).2.boot =
      (boot.handleDatabase w.boot).erase (w.published p) := hdb
  constructor
  case address => exact h.address
  case installed_iff =>
    intro q
    rw [hinst, HostInst.installed_setInstalled, hpub, hdb']
    by_cases hqp : q = p
    · subst hqp
      rw [if_pos rfl]
      exact iff_of_false Bool.false_ne_true h.nodup.not_mem_erase
    · rw [if_neg hqp, h.installed_iff, List.mem_erase_of_ne fun heq =>
        hqp (published_injective _ heq)]
  case owned =>
    intro e he hea
    rw [hhandle]
    rw [hdb'] at he
    exact h.owned e (List.mem_of_mem_erase he) hea
  case apart =>
    rw [hdb']
    exact h.apart.sublist List.erase_sublist
  case usable =>
    intro hblock hpresent
    have hblock' : (w.inst.setInstalled false p).installed .blockIo = true := hinst ▸ hblock
    rw [HostInst.installed_setInstalled] at hblock'
    split at hblock'
    · cases hblock'
    · rw [hinst] at hpresent ⊢
      cases p <;> exact h.usable hblock' hpresent
  case others_iff =>
    intro e hne
    rw [hdb', List.mem_erase_of_ne, h.others_iff e hne]
    rintro rfl
    exact hne h.address

lemma Bookkeeping.install {address : ℕ} {others : List Published} {w : World H B}
    (h : Bookkeeping boot address others w) {p : Interface}
    (hrpmb : p = .rpmbIo → ∀ e ∈ boot.handleDatabase w.boot, e.protocol ≠ .rpmbIo)
    (husable : p = .blockIo → w.inst.media.mediaPresent = true → w.inst.slotInitialized = true) :
    Bookkeeping boot address others (afterInstall boot p w).2 := by
  by_cases herr : (boot.installProtocol (w.published p) w.boot).1.isError = true
  · refine h.same ⟨rfl, ?_, fun q => ?_, ?_, ?_, boot.install_error _ _ herr⟩ <;>
      simp [afterInstall, herr]
  have hok := eq_false_of_ne_true herr
  obtain ⟨hfresh, hdb⟩ := boot.install_success _ _ hok
  have hinst : (afterInstall boot p w).2.inst = w.inst.setInstalled true p := by
    simp [afterInstall, hok]
  have hhandle : (afterInstall boot p w).2.inst.mmcHandle = w.inst.mmcHandle := by
    rw [hinst]
    cases p <;> rfl
  have hpub (q : Interface) : (afterInstall boot p w).2.published q = w.published q := by
    rw [Controller.published, hhandle]
    rfl
  have hdb' : boot.handleDatabase (afterInstall boot p w).2.boot =
      w.published p :: boot.handleDatabase w.boot := hdb
  constructor
  case address => exact h.address
  case installed_iff =>
    intro q
    rw [hinst, HostInst.installed_setInstalled, hpub, hdb', List.mem_cons]
    by_cases hqp : q = p
    · subst hqp
      simp
    · rw [if_neg hqp, h.installed_iff, or_iff_right fun heq => hqp (published_injective _ heq)]
  case owned =>
    intro e he hea
    rw [hhandle]
    rw [hdb'] at he
    rcases List.mem_cons.mp he with rfl | he
    · rfl
    · exact h.owned e he hea
  case apart =>
    rw [hdb']
    refine List.Pairwise.cons (fun e he hprot => ⟨?_, ?_⟩) h.apart
    · exact fun hh => hfresh e he hprot.symm hh.symm
    · intro hp
      exact hrpmb hp e he (hprot.symm.trans hp)
  case usable =>
    intro hblock hpresent
    rw [hinst] at hblock hpresent ⊢
    cases p with
    | blockIo => exact husable rfl hpresent
    | devicePath => exact h.usable hblock hpresent
    | rpmbIo => exact h.usable hblock hpresent
  case others_iff =>
    intro e hne
    rw [hdb', List.mem_cons, or_iff_right, h.others_iff e hne]
    rintro rfl
    exact hne h.address

/-! ## The reset -/

lemma Bookkeeping.unpublished {address : ℕ} {others : List Published} {w w' : World H B}
    (h : Bookkeeping boot address others w) (hdown : w.inst.Unpublished)
    (hw' : w'.toPlatform = w.toPlatform) (haddress : w'.address = w.address)
    (hhandle : w'.inst.mmcHandle = w.inst.mmcHandle)
    (hinstalled : ∀ p, w'.inst.installed p = w.inst.installed p) :
    Bookkeeping boot address others w' where
  address := haddress.trans h.address
  installed_iff p := by
    rw [hinstalled, h.installed_iff, hw']
    simp only [Controller.published, hhandle, haddress]
  owned e he hea := by
    rw [hw'] at he
    rw [hhandle]
    exact h.owned e he hea
  apart := by
    rw [hw']
    exact h.apart
  usable hblock := by
    have hoff := hdown .blockIo
    rw [← hinstalled .blockIo] at hoff
    exact absurd (hblock.symm.trans hoff) (by simp)
  others_iff e hne := by
    rw [hw']
    exact h.others_iff e hne

lemma Bookkeeping.afterPublishRpmb {address : ℕ} {others : List Published} {w : World H B}
    (h : Bookkeeping boot address others w)
    (hlocate : (boot.locateProtocol .rpmbIo w.boot).isError = true) :
    Bookkeeping boot address others (afterPublishRpmb boot w).2 := by
  have hnone : ∀ e ∈ boot.handleDatabase w.boot, e.protocol ≠ .rpmbIo := by
    intro e he hp
    have := (boot.locate_iff .rpmbIo w.boot).mpr ⟨e, he, hp⟩
    rw [hlocate] at this
    cases this
  refine (h.install (p := .rpmbIo) (fun _ => hnone) fun hp => by cases hp).same ?_
  unfold SdMmc.afterPublishRpmb
  simp only
  split
  · exact ⟨rfl, rfl, fun _ => rfl, rfl, rfl, rfl⟩
  · exact ⟨rfl, rfl, fun p => by cases p <;> rfl, rfl, rfl, rfl⟩

/-- `SoftReset` keeps the books, also through the resets nested in it. -/
lemma bookkeeping_resetInvariant (address : ℕ) (others : List Published) :
    ResetInvariant host boot (Bookkeeping boot address others) fun _ => True where
  bus w w' h hw := hw.same (DeviceStep.bus h).samePublication
  enterRecovery cmd w hw := hw.same ⟨rfl, rfl, fun p => by cases p <;> rfl, rfl, rfl, rfl⟩
  leaveRecovery w hw := hw.same ⟨rfl, rfl, fun p => by cases p <;> rfl, rfl, rfl, rfl⟩
  softReset w hw := hw.same ⟨rfl, rfl, fun p => rfl, rfl, rfl, rfl⟩
  uninstall p w _ hw := hw.uninstall p
  cleared w hdown hw := hw.unpublished hdown rfl rfl rfl fun p => by cases p <;> rfl
  mediaPresent present w hdown _ hw := hw.unpublished hdown rfl rfl rfl fun p => by cases p <;> rfl
  readOnly readOnly w hw := hw.same ⟨rfl, rfl, fun p => by cases p <;> rfl, rfl, rfl, rfl⟩
  identify recover hrec :=
    (identifyDevice_built.preserves
      (fun w w' (h : DeviceStep host w w') hw => hw.same h.samePublication) hrec).weaken
      fun _ _ hw => ⟨hw, fun _ => trivial⟩
  initialized w _ hw := by
    refine ⟨trivial, ⟨hw.address, fun p => ?_, hw.owned, hw.apart, fun _ _ => rfl, hw.others_iff⟩⟩
    have hp := hw.installed_iff p
    cases p <;> exact hp
  convert w hw := hw.same ⟨rfl, rfl, fun p => rfl, rfl, rfl, boot.convert_database _⟩
  ready_convert _ _ := trivial
  installBlockIo w husable hw := hw.install (fun hp => by cases hp) fun _ => husable
  installDevicePath w hw := hw.install (fun hp => by cases hp) fun hp => by cases hp
  ready_install _ _ _ := trivial
  installRpmb w _ _ _ hlocate hw := hw.afterPublishRpmb hlocate

/-- Every call on an instance keeps its books and those of the others. -/
lemma InstanceCall.preserves_bookkeeping (address : ℕ) (others : List Published)
    (call : InstanceCall) : Preserves (Bookkeeping boot address others) (call.run host boot) := by
  have hinv := @bookkeeping_resetInvariant H B host boot address others
  have hrequest {f : (SdCommand → Prog (World H B) EfiStatus) → Prog (World H B) EfiStatus}
      (hf : RequestProg host f) :
      Preserves (Bookkeeping boot address others) (f (recovery host boot)) :=
    hf.preserves (fun w w' h hw => hw.same h.samePublication) hinv.preserves_recovery
  refine call.preserves (fun w h hw => hw.same ⟨rfl, rfl, fun p => rfl, rfl, rfl, rfl⟩)
    (hinv.preserves_softReset hinv.preserves_recovery) (fun r => ?_)
    (fun call => hrequest (rpmbIo_built call)) hinv.uninstallAllProtocols
  exact ioBlocks_call_preserves (fun cmd arg size buffer =>
    hrequest (sdhcSendDataCommand_request cmd arg size buffer)) r

/-! ## The pool -/

/-- The flags of every instance are right, no interface is installed twice on a handle, at most
one handle carries the RPMB protocol, and `BlockIo` is not published for a present card that is
not initialised. -/
structure Consistent (boot : BootServices B) (p : Pool H B) : Prop where
  address : ∀ a c, p.live a = some c → c.address = a
  installed_iff : ∀ a c, p.live a = some c → ∀ i,
    c.inst.installed i = true ↔ c.published i ∈ boot.handleDatabase p.boot
  owned : ∀ a c, p.live a = some c → ∀ e ∈ boot.handleDatabase p.boot, e.address = a →
    e.handle = c.inst.mmcHandle
  apart : (boot.handleDatabase p.boot).Pairwise Published.Apart
  usable : ∀ a c, p.live a = some c → c.inst.blockIoProtocolInstalled = true →
    c.inst.media.mediaPresent = true → c.inst.slotInitialized = true

lemma Consistent.bookkeeping {p : Pool H B} (h : Consistent boot p) {a : ℕ} {c : Controller}
    (hc : p.live a = some c) :
    Bookkeeping boot a (boot.handleDatabase p.boot) (p.world c) where
  address := h.address a c hc
  installed_iff := h.installed_iff a c hc
  owned := h.owned a c hc
  apart := h.apart
  usable := h.usable a c hc
  others_iff _ _ := Iff.rfl

/-- The books of the one instance and the entries of the others are those of the pool. -/
lemma Bookkeeping.consistent {p : Pool H B} (h : Consistent boot p) {a : ℕ} {w : World H B}
    (hw : Bookkeeping boot a (boot.handleDatabase p.boot) w) : Consistent boot (p.put a w) := by
  have hother {b : ℕ} {c : Controller} (hne : b ≠ a) (hc : (p.put a w).live b = some c) :
      p.live b = some c := by
    simpa [Pool.put, Function.update_of_ne hne] using hc
  have hsame {c : Controller} (hc : (p.put a w).live a = some c) : w.toController = c := by
    simpa [Pool.put] using hc
  constructor
  case address =>
    intro b c hc
    rcases eq_or_ne b a with rfl | hne
    · obtain rfl := hsame hc
      exact hw.address
    · exact h.address b c (hother hne hc)
  case installed_iff =>
    intro b c hc i
    rcases eq_or_ne b a with rfl | hne
    · obtain rfl := hsame hc
      exact hw.installed_iff i
    · have hb := h.address b c (hother hne hc)
      rw [h.installed_iff b c (hother hne hc) i]
      exact (hw.others_iff (c.published i) fun heq => hne (hb.symm.trans heq)).symm
  case owned =>
    intro b c hc e he heb
    rcases eq_or_ne b a with rfl | hne
    · obtain rfl := hsame hc
      exact hw.owned e he heb
    · exact h.owned b c (hother hne hc) e
        ((hw.others_iff e fun heq => hne (heb.symm.trans heq)).mp he)
        heb
  case apart => exact hw.apart
  case usable =>
    intro b c hc
    rcases eq_or_ne b a with rfl | hne
    · obtain rfl := hsame hc
      exact hw.usable
    · exact h.usable b c (hother hne hc)

lemma consistent_poolInvariant : PoolInvariant hosts boot (Consistent (H := H) boot) where
  init p hp := by
    have hnone : ∀ a c, p.live a ≠ some c := fun a c hc => by
      rw [hp.1 a] at hc
      cases hc
    exact ⟨fun a c hc => absurd hc (hnone a c), fun a c hc => absurd hc (hnone a c),
      fun a c hc => absurd hc (hnone a c), hp.2.2, fun a c hc => absurd hc (hnone a c)⟩
  insert p address handle caps hfree h := by
    have hnew : Bookkeeping boot address (boot.handleDatabase p.boot)
        (p.world ⟨address, createSdhcInstance handle caps, []⟩) := by
      refine ⟨rfl, fun i => ?_, fun e he hea => absurd hea (hfree.2 e he), h.apart,
        fun hblock => ?_, fun _ _ => Iff.rfl⟩
      · exact iff_of_false (by cases i <;> simp [HostInst.installed, createSdhcInstance, Pool.world])
          fun hmem => hfree.2 _ hmem rfl
      · simp [createSdhcInstance, Pool.world] at hblock
    obtain ⟨h₁, h₂, h₃, h₄, h₅⟩ := hnew.consistent h
    exact ⟨h₁, h₂, h₃, h₄, h₅⟩
  erase p _ h := ⟨h.address, h.installed_iff, h.owned, h.apart, h.usable⟩
  put p address c call r w hc hrun h :=
    (call.preserves_bookkeeping address _ _ (h.bookkeeping hc) r w hrun).consistent h
  free p address c hc _ h := by
    have hother {b : ℕ} {c : Controller} (hb : (p.free address).live b = some c) :
        p.live b = some c := by
      rcases eq_or_ne b address with rfl | hne
      · simp [Pool.free] at hb
      · simpa [Pool.free, Function.update_of_ne hne] using hb
    exact ⟨fun b c hb => h.address b c (hother hb), fun b c hb => h.installed_iff b c (hother hb),
      fun b c hb => h.owned b c (hother hb), h.apart, fun b c hb => h.usable b c (hother hb)⟩
  outside p host b m hdb h := by
    refine ⟨h.address, fun a c hc i => ?_, fun a c hc e he => ?_, ?_, h.usable⟩
    · exact (h.installed_iff a c hc i).trans (by rw [hdb])
    · exact h.owned a c hc e (hdb ▸ he)
    · exact hdb ▸ h.apart

/-- The protocol flags match the handle database in every reachable pool, no interface is
installed twice, at most one handle carries the RPMB protocol, and `BlockIo` is never published
for a present card that is not initialised. -/
theorem protocolBookkeeping {p : Pool H B} (h : (poolSystem hosts boot).Reachable p) :
    (∀ a c, p.live a = some c → ∀ i,
      c.inst.installed i = true ↔ c.published i ∈ boot.handleDatabase p.boot) ∧
    (boot.handleDatabase p.boot).Pairwise
      (fun e e' => e.protocol = e'.protocol → e.handle ≠ e'.handle) ∧
    (∀ e ∈ boot.handleDatabase p.boot, ∀ e' ∈ boot.handleDatabase p.boot,
      e.protocol = .rpmbIo → e'.protocol = .rpmbIo → e = e') ∧
    ∀ a c, p.live a = some c → c.published .blockIo ∈ boot.handleDatabase p.boot →
      c.inst.media.mediaPresent = true → c.inst.slotInitialized = true := by
  have hc := consistent_poolInvariant.reachable h
  refine ⟨hc.installed_iff, hc.apart.imp fun hapart hp => (hapart hp).1, ?_,
    fun a c ha hmem hpresent => ?_⟩
  · intro e he e' he' hp hp'
    by_contra hne
    have : Std.Symm Published.Apart :=
      ⟨fun e e' hapart hp => ⟨((hapart hp.symm).1 ·.symm), hp ▸ (hapart hp.symm).2⟩⟩
    exact (hc.apart.forall he he' hne (hp.trans hp'.symm)).2 hp
  · exact hc.usable a c ha ((hc.installed_iff a c ha .blockIo).mpr hmem) hpresent

theorem protocolBookkeeping_mmcPool :
    (∀ a c, mmcPool.live a = some c → ∀ i, c.inst.installed i = true ↔
      c.published i ∈ (scriptedBoot (.quiet true)).handleDatabase mmcPool.boot) ∧
    ((scriptedBoot (.quiet true)).handleDatabase mmcPool.boot).Pairwise
      (fun e e' => e.protocol = e'.protocol → e.handle ≠ e'.handle) ∧
    (∀ e ∈ (scriptedBoot (.quiet true)).handleDatabase mmcPool.boot,
      ∀ e' ∈ (scriptedBoot (.quiet true)).handleDatabase mmcPool.boot,
      e.protocol = .rpmbIo → e'.protocol = .rpmbIo → e = e') ∧
    ∀ a c, mmcPool.live a = some c →
      c.published .blockIo ∈ (scriptedBoot (.quiet true)).handleDatabase mmcPool.boot →
      c.inst.media.mediaPresent = true → c.inst.slotInitialized = true :=
  protocolBookkeeping (scriptedRun_reachable mmcRun)

end SdMmc
end MuPlatform
