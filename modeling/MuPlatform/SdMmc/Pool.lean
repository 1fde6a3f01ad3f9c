import MuPlatform.Base.Runs
import MuPlatform.SdMmc.BlockIo
import MuPlatform.SdMmc.Invariant
import MuPlatform.SdMmc.Rpmb
import Mathlib.Logic.Function.Basic

/-!
# The pool of instances

The calls of the driver on any number of instances: `SdMmcDriverStart`, `CheckCardsCallback`,
`BlockIoReset`, `IoBlocks`, the RPMB protocol, `UninstallAllProtocols` and
`DestroySdhcInstance`.  An instance is known by its address, and `hosts` gives the host
controller on a handle.  Between two calls the host controllers and the memory of the callers
may change in any way.

`Pool.Reachable` are the pools some sequence of calls leads to, from one without instances.  A
property of the single instance that every call on it keeps holds of all of them
(`Pool.live_invariant`).  The first such property is the error recovery counter: it is `0`
between the calls, and so every recovery has its whole budget.
-/

namespace MuPlatform
namespace SdMmc

open Prog

variable {H B : Type}

/-! ## Calls on one instance -/

section Instance

variable (host : SdhcHost H) (boot : BootServices B)
  (recover : SdCommand → Prog (World H B) EfiStatus)

/-- What `IoBlocks` uses of an instance with these capabilities. -/
def blockPath (caps : SdhcCapabilities) : DataPath (World H B) where
  media w := w.inst.media
  hostCapabilities := caps
  sdhcSendDataCommand cmd arg size buffer w :=
    (sdhcSendDataCommand host (recovery host boot) cmd (.ofNat 32 arg) size (.caller buffer) w).get
      (by
        obtain ⟨status, w', hrun, -⟩ :=
          (@sdhcSendDataCommand_request H B host cmd (.ofNat 32 arg) size
            (.caller buffer)).driver.returns w
        rw [hrun]
        rfl)

/-- The calls of the driver on an instance. -/
inductive InstanceCall
  | checkCard
  | blockIoReset
  | ioBlocks (r : IoRequest)
  | rpmbIo (call : RpmbCall)
  | uninstallAllProtocols
  | destroySdhcInstance
  deriving DecidableEq, Repr

/-- The body of the loop in `CheckCardsCallback`. -/
def checkCard : Prog (World H B) EfiStatus := do
  let isCardPresent ← callHost host.isCardPresent
  let mediaPresent ← inspect (·.media.mediaPresent)
  let cardEjected := mediaPresent && !isCardPresent
  let cardInserted := !mediaPresent && isCardPresent
  if cardEjected || cardInserted then softReset host boot recover else return .success

lemma checkCard_built {host : SdhcHost H} {boot : BootServices B} :
    DriverProg host boot (checkCard host boot) := by
  unfold checkCard
  exact .bind (callHost_steps _) fun _ =>
    .bind (inspect_steps _) fun _ => .ite softReset_built (.pure _)

/-- `DestroySdhcInstance`; the pool forgets the instance. -/
def destroySdhcInstance : Prog (World H B) EfiStatus :=
  (uninstallAllProtocols boot).orReturn do
    callHost fun h => ((), host.cleanup h)
    return .success

/-- A call on an instance, with its status; `none` where `IoBlocks` has none. -/
def InstanceCall.run : InstanceCall → Prog (World H B) (Option EfiStatus)
  | checkCard => some <$> SdMmc.checkCard host boot (recovery host boot)
  | blockIoReset => some <$> softReset host boot (recovery host boot)
  | ioBlocks r => step fun w => SdMmc.ioBlocks (blockPath host boot w.inst.hostCapabilities) r w
  | rpmbIo call => some <$> SdMmc.rpmbIo host (recovery host boot) call
  | uninstallAllProtocols => some <$> SdMmc.uninstallAllProtocols boot
  | destroySdhcInstance => some <$> SdMmc.destroySdhcInstance host boot

end Instance

/-! ## The pool -/

/-- The instances of the driver: those that exist, by address, and `gSdhcInstancePool`. -/
structure Pool (H B : Type) extends Platform H B where
  live : ℕ → Option Controller
  listed : List ℕ

namespace Pool

/-- The world of a call on an instance of the pool. -/
def world (p : Pool H B) (c : Controller) : World H B where
  toController := c
  toPlatform := p.toPlatform

/-- The pool after a call on the instance at an address. -/
def put (p : Pool H B) (address : ℕ) (w : World H B) : Pool H B where
  toPlatform := w.toPlatform
  live := Function.update p.live address (some w.toController)
  listed := p.listed

/-- The memory at an address is not in use, so it can be allocated. -/
def Free (boot : BootServices B) (p : Pool H B) (address : ℕ) : Prop :=
  p.live address = none ∧ ∀ e ∈ boot.handleDatabase p.boot, e.address ≠ address

instance (boot : BootServices B) (p : Pool H B) (address : ℕ) : Decidable (p.Free boot address) :=
  inferInstanceAs (Decidable (_ ∧ _))

/-- The pool with a new instance. -/
def insert (p : Pool H B) (address handle : ℕ) (caps : SdhcCapabilities) : Pool H B :=
  { p with
    live := Function.update p.live address (some ⟨address, createSdhcInstance handle caps, []⟩)
    listed := p.listed ++ [address] }

/-- The pool without the instance at an address. -/
def free (p : Pool H B) (address : ℕ) : Pool H B :=
  { p with live := Function.update p.live address none }

end Pool

/-- What the driver is called for; `outside` is what happens between the calls. -/
inductive PoolCall (H B : Type)
  | start (handle address : ℕ)
  | checkCardsCallback
  | onInstance (address : ℕ) (call : InstanceCall)
  | destroy (address : ℕ)
  | outside (host : H) (boot : B) (callerMemory : ByteStore)

section Pool

variable (hosts : ℕ → SdhcHost H) (boot : BootServices B)

/-- A call on the instance at an address. -/
def onInstance (address : ℕ) (call : InstanceCall) : Prog (Pool H B) (Option EfiStatus) :=
  fun p => (p.live address).bind fun c =>
    (call.run (hosts c.inst.mmcHandle) boot (p.world c)).map fun r => (r.1, p.put address r.2)

/-- The loop of `CheckCardsCallback`. -/
def checkCards : List ℕ → Prog (Pool H B) Unit
  | [] => return
  | address :: rest => do
      let _ ← onInstance hosts boot address .checkCard
      checkCards rest

/-- `CheckCardsCallback`. -/
def checkCardsCallback : Prog (Pool H B) Unit := fun p => checkCards hosts boot p.listed p

/-- `SdMmcDriverStart`, where the SDHC protocol of the handle could be opened and the memory for
the instance allocated. -/
def sdMmcDriverStart (handle address : ℕ) : Prog (Pool H B) Unit := fun p =>
  if p.Free boot address then
    if (hosts handle).capabilities.maximumBlockSize.toNat < sdBlockLengthBytes then some ((), p)
    else checkCardsCallback hosts boot (p.insert address handle (hosts handle).capabilities)
  else none

/-- `RemoveSdhcInstance` and `DestroySdhcInstance`. -/
def removeAndDestroy (address : ℕ) : Prog (Pool H B) Unit := do
  modify fun p => { p with listed := p.listed.erase address }
  let status ← onInstance hosts boot address .destroySdhcInstance
  modify fun p => if status.elim true EfiStatus.isError then p else p.free address

/-- A call of the driver, or what happens outside it; what happens outside leaves the protocols
of the driver alone. -/
def PoolCall.run : PoolCall H B → Prog (Pool H B) Unit
  | start handle address => sdMmcDriverStart hosts boot handle address
  | checkCardsCallback => SdMmc.checkCardsCallback hosts boot
  | onInstance address call => do
      let _ ← SdMmc.onInstance hosts boot address call
      return
  | destroy address => removeAndDestroy hosts boot address
  | outside host b callerMemory => fun p =>
      if boot.handleDatabase b = boot.handleDatabase p.boot then
        some ((), { p with host := host, boot := b, callerMemory := callerMemory })
      else none

/-- The driver, from a pool without instances on.  No handle carries a protocol twice, and at most
one the RPMB protocol. -/
def poolSystem : System (Pool H B) (PoolCall H B) where
  Init p := (∀ address, p.live address = none) ∧ p.listed = [] ∧
    (boot.handleDatabase p.boot).Pairwise Published.Apart
  Step p call p' := call.run hosts boot p = some ((), p')

/-- A sequence of calls, executed. -/
def runCalls : List (PoolCall H B) → Pool H B → Option (Pool H B)
  | [], p => some p
  | call :: calls, p => (call.run hosts boot p).bind fun r => runCalls calls r.2

variable {hosts boot}

lemma runCalls_reachable {calls : List (PoolCall H B)} {p q : Pool H B}
    (hp : (poolSystem hosts boot).Reachable p) (hrun : runCalls hosts boot calls p = some q) :
    (poolSystem hosts boot).Reachable q := by
  induction calls generalizing p with
  | nil =>
      obtain rfl : p = q := by simpa [runCalls] using hrun
      exact hp
  | cons call calls ih =>
      obtain ⟨⟨u, t⟩, hstep, hrest⟩ := Option.bind_eq_some_iff.mp hrun
      exact ih (hp.step hstep) hrest

end Pool

/-! ## What the calls preserve -/

section BlockTransfer

variable {σ : Type*} {d : DataPath σ} {P : σ → Prop} {cmd : SdCommand}

lemma sendWithRetry_preserves {arg size buffer : ℕ}
    (hdata : ∀ s, P s → P (d.sdhcSendDataCommand cmd arg size buffer s).2) (n : ℕ)
    (status : Option EfiStatus) {s : σ} (hs : P s) :
    P (sendWithRetry d cmd arg size buffer n status s).2 := by
  induction n generalizing status s with
  | zero => exact hs
  | succ n ih =>
      have hnext := hdata s hs
      unfold sendWithRetry
      simp only
      split
      · exact ih _ hnext
      · exact hnext

lemma transferChunks_preserves
    (hdata : ∀ arg size buffer s, P s → P (d.sdhcSendDataCommand cmd arg size buffer s).2)
    (maxTransferSize bound : ℕ) (c : Cursor) (status : Option EfiStatus) {s : σ} (hs : P s) :
    P (transferChunks d cmd maxTransferSize bound c status s).2 := by
  induction bound generalizing c status s with
  | zero =>
      unfold transferChunks
      split
      · exact hs
      · exact hs
  | succ bound ih =>
      unfold transferChunks
      split
      · exact hs
      · generalize (if c.bytesRemaining < maxTransferSize then c.bytesRemaining
          else maxTransferSize) = size
        have hnext := sendWithRetry_preserves (hdata c.currentLba size c.currentBuffer)
          dataCommandRetryCount status hs
        simp only
        split
        · exact hnext
        · exact ih _ _ hnext

/-- An accepted request is for a card that is present, and its command one of the four for
blocks. -/
lemma checkRequest_eq_ok {m : MediaRecord} {r : IoRequest}
    (h : checkRequest m r = some (.ok cmd)) :
    m.mediaId = r.mediaId ∧ m.mediaPresent = true ∧ m.blockSize ≠ 0 ∧
      ∃ blockCount, cmd = ioBlocksCommand r.transferDirection blockCount := by
  have hanswer := checkRequest_answer m r
  rw [h] at hanswer
  cases hanswer with
  | accepted hid hpresent _ hblock => exact ⟨hid, hpresent, hblock, _, rfl⟩

/-- The commands for blocks write no register of the card. -/
lemma ioBlocksCommand_ne_switch (direction : SdTransferDirection) (blockCount : ℕ) :
    ioBlocksCommand direction blockCount ≠ cmdSwitchMmc := by
  unfold ioBlocksCommand
  split_ifs <;> decide

/-- A request is turned down with the state as it is, or its chunks are sent. -/
lemma ioBlocks_cases (d : DataPath σ) (r : IoRequest) (s : σ) :
    (ioBlocks d r s).2 = s ∨ ∃ cmd maxTransferSize bound c,
      checkRequest (d.media s) r = some (.ok cmd) ∧
      ioBlocks d r s = transferChunks d cmd maxTransferSize bound c none s := by
  unfold ioBlocks
  split
  · exact .inl rfl
  · exact .inl rfl
  · next cmd h => exact .inr ⟨cmd, _, _, _, h, rfl⟩

/-- What `SdhcSendDataCommand` keeps, `IoBlocks` keeps. -/
lemma ioBlocks_preserves
    (hdata : ∀ cmd arg size buffer s, P s → P (d.sdhcSendDataCommand cmd arg size buffer s).2)
    (r : IoRequest) {s : σ} (hs : P s) : P (ioBlocks d r s).2 := by
  rcases ioBlocks_cases d r s with heq | ⟨cmd, m, bound, c, -, heq⟩
  · rwa [heq]
  · rw [heq]
    exact transferChunks_preserves (hdata cmd) m bound c none hs

end BlockTransfer

section Calls

variable {host : SdhcHost H} {boot : BootServices B} {P : World H B → Prop}

/-- A call of `SdhcSendDataCommand` from `IoBlocks`. -/
lemma blockPath_apply (caps : SdhcCapabilities) (cmd : SdCommand) (arg size buffer : ℕ)
    (w : World H B) :
    sdhcSendDataCommand host (recovery host boot) cmd (.ofNat 32 arg) size (.caller buffer) w =
      some ((blockPath host boot caps).sdhcSendDataCommand cmd arg size buffer w) :=
  (Option.some_get _).symm

lemma ioBlocks_call_preserves
    (hdata : ∀ cmd arg size buffer,
      Preserves P (sdhcSendDataCommand host (recovery host boot) cmd arg size buffer))
    (r : IoRequest) : Preserves P ((InstanceCall.ioBlocks r).run host boot) :=
  Triple.step fun w hw => ioBlocks_preserves (fun cmd arg size buffer s hs =>
    hdata cmd _ size _ s hs _ _ (blockPath_apply w.inst.hostCapabilities cmd arg size buffer s)) r hw

/-- What the functions of the driver keep, every call on an instance keeps. -/
lemma InstanceCall.preserves (hhost : ∀ w h, P w → P { w with host := h })
    (hreset : Preserves P (softReset host boot (recovery host boot)))
    (hblocks : ∀ r, Preserves P ((InstanceCall.ioBlocks r).run host boot))
    (hrpmb : ∀ call, Preserves P (SdMmc.rpmbIo host (recovery host boot) call))
    (huninstall : Preserves P (SdMmc.uninstallAllProtocols boot)) (call : InstanceCall) :
    Preserves P (call.run host boot) := by
  cases call with
  | checkCard =>
      refine Triple.map (Triple.bind (Q := fun _ => P) (Triple.step fun w hw => hhost w _ hw)
        fun present => Triple.bind (Q := fun _ => P) (Triple.read fun w hw => hw) fun media => ?_)
      dsimp only
      split
      · exact hreset
      · exact Triple.pure fun w hw => hw
  | blockIoReset => exact Triple.map hreset
  | ioBlocks r => exact hblocks r
  | rpmbIo call => exact Triple.map (hrpmb call)
  | uninstallAllProtocols => exact Triple.map huninstall
  | destroySdhcInstance =>
      refine Triple.map (Preserves.orReturn huninstall ?_)
      exact Triple.bind (Q := fun _ => P) (Triple.step fun w hw => hhost w _ hw) fun _ =>
        Triple.pure fun w hw => hw

/-- Every call on an instance comes back. -/
lemma InstanceCall.returns (call : InstanceCall) (w : World H B) :
    ∃ r, call.run host boot w = some r := by
  have hmap {f : (SdCommand → Prog (World H B) EfiStatus) → Prog (World H B) EfiStatus}
      (hf : DriverProg host boot f) :
      ∃ r, (some <$> f (recovery host boot)) w = some r := by
    obtain ⟨status, w', hrun, -⟩ := hf.returns w
    exact ⟨(some status, w'), bind_of_eq_some hrun⟩
  have huninstall := @uninstallAllProtocols_built H B host boot
  cases call with
  | checkCard => exact hmap checkCard_built
  | blockIoReset => exact hmap softReset_built
  | ioBlocks r => exact ⟨_, rfl⟩
  | rpmbIo call => exact hmap (rpmbIo_built call).driver
  | uninstallAllProtocols => exact hmap huninstall
  | destroySdhcInstance =>
      exact hmap (.orReturn huninstall (.bind (callHost_steps _) fun _ => .pure _))

end Calls

/-! ## Invariants of the pool -/

section Invariant

variable {hosts : ℕ → SdhcHost H} {boot : BootServices B}

/-- `P` holds of a pool without instances and is kept by what the calls are made of. -/
structure PoolInvariant (hosts : ℕ → SdhcHost H) (boot : BootServices B) (P : Pool H B → Prop) :
    Prop where
  init : ∀ p, (poolSystem hosts boot).Init p → P p
  insert : ∀ p address handle caps, p.Free boot address → P p → P (p.insert address handle caps)
  erase : ∀ p address, P p → P { p with listed := p.listed.erase address }
  put : ∀ p address c call r w, p.live address = some c →
    InstanceCall.run (hosts c.inst.mmcHandle) boot call (p.world c) = some (r, w) → P p →
      P (p.put address w)
  free : ∀ p address c, p.live address = some c → c.inst.Unpublished → P p → P (p.free address)
  outside : ∀ p h b m, boot.handleDatabase b = boot.handleDatabase p.boot → P p →
    P { p with host := h, boot := b, callerMemory := m }

lemma onInstance_eq_some {address : ℕ} {call : InstanceCall} {p p' : Pool H B}
    {r : Option EfiStatus} :
    onInstance hosts boot address call p = some (r, p') ↔
      ∃ c w, p.live address = some c ∧
        call.run (hosts c.inst.mmcHandle) boot (p.world c) = some (r, w) ∧ p' = p.put address w := by
  unfold onInstance
  rw [Option.bind_eq_some_iff]
  constructor
  · rintro ⟨c, hc, hrun⟩
    obtain ⟨⟨r', w⟩, hcall, heq⟩ := Option.map_eq_some_iff.mp hrun
    obtain ⟨rfl, rfl⟩ : r' = r ∧ p.put address w = p' := by simpa using heq
    exact ⟨c, w, hc, hcall, rfl⟩
  · rintro ⟨c, w, hc, hrun, rfl⟩
    exact ⟨c, hc, Option.map_eq_some_iff.mpr ⟨(r, w), hrun, rfl⟩⟩

/-- `DestroySdhcInstance` that succeeds leaves nothing installed. -/
lemma destroySdhcInstance_ok {host : SdhcHost H} :
    Triple (fun _ : World H B => True) (InstanceCall.destroySdhcInstance.run host boot)
      fun r w => r.elim true EfiStatus.isError = false → w.inst.Unpublished := by
  refine Triple.map (Triple.orReturn uninstallAllProtocols_ok ?_ ?_)
  · intro status w herr _ hok
    rw [show status.isError = false from hok] at herr
    cases herr
  · refine Triple.bind (Q := fun _ w => w.inst.Unpublished) (Triple.step ?_) fun _ =>
      Triple.pure fun w hw _ => hw
    rintro w ⟨status, hok, hw⟩
    exact hw hok

namespace PoolInvariant

variable {P : Pool H B → Prop} (h : PoolInvariant hosts boot P)
include h

lemma onInstance (address : ℕ) (call : InstanceCall) :
    Preserves P (onInstance hosts boot address call) := by
  intro p hp r p' hrun
  obtain ⟨c, w, hc, hcall, rfl⟩ := onInstance_eq_some.mp hrun
  exact h.put p address c call r w hc hcall hp

lemma checkCards (addresses : List ℕ) : Preserves P (checkCards hosts boot addresses) := by
  induction addresses with
  | nil => exact Triple.pure fun p hp => hp
  | cons address rest ih => exact Triple.bind (h.onInstance address .checkCard) fun _ => ih

lemma removeAndDestroy (address : ℕ) : Preserves P (removeAndDestroy hosts boot address) := by
  unfold SdMmc.removeAndDestroy
  refine Triple.bind (Q := fun _ => P) (Triple.modify fun p hp => h.erase p address hp) fun _ => ?_
  intro p hp u p' hrun
  obtain ⟨r, q, hcall, hq⟩ := bind_eq_some.mp hrun
  obtain ⟨-, rfl⟩ : () = u ∧ (if r.elim true EfiStatus.isError then q else q.free address) = p' := by
    simpa using hq
  have hPq := h.onInstance address .destroySdhcInstance p hp r q hcall
  by_cases hr : r.elim true EfiStatus.isError = true
  · rwa [if_pos hr]
  · rw [if_neg hr]
    obtain ⟨c, w, -, hw, rfl⟩ := onInstance_eq_some.mp hcall
    refine h.free _ address w.toController ?_
      (destroySdhcInstance_ok _ trivial _ _ hw (by simpa using hr)) hPq
    exact Function.update_self ..

/-- An invariant of the pool holds in every reachable pool. -/
theorem reachable {p : Pool H B} (hp : (poolSystem hosts boot).Reachable p) : P p := by
  refine hp.invariant h.init fun p call p' hP hstep => ?_
  replace hstep : call.run hosts boot p = some ((), p') := hstep
  cases call with
  | start handle address =>
      simp only [PoolCall.run, sdMmcDriverStart] at hstep
      split at hstep
      case isFalse => cases hstep
      case isTrue hfree =>
        split at hstep
        · obtain rfl : p = p' := by simpa using hstep
          exact hP
        · exact h.checkCards _ _ (h.insert p address handle _ hfree hP) _ _ hstep
  | checkCardsCallback => exact h.checkCards p.listed p hP () p' hstep
  | onInstance address call =>
      obtain ⟨r, q, hcall, hq⟩ := bind_eq_some.mp hstep
      obtain rfl : q = p' := by simpa using hq
      exact h.onInstance address call p hP r q hcall
  | destroy address => exact h.removeAndDestroy address p hP () p' hstep
  | outside host b m =>
      simp only [PoolCall.run] at hstep
      split at hstep
      case isFalse => cases hstep
      case isTrue hdb =>
        obtain rfl := (Prod.mk.inj (Option.some.inj hstep)).2
        exact h.outside p host b m hdb hP

end PoolInvariant

/-- What a new instance has and every call on it keeps, every instance has. -/
theorem Pool.live_invariant {L : ℕ → Controller → Prop}
    (hcreate : ∀ address handle caps, L address ⟨address, createSdhcInstance handle caps, []⟩)
    (hcall : ∀ address host call,
      Preserves (fun w : World H B => L address w.toController)
        (InstanceCall.run host boot call)) :
    PoolInvariant hosts boot fun p => ∀ address c, p.live address = some c → L address c where
  init p hp address c hc := by
    rw [hp.1 address] at hc
    cases hc
  insert p address handle caps _ hP a c hc := by
    rcases eq_or_ne a address with rfl | hne
    · obtain rfl : _ = c := by simpa [Pool.insert] using hc
      exact hcreate a handle caps
    · exact hP a c (by simpa [Pool.insert, Function.update_of_ne hne] using hc)
  erase p _ hP := hP
  put p address c call r w hc hrun hP a c' hc' := by
    rcases eq_or_ne a address with rfl | hne
    · obtain rfl : w.toController = c' := by simpa [Pool.put] using hc'
      exact hcall a _ call (p.world c) (hP a c hc) r w hrun
    · exact hP a c' (by simpa [Pool.put, Function.update_of_ne hne] using hc')
  free p address c _ _ hP a c' hc' := by
    rcases eq_or_ne a address with rfl | hne
    · simp [Pool.free] at hc'
    · exact hP a c' (by simpa [Pool.free, Function.update_of_ne hne] using hc')
  outside p h b m _ hP := hP

/-! ## The recovery counter -/

/-- A call on an instance ends with the counter it started with. -/
lemma InstanceCall.preserves_attempts {host : SdhcHost H} (attempts : UInt32)
    (call : InstanceCall) :
    Preserves (Attempts (H := H) (B := B) attempts) (call.run host boot) := by
  have hclosed {f : (SdCommand → Prog (World H B) EfiStatus) → Prog (World H B) EfiStatus}
      (hf : DriverProg host boot f) : Preserves (Attempts attempts) (f (recovery host boot)) := by
    intro w hw status w' hrun
    obtain ⟨status', w'', hrun', hcount⟩ := hf.returns w
    obtain ⟨-, rfl⟩ : status' = status ∧ w'' = w' := by simpa [hrun'] using hrun
    exact hcount.trans hw
  refine call.preserves (fun w h hw => hw) (hclosed softReset_built) (fun r => ?_)
    (fun call => hclosed (rpmbIo_built call).driver) (hclosed uninstallAllProtocols_built)
  exact ioBlocks_call_preserves (fun cmd arg size buffer =>
    hclosed (sdhcSendDataCommand_request cmd arg size buffer).driver) r

/-- Error recovery is bounded and balanced.  From every state `SdhcSendCommand`,
`SdhcSendDataCommand` and `SoftReset` come back with the counter they started with, and no more
recoveries are nested than what is left of the threshold and one; and between the calls of the
driver nothing is used up. -/
theorem recovery_bounded_and_balanced (hosts : ℕ → SdhcHost H) (boot : BootServices B) :
    (∀ (host : SdhcHost H) (w : World H B),
      (∀ cmd arg, Balanced host boot (fun recover => sdhcSendCommand host recover cmd arg) w
        (recoveriesLeft w.inst.errorRecoveryAttemptCount)) ∧
      (∀ cmd arg size buffer,
        Balanced host boot (fun recover => sdhcSendDataCommand host recover cmd arg size buffer) w
          (recoveriesLeft w.inst.errorRecoveryAttemptCount)) ∧
      Balanced host boot (softReset host boot) w
        (recoveriesLeft w.inst.errorRecoveryAttemptCount)) ∧
    (∀ attempts : UInt32, attempts.toNat ≤ sdmmcErrorRecoveryAttemptThreshold →
      attempts.toNat + recoveriesLeft attempts = sdmmcErrorRecoveryAttemptThreshold + 1) ∧
    ∀ p, (poolSystem hosts boot).Reachable p → ∀ address c, p.live address = some c →
      c.inst.errorRecoveryAttemptCount = 0 := by
  refine ⟨fun host w => ⟨fun cmd arg => ?_, fun cmd arg size buffer => ?_, ?_⟩,
    fun attempts hle => ?_, fun p hp => ?_⟩
  · exact (sdhcSendCommand_request cmd arg).driver.balanced w
  · exact (sdhcSendDataCommand_request cmd arg size buffer).driver.balanced w
  · exact DriverProg.balanced softReset_built w
  · rw [recoveriesLeft_of_le hle]
    omega
  · exact (Pool.live_invariant (fun _ _ _ => rfl) fun _ _ call =>
      call.preserves_attempts 0).reachable hp

end Invariant

end SdMmc
end MuPlatform
