import MuPlatform.SdMmc.Capacity
import MuPlatform.SdMmc.RpmbSequence

/-!
# The noted partition

`CurrentMmcPartition` is what the driver notes of the partition an eMMC card is on.
`SdhcSwitchPartitionMmc` notes it behind a read-back of the `EXT_CSD`, and `SoftReset` where it
installs the RPMB protocol; the card changes it with every SWITCH for it that it accepts and with
every GO_IDLE_STATE.

`partitionLedger` follows both along a trace, and `tracked_of_reachable` says that the driver's note
is the one in the ledger.  `partitionKept_iff` compares it with the card.
-/

namespace MuPlatform
namespace SdMmc

open Prog

variable {H B : Type} {host : SdhcHost H} {boot : BootServices B}

/-! ## What the card accepted -/

/-- The card accepted a SWITCH of its partition. -/
def Event.SwitchesPartition : Event → Prop
  | .command cmd arg _ true => SetsPartition cmd arg
  | _ => False

/-- The card accepted a GO_IDLE_STATE. -/
def Event.ResetsCard : Event → Prop
  | .command cmd _ _ true => cmd = cmdGoIdleState
  | _ => False

/-- No SWITCH of the partition was accepted. -/
def Unswitched (t : List Event) : Prop := ∀ e ∈ t, ¬ e.SwitchesPartition

/-- The card was reset, and not switched since. -/
def EndsReset (t : List Event) : Prop :=
  ∃ before e after, t = before ++ e :: after ∧ e.ResetsCard ∧ Unswitched after

lemma Unswitched.append {t t' : List Event} (h : Unswitched t) (h' : Unswitched t') :
    Unswitched (t ++ t') := by
  intro e he
  rcases List.mem_append.mp he with he | he
  · exact h e he
  · exact h' e he

lemma unswitched_singleton {e : Event} (h : ¬ e.SwitchesPartition) : Unswitched [e] := by
  intro e' he'
  obtain rfl := List.mem_singleton.mp he'
  exact h

lemma EndsReset.append {t t' : List Event} (h : EndsReset t) (h' : Unswitched t') :
    EndsReset (t ++ t') := by
  obtain ⟨before, e, after, rfl, he, hafter⟩ := h
  exact ⟨before, e, after ++ t', by simp, he, hafter.append h'⟩

lemma EndsReset.behind {t' : List Event} (h : EndsReset t') (t : List Event) :
    EndsReset (t ++ t') := by
  obtain ⟨before, e, after, rfl, he, hafter⟩ := h
  exact ⟨t ++ before, e, after, by simp, he, hafter⟩

lemma endsReset_singleton {e : Event} (h : e.ResetsCard) : EndsReset [e] :=
  ⟨[], e, [], rfl, h, fun _ hmem => absurd hmem List.not_mem_nil⟩

/-- The partition the card is on. -/
def activePartition (v : UInt8) (t : List Event) : PartitionAccess := partitionAccess (cardConfig v t)

/-- Other events leave `PARTITION_CONFIG` alone. -/
lemma Event.configAfter_of_plain {e : Event} (hswitch : ¬ e.SwitchesPartition)
    (hreset : ¬ e.ResetsCard) (config : UInt8) : e.configAfter config = config := by
  cases e with
  | command cmd arg xfrInfo ok =>
      cases ok with
      | false => rfl
      | true => exact configAfter_of_not hreset hswitch config
  | _ => rfl

/-- What the card accepted without being switched has reset it or left it as it was. -/
lemma Unswitched.reset_or_same {t : List Event} (h : Unswitched t) (v : UInt8) :
    EndsReset t ∨ cardConfig v t = v := by
  induction t using List.reverseRecOn with
  | nil => exact .inr rfl
  | append_singleton t e ih =>
      have ht : Unswitched t := fun e' he' => h e' (List.mem_append_left _ he')
      have he : ¬ e.SwitchesPartition := h e (by simp)
      by_cases hreset : e.ResetsCard
      · exact .inl ((endsReset_singleton hreset).behind t)
      · refine (ih ht).imp (fun hends => hends.append (unswitched_singleton he)) fun hsame => ?_
        rw [cardConfig_append, hsame]
        exact Event.configAfter_of_plain he hreset v

lemma Event.ResetsCard.access {e : Event} (h : e.ResetsCard) (config : UInt8) :
    partitionAccess (e.configAfter config) = partitionUserArea := by
  match e, h with
  | .command cmd arg xfrInfo true, h =>
      obtain rfl : cmd = cmdGoIdleState := h
      exact partitionAccess_withPartitionAccess config partitionUserArea

/-- A card that is not switched stays on the user area. -/
lemma Unswitched.stays {t : List Event} (h : Unswitched t) {config : UInt8}
    (huser : partitionAccess config = partitionUserArea) :
    partitionAccess (cardConfig config t) = partitionUserArea := by
  induction t generalizing config with
  | nil => exact huser
  | cons e t ih =>
      have ht : Unswitched t := fun e' he' => h e' (List.mem_cons_of_mem _ he')
      refine @ih ht (e.configAfter config) ?_
      by_cases hreset : e.ResetsCard
      · exact hreset.access config
      · rwa [Event.configAfter_of_plain (h e List.mem_cons_self) hreset]

/-- A card that was reset is on the user area. -/
lemma EndsReset.access {t : List Event} (h : EndsReset t) (v : UInt8) :
    activePartition v t = partitionUserArea := by
  obtain ⟨before, e, after, rfl, he, hafter⟩ := h
  rw [activePartition, cardConfig_append]
  exact hafter.stays (he.access (cardConfig v before))

/-! ## What the driver notes -/

/-- What a trace says of the partition: `PARTITION_CONFIG` of the card, the partition that was noted
last, and whether a SWITCH is still to be read back. -/
structure PartitionLedger where
  config : UInt8
  noted : PartitionAccess
  awaiting : Bool

/-- The partition is noted with the event: an `EXT_CSD` read behind a SWITCH, or the RPMB protocol
installed. -/
def Event.notes (awaiting : Bool) : Event → Bool
  | .extCsd _ => awaiting
  | .install .rpmbIo ok => ok
  | _ => false

/-- A SWITCH of the partition is to be read back after the event: it was accepted, and since then
the status and the `EXT_CSD` were asked for only. -/
def Event.awaits (awaiting : Bool) : Event → Bool
  | .command cmd arg _ ok =>
      if cmd = cmdSendStatus ∨ cmd = cmdSendExtCsdMmc then awaiting
      else ok && decide (SetsPartition cmd arg)
  | .data .. => awaiting
  | _ => false

def PartitionLedger.after (l : PartitionLedger) (e : Event) : PartitionLedger where
  config := e.configAfter l.config
  noted := if e.notes l.awaiting then partitionAccess l.config else l.noted
  awaiting := e.awaits l.awaiting

/-- The ledger over a trace; a new instance has the user area noted. -/
def partitionLedger (v : UInt8) (t : List Event) : PartitionLedger :=
  t.foldl PartitionLedger.after ⟨v, partitionUserArea, false⟩

/-- Since the partition was noted last the card has not left it. -/
def PartitionNoted (v : UInt8) (t : List Event) : Prop :=
  (partitionLedger v t).noted = activePartition v t

lemma partitionLedger_append (v : UInt8) (t t' : List Event) :
    partitionLedger v (t ++ t') = t'.foldl PartitionLedger.after (partitionLedger v t) :=
  List.foldl_append ..

lemma partitionLedger_config (v : UInt8) (t : List Event) :
    (partitionLedger v t).config = cardConfig v t := by
  induction t using List.reverseRecOn with
  | nil => rfl
  | append_singleton t e ih =>
      rw [partitionLedger_append, cardConfig_append, ← ih]
      rfl

/-- Events that note nothing. -/
lemma noted_append {t' : List Event} (h : ∀ e ∈ t', ∀ awaiting, e.notes awaiting = false)
    (v : UInt8) (t : List Event) :
    (partitionLedger v (t ++ t')).noted = (partitionLedger v t).noted := by
  induction t' using List.reverseRecOn with
  | nil => rw [List.append_nil]
  | append_singleton t' e ih =>
      have hlast : (partitionLedger v (t ++ (t' ++ [e]))).noted =
          ((partitionLedger v (t ++ t')).after e).noted := by
        rw [← List.append_assoc, partitionLedger_append]
        rfl
      rw [hlast, PartitionLedger.after, h e (by simp)]
      exact ih fun e' he' => h e' (List.mem_append_left _ he')

lemma Event.awaits_false {e : Event} (h : ¬ e.SwitchesPartition) : e.awaits false = false := by
  cases e with
  | command cmd arg xfrInfo ok =>
      simp only [Event.awaits]
      split
      · rfl
      · cases ok with
        | false => rfl
        | true =>
            have hnot : ¬ SetsPartition cmd arg := h
            simp [hnot]
  | _ => rfl

/-- Where no SWITCH is to be read back, none is after events without one. -/
lemma awaiting_append {v : UInt8} {t t' : List Event} (h : Unswitched t')
    (hnot : (partitionLedger v t).awaiting = false) :
    (partitionLedger v (t ++ t')).awaiting = false := by
  induction t' using List.reverseRecOn with
  | nil => rwa [List.append_nil]
  | append_singleton t' e ih =>
      have hlast : (partitionLedger v (t ++ (t' ++ [e]))).awaiting =
          e.awaits (partitionLedger v (t ++ t')).awaiting := by
        rw [← List.append_assoc, partitionLedger_append]
        rfl
      rw [hlast, ih fun e' he' => h e' (List.mem_append_left _ he')]
      exact Event.awaits_false (h e (by simp))

/-! ## Between two worlds -/

/-- Between the worlds no SWITCH of the partition was accepted. -/
def World.UnswitchedTo (w w' : World H B) : Prop := ∃ t, w'.trace = w.trace ++ t ∧ Unswitched t

/-- Between the worlds the card was reset, and not switched since. -/
def World.ResetTo (w w' : World H B) : Prop := ∃ t, w'.trace = w.trace ++ t ∧ EndsReset t

/-- Between the worlds nothing changed the partition, and nothing was noted. -/
def World.PlainTo (w w' : World H B) : Prop :=
  ∃ t, w'.trace = w.trace ++ t ∧
    (∀ e ∈ t, ¬ e.SwitchesPartition ∧ ∀ awaiting, e.notes awaiting = false) ∧
    w'.inst.currentMmcPartition = w.inst.currentMmcPartition

lemma World.UnswitchedTo.refl (w : World H B) : w.UnswitchedTo w :=
  ⟨[], (List.append_nil _).symm, fun _ hmem => absurd hmem List.not_mem_nil⟩

lemma World.UnswitchedTo.trans {w w' w'' : World H B} (h : w.UnswitchedTo w')
    (h' : w'.UnswitchedTo w'') : w.UnswitchedTo w'' := by
  obtain ⟨t, ht, hun⟩ := h
  obtain ⟨t', ht', hun'⟩ := h'
  exact ⟨t ++ t', by rw [ht', ht, List.append_assoc], hun.append hun'⟩

lemma World.ResetTo.unswitched {w w' w'' : World H B} (h : w.ResetTo w')
    (h' : w'.UnswitchedTo w'') : w.ResetTo w'' := by
  obtain ⟨t, ht, hends⟩ := h
  obtain ⟨t', ht', hun⟩ := h'
  exact ⟨t ++ t', by rw [ht', ht, List.append_assoc], hends.append hun⟩

lemma World.ResetTo.access {w w' : World H B} (h : w.ResetTo w') (v : UInt8) :
    activePartition v w'.trace = partitionUserArea := by
  obtain ⟨t, ht, hends⟩ := h
  rw [ht]
  exact (hends.behind w.trace).access v

lemma World.PlainTo.unswitched {w w' : World H B} (h : w.PlainTo w') : w.UnswitchedTo w' := by
  obtain ⟨t, ht, hplain, -⟩ := h
  exact ⟨t, ht, fun e he => (hplain e he).1⟩

/-- An event that neither switches nor notes, or none. -/
lemma World.plainTo_event {w w' : World H B} {e : Event} (ht : w'.trace = w.trace ++ [e])
    (hswitch : ¬ e.SwitchesPartition) (hnotes : ∀ awaiting, e.notes awaiting = false)
    (hnote : w'.inst.currentMmcPartition = w.inst.currentMmcPartition) : w.PlainTo w' := by
  refine ⟨[e], ht, fun e' he' => ?_, hnote⟩
  obtain rfl := List.mem_singleton.mp he'
  exact ⟨hswitch, hnotes⟩

lemma World.plainTo_quiet {w w' : World H B} (ht : w'.trace = w.trace)
    (hnote : w'.inst.currentMmcPartition = w.inst.currentMmcPartition) : w.PlainTo w' :=
  ⟨[], by rw [ht, List.append_nil], fun _ hmem => absurd hmem List.not_mem_nil, hnote⟩

lemma helperEvents_plain {cmd : SdCommand} {arg : BitVec 32} (h : ¬ SetsPartition cmd arg)
    (xfrInfo : Option SdCommandXfrInfo) (w : World H B) (ok : Bool) :
    ∀ e ∈ helperEvents host cmd arg xfrInfo w ok,
      ¬ e.SwitchesPartition ∧ ∀ awaiting, e.notes awaiting = false := by
  have hcommand : ¬ (Event.command cmd arg xfrInfo ok).SwitchesPartition := by
    cases ok with
    | false => exact id
    | true => exact h
  intro e he
  unfold helperEvents at he
  split_ifs at he <;> simp only [List.mem_cons, List.not_mem_nil, or_false] at he
  · subst he
    exact ⟨id, fun _ => rfl⟩
  · rcases he with rfl | rfl
    · exact ⟨id, fun _ => rfl⟩
    · exact ⟨hcommand, fun _ => rfl⟩
  · subst he
    exact ⟨hcommand, fun _ => rfl⟩

lemma afterCommand_plain {cmd : SdCommand} {arg : BitVec 32} (h : ¬ SetsPartition cmd arg)
    (xfrInfo : Option SdCommandXfrInfo) (w : World H B) :
    w.PlainTo (afterCommand host cmd arg xfrInfo w).2 :=
  ⟨_, rfl, helperEvents_plain h xfrInfo w _, rfl⟩

lemma BusStep.plain {w w' : World H B} (h : BusStep host w w') : w.PlainTo w' := by
  cases h with
  | stay => exact World.plainTo_quiet rfl rfl
  | command cmd arg xfrInfo h => exact afterCommand_plain h xfrInfo w
  | hostCall => exact World.plainTo_quiet rfl rfl
  | lineReset => exact World.plainTo_event rfl id (fun _ => rfl) rfl
  | read _ size buffer =>
      exact World.plainTo_event rfl id (fun _ => rfl) (by cases buffer <;> rfl)
  | write => exact World.plainTo_event rfl id (fun _ => rfl) rfl

lemma TransferStep.plain {w w' : World H B} (h : TransferStep host w w') : w.PlainTo w' := by
  cases h with
  | bus h => exact h.plain
  | command cmd arg xfrInfo h => exact afterCommand_plain h xfrInfo w
  | nullCommand => exact World.plainTo_event rfl id (fun _ => rfl) rfl

lemma DeviceStep.unswitched {w w' : World H B} (h : DeviceStep host w w') :
    w.UnswitchedTo w' := by
  cases h with
  | bus h => exact h.plain.unswitched
  | card => exact .refl _
  | extCsd => exact ⟨_, rfl, unswitched_singleton id⟩

lemma afterInstall_note (p : Interface) (w : World H B) :
    (afterInstall boot p w).2.inst.currentMmcPartition = w.inst.currentMmcPartition := by
  unfold afterInstall
  simp only
  split
  · rfl
  · cases p <;> rfl

lemma afterUninstall_plain (p : Interface) (w : World H B) :
    w.PlainTo (afterUninstall boot p w).2 := by
  refine World.plainTo_event rfl id (fun _ => rfl) ?_
  unfold afterUninstall
  simp only
  split
  · rfl
  · cases p <;> rfl

lemma afterInstall_plain {p : Interface} (hp : p ≠ .rpmbIo) (w : World H B) :
    w.PlainTo (afterInstall boot p w).2 := by
  refine World.plainTo_event rfl id (fun _ => ?_) (afterInstall_note p w)
  cases p with
  | rpmbIo => exact absurd rfl hp
  | _ => rfl

/-! ## What a reset does -/

/-- A reset sends no SWITCH of the partition. -/
lemma unswitched_resetInvariant (w₀ : World H B) :
    ResetInvariant host boot w₀.UnswitchedTo fun _ => True where
  bus _ _ hstep hw := hw.trans hstep.plain.unswitched
  enterRecovery cmd _ hw := hw.trans ⟨_, rfl, unswitched_singleton id⟩
  leaveRecovery _ hw := hw.trans (.refl _)
  softReset _ hw := hw.trans ⟨_, rfl, unswitched_singleton id⟩
  uninstall p w _ hw := hw.trans (afterUninstall_plain p w).unswitched
  cleared _ _ hw := hw.trans (.refl _)
  mediaPresent _ _ _ _ hw := hw.trans (.refl _)
  readOnly _ _ hw := hw.trans (.refl _)
  identify n hrec :=
    (identifyDevice_built.preserves
      (fun w w' (hstep : DeviceStep host w w') hw => hw.trans hstep.unswitched) hrec).weaken
      fun _ _ hw => ⟨hw, fun _ => trivial⟩
  initialized _ _ hw := ⟨trivial, hw.trans (.refl _)⟩
  convert _ hw := hw.trans (.refl _)
  ready_convert _ _ := trivial
  installBlockIo w _ hw := hw.trans (afterInstall_plain (by decide) w).unswitched
  installDevicePath w hw := hw.trans (afterInstall_plain (by decide) w).unswitched
  ready_install _ _ _ := trivial
  installRpmb w _ _ _ _ hw := hw.trans ⟨[.install .rpmbIo _], rfl, unswitched_singleton id⟩

lemma sdhcRecoverFromErrors_unswitched (n : ℕ) (cmd : SdCommand) :
    Within World.UnswitchedTo (sdhcRecoverFromErrors host boot n cmd) := by
  intro w status w' hrun
  have hw : ResetInvariant host boot w.UnswitchedTo _ := unswitched_resetInvariant w
  exact sdhcRecoverFromErrors_preserves hw.bus hw.enterRecovery hw.leaveRecovery
    (fun _ hrec => hw.preserves_softReset hrec) n cmd w (.refl w) status w' hrun

/-- The note of the driver is the one in the ledger, for a card that reports what it has. -/
def Tracked (v : UInt8) (w : World H B) : Prop :=
  Truthful v w.trace → w.inst.currentMmcPartition = (partitionLedger v w.trace).noted

/-- From `w₀` on the driver has kept track of the partition; its note has changed only where the
card was reset. -/
structure KeepsTrack (v : UInt8) (w₀ w : World H B) : Prop where
  tracked : Tracked v w
  past : w₀.trace <+: w.trace
  note : w.inst.currentMmcPartition = w₀.inst.currentMmcPartition ∨ w₀.ResetTo w

lemma Tracked.plain {v : UInt8} {w w' : World H B} (h : Tracked v w) (hplain : w.PlainTo w') :
    Tracked v w' := by
  obtain ⟨t, ht, hevents, hnote⟩ := hplain
  intro htruthful
  rw [ht, truthful_append] at htruthful
  rw [hnote, ht, noted_append fun e he => (hevents e he).2]
  exact h htruthful.1

lemma KeepsTrack.plain {v : UInt8} {w₀ w w' : World H B} (h : KeepsTrack v w₀ w)
    (hplain : w.PlainTo w') : KeepsTrack v w₀ w' where
  tracked := h.tracked.plain hplain
  past := by
    obtain ⟨t, ht, -⟩ := hplain
    exact h.past.trans (ht ▸ List.prefix_append ..)
  note := by
    obtain ⟨-, -, -, hnote⟩ := id hplain
    rw [hnote]
    exact h.note.imp_right fun hreset => hreset.unswitched hplain.unswitched

section Identify

variable {v : UInt8} {w₀ : World H B} {recover : SdCommand → Prog (World H B) EfiStatus}

/-- The track is kept, and no SWITCH is to be read back. -/
def KeepsTrackReadBack (v : UInt8) (w₀ w : World H B) : Prop :=
  KeepsTrack v w₀ w ∧ (partitionLedger v w.trace).awaiting = false

lemma World.UnswitchedTo.awaiting {w w' : World H B} (h : w.UnswitchedTo w')
    (hnot : (partitionLedger v w.trace).awaiting = false) :
    (partitionLedger v w'.trace).awaiting = false := by
  obtain ⟨t, ht, hun⟩ := h
  rw [ht]
  exact awaiting_append hun hnot

/-- A read of the `EXT_CSD` that is not behind a SWITCH notes nothing. -/
lemma DeviceStep.keepsTrackReadBack {w w' : World H B} (hstep : DeviceStep host w w')
    (h : KeepsTrackReadBack v w₀ w) : KeepsTrackReadBack v w₀ w' := by
  obtain ⟨htrack, hnot⟩ := h
  refine ⟨?_, hstep.unswitched.awaiting hnot⟩
  have hunswitched := hstep.unswitched
  cases hstep with
  | bus hstep => exact htrack.plain hstep.plain
  | card inst hc => exact htrack.plain (World.plainTo_quiet rfl hc.currentMmcPartition)
  | extCsd =>
      refine ⟨fun htruthful => ?_, htrack.past.trans (List.prefix_append ..),
        htrack.note.imp_right fun hreset => hreset.unswitched hunswitched⟩
      have hsame := htrack.tracked (truthful_append.mp htruthful).1
      simp only [partitionLedger_append, List.foldl_cons, List.foldl_nil, PartitionLedger.after,
        Event.notes, hnot, Bool.false_eq_true, if_false]
      exact hsame

/-- What identifying a card keeps.  The first thing it does is to reset the lines, and a SWITCH is not
read back behind that. -/
lemma identifyDevice_keepsTrack (hrec : ∀ cmd, Preserves (KeepsTrack v w₀) (recover cmd))
    (hunswitched : ∀ cmd, Within World.UnswitchedTo (recover cmd)) :
    Preserves (KeepsTrack v w₀) (identifyDevice host recover) := by
  have hrest : DeviceProg (B := B) host fun recover => untilError [
      callHost (host.setClock sdIdentModeClockFreqHz), sdhcQueryCardType host recover,
      initializeCard host recover, sdhcSetBlockLength host recover (.ofNat 32 sdBlockLengthBytes)] :=
    .orReturn (callHost_steps _) (.orReturn sdhcQueryCardType_built
      (.orReturn initializeCard_built (.orReturn (plainCommand_steps (by decide) _) (.pure _))))
  have hkeeps : Preserves (KeepsTrackReadBack v w₀) (untilError [
      callHost (host.setClock sdIdentModeClockFreqHz), sdhcQueryCardType host recover,
      initializeCard host recover,
      sdhcSetBlockLength host recover (.ofNat 32 sdBlockLengthBytes)]) := by
    refine hrest.preserves (fun _ _ hstep => hstep.keepsTrackReadBack)
      fun cmd w hw status w' hrun => ?_
    exact ⟨hrec cmd w hw.1 status w' hrun, (hunswitched cmd w status w' hrun).awaiting hw.2⟩
  have hfirst : Triple (KeepsTrack v w₀) (do
      update HostInst.zeroCardInfo
      softwareReset host .all) fun _ w => KeepsTrackReadBack v w₀ w := by
    refine Triple.bind (Q := fun _ => KeepsTrack v w₀) (Triple.modify fun w hw =>
      hw.plain (World.plainTo_quiet rfl rfl)) fun _ => ?_
    refine Triple.bind (Q := fun _ => KeepsTrack v w₀) (Triple.step fun w hw =>
      hw.plain (World.plainTo_quiet rfl rfl)) fun status => ?_
    refine Triple.bind (Q := fun _ => KeepsTrackReadBack v w₀) (Triple.modify fun w hw => ⟨?_, ?_⟩)
      fun _ => Triple.pure fun _ hw => hw
    · exact hw.plain (World.plainTo_event rfl id (fun _ => rfl) rfl)
    · simp only [partitionLedger_append, List.foldl_cons, List.foldl_nil, PartitionLedger.after]
      rfl
  unfold identifyDevice
  refine Triple.orReturn hfirst (fun _ _ _ hw => hw.1) ((hkeeps.weaken fun _ _ hw => hw.1).strengthen
    ?_)
  rintro w ⟨status, -, hw⟩
  exact hw

/-- What an identification that gets to its end has established: the card was reset, and if it is an
MMC card its `EXT_CSD` says so. -/
structure Identified (v : UInt8) (w₀ w : World H B) : Prop where
  reset : w₀.ResetTo w
  mmc : w.inst.cardFunction = .mmc → Truthful v w.trace →
    partitionAccess w.inst.registers.partitionConfig = partitionUserArea

/-- What leaves the card and its registers alone keeps what was identified. -/
lemma Identified.unswitched {w w' : World H B} (h : Identified v w₀ w) (hun : w.UnswitchedTo w')
    (hfunction : w'.inst.cardFunction = w.inst.cardFunction)
    (hregisters : w'.inst.registers = w.inst.registers) : Identified v w₀ w' where
  reset := h.reset.unswitched hun
  mmc hmmc htruthful := by
    obtain ⟨t, ht, -⟩ := hun
    rw [hfunction] at hmmc
    rw [ht, truthful_append] at htruthful
    rw [hregisters]
    exact h.mmc hmmc htruthful.1

lemma BusStep.identified {w w' : World H B} (hstep : BusStep host w w')
    (h : Identified v w₀ w) : Identified v w₀ w' :=
  h.unswitched hstep.plain.unswitched hstep.sameGeometry.cardFunction hstep.sameGeometry.registers

/-- The command layer keeps a reset. -/
lemma DeviceProg.keepsReset {α : Type}
    {f : (SdCommand → Prog (World H B) EfiStatus) → Prog (World H B) α} (hf : DeviceProg host f)
    (hunswitched : ∀ cmd, Within World.UnswitchedTo (recover cmd)) :
    Preserves w₀.ResetTo (f recover) :=
  hf.preserves (fun _ _ hstep hw => hw.unswitched hstep.unswitched) fun cmd =>
    (hunswitched cmd).triple fun _ _ hun hw => hw.unswitched hun

/-- A GO_IDLE_STATE that succeeds resets the card. -/
lemma sdhcGoIdleState_resets : Triple (fun w : World H B => w₀.trace <+: w.trace)
    (sdhcGoIdleState host recover) fun status w => status.isError = false → w₀.ResetTo w := by
  unfold sdhcGoIdleState sdhcSendCommand
  rw [if_neg (by decide)]
  refine Triple.orReturn_success (sendOrRecover_success fun w hw hok => ?_)
    (Triple.pure fun w hw _ => hw)
  obtain ⟨t, ht⟩ := hw
  have htrace : (afterCommand host cmdGoIdleState 0 none w).2.trace = w.trace ++
    [.command cmdGoIdleState 0 none !(afterCommand host cmdGoIdleState 0 none w).1.isError] := rfl
  rw [hok] at htrace
  have hidle : (Event.command cmdGoIdleState 0 none true).ResetsCard := rfl
  refine ⟨t ++ [.command cmdGoIdleState 0 none true], ?_, (endsReset_singleton hidle).behind t⟩
  rw [htrace, ← ht, List.append_assoc]
  rfl

/-- An `EXT_CSD` that is read behind the reset says that the card is on the user area. -/
lemma sdhcSendExtCsdMmc_identified (hunswitched : ∀ cmd, Within World.UnswitchedTo (recover cmd)) :
    Triple w₀.ResetTo (sdhcSendExtCsdMmc host recover)
      fun status w => status.isError = false → Identified v w₀ w := by
  unfold sdhcSendExtCsdMmc
  refine Triple.bind (Q := fun _ => w₀.ResetTo) (Triple.read fun _ hw => hw) fun rca => ?_
  have hdata : BusProg (B := B) host fun recover => sdhcSendDataCommand host recover
      cmdSendExtCsdMmc (rca <<< 16) sdBlockLengthBytes .blockBuffer :=
    sdhcSendDataCommand_built_single (not_setsPartition (by decide) _) (by decide) _ _
  refine Triple.orReturn_success ((hdata.device.keepsReset hunswitched).weaken fun _ _ hw _ => hw) ?_
  refine Triple.bind (Q := fun _ => Identified v w₀) (Triple.modify fun w hw => ⟨?_, ?_⟩)
    fun _ => Triple.pure fun _ hw _ => hw
  · exact hw.unswitched ⟨_, rfl, unswitched_singleton id⟩
  · intro _ htruthful
    have hreported : w.inst.blockBuffer 179 = cardConfig v w.trace :=
      (truthful_append.mp htruthful).2.1
    exact (congrArg partitionAccess hreported).trans (hw.access v)

lemma initializeCard_identified (hunswitched : ∀ cmd, Within World.UnswitchedTo (recover cmd)) :
    Triple w₀.ResetTo (initializeCard host recover)
      fun status w => status.isError = false → Identified v w₀ w := by
  unfold initializeCard
  refine Triple.bind (Q := fun function w => HasFunction function w ∧ w₀.ResetTo w)
    (Triple.read fun w hw => ⟨rfl, hw⟩) fun function => ?_
  cases function with
  | sd =>
      have hreset : Preserves w₀.ResetTo (initializeSdDevice host recover) :=
        DeviceProg.keepsReset initializeSdDevice_built hunswitched
      refine ((initializeSdDevice_keepsFunction.strengthen fun _ hw => hw.1).and
        (hreset.strengthen fun _ hw => hw.2)).weaken fun status w hw hok => ⟨hw.2, fun hmmc => ?_⟩
      exact absurd ((hw.1 hok).symm.trans hmmc) (by decide)
  | mmc =>
      refine (initializeMmcDevice_success (P := w₀.ResetTo) (fun hf => ?_) (fun _ hw => hw.reset)
        (sdhcSendExtCsdMmc_identified hunswitched) fun _ _ hstep hw => hstep.identified hw).strengthen
        fun _ hw => hw.2
      exact (DeviceProg.keepsReset hf hunswitched).weaken fun _ _ hw _ => hw
  | _ => exact Triple.pure fun _ _ hok => by cases hok

lemma identifyDevice_identified (hunswitched : ∀ cmd, Within World.UnswitchedTo (recover cmd)) :
    Triple (fun w => w₀.trace <+: w.trace) (identifyDevice host recover)
      fun status w => status.isError = false → Identified v w₀ w := by
  have hfirst : Preserves (fun w : World H B => w₀.trace <+: w.trace) (do
      update HostInst.zeroCardInfo
      softwareReset host .all) := by
    refine Triple.bind (Q := fun _ w => w₀.trace <+: w.trace) (Triple.modify fun _ hw => hw)
      fun _ => Triple.bind (Q := fun _ w => w₀.trace <+: w.trace) (Triple.step fun _ hw => hw)
      fun _ => Triple.bind (Q := fun _ w => w₀.trace <+: w.trace) (Triple.modify fun _ hw => ?_)
      fun _ => Triple.pure fun _ hw => hw
    exact hw.trans (List.prefix_append ..)
  have hquery : Triple (fun w : World H B => w₀.trace <+: w.trace) (sdhcQueryCardType host recover)
      fun status w => status.isError = false → w₀.ResetTo w := by
    have hprobe : Preserves w₀.ResetTo (probeCardFunction host recover) :=
      DeviceProg.keepsReset probeCardFunction_built hunswitched
    exact Triple.orReturn_success sdhcGoIdleState_resets (hprobe.weaken fun _ _ hw _ => hw)
  have hlength : BusProg (B := B) host fun recover => untilError [
      sdhcSetBlockLength host recover (.ofNat 32 sdBlockLengthBytes)] :=
    .orReturn (plainCommand_steps (by decide) _) (.pure _)
  have hlast : SucceedsAlone fun recover => untilError [
      sdhcSetBlockLength (B := B) host recover (.ofNat 32 sdBlockLengthBytes)] :=
    .orReturn (sdhcSendCommand_alone _ _) (.const _ _)
  unfold identifyDevice
  exact Triple.orReturn_success (hfirst.weaken fun _ _ hw _ => hw) (Triple.orReturn_success
    (Triple.step fun _ hw _ => hw) (Triple.orReturn_success hquery (Triple.orReturn_success
    (initializeCard_identified hunswitched)
    (hlast.triple hlength (fun _ _ hstep hw => hstep.identified hw) recover))))

/-- The RPMB protocol is installed, and the partition noted, for a card that was reset. -/
lemma afterPublishRpmb_keepsTrack {w : World H B} (hready : Identified v w₀ w)
    (hmmc : w.inst.cardFunction = .mmc) (h : KeepsTrack v w₀ w) :
    KeepsTrack v w₀ (afterPublishRpmb boot w).2 := by
  set status := (boot.installProtocol (w.published .rpmbIo) w.boot).1 with hstatus
  have htrace : (afterPublishRpmb boot w).2.trace =
      w.trace ++ [.install .rpmbIo !status.isError] := rfl
  have hpast : w₀.trace <+: (afterPublishRpmb boot w).2.trace := by
    rw [htrace]
    exact h.past.trans (List.prefix_append ..)
  by_cases herr : status.isError = true
  · refine h.plain (World.plainTo_event htrace id (fun _ => by rw [herr]; rfl) ?_)
    show (if status.isError then _ else _ : HostInst).currentMmcPartition = _
    rw [if_pos herr]
    exact afterInstall_note .rpmbIo w
  · have hok : status.isError = false := eq_false_of_ne_true herr
    have hinst : (afterPublishRpmb boot w).2.inst =
        (w.inst.setInstalled true .rpmbIo).readPartition := by
      show (if status.isError then _ else HostInst.readPartition (if status.isError then _ else _)) = _
      rw [if_neg herr, if_neg herr]
    refine ⟨fun htruthful => ?_, hpast, .inr ?_⟩
    · rw [htrace, hok] at htruthful ⊢
      rw [hinst, partitionLedger_append]
      have huser := hready.mmc hmmc (truthful_append.mp htruthful).1
      have hcard := hready.reset.access v
      rw [activePartition, ← partitionLedger_config] at hcard
      exact huser.trans hcard.symm
    · exact hready.reset.unswitched ⟨_, htrace, unswitched_singleton id⟩

/-- A reset keeps the track. -/
lemma keepsTrack_resetInvariant (v : UInt8) (w₀ : World H B) :
    ResetInvariant host boot (KeepsTrack v w₀) (Identified v w₀) where
  bus _ _ hstep hw := hw.plain hstep.plain
  enterRecovery _ _ hw := hw.plain (World.plainTo_event rfl id (fun _ => rfl) rfl)
  leaveRecovery _ hw := hw.plain (World.plainTo_quiet rfl rfl)
  softReset _ hw := hw.plain (World.plainTo_event rfl id (fun _ => rfl) rfl)
  uninstall p w _ hw := hw.plain (afterUninstall_plain p w)
  cleared _ _ hw := hw.plain (World.plainTo_quiet rfl rfl)
  mediaPresent _ _ _ _ hw := hw.plain (World.plainTo_quiet rfl rfl)
  readOnly _ _ hw := hw.plain (World.plainTo_quiet rfl rfl)
  identify n hrec :=
    (identifyDevice_keepsTrack hrec (sdhcRecoverFromErrors_unswitched n)).and
      ((identifyDevice_identified (sdhcRecoverFromErrors_unswitched n)).strengthen fun _ hw => hw.past)
  initialized _ hready hw :=
    ⟨hready.unswitched (.refl _) rfl rfl, hw.plain (World.plainTo_quiet rfl rfl)⟩
  convert _ hw := hw.plain (World.plainTo_quiet rfl rfl)
  ready_convert _ hready := hready.unswitched (.refl _) rfl rfl
  installBlockIo w _ hw := hw.plain (afterInstall_plain (by decide) w)
  installDevicePath w hw := hw.plain (afterInstall_plain (by decide) w)
  ready_install p w hready := by
    refine hready.unswitched ⟨_, rfl, unswitched_singleton id⟩ ?_ ?_
    all_goals
      unfold afterInstall
      simp only
      split
      · rfl
      · cases p <;> rfl
  installRpmb w hready _ hmmc _ hw := afterPublishRpmb_keepsTrack hready hmmc hw

end Identify

/-! ## A switch of the partition -/

section Switch

variable {v : UInt8} {u : World H B}

/-- From `u` on the driver has kept track, and the card was not switched. -/
structure TracksUnswitched (v : UInt8) (u w : World H B) : Prop where
  track : KeepsTrack v u w
  unswitched : u.UnswitchedTo w

lemma Tracked.start {w : World H B} (h : Tracked v w) : KeepsTrack v w w :=
  ⟨h, List.prefix_rfl, .inl rfl⟩

lemma TracksUnswitched.plain {w w' : World H B} (h : TracksUnswitched v u w)
    (hplain : w.PlainTo w') : TracksUnswitched v u w' :=
  ⟨h.track.plain hplain, h.unswitched.trans hplain.unswitched⟩

lemma recovery_tracksUnswitched (cmd : SdCommand) :
    Preserves (TracksUnswitched v u) (recovery host boot cmd) := by
  intro w hw status w' hrun
  exact ⟨(keepsTrack_resetInvariant v u).preserves_recovery cmd w hw.track status w' hrun,
    hw.unswitched.trans (sdhcRecoverFromErrors_unswitched _ cmd w status w' hrun)⟩

/-- The card has this `PARTITION_CONFIG` from a SWITCH that is to be read back. -/
structure AwaitsReadBack (v value : UInt8) (w : World H B) : Prop where
  awaiting : (partitionLedger v w.trace).awaiting = true
  config : cardConfig v w.trace = value

/-- The status and the `EXT_CSD` can be asked for. -/
lemma AwaitsReadBack.command {value : UInt8} {w w' : World H B} (h : AwaitsReadBack v value w)
    {cmd : SdCommand} {arg : BitVec 32} {xfrInfo : Option SdCommandXfrInfo} {ok : Bool}
    (hcmd : cmd = cmdSendStatus ∨ cmd = cmdSendExtCsdMmc)
    (ht : w'.trace = w.trace ++ [.command cmd arg xfrInfo ok]) : AwaitsReadBack v value w' where
  awaiting := by
    rw [ht, partitionLedger_append]
    simp only [List.foldl_cons, List.foldl_nil, PartitionLedger.after, Event.awaits, if_pos hcmd]
    exact h.awaiting
  config := by
    have hplain : ¬ (Event.command cmd arg xfrInfo ok).SwitchesPartition ∧
        ¬ (Event.command cmd arg xfrInfo ok).ResetsCard := by
      cases ok with
      | false => exact ⟨id, id⟩
      | true => rcases hcmd with rfl | rfl <;>
          exact ⟨not_setsPartition (by decide) arg, (by decide : (_ : SdCommand) ≠ cmdGoIdleState)⟩
    rw [ht, cardConfig_append, h.config]
    exact Event.configAfter_of_plain hplain.1 hplain.2 value

lemma AwaitsReadBack.poll {value : UInt8} {w w' : World H B} (hstep : PollStep host w w')
    (h : AwaitsReadBack v value w) : AwaitsReadBack v value w' := by
  cases hstep with
  | stay => exact h
  | status arg => exact h.command (.inl rfl) rfl

lemma AwaitsReadBack.data {value : UInt8} {w w' : World H B} (h : AwaitsReadBack v value w)
    {direction : SdTransferDirection} {size : ℕ} {buffer : Buffer} {ok : Bool}
    (ht : w'.trace = w.trace ++ [.data direction size buffer ok]) : AwaitsReadBack v value w' where
  awaiting := by
    rw [ht, partitionLedger_append]
    exact h.awaiting
  config := by
    rw [ht, cardConfig_append]
    exact h.config

/-- The SWITCH command. -/
lemma switchCommand_tracks (value : UInt8) {w₁ : World H B} (h : Tracked v w₁)
    (hu : u = (afterCommand host cmdSwitchMmc (switchArg 179 value) none w₁).2) :
    Triple (fun w => w = w₁)
      (sdhcSendCommand host (recovery host boot) cmdSwitchMmc (switchArg 179 value))
      fun status w => TracksUnswitched v u w ∧
        (status.isError = false → AwaitsReadBack v value w) := by
  have hstart : TracksUnswitched v u u := by
    subst hu
    refine ⟨Tracked.start fun htruthful => ?_, .refl _⟩
    have hevents := truthful_append.mp htruthful
    rw [show (afterCommand host cmdSwitchMmc (switchArg 179 value) none w₁).2.trace =
      w₁.trace ++ [.command cmdSwitchMmc (switchArg 179 value) none _] from rfl,
      noted_append fun e he _ => ?_]
    · exact h hevents.1
    · obtain rfl := List.mem_singleton.mp he
      rfl
  refine Triple.and ?_ ?_
  · unfold sdhcSendCommand sendOrRecover
    refine Triple.orReturn (Q := fun _ => TracksUnswitched v u) ?_ (fun _ _ _ hw => hw) ?_
    · refine Triple.bind (Q := fun _ => TracksUnswitched v u) (Triple.step ?_) fun status => ?_
      · rintro w rfl
        exact hu ▸ hstart
      · split
        · exact Triple.bind (recovery_tracksUnswitched _) fun _ => Triple.pure fun _ hw => hw
        · exact Triple.pure fun _ hw => hw
    · refine Triple.strengthen (P := TracksUnswitched v u) ?_ fun w hw => hw.choose_spec.2
      exact Built.preserves (waitAfterSwitch_steps (R := BusStep host) cmdSwitchMmc)
        (fun _ _ hstep hw => hw.plain hstep.plain) recovery_tracksUnswitched
  · unfold sdhcSendCommand
    rw [if_pos (.inl rfl)]
    refine Triple.orReturn_success (sendOrRecover_success (Q := AwaitsReadBack v value) ?_)
      (Triple.orReturn_success (wait_success fun _ _ => AwaitsReadBack.poll)
        (Triple.pure fun _ hw _ => hw))
    rintro w rfl hok
    have hevent : (afterCommand host cmdSwitchMmc (switchArg 179 value) none w).2.trace =
        w.trace ++ [.command cmdSwitchMmc (switchArg 179 value) none
          !(afterCommand host cmdSwitchMmc (switchArg 179 value) none w).1.isError] := rfl
    rw [hok] at hevent
    refine ⟨?_, ?_⟩
    · have hother : ¬ (cmdSwitchMmc = cmdSendStatus ∨ cmdSwitchMmc = cmdSendExtCsdMmc) := by decide
      rw [hevent, partitionLedger_append]
      simp only [List.foldl_cons, List.foldl_nil, PartitionLedger.after, Event.awaits,
        if_neg hother]
      exact decide_eq_true (setsPartition_switchArg value)
    · rw [hevent, cardConfig_append]
      exact configAfter_switchArg value _

/-- The `EXT_CSD` was read behind the SWITCH: the ledger has the partition of the SWITCH noted, and the
register has its `PARTITION_CONFIG`. -/
structure ReadBack (v value : UInt8) (u w : World H B) : Prop where
  unswitched : u.UnswitchedTo w
  note : w.inst.currentMmcPartition = u.inst.currentMmcPartition ∨ u.ResetTo w
  reads : Truthful v w.trace → (partitionLedger v w.trace).noted = partitionAccess value ∧
    w.inst.registers.partitionConfig = value

/-- The read-back. -/
lemma sdhcSendExtCsdMmc_readBack (value : UInt8) :
    Triple (fun w => TracksUnswitched v u w ∧ AwaitsReadBack v value w)
      (sdhcSendExtCsdMmc host (recovery host boot)) fun status w =>
        (status.isError = true → TracksUnswitched v u w) ∧
          (status.isError = false → ReadBack v value u w) := by
  unfold sdhcSendExtCsdMmc
  refine Triple.bind (Q := fun _ w => TracksUnswitched v u w ∧ AwaitsReadBack v value w)
    (Triple.read fun _ hw => hw) fun rca => ?_
  refine Triple.orReturn (Q := fun status w => TracksUnswitched v u w ∧
    (status.isError = false → AwaitsReadBack v value w)) (Triple.and ?_ ?_)
    (fun status w herr hw => ⟨fun _ => hw.1, fun hok => ?_⟩) ?_
  · have hbus : BusProg (B := B) host fun recover => sdhcSendDataCommand host recover
        cmdSendExtCsdMmc (rca <<< 16) sdBlockLengthBytes .blockBuffer :=
      sdhcSendDataCommand_built_single (not_setsPartition (by decide) _) (by decide) _ _
    exact (hbus.preserves (fun _ _ hstep hw => hw.plain hstep.plain)
      recovery_tracksUnswitched).strengthen fun _ hw => hw.1
  · refine (sdhcSendDataCommand_success (P := AwaitsReadBack v value) (S := AwaitsReadBack v value)
      (T := AwaitsReadBack v value) (Q := AwaitsReadBack v value) (fun w hw _ => ?_) ?_ ?_
      fun _ _ => AwaitsReadBack.poll).strengthen fun _ hw => hw.2
    · exact hw.command (.inr rfl) rfl
    · exact Triple.step fun w hw _ => hw.data rfl
    · rw [stopOpenEnded_of_not_isMultiBlock (by decide)]
      exact Triple.pure fun _ hw _ => hw
  · rw [herr] at hok
    cases hok
  · refine Triple.bind (Q := fun _ => ReadBack v value u) (Triple.modify ?_)
      fun _ => Triple.pure fun _ hw => ⟨fun herr => (by cases herr), fun _ => hw⟩
    rintro w ⟨status, hok, htracks, hawaits⟩
    have hawaits := hawaits hok
    have hevent : w.UnswitchedTo { w with
        inst := w.inst.withExtCsd
        trace := w.trace ++ [.extCsd (w.inst.blockBuffer 179)] } :=
      ⟨_, rfl, unswitched_singleton id⟩
    refine ⟨htracks.unswitched.trans hevent, htracks.track.note.imp_right fun hreset =>
      hreset.unswitched hevent, fun htruthful => ⟨?_, ?_⟩⟩
    · rw [partitionLedger_append]
      simp only [List.foldl_cons, List.foldl_nil, PartitionLedger.after, Event.notes,
        hawaits.awaiting, if_true, partitionLedger_config, hawaits.config]
    · exact (truthful_append.mp htruthful).2.1.trans hawaits.config

/-- A switch of the partition keeps the track.  Where it fails, the note is as before, or the card was
reset. -/
lemma sdhcSwitchPartitionMmc_tracks (partition : PartitionAccess) {w₁ : World H B}
    (h : Tracked v w₁) (hu : u = (afterCommand host cmdSwitchMmc (switchArg 179
      (withPartitionAccess w₁.inst.registers.partitionConfig partition)) none w₁).2) :
    Triple (fun w => w = w₁) (sdhcSwitchPartitionMmc host (recovery host boot) partition)
      fun status w => Tracked v w ∧ u.UnswitchedTo w ∧ (status.isError = true →
        w.inst.currentMmcPartition = w₁.inst.currentMmcPartition ∨ u.ResetTo w) := by
  set value := withPartitionAccess w₁.inst.registers.partitionConfig partition with hvalue
  have hnote : u.inst.currentMmcPartition = w₁.inst.currentMmcPartition := by
    rw [hu]
    rfl
  unfold sdhcSwitchPartitionMmc switchAndVerifyPartition
  refine Triple.orReturn (Q := fun status w => (status.isError = true → TracksUnswitched v u w) ∧
    (status.isError = false → ReadBack v value u w)) ?_ (fun status w herr hw => ?_) ?_
  · refine Triple.bind (Q := fun config w => config = w₁.inst.registers.partitionConfig ∧ w = w₁)
      (Triple.read fun w hw => ⟨by rw [hw], hw⟩) fun config => ?_
    by_cases hconfig : config = w₁.inst.registers.partitionConfig
    swap
    · exact fun w hw => absurd hw.1 hconfig
    subst hconfig
    refine Triple.orReturn ((switchCommand_tracks value h hu).strengthen fun _ hw => hw.2)
      (fun status w herr hw => ⟨fun _ => hw.1, fun hok => ?_⟩) ?_
    · rw [herr] at hok
      cases hok
    refine Triple.orReturn ((sdhcSendExtCsdMmc_readBack value).strengthen ?_)
      (fun _ _ _ hw => hw) ?_
    · rintro w ⟨status, hok, htracks, hawaits⟩
      exact ⟨htracks, hawaits hok⟩
    refine Triple.orReturn (Q := fun status w => (status.isError = true → TracksUnswitched v u w) ∧
      (status.isError = false → ReadBack v value u w)) ?_ (fun _ _ _ hw => hw) ?_
    · refine Triple.bind (Q := fun config w => config = w.inst.registers.partitionConfig ∧
        ReadBack v value u w) (Triple.read ?_) fun config => ?_
      · rintro w ⟨status, hok, -, hread⟩
        exact ⟨rfl, hread hok⟩
      split
      · next hne =>
          -- a card that reports what it has does not get here
          refine Triple.pure fun w hw => ⟨fun _ => ⟨⟨fun htruthful => ?_, ?_, hw.2.note⟩,
            hw.2.unswitched⟩, fun hok => by cases hok⟩
          · have hreg := (hw.2.reads htruthful).2
            rw [hw.1, hreg, hvalue, partitionAccess_withPartitionAccess] at hne
            exact absurd rfl hne
          · obtain ⟨t, ht, -⟩ := hw.2.unswitched
            exact ht ▸ List.prefix_append ..
      · exact Triple.pure fun w hw => ⟨fun herr => (by cases herr), fun _ => hw.2⟩
    · refine Triple.pure fun w hw => ⟨fun herr => (by cases herr), fun _ => ?_⟩
      obtain ⟨status, hok, -, hread⟩ := hw
      exact hread hok
  · obtain ⟨htracks, -⟩ := hw
    have htracks := htracks herr
    refine ⟨htracks.track.tracked, htracks.unswitched, fun _ => ?_⟩
    rw [← hnote]
    exact htracks.track.note
  · refine Triple.bind (Q := fun _ w => Tracked v w ∧ u.UnswitchedTo w) (Triple.modify ?_)
      fun _ => Triple.pure fun w hw => ⟨hw.1, hw.2, fun herr => by cases herr⟩
    rintro w ⟨status, hok, -, hread⟩
    have hread := hread hok
    refine ⟨fun htruthful => ?_, hread.unswitched⟩
    show partition = _
    rw [(hread.reads htruthful).1, hvalue, partitionAccess_withPartitionAccess]

end Switch

/-! ## The calls -/

section Calls

variable {v : UInt8}

lemma recovery_tracked (cmd : SdCommand) :
    Preserves (Tracked (H := H) (B := B) v) (recovery host boot cmd) := fun w hw status w' hrun =>
  ((keepsTrack_resetInvariant v w).preserves_recovery cmd w hw.start status w' hrun).tracked

lemma softReset_tracked :
    Preserves (Tracked (H := H) (B := B) v) (softReset host boot (recovery host boot)) := by
  intro w hw status w' hrun
  have hinv : ResetInvariant host boot (KeepsTrack v w) (Identified v w) :=
    keepsTrack_resetInvariant v w
  exact (hinv.preserves_softReset hinv.preserves_recovery w hw.start status w' hrun).tracked

lemma uninstallAllProtocols_tracked (host : SdhcHost H) :
    Preserves (Tracked (H := H) (B := B) v) (uninstallAllProtocols boot) := by
  intro w hw status w' hrun
  have hinv : ResetInvariant host boot (KeepsTrack v w) (Identified v w) :=
    keepsTrack_resetInvariant v w
  exact (hinv.uninstallAllProtocols w hw.start status w' hrun).tracked

lemma TransferProg.tracked {α : Type}
    {f : (SdCommand → Prog (World H B) EfiStatus) → Prog (World H B) α} (hf : TransferProg host f) :
    Preserves (Tracked v) (f (recovery host boot)) :=
  hf.preserves (fun _ _ hstep hw => hw.plain hstep.plain) recovery_tracked

/-- What data commands keep that are no SWITCH, `IoBlocks` keeps. -/
lemma ioBlocks_keeps {P : World H B → Prop}
    (hdata : ∀ {cmd : SdCommand} {arg : BitVec 32}, ¬ SetsPartition cmd arg → ∀ size buffer,
      Preserves P (sdhcSendDataCommand host (recovery host boot) cmd arg size buffer))
    (r : IoRequest) : Preserves P ((InstanceCall.ioBlocks r).run host boot) := by
  refine Triple.step fun w hw => ?_
  rcases ioBlocks_cases (blockPath host boot w.inst.hostCapabilities) r w with
    heq | ⟨cmd, m, bound, c, hcheck, heq⟩
  · rwa [heq]
  · rw [heq]
    obtain ⟨-, -, -, blockCount, rfl⟩ := checkRequest_eq_ok hcheck
    have hne := ioBlocksCommand_ne_switch r.transferDirection blockCount
    refine transferChunks_preserves (fun arg size buffer s hs => ?_) m bound c none hw
    exact hdata (not_setsPartition hne _) size (.caller buffer) s hs _ _
      (blockPath_apply w.inst.hostCapabilities _ arg size buffer s)

lemma sdhcSwitchPartitionMmc_tracked (partition : PartitionAccess) :
    Preserves (Tracked (H := H) (B := B) v)
      (sdhcSwitchPartitionMmc host (recovery host boot) partition) := fun w hw status w' hrun =>
  (sdhcSwitchPartitionMmc_tracks partition hw rfl w rfl status w' hrun).1

lemma rpmbIo_tracked (call : RpmbCall) :
    Preserves (Tracked (H := H) (B := B) v) (rpmbIo host (recovery host boot) call) := by
  have hrequest (request response : RpmbDataBuffer) : Preserves (Tracked (H := H) (B := B) v)
      (rpmbRequest host (recovery host boot) request response) := by
    unfold rpmbRequest
    refine Triple.bind (Q := fun _ => Tracked v) (Triple.read fun _ hw => hw) fun current => ?_
    refine Preserves.orReturn (sdhcSwitchPartitionMmc_tracked partitionRpmb) ?_
    refine Triple.bind (Q := fun _ => Tracked v) (Triple.read fun _ hw => hw) fun type => ?_
    refine Triple.bind (rpmbDispatch_built type request response).tracked fun status => ?_
    refine Triple.bind (sdhcSwitchPartitionMmc_tracked current) fun switchStatus => ?_
    split
    · exact Triple.pure fun _ hw => hw
    · exact Triple.pure fun _ hw => hw
  unfold rpmbIo
  refine Triple.bind (Q := fun _ => Tracked v) (Triple.read fun _ hw => hw) fun valid => ?_
  split
  · exact hrequest _ _
  · exact Triple.pure fun _ hw => hw

/-- Every call on an instance keeps the track. -/
lemma InstanceCall.tracked (call : InstanceCall) :
    Preserves (Tracked (H := H) (B := B) v) (call.run host boot) := by
  refine call.preserves (fun w h hw => hw) softReset_tracked (ioBlocks_keeps fun h size buffer => ?_)
    rpmbIo_tracked (uninstallAllProtocols_tracked host)
  exact (sdhcSendDataCommand_built h size buffer).tracked

/-- In every instance the note of the driver is the one in the ledger. -/
lemma tracked_of_reachable {hosts : ℕ → SdhcHost H} {p : Pool H B}
    (h : (poolSystem hosts boot).Reachable p) {a : ℕ} {c : Controller} (hc : p.live a = some c)
    (v : UInt8) : Tracked v (p.world c) := by
  have hinv : PoolInvariant hosts boot fun p => ∀ a c, p.live a = some c → Truthful v c.trace →
      c.inst.currentMmcPartition = (partitionLedger v c.trace).noted :=
    Pool.live_invariant (fun _ _ _ _ => rfl) fun _ _ call => call.tracked
  exact hinv.reachable h a c hc

/-! ## What is kept -/

/-- The second SWITCH of a request to the RPMB protocol is sent, and not accepted. -/
def SwitchBackRefused (host : SdhcHost H) (boot : BootServices B) (call : RpmbCall)
    (w : World H B) : Prop :=
  ∃ status w₁ status' w₂,
    sdhcSwitchPartitionMmc host (recovery host boot) partitionRpmb w = some (status, w₁) ∧
    status.isError = false ∧
    rpmbDispatch host (recovery host boot)
      (RpmbRequestType.ofCode (w₁.rpmbMessageType call.request.packets)) call.request call.response
      w₁ = some (status', w₂) ∧
    (afterCommand host cmdSwitchMmc (switchArg 179 (withPartitionAccess
      w₂.inst.registers.partitionConfig w.inst.currentMmcPartition)) none w₂).1.isError = true

/-- The partition is not lost in a call: before it and behind it the driver has noted the one the card
is on; a request to the RPMB protocol that fails leaves the card on the partition it was on, unless
the switch back was refused; and no block command is sent to the RPMB partition. -/
structure PartitionKept (host : SdhcHost H) (boot : BootServices B) (v : UInt8)
    (call : InstanceCall) (w : World H B) (r : Option EfiStatus) (w' : World H B) : Prop where
  before : w.inst.currentMmcPartition = activePartition v w.trace
  behind : w'.inst.currentMmcPartition = activePartition v w'.trace
  restored : ∀ rpmbCall, call = .rpmbIo rpmbCall → r.elim true EfiStatus.isError = true →
    ¬ SwitchBackRefused host boot rpmbCall w → activePartition v w'.trace = activePartition v w.trace
  blocks : ∀ q, call = .ioBlocks q → ∀ a, (blockAttempts host boot q w).Reachable a →
    activePartition v a.state.trace ≠ partitionRpmb

/-- When it is kept.  Before the call and behind it the card has not left the partition since that was
noted; a card that is not on the user area is not reset in a failing request to the RPMB protocol;
and blocks are transferred only while the RPMB partition is not the one noted. -/
structure ChangesNoted (host : SdhcHost H) (boot : BootServices B) (v : UInt8)
    (call : InstanceCall) (w : World H B) (r : Option EfiStatus) (w' : World H B) : Prop where
  before : PartitionNoted v w.trace
  behind : PartitionNoted v w'.trace
  reset : ∀ rpmbCall, call = .rpmbIo rpmbCall → r.elim true EfiStatus.isError = true →
    ¬ SwitchBackRefused host boot rpmbCall w → w.ResetTo w' →
      activePartition v w.trace = partitionUserArea
  blocks : ∀ q, call = .ioBlocks q → q.Sends w.inst.media →
    w.inst.currentMmcPartition ≠ partitionRpmb

/-- What has become of the partition behind a request to the RPMB protocol: the driver has the same
noted, or the card was reset, or the switch back was refused, or the card is on the partition the
driver had noted. -/
lemma rpmbIo_outcome {call : RpmbCall} {w w' : World H B} {status : EfiStatus} (h : Tracked v w)
    (hrun : rpmbIo host (recovery host boot) call w = some (status, w')) :
    w'.inst.currentMmcPartition = w.inst.currentMmcPartition ∨ w.ResetTo w' ∨
      SwitchBackRefused host boot call w ∨
      activePartition v w'.trace = w.inst.currentMmcPartition := by
  unfold rpmbIo at hrun
  rw [bind_of_eq_some (read_apply _ w)] at hrun
  by_cases hvalid : call.Valid w
  swap
  · rw [if_neg (by simpa using hvalid)] at hrun
    obtain ⟨-, rfl⟩ : EfiStatus.invalidParameter = status ∧ w = w' := by simpa using hrun
    exact .inl rfl
  rw [if_pos (by simpa using hvalid)] at hrun
  unfold rpmbRequest inspect at hrun
  rw [bind_of_eq_some (read_apply _ w)] at hrun
  obtain ⟨status₁, w₁, hswitch, hrun⟩ := bind_eq_some.mp hrun
  obtain ⟨htracked₁, hun₁, hfailed⟩ :=
    sdhcSwitchPartitionMmc_tracks partitionRpmb h rfl w rfl status₁ w₁ hswitch
  by_cases herr : status₁.isError = true
  · rw [if_pos herr] at hrun
    obtain ⟨-, rfl⟩ : status₁ = status ∧ w₁ = w' := by simpa using hrun
    refine (hfailed herr).imp_right fun hreset => .inl ?_
    obtain ⟨t, ht, hends⟩ := hreset
    exact ⟨_ ++ t, by rw [ht, ← List.append_assoc]; rfl, hends.behind _⟩
  rw [if_neg herr, bind_of_eq_some (read_apply _ w₁)] at hrun
  obtain ⟨status₂, w₂, hdispatch, hrun⟩ := bind_eq_some.mp hrun
  obtain ⟨status₃, w₃, hback, hrun⟩ := bind_eq_some.mp hrun
  obtain rfl : w₃ = w' := by
    split at hrun
    · exact (Prod.mk.inj (Option.some.inj hrun)).2
    · exact (Prod.mk.inj (Option.some.inj hrun)).2
  have htracked₂ := (rpmbDispatch_built _ _ _).tracked w₁ htracked₁ status₂ w₂ hdispatch
  obtain ⟨-, hun₃, -⟩ := sdhcSwitchPartitionMmc_tracks w.inst.currentMmcPartition htracked₂ rfl w₂
    rfl status₃ w₃ hback
  right
  set value := withPartitionAccess w₂.inst.registers.partitionConfig w.inst.currentMmcPartition
    with hvalue
  by_cases hrefused : (afterCommand host cmdSwitchMmc (switchArg 179 value) none w₂).1.isError = true
  · exact .inr (.inl ⟨status₁, w₁, status₂, w₂, hswitch, eq_false_of_ne_true herr, hdispatch,
      hrefused⟩)
  obtain ⟨t, ht, hun⟩ := hun₃
  have hsent : (afterCommand host cmdSwitchMmc (switchArg 179 value) none w₂).2.trace =
      w₂.trace ++ [.command cmdSwitchMmc (switchArg 179 value) none
        !(afterCommand host cmdSwitchMmc (switchArg 179 value) none w₂).1.isError] := rfl
  rw [eq_false_of_ne_true hrefused] at hsent
  rw [hsent] at ht
  rcases hun.reset_or_same (cardConfig v (w₂.trace ++
    [.command cmdSwitchMmc (switchArg 179 value) none !false])) with hends | hsame
  · have hpast : w.trace <+: w₂.trace :=
      ((sdhcSwitchPartitionMmc_built _).driver.later hswitch).trace.trans
        ((rpmbDispatch_built _ _ _).request.driver.later hdispatch).trace
    obtain ⟨past, hpast⟩ := hpast
    refine .inl ⟨past ++ [.command cmdSwitchMmc (switchArg 179 value) none !false] ++ t, ?_,
      hends.behind _⟩
    rw [ht, ← hpast, List.append_assoc, List.append_assoc, List.append_assoc]
  · refine .inr (.inr ?_)
    rw [activePartition, ht, cardConfig_append, hsame, cardConfig_append]
    have hafter : cardConfig (cardConfig v w₂.trace)
        [.command cmdSwitchMmc (switchArg 179 value) none !false] = value :=
      configAfter_switchArg value _
    rw [hafter, hvalue, partitionAccess_withPartitionAccess]

/-- A card that was not switched is on the user area behind a reset, or where it was. -/
lemma World.UnswitchedTo.access {w w' : World H B} (h : w.UnswitchedTo w') (v : UInt8) :
    activePartition v w'.trace = partitionUserArea ∨
      activePartition v w'.trace = activePartition v w.trace := by
  obtain ⟨t, ht, hun⟩ := h
  rw [activePartition, ht, cardConfig_append]
  rcases hun.reset_or_same (cardConfig v w.trace) with hends | hsame
  · exact .inl (hends.access _)
  · rw [hsame]
    exact .inr rfl

/-- A request to the block protocol sends no SWITCH of the partition. -/
lemma blockAttempts_unswitched {q : IoRequest} {w : World H B} {a : ChunkAttempt (World H B)}
    (h : (blockAttempts host boot q w).Reachable a) : w.UnswitchedTo a.state := by
  refine h.invariant (P := fun a => w.UnswitchedTo a.state) ?_ ?_
  · rintro a ⟨-, rfl⟩
    exact .refl w
  · rintro a u a' hw hstep
    have hsend := @sdhcSendDataCommand_built H B host (q.command w.inst.media)
      (.ofNat 32 a.cursor.currentLba) (not_setsPartition (ioBlocksCommand_ne_switch _ _) _)
    have hstate : a'.state = (blockOutcome host boot q w a).2 := ChunkAttempt.next_state hstep
    rw [hstate]
    exact (hsend _ _).preserves (P := w.UnswitchedTo)
      (fun _ _ hstep hw => hw.trans hstep.plain.unswitched)
      (fun cmd => (sdhcRecoverFromErrors_unswitched _ cmd).triple fun _ _ hun hw => hw.trans hun)
      a.state hw _ _ (blockOutcome_apply a)

/-- Where the driver has the card's partition noted, blocks are transferred off the RPMB partition
exactly if that is not the one noted. -/
lemma blocks_iff {q : IoRequest} {w : World H B}
    (hsame : w.inst.currentMmcPartition = activePartition v w.trace) :
    (∀ a, (blockAttempts host boot q w).Reachable a →
        activePartition v a.state.trace ≠ partitionRpmb) ↔
      (q.Sends w.inst.media → w.inst.currentMmcPartition ≠ partitionRpmb) := by
  constructor
  · intro hall hsends
    rw [hsame]
    exact hall _ (blockAttempts_first hsends)
  · intro hnoted a ha
    rcases (blockAttempts_unswitched ha).access v with huser | hstays
    · rw [huser]
      decide
    · rw [hstays, ← hsame]
      exact hnoted (reachable_sends ha)

/-- Where the driver has the card's partition noted before a request to the RPMB protocol and behind
it, the card is where it was exactly if a reset has not taken it from another partition. -/
lemma restored_iff {call : RpmbCall} {w w' : World H B} {status : EfiStatus} (h : Tracked v w)
    (hrun : rpmbIo host (recovery host boot) call w = some (status, w'))
    (hsame : w.inst.currentMmcPartition = activePartition v w.trace)
    (hsame' : w'.inst.currentMmcPartition = activePartition v w'.trace)
    (hback : ¬ SwitchBackRefused host boot call w) :
    activePartition v w'.trace = activePartition v w.trace ↔
      (w.ResetTo w' → activePartition v w.trace = partitionUserArea) := by
  constructor
  · intro hrestored hreset
    rw [← hrestored]
    exact hreset.access v
  · intro huser
    rcases rpmbIo_outcome h hrun with hnote | hreset | hrefused | hswitched
    · rw [← hsame', ← hsame]
      exact hnote
    · rw [hreset.access v, huser hreset]
    · exact absurd hrefused hback
    · rw [hswitched, hsame]

/-- Time does not run backwards in a call. -/
lemma InstanceCall.later (call : InstanceCall) :
    Within World.Later (call.run (H := H) (B := B) host boot) := by
  intro w r w' hrun
  have hkeeps {α : Type} {f : (SdCommand → Prog (World H B) EfiStatus) → Prog (World H B) α}
      (hf : DriverProg host boot f) : Preserves w.Later (f (recovery host boot)) :=
    fun _ hw _ _ hrun => hw.trans (hf.later hrun)
  refine call.preserves (fun _ _ hw => hw.trans ⟨List.prefix_rfl, rfl, rfl, rfl⟩)
    (hkeeps softReset_built) (ioBlocks_call_preserves fun cmd arg size buffer => ?_)
    (fun call => hkeeps (rpmbIo_built call).driver) (hkeeps uninstallAllProtocols_built) w (.refl w)
    r w' hrun
  exact hkeeps (sdhcSendDataCommand_request cmd arg size buffer).driver

/-- A call on an instance of the driver keeps the partition exactly if every change of it is noted. -/
theorem partitionKept_iff {hosts : ℕ → SdhcHost H} {p : Pool H B}
    (h : (poolSystem hosts boot).Reachable p) {a : ℕ} {c : Controller} (hc : p.live a = some c)
    {call : InstanceCall} {r : Option EfiStatus} {w' : World H B}
    (hrun : call.run (hosts c.inst.mmcHandle) boot (p.world c) = some (r, w'))
    (htruthful : Truthful v w'.trace) :
    PartitionKept (hosts c.inst.mmcHandle) boot v call (p.world c) r w' ↔
      ChangesNoted (hosts c.inst.mmcHandle) boot v call (p.world c) r w' := by
  have hpast : Truthful v (p.world c).trace := by
    obtain ⟨t, ht⟩ := (call.later _ _ _ hrun).trace
    rw [← ht, truthful_append] at htruthful
    exact htruthful.1
  have htracked : Tracked v (p.world c) := tracked_of_reachable h hc v
  have hnote := htracked hpast
  have hnote' := call.tracked _ htracked _ _ hrun htruthful
  have hrestored : (p.world c).inst.currentMmcPartition = activePartition v (p.world c).trace →
      w'.inst.currentMmcPartition = activePartition v w'.trace → ∀ rpmbCall,
      call = .rpmbIo rpmbCall → ¬ SwitchBackRefused (hosts c.inst.mmcHandle) boot rpmbCall (p.world c) →
      (activePartition v w'.trace = activePartition v (p.world c).trace ↔
        ((p.world c).ResetTo w' → activePartition v (p.world c).trace = partitionUserArea)) := by
    rintro hsame hsame' rpmbCall rfl hback
    obtain ⟨status, hrpmb, -⟩ := map_eq_some.mp hrun
    exact restored_iff htracked hrpmb hsame hsame' hback
  constructor
  · intro hkept
    refine ⟨hnote.symm.trans hkept.before, hnote'.symm.trans hkept.behind,
      fun rpmbCall hcall herr hback => ?_, fun q hq => ?_⟩
    · exact (hrestored hkept.before hkept.behind rpmbCall hcall hback).mp
        (hkept.restored rpmbCall hcall herr hback)
    · exact (blocks_iff hkept.before).mp (hkept.blocks q hq)
  · intro hnoted
    have hbefore := hnote.trans hnoted.before
    have hbehind := hnote'.trans hnoted.behind
    refine ⟨hbefore, hbehind, fun rpmbCall hcall herr hback => ?_, fun q hq => ?_⟩
    · exact (hrestored hbefore hbehind rpmbCall hcall hback).mpr
        (hnoted.reset rpmbCall hcall herr hback)
    · exact (blocks_iff hbefore).mpr (hnoted.blocks q hq)

end Calls

/-! ## A switch that is not undone -/

attribute [local irreducible] Truthful

/-- A client asks for the counter through the protocol. -/
def askCounter (o : Script) :
    Prog (World ScriptedCard (ℕ × List Published)) (Option EfiStatus) :=
  (InstanceCall.rpmbIo counterCall).run (scriptedHost o) (scriptedBoot o)

lemma askCounter_eq_some {o : Script} {w : World ScriptedCard (ℕ × List Published)}
    (h : (askCounter o w).isSome = true) :
    (InstanceCall.rpmbIo counterCall).run (scriptedHost o) (scriptedBoot o) w =
      some (((askCounter o w).get h).1, ((askCounter o w).get h).2) :=
  eq_some_get h

lemma quietWorld_answers : (askCounter (.quiet true) quietWorld).isSome = true := by
  decide +kernel

lemma quietWorld_reports :
    Truthful 0 ((askCounter (.quiet true) quietWorld).get quietWorld_answers).2.trace := by
  decide +kernel

theorem partitionKept_iff_quietWorld :
    PartitionKept (scriptedHost (.quiet true)) (scriptedBoot (.quiet true)) 0
        (.rpmbIo counterCall) quietWorld
        ((askCounter (.quiet true) quietWorld).get quietWorld_answers).1
        ((askCounter (.quiet true) quietWorld).get quietWorld_answers).2 ↔
      ChangesNoted (scriptedHost (.quiet true)) (scriptedBoot (.quiet true)) 0
        (.rpmbIo counterCall) quietWorld
        ((askCounter (.quiet true) quietWorld).get quietWorld_answers).1
        ((askCounter (.quiet true) quietWorld).get quietWorld_answers).2 :=
  @partitionKept_iff ScriptedCard (ℕ × List Published) (scriptedBoot (.quiet true)) 0
    (fun _ => scriptedHost (.quiet true)) _ (scriptedRun_reachable counterRun) 1 _
    (Option.some_get counterRun_live).symm (.rpmbIo counterCall) _ _
    (askCounter_eq_some quietWorld_answers)
    quietWorld_reports

lemma unansweredRun : (scriptedRun unreadCard counterCalls).isSome = true := by decide +kernel

lemma unansweredRun_live :
    (((scriptedRun unreadCard counterCalls).get unansweredRun).live 1).isSome = true := by
  decide +kernel

/-- The card before the request whose read-back is lost. -/
def unansweredWorld : World ScriptedCard (ℕ × List Published) := counterWorld _ unansweredRun_live

lemma unansweredWorld_answers : (askCounter unreadCard unansweredWorld).isSome = true := by
  decide +kernel

/-- The card behind that request. -/
def unansweredAfter : World ScriptedCard (ℕ × List Published) :=
  ((askCounter unreadCard unansweredWorld).get unansweredWorld_answers).2

/-- The user area is noted, and the RPMB partition is the active one. -/
lemma unansweredAfter_facts : Truthful 0 unansweredAfter.trace ∧
    unansweredAfter.inst.currentMmcPartition = partitionUserArea ∧
    activePartition 0 unansweredAfter.trace = partitionRpmb := by
  decide +kernel

/-- The card is left on the RPMB partition, and the driver has the user area noted. -/
theorem not_partitionKept_unreadCard :
    ¬ ∀ p, (scriptedSystem unreadCard).Reachable p → ∀ a c, p.live a = some c →
      ∀ (call : InstanceCall) r w',
        call.run (scriptedHost unreadCard) (scriptedBoot unreadCard) (p.world c) = some (r, w') →
        Truthful 0 w'.trace →
        PartitionKept (scriptedHost unreadCard) (scriptedBoot unreadCard) 0 call (p.world c) r
          w' := by
  intro hall
  obtain ⟨htruthful, hnote, hactive⟩ := unansweredAfter_facts
  have hkept := hall _ (scriptedRun_reachable unansweredRun) 1 _
    (Option.some_get unansweredRun_live).symm (.rpmbIo counterCall) _ unansweredAfter
    (askCounter_eq_some unansweredWorld_answers) htruthful
  have hsame := hkept.behind
  rw [hnote, hactive] at hsame
  exact absurd hsame (by decide)

end SdMmc
end MuPlatform
