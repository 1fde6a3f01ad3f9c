import MuPlatform.SdMmc.ScriptedCard

/-!
# When an open-ended transfer is stopped

`SdhcSendDataCommand` stops a multi-block transfer with STOP_TRANSMISSION unless it finds
SET_BLOCK_COUNT in `PreLastSuccessfulCmd`.  The two descriptors of the instance are the history of
the commands that *succeeded* (`History`), so the decision is about the last command that
succeeded, which need not be the last one on the bus.

`StopInvariant` says of a trace that each transfer in it was decided so, and `TransfersDecided`
adds that no transfer comes before the first command that succeeded, which keeps `NULL` descriptors
away from the comparison.  Every call of the driver keeps it, through all recoveries;
`stopsWhenNeeded_iff` compares it with the rule for the bus.
-/

namespace MuPlatform
namespace SdMmc

open Prog

variable {H B : Type} {hosts : ℕ → SdhcHost H} {host : SdhcHost H} {boot : BootServices B}

/-! ## Commands on the bus -/

/-- The command of an event, with its outcome. -/
def Event.busCommand : Event → Option (SdCommand × Bool)
  | .command cmd _ _ ok => some (cmd, ok)
  | .appCommand _ ok => some (cmdAppSd, ok)
  | _ => none

/-- The commands put on the bus. -/
def busCommands (t : List Event) : List (SdCommand × Bool) := t.filterMap Event.busCommand

/-- The command `SdhcSendCommandHelper` completed. -/
def Event.completed : Event → Option SdCommand
  | .command cmd _ _ true => some cmd
  | _ => none

/-- The commands that `SdhcSendCommandHelper` completed. -/
def completedCommands (t : List Event) : List SdCommand := t.filterMap Event.completed

/-- A command that was completed right at the end of the bus was completed last. -/
lemma completedCommands_getLast {t : List Event} {cmd : SdCommand} (hcmd : cmd ≠ cmdAppSd)
    (h : (busCommands t).getLast? = some (cmd, true)) :
    (completedCommands t).getLast? = some cmd := by
  induction t using List.reverseRecOn with
  | nil => cases h
  | append_singleton t e ih =>
      unfold busCommands completedCommands at *
      rw [List.filterMap_append] at h ⊢
      cases e with
      | command cmd' arg xfrInfo ok =>
          have heq : (cmd', ok) = (cmd, true) := by simpa [Event.busCommand] using h
          obtain ⟨rfl, rfl⟩ := Prod.mk.inj heq
          simp [Event.completed]
      | appCommand arg ok =>
          have heq : (cmdAppSd, ok) = (cmd, true) := by simpa [Event.busCommand] using h
          exact absurd (Prod.mk.inj heq).1.symm hcmd
      | _ =>
          rw [List.filterMap_cons_none rfl, List.filterMap_nil, List.append_nil] at h ⊢
          exact ih h

/-! ## Transfers -/

/-- A transfer of several blocks whose data phase succeeded, between two parts of a trace. -/
def IsTransfer (t pre post : List Event) : Prop :=
  ∃ cmd arg xfrInfo direction size buffer, cmd.IsMultiBlock ∧
    t = pre ++ .command cmd arg (some xfrInfo) true :: .data direction size buffer true :: post

/-- STOP_TRANSMISSION is the next command on the bus. -/
def StopFollows (post : List Event) : Prop :=
  (busCommands post).head?.map Prod.fst = some cmdStopTransmission

instance (post : List Event) : Decidable (StopFollows post) :=
  inferInstanceAs (Decidable (_ = _))

/-- Every transfer is stopped unless the command before it on the bus was a SET_BLOCK_COUNT that
succeeded. -/
def WellStopped (t : List Event) : Prop :=
  ∀ pre post, IsTransfer t pre post →
    (StopFollows post ↔ (busCommands pre).getLast? ≠ some (cmdSetBlockCount, true))

/-- Every transfer is stopped unless the command completed before it was SET_BLOCK_COUNT. -/
def StopDecided (t : List Event) : Prop :=
  ∀ pre post, IsTransfer t pre post → busCommands post ≠ [] ∧
    (StopFollows post ↔ (completedCommands pre).getLast? ≠ some cmdSetBlockCount)

/-- No transfer of several blocks has been asked for without its data phase. -/
def NotPending (t : List Event) : Prop :=
  ∀ cmd arg xfrInfo, SdCommand.IsMultiBlock cmd →
    t.getLast? ≠ some (.command cmd arg (some xfrInfo) true)

/-- The last event of a trace is the data phase of a transfer, or comes behind all transfers. -/
lemma isTransfer_concat {t pre post : List Event} {e : Event} (h : IsTransfer (t ++ [e]) pre post) :
    (post = [] ∧ (∃ cmd arg xfrInfo, SdCommand.IsMultiBlock cmd ∧
        t = pre ++ [.command cmd arg (some xfrInfo) true]) ∧
        ∃ direction size buffer, e = .data direction size buffer true) ∨
      ∃ post', post = post' ++ [e] ∧ IsTransfer t pre post' := by
  obtain ⟨cmd, arg, x, d, size, buffer, hcmd, ht⟩ := h
  rcases List.eq_nil_or_concat post with rfl | ⟨post', e', rfl⟩
  · left
    have ht' : t ++ [e] =
        (pre ++ [.command cmd arg (some x) true]) ++ [.data d size buffer true] := by
      simpa using ht
    obtain ⟨hpre, he⟩ := List.append_inj' ht' rfl
    exact ⟨rfl, ⟨cmd, arg, x, hcmd, hpre⟩, d, size, buffer, List.singleton_inj.mp he⟩
  · right
    have ht' : t ++ [e] =
        (pre ++ .command cmd arg (some x) true :: .data d size buffer true :: post') ++ [e'] := by
      simpa using ht
    obtain ⟨hpre, he⟩ := List.append_inj' ht' rfl
    obtain rfl := List.singleton_inj.mp he
    exact ⟨post', by simp, cmd, arg, x, d, size, buffer, hcmd, hpre⟩

/-- What is decided stays decided, and an event decides nothing new unless it is the data phase of
a transfer of several blocks. -/
lemma StopDecided.concat {t : List Event} (h : StopDecided t) {e : Event}
    (he : NotPending t ∨ ∀ direction size buffer, e ≠ .data direction size buffer true) :
    StopDecided (t ++ [e]) := by
  intro pre post hsplit
  rcases isTransfer_concat hsplit with
    ⟨-, ⟨cmd, arg, x, hcmd, rfl⟩, d, size, buffer, rfl⟩ | ⟨post', rfl, hsplit'⟩
  · rcases he with he | he
    · exact absurd (List.getLast?_concat ..) (he cmd arg x hcmd)
    · exact absurd rfl (he d size buffer)
  · obtain ⟨hne, hiff⟩ := h pre post' hsplit'
    have hcommands : busCommands (post' ++ [e]) = busCommands post' ++ busCommands [e] :=
      List.filterMap_append
    unfold StopFollows at hiff ⊢
    rw [hcommands]
    obtain ⟨c, cs, hcs⟩ := List.exists_cons_of_ne_nil hne
    rw [hcs] at hiff ⊢
    exact ⟨List.cons_ne_nil _ _, hiff⟩

lemma notPending_concat {t : List Event} {e : Event}
    (he : ∀ cmd arg xfrInfo, SdCommand.IsMultiBlock cmd →
      e ≠ .command cmd arg (some xfrInfo) true) : NotPending (t ++ [e]) := by
  intro cmd arg x hcmd hlast
  rw [List.getLast?_append, List.getLast?_singleton, Option.some_or] at hlast
  exact he cmd arg x hcmd (Option.some.inj hlast)

/-! ## The history -/

/-- The two descriptors of the instance are the last two commands that were completed. -/
structure History (w : World H B) : Prop where
  last : w.inst.lastSuccessfulCmd = (completedCommands w.trace).getLast?
  preLast : w.inst.preLastSuccessfulCmd = (completedCommands w.trace).dropLast.getLast?

lemma sdhcSendCommandHelper_history (cmd : SdCommand) (arg : BitVec 32)
    (xfrInfo : Option SdCommandXfrInfo) (inst : SdhcInstance) (h : H) :
    (sdhcSendCommandHelper host.toSdhcProtocol cmd arg xfrInfo inst h).2.1.SameLastCmds inst ∧
        (sdhcSendCommandHelper host.toSdhcProtocol cmd arg xfrInfo inst h).1.isError = true ∨
      (sdhcSendCommandHelper host.toSdhcProtocol cmd arg xfrInfo inst h).1.isError = false ∧
        (sdhcSendCommandHelper host.toSdhcProtocol cmd arg xfrInfo inst h).2.1.lastSuccessfulCmd =
          some cmd ∧
        (sdhcSendCommandHelper host.toSdhcProtocol cmd arg xfrInfo inst h).2.1.preLastSuccessfulCmd =
          inst.lastSuccessfulCmd := by
  unfold sdhcSendCommandHelper
  simp only
  split_ifs with herr hcard
  · exact .inl ⟨⟨rfl, rfl⟩, herr⟩
  · exact .inl ⟨⟨rfl, rfl⟩, rfl⟩
  · exact .inr ⟨rfl, rfl, rfl⟩

/-- A failed CMD55 fails the command. -/
lemma sdhcSendCommandHelper_app {cmd : SdCommand} {arg : BitVec 32}
    {xfrInfo : Option SdCommandXfrInfo} {inst : SdhcInstance} {h : H} (happ : cmd.cmdClass = .app)
    (herr : (host.sendCommand cmdAppSd (inst.rca <<< 16) none h).1.isError = true) :
    (sdhcSendCommandHelper host.toSdhcProtocol cmd arg xfrInfo inst h).1.isError = true := by
  refine (sdhcSendCommandHelper_of_exchange_error ?_).1
  simp [hostExchange, happ, herr]

lemma completedCommands_helperEvents {cmd : SdCommand} {arg : BitVec 32}
    {xfrInfo : Option SdCommandXfrInfo} {w : World H B} {ok : Bool}
    (happ : cmd.cmdClass = .app →
      (host.sendCommand cmdAppSd (w.inst.rca <<< 16) none w.host).1.isError = true → ok = false) :
    completedCommands (helperEvents host cmd arg xfrInfo w ok) = if ok then [cmd] else [] := by
  unfold helperEvents
  cases ok with
  | false =>
      rw [if_neg Bool.false_ne_true]
      split_ifs <;> rfl
  | true =>
      rw [if_pos rfl]
      split_ifs with hc he
      · exact absurd (happ hc he) (by decide)
      · rfl
      · rfl

/-- A command is added to the completed ones if it was completed. -/
lemma completedCommands_afterCommand (cmd : SdCommand) (arg : BitVec 32)
    (xfrInfo : Option SdCommandXfrInfo) (w : World H B) :
    completedCommands (afterCommand host cmd arg xfrInfo w).2.trace = completedCommands w.trace ++
      if !(afterCommand host cmd arg xfrInfo w).1.isError then [cmd] else [] := by
  rw [← @completedCommands_helperEvents H B host cmd arg xfrInfo w]
  · exact List.filterMap_append
  · intro hc he
    rw [show (afterCommand host cmd arg xfrInfo w).1.isError = true from
      sdhcSendCommandHelper_app hc he]
    rfl

lemma History.command {w : World H B} (h : History w) (cmd : SdCommand) (arg : BitVec 32)
    (xfrInfo : Option SdCommandXfrInfo) : History (afterCommand host cmd arg xfrInfo w).2 := by
  have hcompleted := @completedCommands_afterCommand H B host cmd arg xfrInfo w
  rcases @sdhcSendCommandHelper_history H host cmd arg xfrInfo w.inst.toSdhcInstance w.host with
    ⟨hsame, herr⟩ | ⟨hok, hlast, hpre⟩
  · rw [show (afterCommand host cmd arg xfrInfo w).1.isError = true from herr, Bool.not_true,
      if_neg Bool.false_ne_true, List.append_nil] at hcompleted
    refine ⟨?_, ?_⟩
    · rw [hcompleted, ← h.last]
      exact hsame.1
    · rw [hcompleted, ← h.preLast]
      exact hsame.2
  · rw [show (afterCommand host cmd arg xfrInfo w).1.isError = false from hok, Bool.not_false,
      if_pos rfl] at hcompleted
    refine ⟨?_, ?_⟩
    · rw [hcompleted, List.getLast?_concat]
      exact hlast
    · rw [hcompleted, List.dropLast_concat, ← h.last]
      exact hpre

/-! ## The invariant -/

/-- Every transfer was decided by the history, none is under way, and no `NULL` descriptor was
compared. -/
structure TraceInvariant (t : List Event) : Prop where
  decided : StopDecided t
  notPending : NotPending t
  notNull : .nullCommand ∉ t

/-- The invariant of the decision: that, and the history is that of the instance. -/
structure StopInvariant (w : World H B) : Prop extends TraceInvariant w.trace where
  history : History w

/-- Some command was completed. -/
def Started (w : World H B) : Prop := completedCommands w.trace ≠ []

lemma started_mono {w w' : World H B} (h : Started w) (ht : w.trace <+: w'.trace) : Started w' := by
  obtain ⟨es, hes⟩ := ht
  rw [Started, ← hes, completedCommands, List.filterMap_append]
  exact fun hnil => h (List.append_eq_nil_iff.mp hnil).1

lemma TraceInvariant.concat {t : List Event} (h : TraceInvariant t) {e : Event}
    (hpending : ∀ cmd arg xfrInfo, SdCommand.IsMultiBlock cmd →
      e ≠ .command cmd arg (some xfrInfo) true) (hnull : e ≠ .nullCommand) :
    TraceInvariant (t ++ [e]) where
  decided := h.decided.concat (.inl h.notPending)
  notPending := notPending_concat hpending
  notNull := by simp [h.notNull, hnull.symm]

lemma TraceInvariant.helperEvents {t : List Event} (h : TraceInvariant t) {cmd : SdCommand}
    {arg : BitVec 32} {xfrInfo : Option SdCommandXfrInfo} {ok : Bool}
    (hx : xfrInfo = none ∨ ¬ cmd.IsMultiBlock ∨ ok = false) (w : World H B) :
    TraceInvariant (t ++ helperEvents host cmd arg xfrInfo w ok) := by
  have hcommand {t : List Event} (h : TraceInvariant t) :
      TraceInvariant (t ++ [.command cmd arg xfrInfo ok]) := by
    refine h.concat (fun cmd' arg' x hcmd heq => ?_) (by simp)
    obtain ⟨rfl, rfl, rfl, rfl⟩ := Event.command.inj heq
    rcases hx with hx | hx | hx
    · cases hx
    · exact hx hcmd
    · cases hx
  unfold SdMmc.helperEvents
  split_ifs
  · exact h.concat (by simp) (by simp)
  · rw [show t ++ [Event.appCommand (w.inst.rca <<< 16) true, .command cmd arg xfrInfo ok] =
      (t ++ [.appCommand (w.inst.rca <<< 16) true]) ++ [.command cmd arg xfrInfo ok] by simp]
    exact hcommand (h.concat (by simp) (by simp))
  · exact hcommand h

lemma History.concat {w w' : World H B} (h : History w) {e : Event}
    (ht : w'.trace = w.trace ++ [e]) (he : e.completed = none)
    (hlast : w'.inst.lastSuccessfulCmd = w.inst.lastSuccessfulCmd)
    (hpre : w'.inst.preLastSuccessfulCmd = w.inst.preLastSuccessfulCmd) : History w' := by
  have hsame : completedCommands w'.trace = completedCommands w.trace := by
    rw [ht, completedCommands, List.filterMap_append, List.filterMap_cons_none he]
    simp [completedCommands]
  exact ⟨by rw [hlast, hsame, h.last], by rw [hpre, hsame, h.preLast]⟩

lemma StopInvariant.bus {w w' : World H B} (hstep : BusStep host w w') (h : StopInvariant w) :
    StopInvariant w' := by
  cases hstep with
  | stay => exact h
  | command cmd arg xfrInfo _ hx =>
      refine ⟨h.toTraceInvariant.helperEvents ?_ w, h.history.command cmd arg xfrInfo⟩
      exact hx.imp_right .inl
  | hostCall => exact ⟨h.toTraceInvariant, h.history.last, h.history.preLast⟩
  | lineReset type ok =>
      exact ⟨h.toTraceInvariant.concat (by simp) (by simp), h.history.concat rfl rfl rfl rfl⟩
  | read _ size buffer bytes h' ok =>
      refine ⟨?_, ?_⟩
      · exact h.toTraceInvariant.concat (by simp) (by simp)
      · refine h.history.concat (e := .data .read size buffer ok) rfl rfl ?_ ?_ <;>
          cases buffer <;> rfl
  | write size buffer h' ok =>
      exact ⟨h.toTraceInvariant.concat (by simp) (by simp), h.history.concat rfl rfl rfl rfl⟩

lemma StopInvariant.device {w w' : World H B} (hstep : DeviceStep host w w')
    (h : StopInvariant w) : StopInvariant w' := by
  cases hstep with
  | bus hstep => exact h.bus hstep
  | card inst hc =>
      exact ⟨h.toTraceInvariant, hc.lastSuccessfulCmd.trans h.history.last,
        hc.preLastSuccessfulCmd.trans h.history.preLast⟩
  | extCsd =>
      exact ⟨h.toTraceInvariant.concat (by simp) (by simp), h.history.concat rfl rfl rfl rfl⟩

/-! ## A transfer -/

section Transfer

variable {recover : SdCommand → Prog (World H B) EfiStatus}

/-- `SdhcSendCommand` from a state that only its own command takes to the invariant. -/
lemma sendOrRecover_triple {M P : World H B → Prop} {cmd : SdCommand} {arg : BitVec 32}
    (hcmd : ∀ w, M w → P (afterCommand host cmd arg none w).2)
    (hrec : ∀ cmd, Preserves P (recover cmd)) :
    Triple M (sendOrRecover host recover cmd arg) fun _ => P := by
  unfold sendOrRecover
  refine Triple.bind (Q := fun _ => P) (Triple.step hcmd) fun status => ?_
  split
  · exact Triple.bind (hrec cmd) fun _ => Triple.pure fun w hw => hw
  · exact Triple.pure fun w hw => hw

lemma sdhcStopTransmission_triple {M P : World H B → Prop}
    (hcmd : ∀ arg w, M w → P (afterCommand host cmdStopTransmission arg none w).2)
    (hrec : ∀ cmd, Preserves P (recover cmd)) :
    Triple M (sdhcStopTransmission host recover) fun _ => P := by
  unfold sdhcStopTransmission sdhcSendCommand
  refine Triple.bind (Q := fun _ => M) (Triple.read fun w hw => hw) fun rca => ?_
  refine Triple.orReturn (sendOrRecover_triple (hcmd _) hrec) (fun _ _ _ hw => hw) ?_
  rw [if_neg (by decide)]
  exact Triple.pure fun w hw => hw.choose_spec.2

lemma sdhcWaitForTranStateAndReadyForData_triple {M P : World H B → Prop}
    (hcmd : ∀ arg w, M w → P (afterCommand host cmdSendStatus arg none w).2)
    (hbus : ∀ w w', BusStep host w w' → P w → P w') (hrec : ∀ cmd, Preserves P (recover cmd)) :
    Triple M (sdhcWaitForTranStateAndReadyForData host recover) fun _ => P := by
  unfold sdhcWaitForTranStateAndReadyForData
  refine Triple.bind (Q := fun _ => P) ?_ fun result => ?_
  · unfold sdhcSendStatus
    refine Triple.bind (Q := fun _ => M) (Triple.read fun w hw => hw) fun rca => ?_
    refine Triple.bind (sendOrRecover_triple (hcmd _) hrec) fun status => ?_
    split
    · exact Triple.pure fun w hw => hw
    · exact Triple.bind (Q := fun _ => P) (Triple.read fun w hw => hw) fun _ =>
        Triple.pure fun w hw => hw
  · cases result with
    | error status => exact Triple.pure fun w hw => hw
    | ok cardStatus => exact (polls_steps (pollTranState_polls _ cardStatus)).preserves hbus hrec

/-- The invariant held before a transfer, and since then its command and its data phase
succeeded. -/
structure Moved (pre : List Event) (cmd : SdCommand) (w : World H B) : Prop where
  before : TraceInvariant pre
  started : completedCommands pre ≠ []
  trace : ∃ arg xfrInfo direction size buffer, w.trace =
    pre ++ [.command cmd arg (some xfrInfo) true] ++ [.data direction size buffer true]
  history : History w

lemma Moved.completed {pre : List Event} {cmd : SdCommand} {w : World H B} (h : Moved pre cmd w) :
    completedCommands w.trace = completedCommands pre ++ [cmd] := by
  obtain ⟨arg, x, d, size, buffer, ht⟩ := h.trace
  rw [ht]
  simp [completedCommands, Event.completed]

/-- The next command on the bus decides a transfer. -/
lemma Moved.command {pre : List Event} {cmd : SdCommand} {w : World H B} (h : Moved pre cmd w)
    {next : SdCommand} (hclass : next.cmdClass ≠ .app)
    (hnext : next = cmdStopTransmission ↔
      (completedCommands pre).getLast? ≠ some cmdSetBlockCount) (arg : BitVec 32) :
    StopInvariant (afterCommand host next arg none w).2 := by
  obtain ⟨arg', x, d, size, buffer, ht⟩ := h.trace
  have htrace : (afterCommand host next arg none w).2.trace = w.trace ++
      [.command next arg none !(afterCommand host next arg none w).1.isError] := by
    have hevents : (afterCommand host next arg none w).2.trace = w.trace ++
      helperEvents host next arg none w !(afterCommand host next arg none w).1.isError := rfl
    rw [hevents, helperEvents, if_neg hclass]
  rw [ht] at htrace
  have hpre : StopDecided (pre ++ [.command cmd arg' (some x) true]) :=
    h.before.decided.concat (.inr (by simp))
  refine ⟨⟨?_, ?_, ?_⟩, h.history.command next arg none⟩
  · rw [htrace]
    intro pre' post hsplit
    rcases isTransfer_concat hsplit with ⟨-, -, _, _, _, heq⟩ | ⟨post', rfl, hsplit'⟩
    · cases heq
    rcases isTransfer_concat hsplit' with ⟨rfl, ⟨_, _, _, -, heq⟩, -⟩ | ⟨post'', rfl, hsplit''⟩
    · -- the transfer just made
      obtain ⟨rfl, -⟩ := List.append_inj' heq rfl
      refine ⟨by simp [busCommands, Event.busCommand], ?_⟩
      rw [← hnext]
      simp [StopFollows, busCommands, Event.busCommand]
    · -- a transfer decided before
      obtain ⟨hne, hiff⟩ := hpre pre' post'' hsplit''
      obtain ⟨c, cs, hcs⟩ := List.exists_cons_of_ne_nil hne
      have hcommands : busCommands (post'' ++ [.data d size buffer true] ++
          [.command next arg none !(afterCommand host next arg none w).1.isError]) =
          c :: (cs ++ [(next, !(afterCommand host next arg none w).1.isError)]) := by
        rw [busCommands, List.filterMap_append, List.filterMap_append, ← busCommands, hcs]
        simp [Event.busCommand]
      unfold StopFollows at hiff ⊢
      rw [hcommands]
      rw [hcs] at hiff
      exact ⟨List.cons_ne_nil _ _, hiff⟩
  · rw [htrace]
    exact notPending_concat (by simp)
  · rw [htrace]
    simp [h.before.notNull]

/-- The command of a transfer succeeded, its data phase is still to come. -/
structure Asked (pre : List Event) (cmd : SdCommand) (w : World H B) : Prop where
  before : TraceInvariant pre
  started : completedCommands pre ≠ []
  trace : ∃ arg xfrInfo, w.trace = pre ++ [.command cmd arg (some xfrInfo) true]
  history : History w

/-- The state between transfers, and after a transfer that needs no STOP_TRANSMISSION. -/
def Counted (cmd : SdCommand) (w : World H B) : Prop :=
  ∃ pre, Moved pre cmd w ∧ (completedCommands pre).getLast? = some cmdSetBlockCount

lemma stopInvariant_bus {w w' : World H B} (hstep : BusStep host w w')
    (h : StopInvariant w ∧ Started w) : StopInvariant w' ∧ Started w' :=
  ⟨h.1.bus hstep, started_mono h.2 hstep.later.trace⟩

lemma sendCommandHelper_asked {cmd : SdCommand} (hmulti : cmd.IsMultiBlock) (arg : BitVec 32)
    (xfrInfo : SdCommandXfrInfo) :
    Triple (fun w : World H B => StopInvariant w ∧ Started w)
      (sendCommandHelper host cmd arg (some xfrInfo)) fun status w =>
        (status.isError = true → StopInvariant w ∧ Started w) ∧
          (status.isError = false → ∃ pre, Asked pre cmd w) := by
  have hclass : cmd.cmdClass ≠ .app := by rcases hmulti with rfl | rfl <;> decide
  refine Triple.step fun w hw => ?_
  have hevents : (afterCommand host cmd arg (some xfrInfo) w).2.trace = w.trace ++
      helperEvents host cmd arg (some xfrInfo) w
        !(afterCommand host cmd arg (some xfrInfo) w).1.isError := rfl
  have hhistory := @History.command H B host w hw.1.history cmd arg (some xfrInfo)
  refine ⟨fun herr => ⟨⟨?_, hhistory⟩, started_mono hw.2 ⟨_, hevents.symm⟩⟩, fun hok =>
    ⟨w.trace, hw.1.toTraceInvariant, hw.2, ⟨arg, xfrInfo, ?_⟩, hhistory⟩⟩
  · rw [hevents, herr]
    exact hw.1.toTraceInvariant.helperEvents (.inr (.inr rfl)) w
  · rw [hevents, hok, helperEvents, if_neg hclass]
    rfl

/-- A data phase ends a transfer that was asked for. -/
lemma Asked.data {pre : List Event} {cmd : SdCommand} {w w' : World H B} (h : Asked pre cmd w)
    {direction : SdTransferDirection} {size : ℕ} {buffer : Buffer} {ok : Bool}
    (ht : w'.trace = w.trace ++ [.data direction size buffer ok])
    (hlast : w'.inst.lastSuccessfulCmd = w.inst.lastSuccessfulCmd)
    (hpre : w'.inst.preLastSuccessfulCmd = w.inst.preLastSuccessfulCmd) :
    (ok = false → StopInvariant w' ∧ Started w') ∧ (ok = true → Moved pre cmd w') := by
  obtain ⟨arg, x, htrace⟩ := h.trace
  have hhistory : History w' := h.history.concat ht rfl hlast hpre
  rw [htrace] at ht
  refine ⟨?_, ?_⟩
  · rintro rfl
    refine ⟨⟨⟨?_, ?_, ?_⟩, hhistory⟩, ?_⟩
    · rw [ht]
      exact (h.before.decided.concat (.inr (by simp))).concat (.inr (by simp))
    · rw [ht]
      exact notPending_concat (by simp)
    · rw [ht]
      simp [h.before.notNull]
    · rw [Started, ht, List.append_assoc, completedCommands, List.filterMap_append]
      exact fun hnil => h.started (List.append_eq_nil_iff.mp hnil).1
  · rintro rfl
    exact ⟨h.before, h.started, ⟨arg, x, direction, size, buffer, ht⟩, hhistory⟩

lemma transferData_moved (cmd : SdCommand) (size : ℕ) (buffer : Buffer) :
    Triple (fun w : World H B => ∃ pre, Asked pre cmd w) (transferData host cmd size buffer)
      fun status w => (status.isError = true → StopInvariant w ∧ Started w) ∧
        (status.isError = false → ∃ pre, Moved pre cmd w) := by
  unfold transferData
  split
  · refine Triple.step fun w hw => ?_
    obtain ⟨pre, hw⟩ := hw
    have hdata := @Asked.data H B pre cmd w ((readBlockData host size buffer w).get rfl).2 hw
      .read size buffer (!(host.readBlockData size w.host).1.isError) rfl
      (by cases buffer <;> rfl) (by cases buffer <;> rfl)
    exact ⟨fun herr => hdata.1 (by simpa using herr), fun hok => ⟨pre, hdata.2 (by simpa using hok)⟩⟩
  · refine Triple.step fun w hw => ?_
    obtain ⟨pre, hw⟩ := hw
    have hdata := @Asked.data H B pre cmd w ((writeBlockData host size buffer w).get rfl).2 hw
      .write size buffer (!(host.writeBlockData size (w.load buffer) w.host).1.isError) rfl rfl rfl
    exact ⟨fun herr => hdata.1 (by simpa using herr), fun hok => ⟨pre, hdata.2 (by simpa using hok)⟩⟩

/-- The decision, by the command completed before the transfer. -/
lemma stopOpenEnded_counted {cmd : SdCommand} (hmulti : cmd.IsMultiBlock)
    (hrec : ∀ cmd, Preserves (fun w => StopInvariant w ∧ Started w) (recover cmd)) :
    Triple (fun w : World H B => ∃ pre, Moved pre cmd w) (stopOpenEnded host recover cmd)
      fun status w => (StopInvariant w ∧ Started w) ∨ status.isError = false ∧ Counted cmd w := by
  unfold stopOpenEnded
  rw [if_pos hmulti]
  refine Triple.bind (Q := fun last w => last = w.inst.lastSuccessfulCmd ∧ ∃ pre, Moved pre cmd w)
    (Triple.read fun w hw => ⟨rfl, hw⟩) fun last => ?_
  refine Triple.bind (Q := fun preLast w => last ≠ none ∧ preLast ≠ none ∧
    ∃ pre, Moved pre cmd w ∧ preLast = (completedCommands pre).getLast?)
    (Triple.read ?_) fun preLast => ?_
  · rintro w ⟨rfl, pre, hw⟩
    have hcompleted := hw.completed
    have hpre : w.inst.preLastSuccessfulCmd = (completedCommands pre).getLast? := by
      rw [hw.history.preLast, hcompleted, List.dropLast_concat]
    refine ⟨by rw [hw.history.last, hcompleted]; simp, fun hnone => ?_, pre, hw, hpre⟩
    exact hw.started (List.getLast?_eq_none_iff.mp (hpre.symm.trans hnone))
  · split
    · next hlast => exact fun w hw => absurd hlast hw.1
    split
    · next hpre => exact fun w hw => absurd hpre hw.2.1
    split
    · next hcount =>
        refine Triple.pure fun w hw => ?_
        obtain ⟨-, -, pre, hmoved, hpre⟩ := hw
        exact .inr ⟨rfl, pre, hmoved, hpre.symm.trans hcount⟩
    · next hcount =>
        refine (sdhcStopTransmission_triple (fun arg w hw => ?_) hrec).weaken fun _ _ hw => .inl hw
        obtain ⟨-, -, pre, hmoved, hpre⟩ := hw
        refine ⟨hmoved.command (by decide) (iff_of_true rfl (hpre ▸ hcount)) arg, ?_⟩
        have hstarted : Started w := by
          rw [Started, hmoved.completed]
          simp
        exact started_mono hstarted ⟨_, rfl⟩

/-- A transfer of several blocks is decided by the history before it. -/
lemma sdhcSendDataCommand_multiBlock {cmd : SdCommand} (hmulti : cmd.IsMultiBlock)
    (hrec : ∀ cmd, Preserves (fun w => StopInvariant w ∧ Started w) (recover cmd))
    (arg : BitVec 32) (size : ℕ) (buffer : Buffer) :
    Preserves (fun w : World H B => StopInvariant w ∧ Started w)
      (sdhcSendDataCommand host recover cmd arg size buffer) := by
  have hwait : Triple (fun w : World H B => (StopInvariant w ∧ Started w) ∨ Counted cmd w)
      (sdhcWaitForTranStateAndReadyForData host recover) fun _ w => StopInvariant w ∧ Started w := by
    refine sdhcWaitForTranStateAndReadyForData_triple (fun arg w hw => ?_)
      (fun w w' hstep hw => stopInvariant_bus hstep hw) hrec
    rcases hw with hw | ⟨pre, hw, hcount⟩
    · exact stopInvariant_bus (.command _ _ _ (not_setsPartition (by decide) _) (.inl rfl) w) hw
    · refine ⟨hw.command (by decide) (iff_of_false (by decide) (by simp [hcount])) arg, ?_⟩
      have hstarted : Started w := by
        rw [Started, hw.completed]
        simp
      exact started_mono hstarted ⟨_, rfl⟩
  unfold sdhcSendDataCommand
  refine Triple.bind (Q := fun _ w => StopInvariant w ∧ Started w) ?_ fun status => ?_
  · refine Triple.orReturn (sendCommandHelper_asked hmulti _ _) (fun _ _ herr hw => hw.1 herr) ?_
    refine (Triple.orReturn (transferData_moved cmd size buffer) (fun _ _ herr hw => hw.1 herr)
      ?_).strengthen fun w hw => hw.choose_spec.2.2 hw.choose_spec.1
    refine (Triple.orReturn (stopOpenEnded_counted hmulti hrec) (fun status w herr hw => ?_)
      (hwait.strengthen ?_)).strengthen fun w hw => hw.choose_spec.2.2 hw.choose_spec.1
    · rcases hw with hw | ⟨hok, -⟩
      · exact hw
      · rw [herr] at hok
        cases hok
    · rintro w ⟨status, -, hw | ⟨-, hw⟩⟩
      · exact .inl hw
      · exact .inr hw
  · split
    · exact Triple.bind (hrec cmd) fun _ => Triple.pure fun w hw => hw
    · exact Triple.pure fun w hw => hw

end Transfer

/-! ## Resets and recoveries -/

/-- The invariant between the functions of the driver: the decisions, and a card that transfers
can be asked of has completed a command. -/
structure TransfersDecided (w : World H B) : Prop extends StopInvariant w where
  started : w.inst.media.mediaPresent = true → w.inst.media.blockSize ≠ 0 → Started w

lemma TransfersDecided.ready {w : World H B} (h : StopInvariant w) (hs : Started w) :
    TransfersDecided w :=
  ⟨h, fun _ _ => hs⟩

/-- The instance is left alone but for fields that do not matter, and the trace may get an event
that is neither a command nor the comparison with a `NULL` descriptor. -/
lemma TransfersDecided.concat {w w' : World H B} (h : TransfersDecided w) {e : Event}
    (ht : w'.trace = w.trace ++ [e])
    (hcommand : e.completed = none) (hpending : ∀ cmd arg xfrInfo, SdCommand.IsMultiBlock cmd →
      e ≠ .command cmd arg (some xfrInfo) true) (hnull : e ≠ .nullCommand)
    (hlast : w'.inst.lastSuccessfulCmd = w.inst.lastSuccessfulCmd)
    (hpre : w'.inst.preLastSuccessfulCmd = w.inst.preLastSuccessfulCmd)
    (hmedia : w'.inst.media = w.inst.media) : TransfersDecided w' where
  toTraceInvariant := by
    rw [ht]
    exact h.toTraceInvariant.concat hpending hnull
  history := h.history.concat ht hcommand hlast hpre
  started := by
    rw [hmedia]
    exact fun hp hb => started_mono (h.started hp hb) ⟨_, ht.symm⟩

lemma TransfersDecided.same {w w' : World H B} (h : TransfersDecided w)
    (ht : w'.trace = w.trace) (hlast : w'.inst.lastSuccessfulCmd = w.inst.lastSuccessfulCmd)
    (hpre : w'.inst.preLastSuccessfulCmd = w.inst.preLastSuccessfulCmd)
    (hmedia : w'.inst.media.mediaPresent = true → w'.inst.media.blockSize ≠ 0 →
      w.inst.media.mediaPresent = true ∧ w.inst.media.blockSize ≠ 0) : TransfersDecided w' where
  toTraceInvariant := by
    rw [ht]
    exact h.toTraceInvariant
  history := ⟨by rw [hlast, ht, h.history.last], by rw [hpre, ht, h.history.preLast]⟩
  started hp hb := started_mono (h.started (hmedia hp hb).1 (hmedia hp hb).2) ⟨[], by simp [ht]⟩

lemma TransfersDecided.install {w : World H B} (h : TransfersDecided w) (p : Interface) :
    TransfersDecided (afterInstall boot p w).2 := by
  refine h.concat (e := .install p !(afterInstall boot p w).1.isError) rfl rfl (by simp) (by simp)
    ?_ ?_ ?_ <;> unfold afterInstall <;> simp only <;> split <;> cases p <;> rfl

lemma BusStep.media {w w' : World H B} (h : BusStep host w w') :
    w'.inst.media = w.inst.media := by
  cases h with
  | read _ size buffer => cases buffer <;> rfl
  | _ => rfl

lemma TransfersDecided.bus {w w' : World H B} (hstep : BusStep host w w')
    (h : TransfersDecided w) : TransfersDecided w' where
  toStopInvariant := h.toStopInvariant.bus hstep
  started := by
    rw [hstep.media]
    exact fun hp hb => started_mono (h.started hp hb) hstep.later.trace

/-- A command that succeeds has been completed. -/
lemma sdhcSendCommand_started {recover : SdCommand → Prog (World H B) EfiStatus}
    (hlater : ∀ cmd, Within World.Later (recover cmd)) (cmd : SdCommand) (arg : BitVec 32) :
    Triple (fun _ => True) (sdhcSendCommand host recover cmd arg) fun status w =>
      status.isError = false → Started w := by
  have hmono (w₀ : World H B) : ∀ cmd, Preserves w₀.Later (recover cmd) := fun cmd =>
    (hlater cmd).triple fun w w' h hw => hw.trans h
  unfold sdhcSendCommand
  refine Triple.orReturn (Q := fun status w => status.isError = false → Started w) ?_
    (fun _ _ _ hw => hw) ?_
  · unfold sendOrRecover
    refine Triple.bind (Q := fun status w => status.isError = false → Started w)
      (Triple.step fun w _ hok => ?_) fun status => ?_
    · rw [Started, completedCommands_afterCommand, hok]
      simp
    · split
      · next herr =>
          intro w _ status' w' hrun hok
          obtain ⟨_, _, _, hw'⟩ := bind_eq_some.mp hrun
          obtain ⟨rfl, -⟩ : status = status' ∧ _ := by simpa using hw'
          rw [herr] at hok
          cases hok
      · next hok => exact Triple.pure fun w hw _ => hw (by simpa using hok)
  · rintro w ⟨status, hok, hw⟩ status' w' hrun _
    have hwithin := (@waitAfterSwitch_steps H B host (BusStep host) _ cmd).preserves (P := w.Later)
      (fun _ _ h hw => hw.trans h.later) (hmono w)
    exact started_mono (hw hok) (hwithin w (.refl w) status' w' hrun).trace

section Reset

variable {n : ℕ}
  (hrec : ∀ cmd, Preserves TransfersDecided (sdhcRecoverFromErrors host boot n cmd))
include hrec

/-- Once a command has been completed the recoveries keep that, too. -/
lemma recoverFromErrors_stopInvariant (cmd : SdCommand) :
    Preserves (fun w => StopInvariant w ∧ Started w) (sdhcRecoverFromErrors host boot n cmd) :=
  fun w hw status w' hrun =>
    ⟨(hrec cmd w (.ready hw.1 hw.2) status w' hrun).toStopInvariant,
      started_mono hw.2 (sdhcRecoverFromErrors_later n cmd w status w' hrun).trace⟩

/-- What is left of an identification that got a command through. -/
lemma DeviceProg.stopInvariant {α : Type}
    {f : (SdCommand → Prog (World H B) EfiStatus) → Prog (World H B) α} (hf : DeviceProg host f) :
    Preserves (fun w => StopInvariant w ∧ Started w) (f (sdhcRecoverFromErrors host boot n)) :=
  hf.preserves (fun w w' h hw =>
      ⟨hw.1.device h, started_mono hw.2
        (@DriverStep.later H B host boot w w' (.request (.device h))).trace⟩)
    (recoverFromErrors_stopInvariant hrec)

lemma sdhcSendCommand_decided {cmd : SdCommand} {arg : BitVec 32} (h : ¬ SetsPartition cmd arg) :
    Triple TransfersDecided (sdhcSendCommand host (sdhcRecoverFromErrors host boot n) cmd arg)
      fun status w => TransfersDecided w ∧ (status.isError = false → Started w) :=
  Triple.and ((sdhcSendCommand_built h).preserves (fun _ _ hstep hw => hw.bus hstep) hrec)
    ((sdhcSendCommand_started (fun cmd => sdhcRecoverFromErrors_later n cmd) cmd arg).strengthen
      fun _ _ => trivial)

/-- An identification that sets the block size has completed GO_IDLE_STATE before. -/
lemma identifyDevice_decided :
    Preserves TransfersDecided (identifyDevice host (sdhcRecoverFromErrors host boot n)) := by
  have hstart : Preserves TransfersDecided (do
      update HostInst.zeroCardInfo
      softwareReset (B := B) host .all) := by
    refine Triple.bind (Q := fun _ => TransfersDecided) (Triple.modify fun w hw => ?_) fun _ => ?_
    · exact hw.same rfl rfl rfl fun hp hb => ⟨hp, hb⟩
    · exact (softwareReset_steps _).preserves
        (fun w w' (hstep : BusStep host w w') hw => hw.bus hstep) hrec
  unfold identifyDevice untilError
  refine Preserves.orReturn hstart (Preserves.orReturn (Triple.step fun w hw => ?_) ?_)
  · exact hw.same rfl rfl rfl fun hp hb => ⟨hp, hb⟩
  unfold untilError
  -- behind GO_IDLE_STATE a command has been completed
  have hrest : Triple (fun w => StopInvariant w ∧ Started w) (untilError [
      initializeCard host (sdhcRecoverFromErrors host boot n),
      sdhcSetBlockLength host (sdhcRecoverFromErrors host boot n) (.ofNat 32 sdBlockLengthBytes)])
      fun _ => TransfersDecided := by
    have hbuilt : DeviceProg (B := B) host fun recover => untilError [
        initializeCard host recover,
        sdhcSetBlockLength host recover (.ofNat 32 sdBlockLengthBytes)] :=
      .orReturn initializeCard_built (.orReturn (plainCommand_steps (by decide) _) (.pure _))
    exact (hbuilt.stopInvariant hrec).weaken fun _ _ hw => .ready hw.1 hw.2
  refine Triple.orReturn (Q := fun status w => TransfersDecided w ∧
    (status.isError = false → StopInvariant w ∧ Started w)) ?_ (fun _ _ _ hw => hw.1)
    (hrest.strengthen ?_)
  · unfold sdhcQueryCardType
    refine Triple.orReturn (sdhcSendCommand_decided hrec (not_setsPartition (by decide) _)) ?_ ?_
    · intro status w herr hw
      refine ⟨hw.1, fun hok => ?_⟩
      rw [herr] at hok
      cases hok
    · refine ((DeviceProg.stopInvariant hrec probeCardFunction_built).strengthen ?_).weaken
        fun _ _ hw => ⟨.ready hw.1 hw.2, fun _ => hw⟩
      rintro w ⟨status, hok, hw, hstarted⟩
      exact ⟨hw.toStopInvariant, hstarted hok⟩
  · rintro w ⟨status, hok, -, hw⟩
    exact hw hok

end Reset

/-- The decisions are kept by `SoftReset`. -/
lemma transfersDecided_resetInvariant :
    ResetInvariant host boot TransfersDecided fun _ => True where
  bus _ _ hstep hw := hw.bus hstep
  enterRecovery cmd w hw := hw.concat (e := .recovery cmd) rfl rfl (by simp) (by simp) rfl rfl rfl
  leaveRecovery w hw := hw.same rfl rfl rfl fun hp hb => ⟨hp, hb⟩
  softReset w hw := hw.concat (e := .softReset) rfl rfl (by simp) (by simp) rfl rfl rfl
  uninstall p w _ hw := by
    refine hw.concat (e := .uninstall p _) rfl rfl (by simp) (by simp) ?_ ?_ ?_ <;>
      unfold afterUninstall <;> simp only <;> split <;> cases p <;> rfl
  cleared w _ hw := hw.same rfl rfl rfl fun _ hb => absurd rfl hb
  mediaPresent present w _ hsize hw := hw.same rfl rfl rfl fun _ hb => absurd hsize hb
  readOnly readOnly w hw := hw.same rfl rfl rfl fun hp hb => ⟨hp, hb⟩
  identify n hrec := (identifyDevice_decided hrec).weaken fun _ _ hw => ⟨hw, fun _ => trivial⟩
  initialized w _ hw := ⟨trivial, hw.same rfl rfl rfl fun hp hb => ⟨hp, hb⟩⟩
  convert w hw := hw.same rfl rfl rfl fun hp hb => ⟨hp, hb⟩
  ready_convert _ _ := trivial
  installBlockIo w _ hw := hw.install .blockIo
  installDevicePath w hw := hw.install .devicePath
  ready_install _ _ _ := trivial
  installRpmb w _ _ _ _ hw := by
    have hinstall := @TransfersDecided.install H B boot w hw .rpmbIo
    unfold afterPublishRpmb
    simp only
    split
    · exact hinstall
    · exact hinstall.same rfl rfl rfl fun hp hb => ⟨hp, hb⟩

/-! ## The calls -/

section Calls

lemma recovery_decided (cmd : SdCommand) :
    Preserves (TransfersDecided (H := H) (B := B)) (recovery host boot cmd) :=
  transfersDecided_resetInvariant.preserves_recovery cmd

lemma recovery_stopInvariant (cmd : SdCommand) :
    Preserves (fun w : World H B => StopInvariant w ∧ Started w) (recovery host boot cmd) :=
  recoverFromErrors_stopInvariant recovery_decided cmd

/-- A data command with a history behind it. -/
lemma sdhcSendDataCommand_decided {cmd : SdCommand} {arg : BitVec 32}
    (h : ¬ SetsPartition cmd arg) (size : ℕ) (buffer : Buffer) :
    Preserves (fun w : World H B => StopInvariant w ∧ Started w)
      (sdhcSendDataCommand host (recovery host boot) cmd arg size buffer) := by
  by_cases hmulti : cmd.IsMultiBlock
  · exact sdhcSendDataCommand_multiBlock hmulti recovery_stopInvariant arg size buffer
  · exact (sdhcSendDataCommand_built_single h hmulti size buffer).preserves
      (fun _ _ hstep hw => stopInvariant_bus hstep hw) recovery_stopInvariant

/-- An accepted request for blocks is for a card that has completed a command. -/
lemma ioBlocks_decided (r : IoRequest) :
    Preserves (TransfersDecided (H := H) (B := B)) ((InstanceCall.ioBlocks r).run host boot) := by
  refine Triple.step fun w hw => ?_
  rcases ioBlocks_cases (blockPath host boot w.inst.hostCapabilities) r w with
    heq | ⟨cmd, m, bound, c, hcheck, heq⟩
  · rwa [heq]
  · rw [heq]
    obtain ⟨-, hpresent, hsize, blockCount, rfl⟩ := checkRequest_eq_ok hcheck
    have hne := ioBlocksCommand_ne_switch r.transferDirection blockCount
    have hdata (arg size buffer : ℕ) (s : World H B) (hs : StopInvariant s ∧ Started s) :=
      @sdhcSendDataCommand_decided H B host boot _ _ (not_setsPartition hne (.ofNat 32 arg)) size
        (.caller buffer) s hs _ _ (blockPath_apply w.inst.hostCapabilities _ arg size buffer s)
    have hchunks := @transferChunks_preserves _ (blockPath host boot w.inst.hostCapabilities)
      (fun w => StopInvariant w ∧ Started w) _ hdata m bound c none w
      ⟨hw.toStopInvariant, hw.started hpresent hsize⟩
    exact .ready hchunks.1 hchunks.2

lemma TransfersDecided.command {w : World H B} (h : TransfersDecided w) (cmd : SdCommand)
    (arg : BitVec 32) : TransfersDecided (afterCommand host cmd arg none w).2 where
  toTraceInvariant := h.toTraceInvariant.helperEvents (.inl rfl) w
  history := h.history.command cmd arg none
  started hp hb := started_mono (h.started hp hb) ⟨_, rfl⟩

/-- A partition is switched with a command that was completed. -/
lemma sdhcSwitchPartitionMmc_decided (partition : PartitionAccess) :
    Triple (TransfersDecided (H := H) (B := B))
      (sdhcSwitchPartitionMmc host (recovery host boot) partition)
      fun status w => TransfersDecided w ∧ (status.isError = false → Started w) := by
  have hswitch (arg : BitVec 32) : Triple (TransfersDecided (H := H) (B := B))
      (sdhcSendCommand host (recovery host boot) cmdSwitchMmc arg)
      fun status w => TransfersDecided w ∧ (status.isError = false → Started w) := by
    refine Triple.and ?_ ((sdhcSendCommand_started (fun cmd => sdhcRecoverFromErrors_later _ cmd)
      cmdSwitchMmc arg).strengthen fun _ _ => trivial)
    unfold sdhcSendCommand
    refine Preserves.orReturn (sendOrRecover_triple (fun w hw => hw.command _ _) recovery_decided) ?_
    exact (waitAfterSwitch_steps _).preserves
      (fun w w' (hstep : BusStep host w w') hw => hw.bus hstep) recovery_decided
  have hverify : DeviceProg (B := B) host fun recover => untilError [
      sdhcSendExtCsdMmc host recover,
      do
        let config ← inspect (·.registers.partitionConfig)
        if partitionAccess config ≠ partition then return .deviceError else return .success] :=
    .orReturn sdhcSendExtCsdMmc_built (.orReturn (check_steps _ _ _ _) (.pure _))
  have hlink {k : Prog (World H B) EfiStatus} {c : Prog (World H B) EfiStatus}
      (hc : Triple TransfersDecided c
        fun status w => TransfersDecided w ∧ (status.isError = false → Started w))
      (hk : Preserves (fun w => StopInvariant w ∧ Started w) k) :
      Triple TransfersDecided (c.orReturn k)
        fun status w => TransfersDecided w ∧ (status.isError = false → Started w) := by
    refine Triple.orReturn hc (fun _ _ _ hw => hw) ((hk.strengthen ?_).weaken
      fun _ _ hw => ⟨.ready hw.1 hw.2, fun _ => hw.2⟩)
    rintro w ⟨status, hok, hw, hstarted⟩
    exact ⟨hw.toStopInvariant, hstarted hok⟩
  unfold sdhcSwitchPartitionMmc switchAndVerifyPartition
  refine hlink ?_ ?_
  · refine Triple.bind (Q := fun _ => TransfersDecided) (Triple.read fun w hw => hw) fun config => ?_
    exact hlink (hswitch _) (hverify.stopInvariant recovery_decided)
  · refine Triple.bind (Q := fun _ w => StopInvariant w ∧ Started w) (Triple.modify fun w hw => ?_)
      fun _ => Triple.pure fun w hw => hw
    exact ⟨⟨hw.1.toTraceInvariant, hw.1.history.last, hw.1.history.preLast⟩, hw.2⟩

/-- The packets of a request are sent with a history behind them. -/
lemma rpmbDispatch_decided (type : Option RpmbRequestType) (request response : RpmbDataBuffer) :
    Preserves (fun w : World H B => StopInvariant w ∧ Started w)
      (rpmbDispatch host (recovery host boot) type request response) := by
  have hcount (count : BitVec 32) (reliable : Bool) :
      Preserves (fun w : World H B => StopInvariant w ∧ Started w)
        (sdhcSetBlockCount host (recovery host boot) count reliable) :=
    (sdhcSendCommand_built (not_setsPartition (by decide) _)).preserves
      (fun _ _ hstep hw => stopInvariant_bus hstep hw) recovery_stopInvariant
  have hdata {cmd : SdCommand} (hne : cmd ≠ cmdSwitchMmc) (size : ℕ) (buffer : Buffer) :=
    @sdhcSendDataCommand_decided H B host boot cmd 0 (not_setsPartition hne _) size buffer
  have hdone : Preserves (fun w : World H B => StopInvariant w ∧ Started w)
      (pure EfiStatus.success) := Triple.pure fun w hw => hw
  have hwrite (request : RpmbDataBuffer) :
      Preserves (fun w : World H B => StopInvariant w ∧ Started w)
      (rpmbWrite host (recovery host boot) request) :=
    (hcount _ _).orReturn ((hdata (by decide) _ _).orReturn hdone)
  have hread (request : Buffer) (response : RpmbDataBuffer) :
      Preserves (fun w : World H B => StopInvariant w ∧ Started w)
        (rpmbRead host (recovery host boot) request response) :=
    (hcount _ _).orReturn ((hdata (by decide) _ _).orReturn
      ((hcount _ _).orReturn ((hdata (by decide) _ _).orReturn hdone)))
  unfold rpmbDispatch
  match type with
  | some .programKey => exact (hwrite _).orReturn ((hread _ _).orReturn hdone)
  | some .counterValue => exact hread _ _
  | some .authRead => exact hread _ _
  | some .authWrite => exact (hwrite _).orReturn ((hread _ _).orReturn hdone)
  | none => exact hdone

lemma rpmbIo_decided (call : RpmbCall) :
    Preserves (TransfersDecided (H := H) (B := B)) (rpmbIo host (recovery host boot) call) := by
  unfold rpmbIo
  refine Triple.bind (Q := fun _ => TransfersDecided) (Triple.read fun w hw => hw) fun valid => ?_
  split
  · unfold rpmbRequest
    refine Triple.bind (Q := fun _ => TransfersDecided) (Triple.read fun w hw => hw) fun current => ?_
    refine Triple.orReturn (sdhcSwitchPartitionMmc_decided _) (fun _ _ _ hw => hw.1) ?_
    refine Triple.bind (Q := fun _ w => StopInvariant w ∧ Started w) (Triple.read ?_) fun type => ?_
    · rintro w ⟨status, hok, hw, hstarted⟩
      exact ⟨hw.toStopInvariant, hstarted hok⟩
    refine Triple.bind (rpmbDispatch_decided _ _ _) fun status => ?_
    refine Triple.bind (Q := fun _ => TransfersDecided) ?_ fun switchStatus => ?_
    · exact ((sdhcSwitchPartitionMmc_decided current).weaken fun _ _ hw => hw.1).strengthen
        fun w hw => .ready hw.1 hw.2
    · split
      · exact Triple.pure fun w hw => hw
      · exact Triple.pure fun w hw => hw
  · exact Triple.pure fun w hw => hw

lemma InstanceCall.preserves_decided (call : InstanceCall) :
    Preserves (TransfersDecided (H := H) (B := B)) (call.run host boot) := by
  have hinv := @transfersDecided_resetInvariant H B host boot
  exact call.preserves (fun w h hw => hw.same rfl rfl rfl fun hp hb => ⟨hp, hb⟩)
    (hinv.preserves_softReset hinv.preserves_recovery) ioBlocks_decided rpmbIo_decided
    hinv.uninstallAllProtocols

end Calls

/-! ## The driver -/

/-- The transfers are decided and no `NULL` descriptor was compared. -/
def StopsWhenNeeded (t : List Event) : Prop := .nullCommand ∉ t ∧ WellStopped t

/-- No command that failed lies between a SET_BLOCK_COUNT and a transfer of several blocks, unless
another command succeeded in between. -/
def CountsDirectly (t : List Event) : Prop :=
  ∀ pre post, IsTransfer t pre post →
    (completedCommands pre).getLast? = some cmdSetBlockCount →
      (busCommands pre).getLast? = some (cmdSetBlockCount, true)

lemma TraceInvariant.countsDirectly_iff {t : List Event} (h : TraceInvariant t) :
    StopsWhenNeeded t ↔ CountsDirectly t := by
  constructor
  · rintro ⟨-, hwell⟩ pre post hsplit hcompleted
    by_contra hbus
    exact (h.decided pre post hsplit).2.mp ((hwell pre post hsplit).mpr hbus) hcompleted
  · refine fun hcond => ⟨h.notNull, fun pre post hsplit => ?_⟩
    rw [(h.decided pre post hsplit).2]
    refine not_congr ⟨hcond pre post hsplit, fun hbus => ?_⟩
    exact completedCommands_getLast (by decide) hbus

/-- Nothing has happened to a new instance. -/
lemma transfersDecided_create (address handle : ℕ) (caps : SdhcCapabilities)
    (platform : Platform H B) :
    TransfersDecided ⟨⟨address, createSdhcInstance handle caps, []⟩, platform⟩ where
  decided pre post hsplit := by
    obtain ⟨cmd, arg, x, d, size, buffer, -, hnil⟩ := hsplit
    exact absurd hnil (by simp)
  notPending cmd arg x _ hlast := by cases hlast
  notNull := List.not_mem_nil
  history := ⟨rfl, rfl⟩
  started hpresent := by cases hpresent

lemma transfersDecided_poolInvariant {hosts : ℕ → SdhcHost H} :
    PoolInvariant hosts boot fun p => ∀ a c, p.live a = some c →
      ∀ platform : Platform H B, TransfersDecided ⟨c, platform⟩ := by
  refine Pool.live_invariant (fun a handle caps platform =>
    transfersDecided_create a handle caps platform) fun a host call w hw r w' hrun platform => ?_
  exact (call.preserves_decided w (hw w.toPlatform) r w' hrun).same rfl rfl rfl
    fun hp hb => ⟨hp, hb⟩

/-- In every reachable pool, no `NULL` descriptor was compared, and the transfers of an instance
were stopped when needed exactly if no failed command came between a SET_BLOCK_COUNT that was the
last command to succeed and a transfer. -/
theorem stopsWhenNeeded_iff {hosts : ℕ → SdhcHost H} {p : Pool H B}
    (h : (poolSystem hosts boot).Reachable p) {a : ℕ} {c : Controller} (hc : p.live a = some c) :
    .nullCommand ∉ c.trace ∧ (StopsWhenNeeded c.trace ↔ CountsDirectly c.trace) := by
  have hdecided := transfersDecided_poolInvariant.reachable h a c hc p.toPlatform
  exact ⟨hdecided.notNull, hdecided.toTraceInvariant.countsDirectly_iff⟩

/-- A card that does not answer the first packet of an RPMB request, the SEND_STATUS after it and
the command that would switch the partition back. -/
def muteCard : Script := { Script.quiet true with fails := fun n => 26 ≤ n && n ≤ 28 }

/-- A counter is read from the card, and then two blocks. -/
def muteCalls : List (PoolCall ScriptedCard (ℕ × List Published)) :=
  [.start 7 1,
    .outside ⟨21, 0⟩ (3, [⟨.rpmbIo, 7, 1⟩, ⟨.devicePath, 7, 1⟩, ⟨.blockIo, 7, 1⟩])
      (fun i => if i = 0x1000 + 511 then 2 else 0),
    .onInstance 1 (.rpmbIo (.readCounter 0x1000 0x2000)),
    .onInstance 1 (.ioBlocks ⟨.read, 9, 0, 1024, 0x3000⟩)]

lemma muteRun : (scriptedRun muteCard muteCalls).isSome = true := by decide +kernel

lemma muteRun_live : (((scriptedRun muteCard muteCalls).get muteRun).live 1).isSome = true := by
  decide +kernel

/-- The instance after the two requests. -/
def muteController : Controller :=
  (((scriptedRun muteCard muteCalls).get muteRun).live 1).get muteRun_live

theorem stopsWhenNeeded_iff_muteCard :
    .nullCommand ∉ muteController.trace ∧
      (StopsWhenNeeded muteController.trace ↔ CountsDirectly muteController.trace) :=
  stopsWhenNeeded_iff (scriptedRun_reachable muteRun) (Option.some_get muteRun_live).symm

/-- What happened before the blocks were asked for. -/
def mutePast : List Event := muteController.trace.take (muteController.trace.length - 3)

lemma muteController_trace : muteController.trace =
    mutePast ++ .command cmdReadMultiBlock 0 (some ⟨512, 2, 0x3000⟩) true ::
      .data .read 1024 (.caller 0x3000) true ::
        [.command cmdSendStatus (0xCCCC <<< 16) none true] := by
  decide +kernel

lemma mutePast_last : (busCommands mutePast).getLast? = some (cmdSwitchMmc, false) := by
  decide +kernel

/-- Two blocks are read behind the SET_BLOCK_COUNT of the abandoned RPMB request and a SWITCH that
failed, without STOP_TRANSMISSION. -/
theorem not_stopsWhenNeeded_muteCard :
    ¬ ∀ p, (scriptedSystem muteCard).Reachable p → ∀ a c, p.live a = some c →
      StopsWhenNeeded c.trace := by
  intro hall
  have hwell : WellStopped muteController.trace :=
    (hall _ (scriptedRun_reachable muteRun) 1 _ (Option.some_get muteRun_live).symm).2
  have hstop := (hwell mutePast [.command cmdSendStatus (0xCCCC <<< 16) none true]
    ⟨_, _, _, _, _, _, .inr rfl, muteController_trace⟩).mpr (by rw [mutePast_last]; decide)
  exact absurd hstop (by decide)

end SdMmc
end MuPlatform
