import MuPlatform.Base.Runs
import MuPlatform.SdMmc.ScriptedCard

/-!
# Waiting for the transfer state

`SdhcWaitForTranStateAndReadyForData` polls the card with SEND_STATUS, once and then up to
`SDMMC_POLL_WAIT_COUNT` times more.  `notReadyPolls` has the polls that succeed and show a card
that is not ready as its steps, so that a run of it is what comes before the poll that decides.

The loop counts a poll before it looks at the answer, and afterwards the function looks at the
counter alone: the last poll is a timeout whatever it shows (`waitExact_iff`).
-/

namespace MuPlatform
namespace SdMmc

open Prog

/-! ## Polls -/

/-- The card takes the next transfer: READY_FOR_DATA, in the transfer state. -/
def CardStatus.Ready (s : CardStatus) : Prop :=
  s.readyForData = true ∧ s.currentState = cardStateTran

instance (s : CardStatus) : Decidable s.Ready := inferInstanceAs (Decidable (_ ∧ _))

section Polls

variable {H B : Type} (host : SdhcHost H) (recover : SdCommand → Prog (World H B) EfiStatus)

/-- The polls that succeed and show the card not ready, labelled by what they show. -/
def notReadyPolls : System (World H B) CardStatus where
  Init _ := True
  Step w s w' := sdhcSendStatus host recover w = some (.ok s, w') ∧ ¬ s.Ready

/-- The polls `statuses` show the card not ready, and the next one, from `u`, ends the waiting. -/
def DecidesAfter (w : World H B) (statuses : List CardStatus) (u : World H B)
    (result : Except EfiStatus CardStatus) (v : World H B) : Prop :=
  (notReadyPolls host recover).Run w statuses u ∧ sdhcSendStatus host recover u = some (result, v) ∧
    ∀ s, result = .ok s → s.Ready

variable {host recover} {w u v u' v' : World H B} {statuses statuses' : List CardStatus}
  {result result' : Except EfiStatus CardStatus}

lemma notReadyPolls_deterministic : (notReadyPolls host recover).Deterministic := by
  rintro w s u s' u' ⟨hsend, -⟩ ⟨hsend', -⟩
  rw [hsend] at hsend'
  cases hsend'
  exact ⟨rfl, rfl⟩

lemma DecidesAfter.stuck (h : DecidesAfter host recover w statuses u result v) (s : CardStatus)
    (v' : World H B) : ¬ (notReadyPolls host recover).Step u s v' := by
  rintro ⟨hsend, hnot⟩
  obtain ⟨-, hsend', hready⟩ := h
  rw [hsend] at hsend'
  cases hsend'
  exact hnot (hready s rfl)

/-- One poll at most ends the waiting. -/
lemma DecidesAfter.unique (h : DecidesAfter host recover w statuses u result v)
    (h' : DecidesAfter host recover w statuses' u' result' v') :
    statuses = statuses' ∧ result = result' ∧ v = v' := by
  obtain ⟨rfl, rfl⟩ := h.1.unique notReadyPolls_deterministic h'.1 h.stuck h'.stuck
  have hsend := h.2.1.symm.trans h'.2.1
  cases hsend
  exact ⟨rfl, rfl, rfl⟩

/-- No poll ends the waiting while the card is shown not ready. -/
lemma DecidesAfter.length_le (h : DecidesAfter host recover w statuses u result v)
    (hrun : (notReadyPolls host recover).Run w statuses' u') :
    statuses'.length ≤ statuses.length := by
  obtain ⟨rest, rfl, -⟩ := hrun.continues notReadyPolls_deterministic h.1 h.stuck
  rw [List.length_append]
  exact Nat.le_add_right _ _

/-- What SEND_STATUS fails with is an error. -/
lemma sdhcSendStatus_error {e : EfiStatus}
    (h : sdhcSendStatus host recover w = some (.error e, v)) : e.isError = true := by
  obtain ⟨rca, w₁, hrca, hrest⟩ := bind_eq_some.mp h
  obtain ⟨status, w₂, -, hend⟩ := bind_eq_some.mp hrest
  split at hend
  case isTrue herr =>
    cases hend
    exact herr
  case isFalse =>
    obtain ⟨cardStatus, w₃, -, hpure⟩ := bind_eq_some.mp hend
    cases hpure

/-! ## The loop -/

/-- The loop goes on while the card is shown not ready and the counter allows it; a poll that fails
ends it, and so does a ready card, unless the counter is used up. -/
lemma pollTranState_outcome {n : ℕ} {s : CardStatus} {run : EfiStatus × World H B}
    (h : pollTranState host recover n s v = some run)
    (hsend : sdhcSendStatus host recover u = some (.ok s, v)) :
    ∃ statuses u' result v', (notReadyPolls host recover).Run u statuses u' ∧
      sdhcSendStatus host recover u' = some (result, v') ∧ run.2 = v' ∧
      match result with
      | .error e => statuses.length ≤ n ∧ run.1 = e
      | .ok s' => (statuses.length < n ∧ s'.Ready ∧ run.1 = .success) ∨
          (statuses.length = n ∧ run.1 = .timeout) := by
  induction n generalizing s u v with
  | zero =>
      cases h
      exact ⟨[], u, .ok s, v, .nil u, hsend, rfl, .inr ⟨rfl, rfl⟩⟩
  | succ n ih =>
      rw [pollTranState] at h
      split at h
      case isTrue hnot =>
        have hstep : (notReadyPolls host recover).Step u s v := by
          refine ⟨hsend, fun hready => ?_⟩
          rcases hnot with hnot | hnot
          · rw [hready.1] at hnot
            cases hnot
          · exact hnot hready.2
        obtain ⟨result, v₁, hsend₁, hrest⟩ := bind_eq_some.mp h
        cases result with
        | error e =>
            obtain rfl : (e, v₁) = run := Option.some.inj hrest
            exact ⟨[s], v, .error e, v₁, .cons hstep (.nil v), hsend₁, rfl,
              Nat.succ_le_succ (Nat.zero_le n), rfl⟩
        | ok s₁ =>
            obtain ⟨statuses, u', result, v', hrun, hlast, hend, hcase⟩ := ih hrest hsend₁
            refine ⟨s :: statuses, u', result, v', .cons hstep hrun, hlast, hend, ?_⟩
            cases result with
            | error e => exact ⟨Nat.succ_le_succ hcase.1, hcase.2⟩
            | ok s' =>
                rcases hcase with ⟨hlength, hready, hstatus⟩ | ⟨hlength, hstatus⟩
                · exact .inl ⟨Nat.succ_lt_succ hlength, hready, hstatus⟩
                · exact .inr ⟨congrArg (· + 1) hlength, hstatus⟩
      case isFalse hready =>
        cases h
        obtain ⟨hdata, hstate⟩ := not_or.mp hready
        exact ⟨[], u, .ok s, v, .nil u, hsend, rfl,
          .inl ⟨Nat.succ_pos n, ⟨by simpa using hdata, not_not.mp hstate⟩, rfl⟩⟩

/-- What the function returns, by the poll it ends with. -/
lemma wait_outcome {run : EfiStatus × World H B}
    (h : sdhcWaitForTranStateAndReadyForData host recover w = some run) :
    ∃ statuses u result v, (notReadyPolls host recover).Run w statuses u ∧
      sdhcSendStatus host recover u = some (result, v) ∧ run.2 = v ∧
      match result with
      | .error e => statuses.length ≤ sdmmcPollWaitCount ∧ run.1 = e
      | .ok s => (statuses.length < sdmmcPollWaitCount ∧ s.Ready ∧ run.1 = .success) ∨
          (statuses.length = sdmmcPollWaitCount ∧ run.1 = .timeout) := by
  obtain ⟨result, v, hsend, hrest⟩ := bind_eq_some.mp h
  cases result with
  | error e =>
      obtain rfl : (e, v) = run := Option.some.inj hrest
      exact ⟨[], w, .error e, v, .nil w, hsend, rfl, Nat.zero_le _, rfl⟩
  | ok s => exact pollTranState_outcome hrest hsend

/-! ## Exactness -/

variable (host recover w)

/-- One of the polls shows the card ready and the ones before it show it not ready. -/
def ReadyWithin (n : ℕ) : Prop :=
  ∃ statuses u s v, statuses.length ≤ n ∧ DecidesAfter host recover w statuses u (.ok s) v

/-- Only the last poll shows the card ready. -/
def ReadyAtLast : Prop :=
  ∃ statuses u s v, statuses.length = sdmmcPollWaitCount ∧
    DecidesAfter host recover w statuses u (.ok s) v

/-- The function should succeed exactly where a poll shows the card ready, and stop there; fail
with the status of a poll that fails; and report a timeout of its own only where all polls show
the card not ready. -/
structure WaitExact (run : EfiStatus × World H B) : Prop where
  success : run.1 = .success ↔ ReadyWithin host recover w sdmmcPollWaitCount
  stops : ∀ statuses u s v, statuses.length ≤ sdmmcPollWaitCount →
    DecidesAfter host recover w statuses u (.ok s) v → run.2 = v
  fails : ∀ statuses u e v, statuses.length ≤ sdmmcPollWaitCount →
    DecidesAfter host recover w statuses u (.error e) v → run = (e, v)
  timeout : run.1 = .timeout →
    (∃ statuses v, statuses.length = sdmmcPollWaitCount + 1 ∧
      (notReadyPolls host recover).Run w statuses v) ∨
    ∃ statuses u v, statuses.length ≤ sdmmcPollWaitCount ∧
      DecidesAfter host recover w statuses u (.error .timeout) v

/-- The status of a waiting that a poll ends. -/
def pollStatus : Except EfiStatus CardStatus → EfiStatus
  | .ok _ => .success
  | .error e => e

variable {host recover w} {run : EfiStatus × World H B}

/-- A function that comes to its end with the poll that decides is exact. -/
lemma waitExact_of_decided
    (h : DecidesAfter host recover w statuses u result v)
    (hlength : statuses.length ≤ sdmmcPollWaitCount) (hend : run.2 = v)
    (hstatus : run.1 = pollStatus result) :
    WaitExact host recover w run := by
  refine ⟨⟨fun hsuccess => ?_, ?_⟩, ?_, ?_, fun htimeout => ?_⟩
  · cases result with
    | ok s => exact ⟨statuses, u, s, v, hlength, h⟩
    | error e =>
        have herr := sdhcSendStatus_error h.2.1
        rw [show e = run.1 from hstatus.symm, hsuccess] at herr
        cases herr
  · rintro ⟨statuses', u', s', v', -, h'⟩
    obtain ⟨-, rfl, -⟩ := h.unique h'
    exact hstatus
  · intro statuses' u' s' v' _ h'
    obtain ⟨-, -, rfl⟩ := h.unique h'
    exact hend
  · intro statuses' u' e' v' _ h'
    obtain ⟨-, rfl, rfl⟩ := h.unique h'
    exact Prod.ext hstatus hend
  · cases result with
    | ok s =>
        rw [hstatus] at htimeout
        cases htimeout
    | error e =>
        obtain rfl : e = .timeout := hstatus.symm.trans htimeout
        exact .inr ⟨statuses, u, v, hlength, h⟩

/-- A timeout after as many polls as are allowed, none of which shows the card ready, is exact. -/
lemma waitExact_of_timeout (hrun : (notReadyPolls host recover).Run w statuses v)
    (hlength : statuses.length = sdmmcPollWaitCount + 1) (hstatus : run.1 = .timeout) :
    WaitExact host recover w run := by
  have hnone {statuses' : List CardStatus} {u' v' : World H B}
      {result' : Except EfiStatus CardStatus} (hle : statuses'.length ≤ sdmmcPollWaitCount)
      (h' : DecidesAfter host recover w statuses' u' result' v') : False := by
    have hlong := h'.length_le hrun
    omega
  refine ⟨⟨fun hsuccess => ?_, ?_⟩, ?_, ?_, fun _ => .inl ⟨statuses, v, hlength, hrun⟩⟩
  · rw [hstatus] at hsuccess
    cases hsuccess
  · rintro ⟨statuses', u', s', v', hle, h'⟩
    exact (hnone hle h').elim
  · exact fun _ _ _ _ hle h' => (hnone hle h').elim
  · exact fun _ _ _ _ hle h' => (hnone hle h').elim

/-- A card that only the last poll shows ready is reported as a timeout. -/
lemma not_waitExact_of_readyAtLast
    (h : sdhcWaitForTranStateAndReadyForData host recover w = some run)
    (hlast : ReadyAtLast host recover w) : ¬ WaitExact host recover w run := by
  obtain ⟨statuses, u, s, v, hlength, hdecides⟩ := hlast
  intro hexact
  have hsuccess := hexact.success.mpr ⟨statuses, u, s, v, hlength.le, hdecides⟩
  obtain ⟨statuses', u', result', v', hrun', hsend', -, hcase⟩ := wait_outcome h
  cases result' with
  | error e =>
      obtain ⟨-, hresult, -⟩ := hdecides.unique ⟨hrun', hsend', fun s hs => by cases hs⟩
      cases hresult
  | ok s' =>
      rcases hcase with ⟨hlength', hready', -⟩ | ⟨-, htimeout⟩
      · obtain ⟨rfl, -, -⟩ := hdecides.unique ⟨hrun', hsend', fun s hs => by
          cases hs
          exact hready'⟩
        omega
      · rw [hsuccess] at htimeout
        cases htimeout

lemma waitExact_iff_of_run (h : sdhcWaitForTranStateAndReadyForData host recover w = some run) :
    WaitExact host recover w run ↔ ¬ ReadyAtLast host recover w := by
  refine ⟨fun hexact hlast => not_waitExact_of_readyAtLast h hlast hexact, fun hnot => ?_⟩
  obtain ⟨statuses, u, result, v, hrun, hsend, hend, hcase⟩ := wait_outcome h
  cases result with
  | error e =>
      have hdecides : DecidesAfter host recover w statuses u (.error e) v :=
        ⟨hrun, hsend, fun s hs => by cases hs⟩
      exact waitExact_of_decided hdecides hcase.1 hend hcase.2
  | ok s =>
      rcases hcase with ⟨hlength, hready, hstatus⟩ | ⟨hlength, hstatus⟩
      · have hdecides : DecidesAfter host recover w statuses u (.ok s) v :=
          ⟨hrun, hsend, fun s hs => by
            cases hs
            exact hready⟩
        exact waitExact_of_decided hdecides hlength.le hend hstatus
      · have hnotReady : ¬ s.Ready := fun hready =>
          hnot ⟨statuses, u, s, v, hlength, hrun, hsend, fun s hs => by
            cases hs
            exact hready⟩
        refine waitExact_of_timeout (hrun.append (.cons ⟨hsend, hnotReady⟩ (.nil v))) ?_ hstatus
        rw [List.length_append, hlength]
        rfl

end Polls

lemma wait_returns {H B : Type} (host : SdhcHost H) (boot : BootServices B) (w : World H B) :
    ∃ run, sdhcWaitForTranStateAndReadyForData host (recovery host boot) w = some run := by
  have hbuilt : DriverProg host boot (sdhcWaitForTranStateAndReadyForData host) :=
    wait_steps
  obtain ⟨status, w', hrun, -⟩ := hbuilt.returns w
  exact ⟨_, hrun⟩

/-- The function is exact for every card except one that only the last poll shows ready. -/
theorem waitExact_iff {H B : Type} (host : SdhcHost H) (boot : BootServices B) (w : World H B) :
    ∃ run, sdhcWaitForTranStateAndReadyForData host (recovery host boot) w = some run ∧
      (WaitExact host (recovery host boot) w run ↔ ¬ ReadyAtLast host (recovery host boot) w) := by
  obtain ⟨run, hrun⟩ := wait_returns host boot w
  exact ⟨run, hrun, waitExact_iff_of_run hrun⟩

/-! ## A card that is ready at the last poll -/

/-- A host controller with a card that programs, without being ready for data, until it has been
sent as many commands as there are polls but one. -/
def slowHost : SdhcHost ℕ where
  capabilities := ⟨512, 8⟩
  cleanup n := n
  sendCommand _ _ _ n := (.success, n)
  receiveResponse _ _ n :=
    (.success, fun _ => if n < sdmmcPollWaitCount then 0xE00 else 0x900, n + 1)
  softwareReset _ n := (.success, n)
  setClock _ n := (.success, n)
  setBusWidth _ n := (.success, n)
  isCardPresent n := (true, n)
  isReadOnly n := (false, n)
  readBlockData _ n := (.success, fun _ => 0, n)
  writeBlockData _ _ n := (.success, n)

/-- The instance of a new card. -/
def slowWorld : World ℕ (ℕ × List Published) where
  address := 1
  inst := createSdhcInstance 0 slowHost.capabilities
  trace := []
  resultRequest := fun _ => 0
  callerMemory := fun _ => 0
  host := 0
  boot := (0, [])

section SlowCard

variable {B : Type} {recover : SdCommand → Prog (World ℕ B) EfiStatus}

lemma slowHost_poll (w : World ℕ B) : ∃ w', sdhcSendStatus slowHost recover w =
    some (.ok (if w.host < sdmmcPollWaitCount then 0xE00 else 0x900), w') ∧
      w'.host = w.host + 1 := by
  have hsilent (f : CardFunction) (n : ℕ) :
      isCardStatusError f (if n < sdmmcPollWaitCount then 0xE00 else 0x900) = false := by
    split
    · cases f <;> decide
    · cases f <;> decide
  have hx (arg : BitVec 32) : hostExchange slowHost.toSdhcProtocol cmdSendStatus arg none
      w.inst.toSdhcInstance w.host = (.success,
        fun _ => if w.host < sdmmcPollWaitCount then 0xE00 else 0x900, w.host + 1) := rfl
  let w' := (afterCommand slowHost cmdSendStatus (w.inst.rca <<< 16) none w).2
  have hafter : (afterCommand slowHost cmdSendStatus (w.inst.rca <<< 16) none w).1 = .success ∧
      w'.inst.cmdResponse 0 = (if w.host < sdmmcPollWaitCount then 0xE00 else 0x900) ∧
      w'.host = w.host + 1 := by
    simp only [w', afterCommand, sdhcSendCommandHelper, hx, hsilent, Bool.and_false,
      Bool.false_eq_true, if_false, EfiStatus.isError_success, and_self]
  have hsend : sendOrRecover slowHost recover cmdSendStatus (w.inst.rca <<< 16) w =
      some (.success, w') := by
    unfold sendOrRecover
    rw [bind_of_eq_some (show sendCommandHelper slowHost cmdSendStatus (w.inst.rca <<< 16) none w =
      some (.success, w') by rw [sendCommandHelper, step_apply, ← hafter.1])]
    rfl
  refine ⟨w', ?_, hafter.2.2⟩
  unfold sdhcSendStatus
  rw [bind_of_eq_some (show inspect (·.rca) w = some (w.inst.rca, w) from rfl),
    bind_of_eq_some hsend, ← hafter.2.1]
  rfl

/-- The polls before the last. -/
lemma slowHost_polls (n : ℕ) (w : World ℕ B) (h : w.host + n = sdmmcPollWaitCount) :
    ∃ statuses u, statuses.length = n ∧ (notReadyPolls slowHost recover).Run w statuses u ∧
      u.host = sdmmcPollWaitCount := by
  induction n generalizing w with
  | zero => exact ⟨[], w, rfl, .nil w, h⟩
  | succ n ih =>
      obtain ⟨w', hsend, hhost⟩ := @slowHost_poll B recover w
      rw [if_pos (by omega)] at hsend
      obtain ⟨statuses, u, hlength, hrun, hlast⟩ := ih w' (by omega)
      exact ⟨_ :: statuses, u, congrArg (· + 1) hlength, .cons ⟨hsend, by decide⟩ hrun, hlast⟩

lemma slowHost_readyAtLast (w : World ℕ B) (h : w.host = 0) :
    ReadyAtLast slowHost recover w := by
  obtain ⟨statuses, u, hlength, hrun, hlast⟩ :=
    @slowHost_polls B recover sdmmcPollWaitCount w (by omega)
  obtain ⟨v, hsend, -⟩ := @slowHost_poll B recover u
  rw [if_neg (by omega)] at hsend
  refine ⟨statuses, u, _, v, hlength, hrun, hsend, fun s hs => ?_⟩
  obtain rfl := Except.ok.inj hs
  decide

end SlowCard

/-- The last poll shows the card ready, and the function times out. -/
theorem not_waitExact_slowCard :
    ∃ run, sdhcWaitForTranStateAndReadyForData slowHost
        (recovery slowHost (scriptedBoot (.quiet false))) slowWorld = some run ∧
      ¬ WaitExact slowHost (recovery slowHost (scriptedBoot (.quiet false))) slowWorld run := by
  obtain ⟨run, hrun⟩ := wait_returns slowHost (scriptedBoot (.quiet false)) slowWorld
  exact ⟨run, hrun, not_waitExact_of_readyAtLast hrun (slowHost_readyAtLast _ rfl)⟩

end SdMmc
end MuPlatform
