import MuPlatform.AuthVar.Lifecycle

/-!
# Failures of the initialisation

What `VariableAuthOpteeRuntimeInitialize` returns and leaves behind for every outcome of its
steps.  Every failure goes to one `Exit`, which undoes nothing, and a failure of
`TEEC_InitializeContext` leaves with the status of the step before.

`allOrNothing_iff`: the initialisation is all or nothing only if no step fails, or the first to
fail is one that there is nothing to undo after.
-/

namespace MuPlatform
namespace AuthVar

open Optee

section Outcomes

variable {σ : Type*} (cfg : DriverConfig) (env : DriverEnv σ)

/-- None of the steps goes to `Exit`. -/
def StepsSucceed : List InitStep → DriverState σ → Prop
  | [], _ => True
  | step :: steps, st =>
    (step.run cfg env st).1 = none ∧ StepsSucceed steps (step.run cfg env st).2

/-- The entry point succeeds with all of its steps, and an error leaves nothing behind: no
session, no block, no protocol and no service. -/
structure AllOrNothing (st : DriverState σ) : Prop where
  success_iff : (variableAuthOpteeRuntimeInitialize cfg env st).1 = .success ↔
    StepsSucceed cfg env initSteps st
  undone : (variableAuthOpteeRuntimeInitialize cfg env st).1.isError = true →
    (variableAuthOpteeRuntimeInitialize cfg env st).2.taSession = false ∧
    (variableAuthOpteeRuntimeInitialize cfg env st).2.shm.live = st.shm.live ∧
    (variableAuthOpteeRuntimeInitialize cfg env st).2.variableArch = false ∧
    (variableAuthOpteeRuntimeInitialize cfg env st).2.variableWriteArch = false ∧
    (variableAuthOpteeRuntimeInitialize cfg env st).2.gRT = st.gRT

/-- The first failure is that of `OpteeClientApiInitialize` or of `TEEC_OpenSession`. -/
def FailsEarly (env : DriverEnv σ) : Prop :=
  env.opteeClientApiInitialize.val.isError = true ∨
    (env.teecInitializeContext = teecSuccess ∧ env.teecOpenSession ≠ teecSuccess)

end Outcomes

section Steps

variable {σ : Type*} {cfg : DriverConfig} {env : DriverEnv σ} {st : DriverState σ}
  {step : InitStep} {steps : List InitStep} {status status' : EfiStatus}

lemma isError_of_exitOnError (h : exitOnError status = some status') :
    status'.isError = true := by
  unfold exitOnError at h
  split at h
  next herror => exact Option.some.inj h ▸ herror
  · cases h

/-- A step leaves with an error, except for `TEEC_InitializeContext`. -/
lemma isError_of_run (hstep : step ≠ .teecInitializeContext)
    (h : (step.run cfg env st).1 = some status) : status.isError = true := by
  cases step with
  | teecInitializeContext => exact absurd rfl hstep
  | opteeClientApiInitialize | initSecureBootVariables | installVariableArch
  | installVariableWriteArch | createEvent => exact isError_of_exitOnError h
  | publishServices => cases h
  | teecOpenSession | allocateParam | allocateResult =>
      simp only [InitStep.run] at h
      split at h
      · obtain rfl := Option.some.inj h
        rfl
      · cases h

/-- Without `TEEC_InitializeContext` a success is one of every step. -/
lemma runSteps_success_iff (hsteps : .teecInitializeContext ∉ steps) :
    (runSteps cfg env steps st).1 = .success ↔ StepsSucceed cfg env steps st := by
  induction steps generalizing st with
  | nil => exact iff_of_true rfl trivial
  | cons step steps ih =>
      obtain ⟨hne, hrest⟩ := not_or.mp (List.mem_cons.not.mp hsteps)
      cases hrun : step.run cfg env st with
      | mk exit st' =>
        cases exit with
        | none => simp only [runSteps, StepsSucceed, hrun, true_and, ih hrest]
        | some status =>
            have herror := isError_of_run (Ne.symm hne) (congrArg Prod.fst hrun)
            simp only [runSteps, StepsSucceed, hrun, reduceCtorEq, false_and, iff_false]
            exact EfiStatus.ne_success_of_isError herror

/-- The steps end in success or in an error. -/
lemma runSteps_success_or_error (hsteps : .teecInitializeContext ∉ steps)
    (h : ¬ StepsSucceed cfg env steps st) : (runSteps cfg env steps st).1.isError = true := by
  induction steps generalizing st with
  | nil => exact absurd trivial h
  | cons step steps ih =>
      obtain ⟨hne, hrest⟩ := not_or.mp (List.mem_cons.not.mp hsteps)
      cases hrun : step.run cfg env st with
      | mk exit st' =>
        cases exit with
        | none =>
            simp only [StepsSucceed, hrun, true_and] at h
            simpa only [runSteps, hrun] using ih hrest h
        | some status =>
            simp only [runSteps, hrun]
            exact isError_of_run (Ne.symm hne) (congrArg Prod.fst hrun)

/-- No step closes the session. -/
lemma taSession_run (h : st.taSession = true) : (step.run cfg env st).2.taSession = true := by
  cases step with
  | opteeClientApiInitialize | allocateParam | allocateResult | initSecureBootVariables
  | publishServices => exact h
  | teecInitializeContext | installVariableArch | installVariableWriteArch | createEvent =>
      simp only [InitStep.run]
      split
      · exact h
      · exact h
  | teecOpenSession =>
      simp only [InitStep.run]
      split
      · exact h
      · rfl

lemma taSession_runSteps (h : st.taSession = true) :
    (runSteps cfg env steps st).2.taSession = true := by
  induction steps generalizing st with
  | nil => exact h
  | cons step steps ih =>
      have hstep := @taSession_run σ cfg env st step h
      cases hrun : step.run cfg env st with
      | mk exit st' =>
        rw [hrun] at hstep
        cases exit with
        | none => simpa only [runSteps, hrun] using ih hstep
        | some status => simpa only [runSteps, hrun] using hstep

end Steps

section AllOrNothing

variable {σ : Type*} {cfg : DriverConfig} {env : DriverEnv σ} {st : DriverState σ}

/-- The steps behind `TEEC_OpenSession`. -/
def sessionSteps : List InitStep := initSteps.drop 3

/-- The driver once `TEEC_OpenSession` has succeeded. -/
def DriverState.opened (st : DriverState σ) (sessionId : UInt32) : DriverState σ :=
  { st with sessionId := sessionId, taSession := true, mTeecSessionOpened := true }

/-- The entry point up to the session: where it fails, and how it goes on. -/
lemma initialize_cases :
    (env.opteeClientApiInitialize.val.isError = true ∧
      ¬ StepsSucceed cfg env initSteps st ∧ variableAuthOpteeRuntimeInitialize cfg env st =
        (env.opteeClientApiInitialize.val, st)) ∨
    (env.opteeClientApiInitialize.val = .success ∧ env.teecInitializeContext ≠ teecSuccess ∧
      ¬ StepsSucceed cfg env initSteps st ∧ variableAuthOpteeRuntimeInitialize cfg env st =
        (.success, st)) ∨
    (env.opteeClientApiInitialize.val = .success ∧ env.teecInitializeContext = teecSuccess ∧
      env.teecOpenSession ≠ teecSuccess ∧ ¬ StepsSucceed cfg env initSteps st ∧
      variableAuthOpteeRuntimeInitialize cfg env st = (.protocolError, st)) ∨
    (env.opteeClientApiInitialize.val = .success ∧ env.teecInitializeContext = teecSuccess ∧
      env.teecOpenSession = teecSuccess ∧
      (StepsSucceed cfg env initSteps st ↔
        StepsSucceed cfg env sessionSteps (st.opened env.sessionId)) ∧
      variableAuthOpteeRuntimeInitialize cfg env st =
        runSteps cfg env sessionSteps (st.opened env.sessionId)) := by
  have hsteps : initSteps = .opteeClientApiInitialize :: .teecInitializeContext ::
      .teecOpenSession :: sessionSteps := rfl
  rw [variableAuthOpteeRuntimeInitialize, hsteps]
  rcases env.opteeClientApiInitialize.property with hapi | hapi
  · have hok : exitOnError env.opteeClientApiInitialize.val = none := by rw [hapi]; rfl
    by_cases hcontext : env.teecInitializeContext = teecSuccess
    · by_cases hsession : env.teecOpenSession = teecSuccess
      · refine .inr (.inr (.inr ⟨hapi, hcontext, hsession, ?_, ?_⟩))
        · simp only [StepsSucceed, InitStep.run, hok, hcontext, hsession, ne_eq,
            not_true_eq_false, if_false, true_and]
          rfl
        · simp only [runSteps, InitStep.run, hok, hcontext, hsession, ne_eq,
            not_true_eq_false, if_false]
          rfl
      · refine .inr (.inr (.inl ⟨hapi, hcontext, hsession, ?_, ?_⟩))
        · simp only [StepsSucceed, InitStep.run, hok, hcontext, hsession, ne_eq,
            not_true_eq_false, if_false, not_false_eq_true, if_true, reduceCtorEq, false_and,
            and_false]
        · simp only [runSteps, InitStep.run, hok, hcontext, hsession, ne_eq,
            not_true_eq_false, if_false, not_false_eq_true, if_true]
    · refine .inr (.inl ⟨hapi, hcontext, ?_, ?_⟩)
      · simp only [StepsSucceed, InitStep.run, hok, hcontext, ne_eq, not_false_eq_true, if_true,
          reduceCtorEq, false_and, and_false]
      · simp only [runSteps, InitStep.run, hok, hcontext, ne_eq, not_false_eq_true, if_true]
        rw [hapi]
  · have hexit : exitOnError env.opteeClientApiInitialize.val =
        some env.opteeClientApiInitialize.val := if_pos hapi
    refine .inl ⟨hapi, ?_, ?_⟩
    · simp only [StepsSucceed, InitStep.run, hexit, reduceCtorEq, false_and, not_false_eq_true]
    · simp only [runSteps, InitStep.run, hexit]

/-- An error before the session leaves the driver as it was. -/
lemma allOrNothing_of_error (hfresh : st.Fresh) (hfails : ¬ StepsSucceed cfg env initSteps st)
    {status : EfiStatus} (herror : status.isError = true)
    (hrun : variableAuthOpteeRuntimeInitialize cfg env st = (status, st)) :
    AllOrNothing cfg env st where
  success_iff := by
    rw [hrun]
    exact iff_of_false (EfiStatus.ne_success_of_isError herror) hfails
  undone _ := by
    rw [hrun]
    exact ⟨hfresh.taSession, rfl, hfresh.variableArch, hfresh.variableWriteArch, rfl⟩

/-- A success of every step is a success. -/
lemma allOrNothing_of_success
    (hsuccess : (variableAuthOpteeRuntimeInitialize cfg env st).1 = .success)
    (hsteps : StepsSucceed cfg env initSteps st) : AllOrNothing cfg env st where
  success_iff := iff_of_true hsuccess hsteps
  undone herror := by
    rw [hsuccess] at herror
    cases herror

/-- The initialisation is all or nothing exactly if every step succeeds, or the first to fail
is `OpteeClientApiInitialize` or `TEEC_OpenSession`. -/
theorem allOrNothing_iff (cfg : DriverConfig) (env : DriverEnv σ) (st : DriverState σ)
    (hfresh : st.Fresh) :
    AllOrNothing cfg env st ↔ StepsSucceed cfg env initSteps st ∨ FailsEarly env := by
  have hcontextFree : .teecInitializeContext ∉ sessionSteps := by decide
  rcases @initialize_cases σ cfg env st with ⟨hapi, hfails, hrun⟩ |
    ⟨hapi, hcontext, hfails, hrun⟩ | ⟨hapi, hcontext, hsession, hfails, hrun⟩ |
    ⟨hapi, hcontext, hsession, hsteps, hrun⟩
  · exact iff_of_true (allOrNothing_of_error hfresh hfails hapi hrun) (.inr (.inl hapi))
  · -- the stale status is a success
    refine iff_of_false (fun h => hfails (h.success_iff.mp (by rw [hrun]))) ?_
    rintro (h | h | h)
    · exact hfails h
    · rw [hapi] at h
      cases h
    · exact hcontext h.1
  · exact iff_of_true (allOrNothing_of_error hfresh hfails rfl hrun)
      (.inr (.inr ⟨hcontext, hsession⟩))
  · have hlate : ¬ FailsEarly env := by
      rintro (h | h)
      · rw [hapi] at h
        cases h
      · exact h.2 hsession
    by_cases hall : StepsSucceed cfg env initSteps st
    · refine iff_of_true (allOrNothing_of_success ?_ hall) (.inl hall)
      rw [hrun]
      exact (runSteps_success_iff hcontextFree).mpr (hsteps.mp hall)
    · -- an error behind the session leaves it open
      refine iff_of_false (fun h => ?_) (not_or.mpr ⟨hall, hlate⟩)
      have herror := runSteps_success_or_error hcontextFree fun hgo => hall (hsteps.mpr hgo)
      have hclosed := (h.undone (by rw [hrun]; exact herror)).1
      rw [hrun, taSession_runSteps rfl] at hclosed
      cases hclosed

end AllOrNothing

/-- The first step fails. -/
def failingEnv : DriverEnv Unit :=
  { noMemoryEnv with opteeClientApiInitialize := ⟨.outOfResources, .inr rfl⟩ }

theorem allOrNothing_iff_failingEnv : AllOrNothing twoPageDriver failingEnv loadedDriver :=
  (allOrNothing_iff twoPageDriver failingEnv loadedDriver loadedDriver_fresh).mpr
    (.inr (.inl rfl))

/-- Without memory for the first buffer the session stays open. -/
theorem not_allOrNothing_noMemory : loadedDriver.Fresh ∧
    ¬ AllOrNothing twoPageDriver noMemoryEnv loadedDriver := by
  refine ⟨loadedDriver_fresh, fun h => ?_⟩
  have hclosed := (h.undone rfl).1
  exact absurd hclosed (by decide)

end AuthVar
end MuPlatform
