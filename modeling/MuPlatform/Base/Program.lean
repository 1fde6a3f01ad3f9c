import Mathlib.Data.Nat.Basic
import Mathlib.Tactic.Choose

/-!
# Recursive programs over a state

A program over states `σ` is a function from the state to a result and a state, or to `none`
when it does not come back.  The recursion is *open*: a program that calls itself takes the
called program as an argument, and `Prog.fix` ties the knot with a bound on the number of calls
that may be nested.

`Built R` is the syntax of open programs whose own steps are total and stay within the relation
`R`.  It is shown once per function, by the shape of the function, and gives

* `Built.preserves`: an invariant of `R` and of the called program is an invariant;
* `Built.within`: a preorder above `R` that holds of the called program holds of the whole run;
* `Built.agree`: where two called programs return the same, so do the two callers, and both
  return.

`Triple` is the usual statement about the result, for the programs whose order of steps matters.
`Alone` is for programs that call themselves only to clean up after a failure: the runs that succeed
are those of the steps alone.
-/

namespace MuPlatform

/-- A program over states `σ` with a result in `α`; `none` if it does not come back. -/
def Prog (σ α : Type) : Type := σ → Option (α × σ)

namespace Prog

variable {σ α β ρ : Type}

instance : Monad (Prog σ) where
  pure a := fun s => some (a, s)
  bind c k := fun s => (c s).bind fun r => k r.1 r.2

/-- A step that always comes back. -/
def step (f : σ → α × σ) : Prog σ α := fun s => some (f s)

/-- A value read off the state. -/
def read (f : σ → α) : Prog σ α := step fun s => (f s, s)

/-- A change of the state. -/
def modify (f : σ → σ) : Prog σ Unit := step fun s => ((), f s)

/-- The program that calls itself through its argument, with at most `n` calls nested. -/
def fix (body : (ρ → Prog σ β) → ρ → Prog σ β) : ℕ → ρ → Prog σ β
  | 0, _ => fun _ => none
  | n + 1, r => body (fix body n) r

@[simp] lemma pure_apply (a : α) (s : σ) : (pure a : Prog σ α) s = some (a, s) := rfl

@[simp] lemma step_apply (f : σ → α × σ) (s : σ) : step f s = some (f s) := rfl

@[simp] lemma read_apply (f : σ → α) (s : σ) : read f s = some (f s, s) := rfl

@[simp] lemma modify_apply (f : σ → σ) (s : σ) : modify f s = some ((), f s) := rfl

lemma bind_apply (c : Prog σ α) (k : α → Prog σ β) (s : σ) :
    (c >>= k) s = (c s).bind fun r => k r.1 r.2 := rfl

lemma bind_eq_some {c : Prog σ α} {k : α → Prog σ β} {s u : σ} {b : β} :
    (c >>= k) s = some (b, u) ↔ ∃ a t, c s = some (a, t) ∧ k a t = some (b, u) := by
  rw [bind_apply, Option.bind_eq_some_iff]
  simp [Prod.exists]

lemma bind_of_eq_some {c : Prog σ α} {k : α → Prog σ β} {s t : σ} {a : α}
    (h : c s = some (a, t)) : (c >>= k) s = k a t := by
  rw [bind_apply, h, Option.bind_some]

lemma eq_some_get {c : Prog σ α} {s : σ} (h : (c s).isSome = true) :
    c s = some (((c s).get h).1, ((c s).get h).2) :=
  (Option.some_get h).symm

lemma map_eq_some {c : Prog σ α} {f : α → β} {s t : σ} {b : β} :
    (f <$> c) s = some (b, t) ↔ ∃ a, c s = some (a, t) ∧ f a = b := by
  rw [show f <$> c = c >>= fun a => pure (f a) from rfl, bind_eq_some]
  constructor
  · rintro ⟨a, u, hc, hu⟩
    obtain ⟨rfl, rfl⟩ : f a = b ∧ u = t := by simpa using hu
    exact ⟨a, hc, rfl⟩
  · rintro ⟨a, hc, rfl⟩
    exact ⟨a, t, hc, rfl⟩

/-! ## Triples -/

/-- From a state in `P`, where `c` comes back, result and state satisfy `Q`. -/
def Triple (P : σ → Prop) (c : Prog σ α) (Q : α → σ → Prop) : Prop :=
  ∀ s, P s → ∀ a t, c s = some (a, t) → Q a t

/-- `P` holds after `c` if it held before. -/
abbrev Preserves (P : σ → Prop) (c : Prog σ α) : Prop := Triple P c fun _ => P

/-- The states before and after `c` are related. -/
def Within (R : σ → σ → Prop) (c : Prog σ α) : Prop := ∀ s a t, c s = some (a, t) → R s t

namespace Triple

variable {P P' : σ → Prop} {c : Prog σ α} {k : α → Prog σ β} {Q Q' : α → σ → Prop}
  {T : β → σ → Prop}

lemma bind (hc : Triple P c Q) (hk : ∀ a, Triple (Q a) (k a) T) : Triple P (c >>= k) T := by
  intro s hs b u hrun
  obtain ⟨a, t, hca, hka⟩ := bind_eq_some.mp hrun
  exact hk a t (hc s hs a t hca) b u hka

lemma pure {a : α} (h : ∀ s, P s → Q a s) : Triple P (Pure.pure a : Prog σ α) Q := by
  intro s hs b t hrun
  obtain ⟨rfl, rfl⟩ : a = b ∧ s = t := by simpa using hrun
  exact h s hs

lemma map {f : α → β} (hc : Triple P c fun a => T (f a)) : Triple P (f <$> c) T :=
  bind hc fun _ => pure fun _ hs => hs

lemma step {f : σ → α × σ} (h : ∀ s, P s → Q (f s).1 (f s).2) : Triple P (Prog.step f) Q := by
  intro s hs a t hrun
  have hf : f s = (a, t) := Option.some.inj hrun
  simpa [hf] using h s hs

lemma read {f : σ → α} (h : ∀ s, P s → Q (f s) s) : Triple P (Prog.read f) Q := step h

lemma modify {f : σ → σ} {Q : Unit → σ → Prop} (h : ∀ s, P s → Q () (f s)) :
    Triple P (Prog.modify f) Q := step h

lemma conseq (h : Triple P c Q) (hP : ∀ s, P' s → P s) (hQ : ∀ a s, Q a s → Q' a s) :
    Triple P' c Q' :=
  fun s hs a t hrun => hQ a t (h s (hP s hs) a t hrun)

lemma weaken (h : Triple P c Q) (hQ : ∀ a s, Q a s → Q' a s) : Triple P c Q' :=
  h.conseq (fun _ hs => hs) hQ

lemma strengthen (h : Triple P c Q) (hP : ∀ s, P' s → P s) : Triple P' c Q :=
  h.conseq hP fun _ _ hQ => hQ

lemma and (h : Triple P c Q) (h' : Triple P c Q') : Triple P c fun a s => Q a s ∧ Q' a s :=
  fun s hs a t hrun => ⟨h s hs a t hrun, h' s hs a t hrun⟩

end Triple

lemma Within.triple {R : σ → σ → Prop} {P : σ → Prop} {c : Prog σ α} (h : Within R c)
    (hR : ∀ s t, R s t → P s → P t) : Preserves P c :=
  fun s hs a t hrun => hR s t (h s a t hrun) hs

/-- From a state in `P`, the two programs come back with the same result in a state in `P`. -/
def Agree (P : σ → Prop) (c c' : Prog σ α) : Prop :=
  ∀ s, P s → ∃ a t, c s = some (a, t) ∧ c' s = some (a, t) ∧ P t

lemma Agree.bind {P : σ → Prop} {c c' : Prog σ α} {k k' : α → Prog σ β} (hc : Agree P c c')
    (hk : ∀ a, Agree P (k a) (k' a)) : Agree P (c >>= k) (c' >>= k') := by
  intro s hs
  obtain ⟨a, t, hca, hca', ht⟩ := hc s hs
  obtain ⟨b, u, hkb, hkb', hu⟩ := hk a t ht
  exact ⟨b, u, by rw [bind_of_eq_some hca, hkb], by rw [bind_of_eq_some hca', hkb'], hu⟩

/-! ## Open programs -/

/-- The open programs built from total steps within `R`, calls and sequencing. -/
inductive Built (R : σ → σ → Prop) : ∀ {α : Type}, ((ρ → Prog σ β) → Prog σ α) → Prop
  | step {α : Type} {f : σ → α × σ} (h : ∀ s, R s (f s).2) : Built R fun _ => Prog.step f
  | pure {α : Type} (a : α) : Built R fun _ => Pure.pure a
  | call (r : ρ) : Built R fun recurse => recurse r
  | bind {α γ : Type} {f : (ρ → Prog σ β) → Prog σ α} {g : (ρ → Prog σ β) → α → Prog σ γ}
      (hf : Built R f) (hg : ∀ a, Built R fun recurse => g recurse a) :
      Built R fun recurse => f recurse >>= g recurse

namespace Built

variable {R S : σ → σ → Prop} {f : (ρ → Prog σ β) → Prog σ α}

lemma read {g : σ → α} (h : ∀ s, R s s) :
    Built R fun _ : ρ → Prog σ β => Prog.read g :=
  .step fun s => h s

lemma modify {g : σ → σ} (h : ∀ s, R s (g s)) :
    Built R fun _ : ρ → Prog σ β => Prog.modify g :=
  .step h

/-- A program that always comes back is a step of its own. -/
lemma total {c : Prog σ α} (h : ∀ s, ∃ a t, c s = some (a, t) ∧ R s t) :
    Built R fun _ : ρ → Prog σ β => c := by
  choose a t hrun hR using h
  have hstep : c = Prog.step fun s => (a s, t s) := funext hrun
  rw [hstep]
  exact .step hR

lemma ite {p : Prop} [Decidable p] {g : (ρ → Prog σ β) → Prog σ α} (hf : Built R f)
    (hg : Built R g) : Built R fun recurse => if p then f recurse else g recurse := by
  by_cases hp : p
  · simpa [hp] using hf
  · simpa [hp] using hg

lemma mono (hf : Built R f) (hRS : ∀ s t, R s t → S s t) : Built S f := by
  induction hf with
  | step h => exact .step fun s => hRS _ _ (h s)
  | pure a => exact .pure a
  | call r => exact .call r
  | bind _ _ ihf ihg => exact .bind ihf ihg

/-- What the steps and the called program preserve, the whole program preserves. -/
theorem preserves {P : σ → Prop} (hf : Built R f) (hR : ∀ s t, R s t → P s → P t)
    {recurse : ρ → Prog σ β} (hrec : ∀ r, Preserves P (recurse r)) : Preserves P (f recurse) := by
  induction hf with
  | step h => exact Triple.step fun s hs => hR _ _ (h s) hs
  | pure a => exact Triple.pure fun s hs => hs
  | call r => exact hrec r
  | bind _ _ ihf ihg => exact Triple.bind ihf ihg

/-- A preorder above the steps and the called program relates the ends of the whole program. -/
theorem within {S : σ → σ → Prop} (hf : Built R f) (hrefl : ∀ s, S s s)
    (htrans : ∀ s t u, S s t → S t u → S s u) (hR : ∀ s t, R s t → S s t)
    {recurse : ρ → Prog σ β} (hrec : ∀ r, Within S (recurse r)) : Within S (f recurse) := by
  intro s a t hrun
  have hpres : Preserves (S s) (f recurse) :=
    hf.preserves (fun t u htu hst => htrans _ _ _ hst (hR _ _ htu))
      fun r => (hrec r).triple fun t u htu hst => htrans _ _ _ hst htu
  exact hpres s (hrefl s) a t hrun

/-- Where two called programs return the same, so do the two callers, and both return. -/
theorem agree {P : σ → Prop} (hf : Built R f) (hR : ∀ s t, R s t → P s → P t)
    {recurse recurse' : ρ → Prog σ β} (hrec : ∀ r, Agree P (recurse r) (recurse' r)) :
    Agree P (f recurse) (f recurse') := by
  induction hf with
  | @step _ g h =>
      intro s hs
      exact ⟨(g s).1, (g s).2, rfl, rfl, hR _ _ (h s) hs⟩
  | pure a =>
      intro s hs
      exact ⟨a, s, rfl, rfl, hs⟩
  | call r => exact hrec r
  | bind _ _ ihf ihg => exact Agree.bind ihf ihg

end Built

/-! ## Runs that call nothing -/

/-- A run of `f` whose result is in `ok` has called nothing: it is the run from a program that never
comes back. -/
def Alone (f : (ρ → Prog σ β) → Prog σ α) (ok : α → Prop) : Prop :=
  ∀ recurse s a t, f recurse s = some (a, t) → ok a → f (fun _ _ => none) s = some (a, t)

namespace Alone

variable {f : (ρ → Prog σ β) → Prog σ α} {ok : α → Prop}

lemma const (c : Prog σ α) (ok : α → Prop) : Alone (fun _ : ρ → Prog σ β => c) ok :=
  fun _ _ _ _ hrun _ => hrun

/-- A sequence whose result is in `ok` only if that of its first part is in `ok'`. -/
lemma bind {γ : Type} {g : (ρ → Prog σ β) → α → Prog σ γ} {ok' : γ → Prop} (hf : Alone f ok)
    (hg : ∀ a, ok a → Alone (fun recurse => g recurse a) ok')
    (hbad : ∀ a, ¬ ok a → ∀ recurse s b t, g recurse a s = some (b, t) → ¬ ok' b) :
    Alone (fun recurse => f recurse >>= g recurse) ok' := by
  intro recurse s b u hrun hok
  obtain ⟨a, t, hfa, hga⟩ := bind_eq_some.mp hrun
  have ha : ok a := by_contra fun hna => hbad a hna recurse t b u hga hok
  exact bind_eq_some.mpr ⟨a, t, hf recurse s a t hfa ha, hg a ha recurse t b u hga hok⟩

/-- A sequence that starts with a program which calls nothing. -/
lemma const_bind {γ : Type} (c : Prog σ α) {g : (ρ → Prog σ β) → α → Prog σ γ} {ok' : γ → Prop}
    (hg : ∀ a, Alone (fun recurse => g recurse a) ok') :
    Alone (fun recurse => c >>= g recurse) ok' :=
  (const c fun _ => True).bind (fun a _ => hg a) fun _ hna => absurd trivial hna

lemma ite {p : Prop} [Decidable p] {g : (ρ → Prog σ β) → Prog σ α} (hf : Alone f ok)
    (hg : Alone g ok) : Alone (fun recurse => if p then f recurse else g recurse) ok := by
  by_cases hp : p
  · simpa [hp] using hf
  · simpa [hp] using hg

/-- What the steps preserve, a run that called nothing preserves. -/
lemma triple {R : σ → σ → Prop} {P : σ → Prop} (h : Alone f ok) (hf : Built R f)
    (hR : ∀ s t, R s t → P s → P t) (recurse : ρ → Prog σ β) :
    Triple P (f recurse) fun a s => ok a → P s := by
  have hsteps : Preserves P (f fun _ _ => none) :=
    hf.preserves hR fun r s _ a t hnone => by cases hnone
  exact fun s hs a t hrun hok => hsteps s hs a t (h recurse s a t hrun hok)

end Alone

/-! ## The recursion -/

end Prog

end MuPlatform
