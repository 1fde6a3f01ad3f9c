import MuPlatform.Base.Program
import MuPlatform.Efi.Status

/-!
# Sequences of calls that return a status

The drivers chain calls that return an `EFI_STATUS` and leave at the first error:

    Status = First ();
    if (EFI_ERROR (Status)) {
      return Status;
    }

`Prog.orReturn` is one such link and `untilError` a list of calls chained so.
-/

namespace MuPlatform

open Prog

variable {σ β ρ : Type}

/-- `c`, and `k` after it unless `c` returned an error. -/
def Prog.orReturn (c k : Prog σ EfiStatus) : Prog σ EfiStatus :=
  c >>= fun status => if status.isError then pure status else k

/-- The calls one after the other, up to the first that returns an error. -/
def untilError : List (Prog σ EfiStatus) → Prog σ EfiStatus
  | [] => pure .success
  | c :: cs => c.orReturn (untilError cs)

namespace Prog

/-- A link behind a call that returned no error. -/
lemma orReturn_of_ok {c k : Prog σ EfiStatus} {s t : σ} {status : EfiStatus}
    (h : c s = some (status, t)) (hok : status.isError = false) : c.orReturn k s = k t := by
  unfold Prog.orReturn
  rw [bind_of_eq_some h, if_neg (by simp [hok])]

/-- A link behind a call that returned an error. -/
lemma orReturn_of_error {c k : Prog σ EfiStatus} {s t : σ} {status : EfiStatus}
    (h : c s = some (status, t)) (herr : status.isError = true) :
    c.orReturn k s = some (status, t) := by
  unfold Prog.orReturn
  rw [bind_of_eq_some h, if_pos herr]
  rfl

lemma orReturn_assoc (c k l : Prog σ EfiStatus) :
    (c.orReturn k).orReturn l = c.orReturn (k.orReturn l) := by
  funext s
  cases hc : c s with
  | none => simp only [Prog.orReturn, bind_apply, hc, Option.bind_none]
  | some r =>
      obtain ⟨status, t⟩ := r
      by_cases herr : status.isError = true
      · rw [orReturn_of_error (orReturn_of_error hc herr) herr, orReturn_of_error hc herr]
      · have hok : status.isError = false := by simpa using herr
        rw [orReturn_of_ok hc hok, Prog.orReturn, bind_apply, orReturn_of_ok hc hok]
        rfl

section Triple

variable {P : σ → Prop} {c k : Prog σ EfiStatus} {Q T : EfiStatus → σ → Prop}

lemma Triple.orReturn (hc : Triple P c Q)
    (herr : ∀ status s, status.isError = true → Q status s → T status s)
    (hk : Triple (fun s => ∃ status, status.isError = false ∧ Q status s) k T) :
    Triple P (c.orReturn k) T := by
  refine hc.bind fun status => ?_
  by_cases hs : status.isError = true
  · rw [if_pos hs]
    exact Triple.pure fun s hq => herr status s hs hq
  · rw [if_neg hs]
    exact hk.strengthen fun s hq => ⟨status, by simpa using hs, hq⟩

/-- What a chain establishes where it returns no error. -/
lemma Triple.orReturn_success {R S : σ → Prop}
    (hc : Triple P c fun status s => status.isError = false → R s)
    (hk : Triple R k fun status s => status.isError = false → S s) :
    Triple P (c.orReturn k) fun status s => status.isError = false → S s := by
  refine Triple.orReturn hc (fun status s herr _ hok => ?_) (hk.strengthen ?_)
  · rw [herr] at hok
    cases hok
  · rintro s ⟨status, hok, hs⟩
    exact hs hok

/-- Nothing is known before a link, and nothing behind it. -/
lemma Triple.skip (c : Prog σ EfiStatus) :
    Triple (fun _ => True) c fun status _ => status.isError = false → True :=
  fun _ _ _ _ _ _ => trivial

lemma Preserves.orReturn (hc : Preserves P c) (hk : Preserves P k) :
    Preserves P (c.orReturn k) := by
  refine Triple.orReturn hc (fun _ _ _ hs => hs) (hk.strengthen ?_)
  rintro s ⟨-, -, hs⟩
  exact hs

end Triple

section Built

variable {R : σ → σ → Prop}

lemma Built.orReturn {f g : (ρ → Prog σ β) → Prog σ EfiStatus} (hf : Built R f)
    (hg : Built R g) : Built R fun recurse => (f recurse).orReturn (g recurse) :=
  .bind hf fun _ => .ite (.pure _) hg

end Built

/-! ## Success -/

/-- The runs that return no error have called nothing. -/
abbrev SucceedsAlone (f : (ρ → Prog σ β) → Prog σ EfiStatus) : Prop :=
  Alone f fun status => status.isError = false

/-- A chain returns no error only if none of its links does. -/
lemma Alone.orReturn {f g : (ρ → Prog σ β) → Prog σ EfiStatus} (hf : SucceedsAlone f)
    (hg : SucceedsAlone g) : SucceedsAlone fun recurse => (f recurse).orReturn (g recurse) := by
  refine Alone.bind hf (fun status hok => ?_) fun status hnot recurse s status' t hrun => ?_
  · simpa [hok] using hg
  · rw [if_pos (by simpa using hnot)] at hrun
    obtain ⟨rfl, -⟩ : status = status' ∧ s = t := by simpa using hrun
    exact hnot

end Prog

end MuPlatform
