import Mathlib.Algebra.GroupWithZero.Nat
import Mathlib.Data.List.Pairwise
import Mathlib.Data.Finset.Card
import Mathlib.Order.Interval.Finset.Nat

/-!
# Spans

A span is a half-open range of naturals, given by its first element and its length: a block
of memory, an extent of a disk.  Two spans are `Apart` when one ends before the other begins,
and a family of spans that are pairwise apart inside one span cannot be longer than it
(`sum_len_le_of_apart`).
-/

namespace MuPlatform

/-- The range `[lo, lo + len)`. -/
structure Span where
  lo : ℕ
  len : ℕ
  deriving DecidableEq, Repr

namespace Span

/-- The first element after the span. -/
def hi (s : Span) : ℕ := s.lo + s.len

/-- `x` lies in the span. -/
def Has (s : Span) (x : ℕ) : Prop := s.lo ≤ x ∧ x < s.lo + s.len

/-- `s` lies inside `t`. -/
def Within (s t : Span) : Prop := t.lo ≤ s.lo ∧ s.lo + s.len ≤ t.lo + t.len

/-- One of the spans ends before the other begins. -/
def Apart (s t : Span) : Prop := s.lo + s.len ≤ t.lo ∨ t.lo + t.len ≤ s.lo

instance (s : Span) (x : ℕ) : Decidable (s.Has x) := inferInstanceAs (Decidable (_ ∧ _))
instance (s t : Span) : Decidable (s.Within t) := inferInstanceAs (Decidable (_ ∧ _))
instance (s t : Span) : Decidable (s.Apart t) := inferInstanceAs (Decidable (_ ∨ _))

variable {s t u : Span} {x : ℕ}

lemma Apart.symm (h : s.Apart t) : t.Apart s := Or.symm h

lemma Apart.mono (h : s.Apart t) (hu : u.Within s) : u.Apart t := by
  unfold Apart Within at *
  omega

lemma Apart.not_has (h : s.Apart t) (hx : s.Has x) : ¬ t.Has x := by
  unfold Apart Has at *
  omega

lemma Within.trans (h : s.Within t) (h' : t.Within u) : s.Within u := by
  unfold Within at *
  omega

lemma Within.has (h : s.Within t) (hx : s.Has x) : t.Has x := by
  unfold Within Has at *
  omega

/-- The elements of a span, as a finite set. -/
def toFinset (s : Span) : Finset ℕ := Finset.Ico s.lo (s.lo + s.len)

lemma mem_toFinset : x ∈ s.toFinset ↔ s.Has x := Finset.mem_Ico

@[simp] lemma card_toFinset : s.toFinset.card = s.len := by
  simp [toFinset]

/-- The elements of a family of spans. -/
def union (l : List Span) : Finset ℕ := l.foldr (fun s acc => s.toFinset ∪ acc) ∅

lemma mem_union {l : List Span} : x ∈ union l ↔ ∃ s ∈ l, s.Has x := by
  induction l with
  | nil => simp [union]
  | cons s l ih =>
      have hcons : union (s :: l) = s.toFinset ∪ union l := rfl
      rw [hcons, Finset.mem_union, mem_toFinset, ih]
      simp

/-- A family of spans that are pairwise apart has as many elements as the lengths add up to. -/
lemma card_union {l : List Span} (h : l.Pairwise Apart) :
    (union l).card = (l.map len).sum := by
  induction l with
  | nil => rfl
  | cons s l ih =>
      obtain ⟨hs, hl⟩ := List.pairwise_cons.mp h
      have hdisjoint : Disjoint s.toFinset (union l) := by
        rw [Finset.disjoint_left]
        intro x hx hxl
        obtain ⟨t, ht, hxt⟩ := mem_union.mp hxl
        exact (hs t ht).not_has (mem_toFinset.mp hx) hxt
      have hcons : union (s :: l) = s.toFinset ∪ union l := rfl
      rw [hcons, Finset.card_union_of_disjoint hdisjoint, ih hl, card_toFinset]
      simp

/-- Spans that are pairwise apart inside `t` are together no longer than `t`. -/
theorem sum_len_le_of_apart {l : List Span} (h : l.Pairwise Apart)
    (hin : ∀ s ∈ l, s.Within t) : (l.map len).sum ≤ t.len := by
  rw [← card_union h, ← card_toFinset]
  refine Finset.card_le_card fun x hx => ?_
  obtain ⟨s, hs, hxs⟩ := mem_union.mp hx
  exact mem_toFinset.mpr ((hin s hs).has hxs)

end Span

end MuPlatform
