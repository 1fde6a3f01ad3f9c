import Mathlib.Algebra.Order.Group.Multiset
import Mathlib.Data.Multiset.Filter

/-!
# Ledgers of resources

A party is granted resources out of a store and releases them; the store may also take one out
without handing it over.  A ledger is the list of what happened, in order.

`Follows` says that the store agrees with the ledger: what is taken out was in it no longer, what is
released comes back.  `Follows.balance` is the sum over the ledger, and `ReleasesOwn` says that the
party releases what it was granted, and nothing else.  `Leaves` says what a party that releases only
its own is left with.

`Mirrors` compares the ledger of a party with that of the store: the party may not hear of all that
is granted to it, and not all that it releases need reach the store.
-/

namespace MuPlatform

/-- An entry of a ledger. -/
inductive Entry (α : Type*)
  | granted (r : α)
  | withheld (r : α)
  | released (r : α)
  deriving DecidableEq

namespace Ledger

variable {α : Type*}

/-- What was granted. -/
def granted : List (Entry α) → Multiset α
  | [] => 0
  | .granted r :: es => r ::ₘ granted es
  | .withheld _ :: es => granted es
  | .released _ :: es => granted es

/-- What was taken out and not handed over. -/
def withheld : List (Entry α) → Multiset α
  | [] => 0
  | .granted _ :: es => withheld es
  | .withheld r :: es => r ::ₘ withheld es
  | .released _ :: es => withheld es

/-- What was released. -/
def released : List (Entry α) → Multiset α
  | [] => 0
  | .granted _ :: es => released es
  | .withheld _ :: es => released es
  | .released r :: es => r ::ₘ released es

@[simp] lemma granted_append (es es' : List (Entry α)) :
    granted (es ++ es') = granted es + granted es' := by
  induction es with
  | nil => exact (zero_add _).symm
  | cons e es ih => cases e <;> simp [granted, ih]

@[simp] lemma withheld_append (es es' : List (Entry α)) :
    withheld (es ++ es') = withheld es + withheld es' := by
  induction es with
  | nil => exact (zero_add _).symm
  | cons e es ih => cases e <;> simp [withheld, ih]

@[simp] lemma released_append (es es' : List (Entry α)) :
    released (es ++ es') = released es + released es' := by
  induction es with
  | nil => exact (zero_add _).symm
  | cons e es ih => cases e <;> simp [released, ih]

/-- A ledger of a party beside that of the store: what is granted is granted to the party or
withheld from it, and no more is released than the party releases. -/
structure Mirrors {β : Type*} (own : List (Entry α)) (es : List (Entry β)) : Prop where
  granted : Multiset.card (granted es) =
    Multiset.card (granted own) + Multiset.card (withheld own)
  released : Multiset.card (released es) ≤ Multiset.card (released own)

namespace Mirrors

variable {β : Type*} {own own' : List (Entry α)} {es es' : List (Entry β)}

lemma nil : Mirrors ([] : List (Entry α)) ([] : List (Entry β)) := ⟨rfl, le_rfl⟩

lemma append (h : Mirrors own es) (h' : Mirrors own' es') :
    Mirrors (own ++ own') (es ++ es') where
  granted := by
    rw [granted_append, granted_append, withheld_append, Multiset.card_add, Multiset.card_add,
      Multiset.card_add, h.granted, h'.granted]
    exact Nat.add_add_add_comm _ _ _ _
  released := by
    rw [released_append, released_append, Multiset.card_add, Multiset.card_add]
    exact Nat.add_le_add h.released h'.released

end Mirrors

variable [DecidableEq α]

/-- From `m` to `m'` the store agrees with the ledger; `m` is what is taken out of it. -/
def Follows : Multiset α → List (Entry α) → Multiset α → Prop
  | m, [], m' => m' = m
  | m, .granted r :: es, m' => r ∉ m ∧ Follows (r ::ₘ m) es m'
  | m, .withheld r :: es, m' => r ∉ m ∧ Follows (r ::ₘ m) es m'
  | m, .released r :: es, m' => r ∈ m ∧ Follows (m.erase r) es m'

/-- A party that holds `held` releases that and what it is granted, each as often as it has it. -/
def ReleasesOwn : Multiset α → List (Entry α) → Prop
  | held, [] => held = 0
  | held, .granted r :: es => ReleasesOwn (r ::ₘ held) es
  | held, .withheld _ :: es => ReleasesOwn held es
  | held, .released r :: es => r ∈ held ∧ ReleasesOwn (held.erase r) es

/-- A party that holds `held` releases only what it has, and is left with `held'`. -/
def Leaves : Multiset α → List (Entry α) → Multiset α → Prop
  | held, [], held' => held' = held
  | held, .granted r :: es, held' => Leaves (r ::ₘ held) es held'
  | held, .withheld _ :: es, held' => Leaves held es held'
  | held, .released r :: es, held' => r ∈ held ∧ Leaves (held.erase r) es held'

/-- A resource is released, and not again before it has been taken out anew. -/
def ReleasedOnce (r : α) (es : List (Entry α)) : Prop :=
  .released r ∈ es ∧ ∀ before between after,
    es = before ++ .released r :: (between ++ .released r :: after) →
      .granted r ∈ between ∨ .withheld r ∈ between

namespace Follows

variable {m m' m'' : Multiset α} {es es' : List (Entry α)} {r : α}

lemma append (h : Follows m es m') (h' : Follows m' es' m'') : Follows m (es ++ es') m'' := by
  induction es generalizing m with
  | nil =>
      obtain rfl : m' = m := h
      exact h'
  | cons e es ih =>
      cases e with
      | granted r => exact ⟨h.1, ih h.2⟩
      | withheld r => exact ⟨h.1, ih h.2⟩
      | released r => exact ⟨h.1, ih h.2⟩

lemma split (h : Follows m (es ++ es') m'') : ∃ m', Follows m es m' ∧ Follows m' es' m'' := by
  induction es generalizing m with
  | nil => exact ⟨m, rfl, h⟩
  | cons e es ih =>
      cases e with
      | granted r => exact (ih h.2).imp fun _ hrest => ⟨⟨h.1, hrest.1⟩, hrest.2⟩
      | withheld r => exact (ih h.2).imp fun _ hrest => ⟨⟨h.1, hrest.1⟩, hrest.2⟩
      | released r => exact (ih h.2).imp fun _ hrest => ⟨⟨h.1, hrest.1⟩, hrest.2⟩

/-- Nothing is taken out twice. -/
lemma nodup (h : Follows m es m') (hm : m.Nodup) : m'.Nodup := by
  induction es generalizing m with
  | nil =>
      obtain rfl : m' = m := h
      exact hm
  | cons e es ih =>
      cases e with
      | granted r => exact ih h.2 (Multiset.nodup_cons.mpr ⟨h.1, hm⟩)
      | withheld r => exact ih h.2 (Multiset.nodup_cons.mpr ⟨h.1, hm⟩)
      | released r => exact ih h.2 (hm.erase r)

/-- The sum over a ledger. -/
lemma balance (h : Follows m es m') :
    m' + released es = m + granted es + withheld es := by
  induction es generalizing m with
  | nil =>
      obtain rfl : m' = m := h
      simp [released, granted, withheld]
  | cons e es ih =>
      cases e with
      | granted r =>
          rw [released, ih h.2, granted, withheld, Multiset.cons_add, Multiset.add_cons,
            Multiset.cons_add]
      | withheld r =>
          rw [released, ih h.2, granted, withheld, Multiset.cons_add, Multiset.add_cons,
            Multiset.cons_add]
      | released r =>
          rw [released, Multiset.add_cons, ih h.2, granted, withheld, ← Multiset.cons_add,
            ← Multiset.cons_add, Multiset.cons_erase h.1]

/-- What is not taken out is not taken out later, unless it was taken out in between. -/
lemma not_mem (h : Follows m es m') (hr : r ∉ m) (hgranted : .granted r ∉ es)
    (hwithheld : .withheld r ∉ es) : r ∉ m' := by
  induction es generalizing m with
  | nil =>
      obtain rfl : m' = m := h
      exact hr
  | cons e es ih =>
      obtain ⟨hne, hrest⟩ := List.ne_and_not_mem_of_not_mem_cons hgranted
      obtain ⟨hne', hrest'⟩ := List.ne_and_not_mem_of_not_mem_cons hwithheld
      cases e with
      | granted r' =>
          refine ih h.2 (fun hmem => ?_) hrest hrest'
          rcases Multiset.mem_cons.mp hmem with rfl | hmem
          · exact hne rfl
          · exact hr hmem
      | withheld r' =>
          refine ih h.2 (fun hmem => ?_) hrest hrest'
          rcases Multiset.mem_cons.mp hmem with rfl | hmem
          · exact hne' rfl
          · exact hr hmem
      | released r' =>
          exact ih h.2 (fun hmem => hr (Multiset.mem_of_mem_erase hmem)) hrest hrest'

/-- What is taken out stays out until it is released. -/
lemma mem (h : Follows m es m') (hr : r ∈ m) (hreleased : .released r ∉ es) : r ∈ m' := by
  induction es generalizing m with
  | nil =>
      obtain rfl : m' = m := h
      exact hr
  | cons e es ih =>
      obtain ⟨hne, hrest⟩ := List.ne_and_not_mem_of_not_mem_cons hreleased
      cases e with
      | granted r' => exact ih h.2 (Multiset.mem_cons_of_mem hr) hrest
      | withheld r' => exact ih h.2 (Multiset.mem_cons_of_mem hr) hrest
      | released r' =>
          have hother : r ≠ r' := fun heq => hne (heq ▸ rfl)
          exact ih h.2 ((Multiset.mem_erase_of_ne hother).mpr hr) hrest

/-- Between two releases of a resource it was taken out. -/
lemma releasedOnce (h : Follows m es m') (hm : m.Nodup) (hmem : .released r ∈ es) :
    ReleasedOnce r es := by
  refine ⟨hmem, ?_⟩
  rintro before between after rfl
  obtain ⟨m₁, hbefore, hreleased, hrest⟩ := h.split
  obtain ⟨m₂, hbetween, hagain, -⟩ := hrest.split
  have hgone : r ∉ m₁.erase r := (hbefore.nodup hm).notMem_erase
  by_contra hnone
  obtain ⟨hgranted, hwithheld⟩ := not_or.mp hnone
  exact hbetween.not_mem hgone hgranted hwithheld hagain

end Follows

namespace ReleasesOwn

variable {held m m' : Multiset α} {es : List (Entry α)} {r : α}

lemma released_eq (h : ReleasesOwn held es) : released es = held + granted es := by
  induction es generalizing held with
  | nil =>
      obtain rfl : held = 0 := h
      rfl
  | cons e es ih =>
      cases e with
      | granted r =>
          rw [released, ih h, granted, Multiset.cons_add, Multiset.add_cons]
      | withheld r => exact ih h
      | released r =>
          rw [released, ih h.2, granted, ← Multiset.cons_add, Multiset.cons_erase h.1]

end ReleasesOwn

namespace Mirrors

variable {β : Type*} {own : List (Entry α)} {es : List (Entry β)}

/-- A party that releases what it was granted leaves what was withheld from it. -/
lemma card_le (h : Mirrors own es) (hown : ReleasesOwn 0 own) :
    Multiset.card (Ledger.released es) + Multiset.card (withheld own) ≤
      Multiset.card (Ledger.granted es) := by
  have hreleased := h.released
  rw [hown.released_eq, zero_add] at hreleased
  rw [h.granted]
  exact Nat.add_le_add_right hreleased _

end Mirrors

namespace Leaves

variable {held held' held'' : Multiset α} {es es' : List (Entry α)} {r : α}

lemma append (h : Leaves held es held') (h' : Leaves held' es' held'') :
    Leaves held (es ++ es') held'' := by
  induction es generalizing held with
  | nil =>
      obtain rfl : held' = held := h
      exact h'
  | cons e es ih =>
      cases e with
      | granted r => exact ih h
      | withheld r => exact ih h
      | released r => exact ⟨h.1, ih h.2⟩

lemma grant : Leaves held [.granted r] (r ::ₘ held) := rfl

lemma release : Leaves (r ::ₘ held) [.released r] held :=
  ⟨Multiset.mem_cons_self r held, (Multiset.erase_cons_head r held).symm⟩

/-- A release at the end takes back what was there before it. -/
lemma append_release_iff :
    Leaves held (es ++ [.released r]) held' ↔ Leaves held es (r ::ₘ held') := by
  refine ⟨fun h => ?_, fun h => h.append release⟩
  induction es generalizing held with
  | nil =>
      obtain ⟨hmem, herase⟩ := h
      obtain rfl : held' = held.erase r := herase
      exact Multiset.cons_erase hmem
  | cons e es ih =>
      cases e with
      | granted r' => exact ih h
      | withheld r' => exact ih h
      | released r' => exact ⟨h.1, ih h.2⟩

/-- What is left is determined. -/
lemma unique (h : Leaves held es held') (h' : Leaves held es held'') : held' = held'' := by
  induction es generalizing held with
  | nil => exact Eq.trans h (Eq.symm h')
  | cons e es ih =>
      cases e with
      | granted r => exact ih h h'
      | withheld r => exact ih h h'
      | released r => exact ih h.2 h'.2

end Leaves

end Ledger
end MuPlatform
