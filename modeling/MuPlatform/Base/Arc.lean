import Mathlib.Data.Finset.Card
import Mathlib.Data.List.Pairwise
import MuPlatform.Base.ByteStore

/-!
# Arcs of an address space

The addresses of a machine are the naturals below a modulus, and the addresses that a length counts
off from one of them may go around its end.  Such a range is an `Arc`.  An address in it has an
index, `index_add`; a family of disjoint arcs that leaves out an address is together shorter than
the address space (`sum_len_lt`).
-/

namespace MuPlatform

/-- The `len` addresses from `lo` upwards, modulo `N`. -/
structure Arc (N : ℕ) where
  lo : ℕ
  len : ℕ
  lo_lt : lo < N
  len_le : len ≤ N

namespace Arc

variable {N : ℕ}

/-- How far `x` is behind the start of the arc. -/
def index (s : Arc N) (x : ℕ) : ℕ := (x + (N - s.lo)) % N

/-- `x` is an address of the arc. -/
def Has (s : Arc N) (x : ℕ) : Prop := x < N ∧ s.index x < s.len

instance (s : Arc N) (x : ℕ) : Decidable (s.Has x) := inferInstanceAs (Decidable (_ ∧ _))

/-- The address number `i`. -/
def nth (s : Arc N) (i : ℕ) : ℕ := (s.lo + i) % N

/-- No address is in both. -/
def Apart (s t : Arc N) : Prop := ∀ x, s.Has x → ¬ t.Has x

/-- The first `k` addresses. -/
def take (s : Arc N) (k : ℕ) (h : k ≤ s.len) : Arc N := ⟨s.lo, k, s.lo_lt, h.trans s.len_le⟩

/-- The addresses behind the first `k`. -/
def drop (s : Arc N) (k : ℕ) : Arc N :=
  ⟨(s.lo + k) % N, s.len - k, Nat.mod_lt _ (Nat.zero_lt_of_lt s.lo_lt),
    (Nat.sub_le _ _).trans s.len_le⟩

variable {s t : Arc N} {i k x : ℕ}

lemma index_of_lt (hx : x < N) :
    s.index x = if s.lo ≤ x then x - s.lo else x + N - s.lo := by
  have hlo := s.lo_lt
  unfold index
  split
  · rw [show x + (N - s.lo) = x - s.lo + N by omega, Nat.add_mod_right, Nat.mod_eq_of_lt (by omega)]
  · rw [Nat.mod_eq_of_lt (by omega)]
    omega

lemma nth_of_lt (hi : i < N) :
    s.nth i = if s.lo + i < N then s.lo + i else s.lo + i - N := by
  have hlo := s.lo_lt
  unfold nth
  split
  · exact Nat.mod_eq_of_lt (by omega)
  · rw [Nat.mod_eq_sub_mod (by omega), Nat.mod_eq_of_lt (by omega)]

lemma nth_lt : s.nth i < N := Nat.mod_lt _ (Nat.zero_lt_of_lt s.lo_lt)

lemma index_lt (hx : x < N) : s.index x < N := Nat.mod_lt _ (Nat.zero_lt_of_lt hx)

lemma index_nth (hi : i < N) : s.index (s.nth i) = i := by
  have hlo := s.lo_lt
  rw [index_of_lt nth_lt, nth_of_lt hi]
  split <;> split <;> omega

lemma nth_index (hx : x < N) : s.nth (s.index x) = x := by
  have hlo := s.lo_lt
  rw [nth_of_lt (index_lt hx), index_of_lt hx]
  split <;> split <;> omega

lemma has_nth (hi : i < s.len) : s.Has (s.nth i) :=
  ⟨nth_lt, by rwa [index_nth (hi.trans_le s.len_le)]⟩

/-- The addresses of an arc, counted off. -/
lemma has_iff : s.Has x ↔ ∃ i < s.len, x = s.nth i := by
  constructor
  · intro h
    exact ⟨s.index x, h.2, (nth_index h.1).symm⟩
  · rintro ⟨i, hi, rfl⟩
    exact has_nth hi

/-- Where the first `k` addresses end, the others begin. -/
lemma index_drop (hk : k ≤ s.len) (hx : x < N) :
    (s.drop k).index x =
      if k ≤ s.index x then s.index x - k else s.index x + N - k := by
  have hlo := s.lo_lt
  have hlen := s.len_le
  have hdrop : (s.drop k).lo = if s.lo + k < N then s.lo + k else s.lo + k - N := by
    by_cases hkN : k < N
    · exact nth_of_lt hkN
    · obtain rfl : k = N := by omega
      rw [if_neg (by omega)]
      show (s.lo + k) % k = _
      rw [Nat.add_mod_right, Nat.mod_eq_of_lt hlo]
      omega
  rw [index_of_lt hx, index_of_lt hx, hdrop]
  split <;> split <;> split <;> split <;> omega

lemma has_drop_iff (hk : k ≤ s.len) : (s.drop k).Has x ↔ s.Has x ∧ k ≤ s.index x := by
  have hlen := s.len_le
  unfold Has
  constructor
  · rintro ⟨hx, h⟩
    have hidx := s.index_lt hx
    rw [index_drop hk hx] at h
    simp only [drop] at h
    split at h <;> omega
  · rintro ⟨⟨hx, h⟩, hle⟩
    rw [index_drop hk hx, if_pos hle]
    simp only [drop]
    omega

lemma has_take_iff (hk : k ≤ s.len) : (s.take k hk).Has x ↔ s.Has x ∧ s.index x < k := by
  unfold Has
  constructor
  · rintro ⟨hx, h⟩
    exact ⟨⟨hx, h.trans_le hk⟩, h⟩
  · rintro ⟨⟨hx, -⟩, h⟩
    exact ⟨hx, h⟩

/-! ## Families of arcs -/

/-- The addresses of an arc, as a finite set. -/
def toFinset (s : Arc N) : Finset ℕ := (Finset.range s.len).image s.nth

lemma mem_toFinset : x ∈ s.toFinset ↔ s.Has x := by
  rw [has_iff, toFinset, Finset.mem_image]
  simp only [Finset.mem_range, eq_comm]

lemma card_toFinset : s.toFinset.card = s.len := by
  rw [toFinset, Finset.card_image_of_injOn, Finset.card_range]
  intro i hi j hj hij
  have hi' := (Finset.mem_range.mp (Finset.mem_coe.mp hi)).trans_le s.len_le
  have hj' := (Finset.mem_range.mp (Finset.mem_coe.mp hj)).trans_le s.len_le
  rw [← @index_nth N s i hi', ← @index_nth N s j hj', hij]

/-- Disjoint arcs have as many addresses as their lengths add up to. -/
lemma exists_finset {l : List (Arc N)} (h : l.Pairwise Apart) :
    ∃ F : Finset ℕ, F.card = (l.map len).sum ∧ ∀ x, x ∈ F ↔ ∃ s ∈ l, s.Has x := by
  induction l with
  | nil => exact ⟨∅, rfl, by simp⟩
  | cons s l ih =>
      obtain ⟨hs, hl⟩ := List.pairwise_cons.mp h
      obtain ⟨F, hcard, hmem⟩ := ih hl
      have hdisjoint : Disjoint s.toFinset F := by
        rw [Finset.disjoint_left]
        intro x hx hxF
        obtain ⟨t, ht, hxt⟩ := (hmem x).mp hxF
        exact hs t ht x (mem_toFinset.mp hx) hxt
      refine ⟨s.toFinset ∪ F, ?_, fun x => ?_⟩
      · rw [Finset.card_union_of_disjoint hdisjoint, hcard, card_toFinset]
        simp
      · rw [Finset.mem_union, mem_toFinset, hmem]
        simp

/-- Disjoint arcs that leave out an address are together shorter than the address space. -/
theorem sum_len_lt {l : List (Arc N)} (h : l.Pairwise Apart) (hx : x < N)
    (hout : ∀ s ∈ l, ¬ s.Has x) : (l.map len).sum < N := by
  obtain ⟨F, hcard, hmem⟩ := exists_finset h
  have hxF : x ∉ F := by
    rw [hmem]
    rintro ⟨s, hs, hin⟩
    exact hout s hs hin
  have hsub : insert x F ⊆ Finset.range N := by
    intro y hy
    rcases Finset.mem_insert.mp hy with rfl | hy
    · exact Finset.mem_range.mpr hx
    · obtain ⟨s, -, hin⟩ := (hmem y).mp hy
      exact Finset.mem_range.mpr hin.1
  have hle := Finset.card_le_card hsub
  rw [Finset.card_insert_of_notMem hxF, Finset.card_range, hcard] at hle
  omega

end Arc

/-! ## Stores -/

namespace ByteStore

variable {N : ℕ} {m : ByteStore} {s : Arc N} {src x : ℕ}

/-- The store with the bytes from `src` upwards copied to an arc, all of them at once. -/
def copyArc (m : ByteStore) (s : Arc N) (src : ℕ) : ByteStore := fun x =>
  if s.Has x then m ((src + s.index x) % N) else m x

/-- The store with an arc set to zero. -/
def clearArc (m : ByteStore) (s : Arc N) : ByteStore := fun x =>
  if s.Has x then 0 else m x

lemma copyArc_on (h : s.Has x) : m.copyArc s src x = m ((src + s.index x) % N) := if_pos h

lemma copyArc_off (h : ¬ s.Has x) : m.copyArc s src x = m x := if_neg h

lemma clearArc_on (h : s.Has x) : m.clearArc s x = 0 := if_pos h

lemma clearArc_off (h : ¬ s.Has x) : m.clearArc s x = m x := if_neg h

end ByteStore

end MuPlatform
