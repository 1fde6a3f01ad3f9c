import Mathlib.Data.List.Nodup
import Mathlib.Data.List.Perm.Basic

/-!
# Linked lists and their traversal

A doubly linked list as the list of its nodes, without repetition.  `next` is the node behind a
node, `moveBefore` unlinks a node and links it in front of another.

`walk` goes through a list from node to node and visits each.  A visit may relink nodes, and the
walk goes on with the node that then follows the visited one.  Visits that leave the order as it
is make the walk go through the list once (`walk_inTurn`); from a visit that moves its own node
in front of another one, the walk goes on there (`next_moveBefore`).

`drain` unlinks a node and goes on behind it until the list is empty.
-/

namespace MuPlatform
namespace LinkedList

variable {α σ : Type*} [DecidableEq α]

/-! ## Lists -/

/-- The node behind `x`. -/
def next (x : α) : List α → Option α
  | [] => none
  | y :: nodes => if y = x then nodes.head? else next x nodes

/-- The list with `x` linked in front of `y`. -/
def insertBefore (x y : α) : List α → List α
  | [] => []
  | z :: nodes => if z = y then x :: z :: nodes else z :: insertBefore x y nodes

/-- The list with `x` unlinked and linked again in front of `y`. -/
def moveBefore (x y : α) (nodes : List α) : List α := insertBefore x y (nodes.filter (· ≠ x))

variable {x y : α} {nodes pre mid post : List α}

omit [DecidableEq α] in
lemma notMem_left (h : (pre ++ x :: post).Nodup) : x ∉ pre := fun hmem =>
  (List.nodup_cons.mp ((List.perm_middle.nodup_iff).mp h)).1 (List.mem_append_left _ hmem)

lemma next_split (h : x ∉ pre) : next x (pre ++ x :: post) = post.head? := by
  induction pre with
  | nil => rw [List.nil_append, next, if_pos rfl]
  | cons z pre ih =>
      rw [List.cons_append, next, if_neg (fun hz : z = x => h (hz ▸ List.mem_cons_self))]
      exact ih fun hmem => h (List.mem_cons_of_mem _ hmem)

lemma insertBefore_split (h : y ∉ pre) :
    insertBefore x y (pre ++ y :: post) = pre ++ x :: y :: post := by
  induction pre with
  | nil => rw [List.nil_append, insertBefore, if_pos rfl, List.nil_append]
  | cons z pre ih =>
      rw [List.cons_append, insertBefore, if_neg (fun hz : z = y => h (hz ▸ List.mem_cons_self)),
        ih fun hmem => h (List.mem_cons_of_mem _ hmem), List.cons_append]

lemma filter_split (h : (pre ++ x :: post).Nodup) :
    (pre ++ x :: post).filter (· ≠ x) = pre ++ post := by
  have hne : ∀ z ∈ pre ++ post, z ≠ x := by
    rintro z hz rfl
    exact (List.nodup_cons.mp ((List.perm_middle.nodup_iff).mp h)).1 hz
  rw [List.filter_append, List.filter_cons_of_neg (by simp), ← List.filter_append]
  exact List.filter_eq_self.mpr fun z hz => decide_eq_true (hne z hz)

/-- A node moved towards the end of the list. -/
lemma moveBefore_forward (h : (pre ++ x :: (mid ++ y :: post)).Nodup) :
    moveBefore x y (pre ++ x :: (mid ++ y :: post)) = pre ++ (mid ++ x :: y :: post) := by
  have hy : y ∉ pre ++ mid := by
    have hrest := (List.nodup_cons.mp ((List.perm_middle.nodup_iff).mp h)).2
    rw [← List.append_assoc] at hrest
    exact notMem_left hrest
  rw [moveBefore, filter_split h, ← List.append_assoc, insertBefore_split hy, List.append_assoc]

/-- A node moved towards the front of the list. -/
lemma moveBefore_backward (h : (pre ++ y :: (mid ++ x :: post)).Nodup) :
    moveBefore x y (pre ++ y :: (mid ++ x :: post)) = pre ++ x :: y :: (mid ++ post) := by
  have hsplit : pre ++ y :: (mid ++ x :: post) = (pre ++ y :: mid) ++ x :: post := by simp
  rw [moveBefore, hsplit, filter_split (hsplit ▸ h), List.append_assoc, List.cons_append,
    insertBefore_split (notMem_left h)]

omit [DecidableEq α] in
/-- The two ways in which two nodes of a list follow each other. -/
lemma split_two (hx : x ∈ nodes) (hy : y ∈ nodes) (hne : y ≠ x) :
    (∃ pre mid post, nodes = pre ++ x :: (mid ++ y :: post)) ∨
      ∃ pre mid post, nodes = pre ++ y :: (mid ++ x :: post) := by
  obtain ⟨pre, post, rfl⟩ := List.append_of_mem hx
  rcases List.mem_append.mp hy with hy | hy
  · obtain ⟨pre, mid, rfl⟩ := List.append_of_mem hy
    exact .inr ⟨pre, mid, post, by simp⟩
  · obtain ⟨mid, post, rfl⟩ := List.append_of_mem ((List.mem_cons.mp hy).resolve_left hne)
    exact .inl ⟨pre, mid, post, rfl⟩

/-- Moving a node relinks the same nodes. -/
lemma moveBefore_perm (h : nodes.Nodup) (hx : x ∈ nodes) (hy : y ∈ nodes) (hne : y ≠ x) :
    (moveBefore x y nodes).Perm nodes := by
  rcases split_two hx hy hne with ⟨pre, mid, post, rfl⟩ | ⟨pre, mid, post, rfl⟩
  · rw [moveBefore_forward h]
    exact List.perm_middle.append_left pre
  · rw [moveBefore_backward h]
    exact ((List.Perm.swap ..).trans (List.perm_middle.symm.cons y)).append_left pre

/-- A node that has been moved stands in front of the one it was moved to. -/
lemma next_moveBefore (h : nodes.Nodup) (hx : x ∈ nodes) (hy : y ∈ nodes) (hne : y ≠ x) :
    next x (moveBefore x y nodes) = some y := by
  have hnodup := (moveBefore_perm h hx hy hne).nodup_iff.mpr h
  rcases split_two hx hy hne with ⟨pre, mid, post, rfl⟩ | ⟨pre, mid, post, rfl⟩
  · rw [moveBefore_forward h] at hnodup ⊢
    rw [← List.append_assoc] at hnodup ⊢
    exact next_split (notMem_left hnodup)
  · rw [moveBefore_backward h] at hnodup ⊢
    exact next_split (notMem_left hnodup)

/-- Moving a node in front of its successor changes nothing. -/
lemma moveBefore_next (h : nodes.Nodup) (hnext : next x nodes = some y) (hx : x ∈ nodes) :
    moveBefore x y nodes = nodes := by
  obtain ⟨pre, post, rfl⟩ := List.append_of_mem hx
  rw [next_split (notMem_left h)] at hnext
  cases post with
  | nil => cases hnext
  | cons z post =>
      obtain rfl : z = y := Option.some.inj hnext
      exact @moveBefore_forward _ _ _ _ _ [] _ h

/-! ## Walks -/

variable (order : σ → List α) (visit : α → σ → σ)

/-- A walk from a node on, of at most `n` visits: the nodes it visits and the state it ends in,
if it gets to the end of the list. -/
def walk : ℕ → Option α → σ → Option (List α × σ)
  | _, none, s => some ([], s)
  | 0, some _, _ => none
  | n + 1, some x, s =>
      (walk n (next x (order (visit x s))) (visit x s)).map fun r => (x :: r.1, r.2)

variable {order visit} {s : σ} {r r' : List α × σ} {n m : ℕ} {xs : List α}

lemma walk_some (h : walk order visit n (some x) s = some r) :
    ∃ n' r', n = n' + 1 ∧ r = (x :: r'.1, r'.2) ∧
      walk order visit n' (next x (order (visit x s))) (visit x s) = some r' := by
  cases n with
  | zero => cases h
  | succ n =>
      rw [walk, Option.map_eq_some_iff] at h
      obtain ⟨r', hwalk, rfl⟩ := h
      exact ⟨n, r', rfl, rfl, hwalk⟩

lemma walk_none : walk order visit n none s = some ([], s) := by
  cases n <;> rfl

/-- However many visits are allowed, a walk that gets to the end is the same. -/
lemma walk_unique {c : Option α} (h : walk order visit n c s = some r)
    (h' : walk order visit m c s = some r') : r = r' := by
  induction n generalizing m c s r r' with
  | zero =>
      cases c with
      | none =>
          rw [walk_none] at h h'
          exact Option.some.inj (h.symm.trans h')
      | some x => cases h
  | succ n ih =>
      cases c with
      | none =>
          rw [walk_none] at h h'
          exact Option.some.inj (h.symm.trans h')
      | some x =>
          obtain ⟨_, r₁, heq, rfl, hwalk⟩ := walk_some h
          obtain ⟨_, r₂, -, rfl, hwalk'⟩ := walk_some h'
          cases heq
          rw [ih hwalk hwalk']

/-- Visits one after the other that all leave the order as it is. -/
def InTurn (order : σ → List α) (visit : α → σ → σ) : List α → σ → Prop
  | [], _ => True
  | x :: xs, s => order (visit x s) = order s ∧ InTurn order visit xs (visit x s)

/-- The state after visits one after the other. -/
def visitAll (visit : α → σ → σ) (xs : List α) (s : σ) : σ := xs.foldl (fun s x => visit x s) s

omit [DecidableEq α] in
lemma InTurn.order_visitAll (h : InTurn order visit xs s) :
    order (visitAll visit xs s) = order s := by
  induction xs generalizing s with
  | nil => rfl
  | cons x xs ih => exact (ih h.2).trans h.1

/-- Visits that leave the order as it is make the walk visit the rest of the list, once. -/
theorem walk_inTurn (hnodup : (order s).Nodup) (horder : order s = pre ++ xs)
    (h : InTurn order visit xs s) :
    walk order visit xs.length xs.head? s = some (xs, visitAll visit xs s) := by
  induction xs generalizing pre s with
  | nil => exact walk_none
  | cons x xs ih =>
      obtain ⟨hsame, hrest⟩ := h
      have hsplit : order (visit x s) = (pre ++ [x]) ++ xs := by rw [hsame, horder]; simp
      have hwalk := ih (hsame ▸ hnodup) hsplit hrest
      rw [List.length_cons, List.head?_cons, walk, hsame, horder,
        next_split (notMem_left (horder ▸ hnodup)), hwalk]
      rfl

/-! ## Emptying a list -/

/-- The node behind `x`, where `none` is the head, and the list with `x` unlinked. -/
def unlink (x : α) (nodes : List α) : Option α × List α :=
  (next x nodes, nodes.filter (· ≠ x))

/-- A loop that unlinks a node and goes on with the one behind it until the list is empty: the
nodes it unlinks and the list it leaves, if it gets there in `n` rounds and never takes the head
for a node. -/
def drain : ℕ → Option α → List α → Option (List α × List α)
  | _, none, _ => none
  | 0, some _, _ => none
  | n + 1, some x, nodes =>
      if (unlink x nodes).2.isEmpty then some ([x], (unlink x nodes).2)
      else (drain n (unlink x nodes).1 (unlink x nodes).2).map fun r => (x :: r.1, r.2)

lemma unlink_head (h : (x :: nodes).Nodup) : unlink x (x :: nodes) = (nodes.head?, nodes) := by
  have hfilter : ([] ++ x :: nodes).filter (· ≠ x) = [] ++ nodes := filter_split h
  rw [List.nil_append, List.nil_append] at hfilter
  rw [unlink, next, if_pos rfl, hfilter]

/-- From the first node on, every node is unlinked, once and in turn. -/
theorem drain_eq (h : (x :: nodes).Nodup) :
    drain (x :: nodes).length (some x) (x :: nodes) = some (x :: nodes, []) := by
  induction nodes generalizing x with
  | nil => rw [List.length_singleton, drain, unlink_head h, List.isEmpty_nil, if_pos rfl]
  | cons y nodes ih =>
      have hrest := ih (List.nodup_cons.mp h).2
      rw [List.length_cons, drain, unlink_head h, List.head?_cons, hrest, List.isEmpty_cons,
        if_neg Bool.false_ne_true, Option.map_some]

end LinkedList
end MuPlatform
