import Std.Data.TreeMap
import Switchboard.Connection.Block

/-!
# Tables

A finite map from ids, kept as a search tree by ascending ids. The order is that of the numbers of
the ids; it is total, and no two ids have the same place in it, which is all that the tree asks for.
-/

namespace Switchboard

/-- Ids are ordered by their numbers. -/
def ConnectionId.order (a b : ConnectionId) : Ordering :=
  if a.raw < b.raw then .lt
  else if a.raw = b.raw then .eq
  else .gt

namespace ConnectionId

/-- Only an id itself has its place. -/
theorem eq_of_order {a b : ConnectionId} (h : a.order b = .eq) : a = b := by
  unfold order at h
  split at h
  · cases h
  · split at h
    · next hraw =>
      cases a
      cases b
      exact congrArg mk hraw
    · cases h

/-- An id is no later than another one if its number is no greater. -/
theorem isLE_order {a b : ConnectionId} : (a.order b).isLE ↔ a.raw ≤ b.raw := by
  unfold order
  split
  · simp only [Ordering.isLE_lt, true_iff]
    omega
  · split
    · simp only [Ordering.isLE_eq, true_iff]
      omega
    · simp only [Ordering.isLE_gt, false_iff, Bool.false_eq_true]
      omega

/-- Seen from the other id the order is the opposite. -/
theorem order_swap (a b : ConnectionId) : a.order b = (b.order a).swap := by
  unfold order
  rcases Nat.lt_trichotomy a.raw b.raw with h | h | h
  · simp [h, Nat.lt_asymm h, Nat.ne_of_gt h]
  · simp [h]
  · simp [h, Nat.lt_asymm h, Nat.ne_of_gt h]

instance : Std.TransCmp order where
  eq_swap := order_swap _ _
  isLE_trans hab hbc := isLE_order.2 (Nat.le_trans (isLE_order.1 hab) (isLE_order.1 hbc))

instance : Std.LawfulEqCmp order where
  eq_of_compare := eq_of_order

end ConnectionId

/-- A finite map from ids to values. -/
abbrev Table (α : Type) := Std.TreeMap ConnectionId α ConnectionId.order

end Switchboard
