/-!
# Queues

What a connection keeps until somebody collects it, in the order in which it came. New elements are
put at the head of a list, so that adding some takes no longer in a long queue than in a short one.
From outside a queue is the list `toList`, and main statements say what each operation does to it.
-/

namespace Switchboard

/-- Elements that wait to be collected. -/
structure Queue (α : Type) where
  /-- The elements, the one that came last first. -/
  latestFirst : List α
  deriving Repr, DecidableEq

namespace Queue

variable {α : Type}

/-- The queue without elements. -/
def empty : Queue α := ⟨[]⟩

/-- The elements in the order in which they came. -/
def toList (q : Queue α) : List α :=
  q.latestFirst.reverse

/-- Add elements, the first of them first. -/
def append (q : Queue α) (elements : List α) : Queue α :=
  ⟨elements.foldl (fun later element => element :: later) q.latestFirst⟩

/-- The number of elements. -/
def length (q : Queue α) : Nat :=
  q.latestFirst.length

/-- Nothing waits in the empty queue. -/
@[simp]
theorem toList_empty : (empty : Queue α).toList = [] := rfl

/-- Added elements come after all others and keep their order. -/
@[simp]
theorem toList_append (q : Queue α) (elements : List α) :
    (q.append elements).toList = q.toList ++ elements := by
  induction elements generalizing q with
  | nil => simp [append]
  | cons element rest ih =>
    have step : q.append (element :: rest) = (⟨element :: q.latestFirst⟩ : Queue α).append rest :=
      rfl
    rw [step, ih]
    simp [toList]

/-- Elements that are added one part after the other are added all at once. -/
theorem append_append (q : Queue α) (first later : List α) :
    (q.append first).append later = q.append (first ++ later) := by
  simp [append]

end Queue

end Switchboard
