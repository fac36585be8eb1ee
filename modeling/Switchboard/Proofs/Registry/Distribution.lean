import Mathlib.Algebra.BigOperators.Group.List.Basic
import Switchboard.Proofs.Registry.Totals

/-!
# The distribution of a census

A census lists the states in which connections are held, each once and with the number of the
connections in it; states without connections are left out (`mem_distribute`). So every connection is
counted in one entry, and the entries add up to the number of connections (`sum_distribute`).
-/

namespace Switchboard

/-- Every state is one of those that are reported. -/
theorem State.mem_all (s : State) : s ∈ State.all := by
  cases s <;> decide

namespace Census

variable {connections : List Connection} {s : State} {n : Nat}

/-- An entry says how many connections are in a state, if there are any. -/
theorem mem_distribute :
    (s, n) ∈ distribute connections ↔ countIn connections s = n ∧ n ≠ 0 := by
  rw [distribute, List.mem_filter, List.mem_map, decide_eq_true_iff]
  constructor
  · rintro ⟨⟨s', -, heq⟩, hn⟩
    obtain ⟨rfl, hcount⟩ := Prod.mk.inj heq
    exact ⟨hcount, hn⟩
  · rintro ⟨rfl, hn⟩
    exact ⟨⟨s, s.mem_all, rfl⟩, hn⟩

/-- No state has two entries. -/
theorem nodup_distribute (connections : List Connection) :
    ((distribute connections).map Prod.fst).Nodup := by
  have hstates : ((State.all.map fun s => (s, countIn connections s)).map Prod.fst) = State.all := by
    rw [List.map_map]
    exact List.map_id _
  have hall : State.all.Nodup := by decide
  exact (hstates ▸ hall).sublist (List.filter_sublist.map Prod.fst)

/-- Leaving out the states without connections changes no sum. -/
theorem sum_distribute_eq (connections : List Connection) :
    ((distribute connections).map Prod.snd).sum = (State.all.map (countIn connections)).sum := by
  rw [distribute]
  induction State.all with
  | nil => rfl
  | cons s rest ih =>
    rw [List.map_cons, List.filter_cons, List.map_cons, List.sum_cons, ← ih]
    by_cases hn : countIn connections s = 0
    · simp [hn]
    · simp [hn]

/-- A connection is in exactly one state. -/
theorem sum_states (s : State) : (State.all.map fun s' => if s = s' then 1 else 0).sum = 1 := by
  cases s <;> rfl

/-- The entries add up to the number of connections. -/
theorem sum_distribute (connections : List Connection) :
    ((distribute connections).map Prod.snd).sum = connections.length := by
  rw [sum_distribute_eq]
  induction connections with
  | nil => rfl
  | cons c rest ih =>
    have hcons : countIn (c :: rest) =
        fun s => countIn rest s + if c.state = s then 1 else 0 := by
      funext s
      simp [countIn, List.countP_cons]
    rw [hcons, List.sum_map_add, ih, sum_states, List.length_cons]

/-- A census finds in a state what it has counted there. -/
theorem inState_take (retired : Tally) (connections : List Connection) (s : State) :
    (take retired connections).inState s = countIn connections s := by
  rw [inState]
  cases hfind : (take retired connections).distribution.find? fun entry => entry.1 = s with
  | some entry =>
    obtain ⟨s', n⟩ := entry
    have hkey := List.find?_some hfind
    obtain rfl : s' = s := of_decide_eq_true hkey
    exact (mem_distribute.1 (List.mem_of_find?_eq_some hfind)).1.symm
  | none =>
    by_contra hcount
    have hentry := mem_distribute.2 ⟨rfl, Ne.symm hcount⟩
    exact List.find?_eq_none.1 hfind _ hentry (decide_eq_true rfl)

end Census

namespace Registry

/-- The census of a registry finds in a state the connections that are held in it. -/
theorem inState_census (r : Registry) (s : State) :
    r.census.inState s = Census.countIn r.connections s :=
  Census.inState_take ..

/-- An entry of the census of a registry says how many connections are held in a state. -/
theorem mem_distribution {r : Registry} {s : State} {n : Nat} :
    (s, n) ∈ r.census.distribution ↔ Census.countIn r.connections s = n ∧ n ≠ 0 :=
  Census.mem_distribute

end Registry

end Switchboard
