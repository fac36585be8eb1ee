import Mathlib.Data.List.Basic
import Mathlib.Data.List.FinRange
import Switchboard.Registry.Shards

/-!
# The index as a list of entries

From outside an index is the list of its entries, shard by shard. Every operation on the index is
an operation on this list: inserting an id that has no value adds an entry, changing values maps
the list, keeping some values filters it.

An index is *placed* if each id stands in its own shard. Then an id occurs once at most
(`nodup_keys`), and the entries are exactly what looking up finds (`mem_entries`).
-/

namespace Switchboard

namespace Shards

variable {α : Type} {s : Shards α} {id : ConnectionId}

/-- The entries of one shard. -/
def row (s : Shards α) (i : Fin shardCount) : List (ConnectionId × α) :=
  s.tables[i].toList

/-- Every entry, shard by shard. -/
def entries (s : Shards α) : List (ConnectionId × α) :=
  (List.finRange shardCount).flatMap s.row

/-- Every id stands in the shard in which it belongs. -/
def Placed (s : Shards α) : Prop :=
  ∀ i, ∀ e ∈ s.row i, shardOf e.1 = i

/-- The tables one after the other are those at all positions. -/
theorem tables_toList (s : Shards α) :
    s.tables.toList = (List.finRange shardCount).map fun i => s.tables[i] := by
  apply List.ext_getElem
  · simp
  · intro i hi hi'
    simp

/-- The values of a table are those of its entries. -/
theorem values_table (t : Table α) : t.values = t.toList.map Prod.snd := by
  have hfold : t.values = t.foldr (fun _ v l => v :: l) [] := rfl
  rw [hfold, Std.TreeMap.foldr_eq_foldr_toList]
  induction t.toList with
  | nil => rfl
  | cons e rest ih => simp [ih]

/-- The values of the index are those of its entries. -/
theorem values_eq (s : Shards α) : s.values = s.entries.map Prod.snd := by
  simp only [values, entries, row, tables_toList, List.flatMap_map, List.map_flatMap, values_table]

/-- The ids of the index are those of its entries. -/
theorem keys_eq (s : Shards α) : s.keys = s.entries.map Prod.fst := by
  simp only [keys, entries, row, tables_toList, List.flatMap_map, List.map_flatMap,
    Std.TreeMap.map_fst_toList_eq_keys]

/-- The index counts its entries. -/
theorem size_eq (s : Shards α) : s.size = s.entries.length := by
  rw [size, entries, tables_toList]
  induction List.finRange shardCount with
  | nil => rfl
  | cons i rest ih =>
    rw [List.map_cons, List.foldr_cons, List.flatMap_cons, List.length_append, ih, row,
      Std.TreeMap.length_toList]

/-- An entry of a placed index is found by its id, and what is found is an entry. -/
theorem mem_entries (h : s.Placed) {v : α} : (id, v) ∈ s.entries ↔ s.get? id = some v := by
  rw [entries, List.mem_flatMap]
  constructor
  · rintro ⟨i, -, hrow⟩
    have hi : shardOf id = i := h i _ hrow
    subst hi
    exact Std.TreeMap.mem_toList_iff_getElem?_eq_some.1 hrow
  · intro hget
    exact ⟨shardOf id, List.mem_finRange _, Std.TreeMap.mem_toList_iff_getElem?_eq_some.2 hget⟩

/-- No id of a placed index occurs twice. -/
theorem nodup_keys (h : s.Placed) : (s.entries.map Prod.fst).Nodup := by
  rw [entries, List.map_flatMap, List.nodup_flatMap]
  constructor
  · intro i _
    rw [row, Std.TreeMap.map_fst_toList_eq_keys]
    exact Std.TreeMap.nodup_keys
  · refine (List.nodup_finRange shardCount).imp ?_
    intro i j hij id hi hj
    obtain ⟨e, he, rfl⟩ := List.mem_map.1 hi
    obtain ⟨e', he', heq⟩ := List.mem_map.1 hj
    exact hij ((h i e he).symm.trans (heq ▸ h j e' he'))

/-- Only the table in which the id belongs changes. -/
theorem row_changeTable (s : Shards α) (id : ConnectionId) (change : Table α → Table α)
    (i : Fin shardCount) :
    (s.changeTable id change).row i =
      if shardOf id = i then (change s.tables[i]).toList else s.row i := by
  by_cases hi : shardOf id = i
  · subst hi
    simp [row, changeTable, Array.getElem_modify]
  · have hne : (shardOf id).val ≠ i.val := fun heq => hi (Fin.ext heq)
    simp [row, changeTable, Array.getElem_modify, hi, hne]

/-- The value of an id in a list of entries is changed. -/
def updateEntry (id : ConnectionId) (change : α → α) (e : ConnectionId × α) : ConnectionId × α :=
  if e.1 = id then (e.1, change e.2) else e

/-- Different ids have different places in the order. -/
theorem order_ne {id key : ConnectionId} (h : key ≠ id) : id.order key ≠ .eq := fun heq =>
  h (ConnectionId.eq_of_order heq).symm

/-- Modifying a table changes the value of one entry of it. -/
theorem toList_modify_table (t : Table α) (id : ConnectionId) (change : α → α) :
    (t.modify id change).toList = t.toList.map (updateEntry id change) := by
  have hequiv : (t.modify id change).Equiv
      (t.map fun key v => if key = id then change v else v) := by
    apply Std.TreeMap.Equiv.of_forall_constGet?_eq
    intro key
    rw [Std.TreeMap.getElem?_modify, Std.TreeMap.getElem?_map]
    by_cases hkey : key = id
    · subst hkey
      simp [Std.ReflCmp.compare_self]
    · simp [hkey, order_ne hkey]
  rw [Std.TreeMap.equiv_iff_toList_eq.1 hequiv, Std.TreeMap.toList_map]
  apply List.map_congr_left
  intro e _
  rw [updateEntry]
  split <;> rfl

/-- Modifying a placed index changes the value of one entry. -/
theorem entries_modify (h : s.Placed) (id : ConnectionId) (change : α → α) :
    (s.modify id change).entries = s.entries.map (updateEntry id change) := by
  rw [entries, entries, List.map_flatMap]
  apply List.flatMap_congr
  intro i _
  rw [modify, row_changeTable]
  split
  · exact toList_modify_table _ id change
  · next hi =>
    -- The id stands in no other shard.
    have hsame : ∀ e ∈ s.row i, updateEntry id change e = e := by
      intro e he
      have hne : e.1 ≠ id := fun heq => hi (heq ▸ h i e he)
      rw [updateEntry, if_neg hne]
    exact ((List.map_congr_left hsame).trans (List.map_id' _)).symm

/-- A change of a shard is seen by the ids that belong in it. -/
theorem tableOf_changeTable (s : Shards α) (id key : ConnectionId) (change : Table α → Table α) :
    (s.changeTable id change).tableOf key =
      if shardOf id = shardOf key then change (s.tableOf key) else s.tableOf key := by
  by_cases hshard : shardOf id = shardOf key
  · simp [changeTable, tableOf, Array.getElem_modify, hshard]
  · have hne : (shardOf id).val ≠ (shardOf key).val := fun heq => hshard (Fin.ext heq)
    simp [changeTable, tableOf, Array.getElem_modify, hshard, hne]

/-- Inserting gives the id its value and leaves the others alone. -/
theorem get?_insert (s : Shards α) (id : ConnectionId) (v : α) (key : ConnectionId) :
    (s.insert id v).get? key = if key = id then some v else s.get? key := by
  rw [get?, insert, tableOf_changeTable]
  by_cases hkey : key = id
  · subst hkey
    simp
  · rw [if_neg hkey]
    split
    · rw [Std.TreeMap.getElem?_insert, if_neg (order_ne hkey), get?]
    · rfl

/-- Modifying changes the value of the id, if it has one, and leaves the others alone. -/
theorem get?_modify (s : Shards α) (id : ConnectionId) (change : α → α) (key : ConnectionId) :
    (s.modify id change).get? key = if key = id then (s.get? id).map change else s.get? key := by
  rw [get?, modify, tableOf_changeTable]
  by_cases hkey : key = id
  · subst hkey
    simp [get?]
  · rw [if_neg hkey]
    split
    · rw [Std.TreeMap.getElem?_modify, if_neg (order_ne hkey), get?]
    · rfl

/-- Changing every value changes what is found. -/
theorem get?_mapValues (s : Shards α) (change : α → α) (id : ConnectionId) :
    (s.mapValues change).get? id = (s.get? id).map change := by
  simp [get?, tableOf, mapValues]

/-- Keeping some values finds no others. -/
theorem get?_retain (s : Shards α) (keep : α → Bool) (id : ConnectionId) :
    (s.retain keep).get? id = (s.get? id).filter keep := by
  simp [get?, tableOf, retain]

/-- A search tree in which a key gets the value that it has stays as it is, because the change goes
the same way down the tree as the lookup. -/
theorem modify_tree_self {κ : Type} [Ord κ] (heq : ∀ a b : κ, compare a b = .eq → a = b)
    (tree : Std.DTreeMap.Internal.Impl κ fun _ => α) {key : κ} {v : α}
    (h : Std.DTreeMap.Internal.Impl.Const.get? tree key = some v) :
    Std.DTreeMap.Internal.Impl.Const.modify key (fun _ => v) tree = tree := by
  induction tree with
  | leaf => rfl
  | inner size here value left right ihleft ihright =>
    rw [Std.DTreeMap.Internal.Impl.Const.get?] at h
    rw [Std.DTreeMap.Internal.Impl.Const.modify]
    split at h
    · next horder => simp only [horder, ihleft h]
    · next horder => simp only [horder, ihright h]
    · next horder =>
      obtain rfl := heq key here horder
      obtain rfl := Option.some.inj h
      simp only [horder]

/-- A table in which an id gets the value that it has stays as it is. -/
theorem modify_table_self (t : Table α) {v : α} (h : t[id]? = some v) :
    t.modify id (fun _ => v) = t := by
  have htree := @modify_tree_self α _ ⟨ConnectionId.order⟩ (fun _ _ => ConnectionId.eq_of_order)
    t.inner.inner id v h
  rw [Std.TreeMap.modify, Std.DTreeMap.Const.modify]
  simp only [htree]

/-- An index in which an id gets the value that it has stays as it is. -/
theorem modify_self {v : α} (h : s.get? id = some v) : s.modify id (fun _ => v) = s := by
  have htable : (s.tableOf id).modify id (fun _ => v) = s.tableOf id := modify_table_self _ h
  obtain ⟨tables⟩ := s
  rw [modify, changeTable, mk.injEq]
  apply Vector.ext
  intro i hi
  by_cases hshard : (shardOf id).val = i
  · subst hshard
    simpa [Array.getElem_modify, tableOf] using htable
  · simp [Array.getElem_modify, hshard]

/-- The empty index has no entries. -/
theorem row_empty (i : Fin shardCount) : (empty : Shards α).row i = [] := by
  have htable : (empty : Shards α).tables[i] = Std.TreeMap.empty := by simp [empty]
  rw [row, htable]
  rfl

/-- Changing every value maps each shard. -/
theorem row_mapValues (s : Shards α) (change : α → α) (i : Fin shardCount) :
    (s.mapValues change).row i = (s.row i).map fun e => (e.1, change e.2) := by
  simp [row, mapValues, Std.TreeMap.toList_map]

/-- Keeping some values filters each shard. -/
theorem row_retain (s : Shards α) (keep : α → Bool) (i : Fin shardCount) :
    (s.retain keep).row i = (s.row i).filter fun e => keep e.2 := by
  simp [row, retain, Std.TreeMap.toList_filter]

/-- The empty index has no entries. -/
theorem entries_empty : (empty : Shards α).entries = [] := by
  rw [entries, List.flatMap_eq_nil_iff]
  intro i _
  exact row_empty i

/-- Changing every value maps the entries. -/
theorem entries_mapValues (s : Shards α) (change : α → α) :
    (s.mapValues change).entries = s.entries.map fun e => (e.1, change e.2) := by
  rw [entries, entries, List.map_flatMap]
  exact List.flatMap_congr fun i _ => row_mapValues s change i

/-- Keeping some values filters the entries. -/
theorem entries_retain (s : Shards α) (keep : α → Bool) :
    (s.retain keep).entries = s.entries.filter fun e => keep e.2 := by
  rw [entries, entries, List.filter_flatMap]
  exact List.flatMap_congr fun i _ => row_retain s keep i

/-- Nothing stands in a wrong shard of the empty index. -/
theorem placed_empty : (empty : Shards α).Placed := by
  intro i e he
  rw [row_empty] at he
  cases he

/-- An inserted id stands in its own shard. -/
theorem placed_insert (h : s.Placed) (id : ConnectionId) (v : α) : (s.insert id v).Placed := by
  intro i e he
  rw [insert, row_changeTable] at he
  split at he
  · next hi =>
    rw [Std.TreeMap.mem_toList_iff_getElem?_eq_some, Std.TreeMap.getElem?_insert] at he
    split at he
    · next horder => exact ConnectionId.eq_of_order horder ▸ hi
    · exact h i e (Std.TreeMap.mem_toList_iff_getElem?_eq_some.2 he)
  · exact h i e he

/-- Modifying moves no id. -/
theorem placed_modify (h : s.Placed) (id : ConnectionId) (change : α → α) :
    (s.modify id change).Placed := by
  intro i e he
  rw [modify, row_changeTable] at he
  split at he
  · rw [toList_modify_table] at he
    obtain ⟨e', he', rfl⟩ := List.mem_map.1 he
    have hkey : (updateEntry id change e').1 = e'.1 := by
      rw [updateEntry]
      split <;> rfl
    rw [hkey]
    exact h i e' he'
  · exact h i e he

/-- Changing every value moves no id. -/
theorem placed_mapValues (h : s.Placed) (change : α → α) : (s.mapValues change).Placed := by
  intro i e he
  rw [row_mapValues] at he
  obtain ⟨e', he', rfl⟩ := List.mem_map.1 he
  exact h i e' he'

/-- Keeping some values moves no id. -/
theorem placed_retain (h : s.Placed) (keep : α → Bool) : (s.retain keep).Placed := by
  intro i e he
  rw [row_retain] at he
  exact h i e (List.mem_of_mem_filter he)

/-- Inserting an id that has no value adds an entry. -/
theorem entries_insert (h : s.Placed) (hnew : s.get? id = none) (v : α) :
    (s.insert id v).entries.Perm ((id, v) :: s.entries) := by
  have hplaced := placed_insert h id v
  have hfresh : id ∉ s.entries.map Prod.fst := by
    intro hmem
    obtain ⟨⟨key, w⟩, he, rfl⟩ := List.mem_map.1 hmem
    rw [mem_entries h, hnew] at he
    cases he
  refine (List.perm_ext_iff_of_nodup (List.Nodup.of_map _ (nodup_keys hplaced)) ?_).2 ?_
  · refine List.Nodup.of_map Prod.fst ?_
    rw [List.map_cons, List.nodup_cons]
    exact ⟨hfresh, nodup_keys h⟩
  · rintro ⟨key, w⟩
    rw [mem_entries hplaced, get?_insert, List.mem_cons, mem_entries h, Prod.mk.injEq]
    by_cases hkey : key = id
    · subst hkey
      simp [hnew, eq_comm]
    · simp [hkey]

end Shards

end Switchboard
