import Mathlib.Algebra.BigOperators.Group.Finset.Basic
import Mathlib.Algebra.GroupWithZero.Nat
import Mathlib.Data.List.Induction
import Mathlib.Data.List.Nodup
import RepoSurvey.Table

/-!
# Labels counted, and labels each once

Updating an entry of a table changes no other, and a key never gets a second
entry (`Table.get?_update`, `Table.nodup_update`). So a tally holds each label
with the number of its occurrences (`Table.get?_tally`), which are together the
number of labels (`Table.sum_values_tally`), and the tallies of one collection of
labels are one mapping, whatever the order of the labels (`Table.sameMap_tally`).
The distinct labels are the same, too, up to order.
-/

namespace RepoSurvey

/-! ## Entries of a table -/

namespace Table

variable {α : Type} {t t' : Table α}

/-- Two tables are one mapping: they have the same entries, one a key. -/
structure SameMap (t t' : Table α) : Prop where
  /-- They have the same entries. -/
  perm : t.Perm t'
  /-- No key has two. -/
  nodup : t.keys.Nodup

theorem keys_map {β : Type} {f : String × α → String × β} (same : ∀ entry, (f entry).1 = entry.1)
    (t : Table α) : keys (List.map f t) = t.keys := by
  rw [keys, keys, List.map_map]
  exact List.map_congr_left fun entry _ => same entry

theorem get?_cons (k : String) (v : α) (rest : Table α) (key : String) :
    get? ((k, v) :: rest) key = if k = key then some v else rest.get? key := by
  by_cases same : k = key
  · simp only [get?, List.find?_cons, beq_iff_eq.mpr same, Option.map_some, if_pos same]
  · simp only [get?, List.find?_cons, beq_eq_false_iff_ne.mpr same, if_neg same]

theorem mem_iff_get? (nodup : t.keys.Nodup) {key : String} {value : α} :
    (key, value) ∈ t ↔ t.get? key = some value := by
  induction t with
  | nil => exact ⟨nofun, nofun⟩
  | cons entry rest ih =>
    obtain ⟨k, v⟩ := entry
    obtain ⟨new, others⟩ := List.nodup_cons.mp nodup
    rw [get?_cons, List.mem_cons, Prod.mk.injEq]
    by_cases same : k = key
    · subst same
      have only : (k, value) ∉ rest := fun mem => new (List.mem_map.mpr ⟨_, mem, rfl⟩)
      rw [if_pos rfl, Option.some.injEq, or_iff_left only, eq_comm (a := v)]
      exact and_iff_right rfl
    · rw [if_neg same, or_iff_right fun h => same h.1.symm]
      exact ih others

/-- An update changes the entry of its key and no other. -/
theorem get?_update (t : Table α) (k : String) (change : Option α → α) (key : String) :
    (t.update k change).get? key = if key = k then some (change (t.get? k)) else t.get? key := by
  induction t with
  | nil =>
    rw [update, get?_cons]
    simp only [eq_comm]
    rfl
  | cons entry rest ih =>
    obtain ⟨k', v⟩ := entry
    rw [update, get?_cons, get?_cons]
    by_cases here : k' = k
    · subst here
      rw [if_pos (beq_self_eq_true k'), get?_cons, if_pos rfl]
      by_cases same : k' = key
      · rw [if_pos same, if_pos same.symm]
      · rw [if_neg same, if_neg (Ne.symm same), if_neg same]
    · rw [if_neg (fun h => here (beq_iff_eq.mp h)), get?_cons, ih, if_neg here]
      by_cases same : k' = key
      · rw [if_pos same, if_neg (fun h => here (same.trans h)), if_pos same]
      · rw [if_neg same, if_neg same]

/-- The keys after an update: its own is appended when it is new. -/
theorem keys_update (t : Table α) (k : String) (change : Option α → α) :
    (t.update k change).keys = if k ∈ t.keys then t.keys else t.keys ++ [k] := by
  induction t with
  | nil => rfl
  | cons entry rest ih =>
    obtain ⟨k', v⟩ := entry
    have whole : keys ((k', v) :: rest) = k' :: keys rest := rfl
    rw [update, whole]
    by_cases here : k' = k
    · rw [if_pos (beq_iff_eq.mpr here), if_pos (here ▸ List.mem_cons_self)]
      rfl
    · rw [if_neg (fun h => here (beq_iff_eq.mp h))]
      have changed : keys ((k', v) :: update rest k change) = k' :: keys (update rest k change) :=
        rfl
      simp only [changed, ih, List.mem_cons, Ne.symm here, false_or]
      split <;> rfl

theorem nodup_update (nodup : t.keys.Nodup) (k : String) (change : Option α → α) :
    (t.update k change).keys.Nodup := by
  rw [keys_update]
  split
  · exact nodup
  next new => exact List.nodup_append_comm.mp (List.nodup_cons.mpr ⟨new, nodup⟩)

/-- A table over which another is laid has the entries of the other, and its own for the
remaining keys. -/
theorem get?_foldl_set {entries : Table α} (nodup : entries.keys.Nodup) (t : Table α)
    (key : String) :
    (entries.foldl (fun t (k, v) => t.set k v) t).get? key =
      (entries.get? key).or (t.get? key) := by
  induction entries generalizing t with
  | nil => rfl
  | cons entry rest ih =>
    obtain ⟨k, v⟩ := entry
    obtain ⟨new, others⟩ := List.nodup_cons.mp nodup
    show get? (rest.foldl (fun t (k, v) => t.set k v) (t.update k fun _ => v)) key = _
    rw [ih others, get?_update, get?_cons]
    by_cases same : key = k
    · subst same
      have none : get? rest key = none := by
        refine Option.eq_none_iff_forall_ne_some.mpr fun v held => new ?_
        exact List.mem_map.mpr ⟨_, (mem_iff_get? others).mpr held, rfl⟩
      rw [none, if_pos rfl, if_pos rfl]
      rfl
    · rw [if_neg same, if_neg (Ne.symm same)]

theorem nodup_foldl_set (entries : Table α) (nodup : t.keys.Nodup) :
    (entries.foldl (fun t (k, v) => t.set k v) t).keys.Nodup :=
  List.foldlRecOn (motive := fun t : Table α => t.keys.Nodup) entries _ nodup
    fun _ nodup e _ => nodup_update nodup e.1 _

/-! ## Tallies -/

theorem tally_append (labels : List String) (label : String) :
    tally (labels ++ [label]) = (tally labels).update label fun n => n.getD 0 + 1 :=
  List.foldl_append

theorem nodup_tally (labels : List String) : (tally labels).keys.Nodup := by
  induction labels using List.reverseRecOn with
  | nil => exact List.nodup_nil
  | append_singleton labels label ih =>
    rw [tally_append]
    exact nodup_update ih label _

/-- A tally holds each label with the number of its occurrences. -/
theorem get?_tally (labels : List String) (key : String) :
    (tally labels).get? key = if key ∈ labels then some (labels.count key) else none := by
  induction labels using List.reverseRecOn generalizing key with
  | nil => rfl
  | append_singleton labels label ih =>
    have before : ((tally labels).get? label).getD 0 = labels.count label := by
      rw [ih label]
      split
      · rfl
      next new => exact (List.count_eq_zero.mpr new).symm
    rw [tally_append, get?_update, before, ih key]
    by_cases same : key = label
    · subst same
      simp
    · simp [same, Ne.symm same]

theorem mem_tally_iff {labels : List String} {key : String} {n : Nat} :
    (key, n) ∈ tally labels ↔ key ∈ labels ∧ n = labels.count key := by
  rw [mem_iff_get? (nodup_tally labels), get?_tally, Option.ite_none_right_eq_some,
    Option.some_inj, eq_comm (a := n)]

theorem length_tally (labels : List String) : (tally labels).length = labels.toFinset.card := by
  have keys_length : (tally labels).keys.length = (tally labels).length := List.length_map _
  rw [← keys_length, ← List.toFinset_card_of_nodup (nodup_tally labels)]
  refine congrArg Finset.card (Finset.ext fun label => ?_)
  rw [List.mem_toFinset, List.mem_toFinset, keys, List.mem_map]
  constructor
  · rintro ⟨entry, mem, rfl⟩
    exact (mem_tally_iff.mp mem).1
  · exact fun mem => ⟨(label, labels.count label), mem_tally_iff.mpr ⟨mem, rfl⟩, rfl⟩

/-- Exact counts are together the number of labels, when every label has one. -/
theorem sum_values_of_counts {labels : List String} {t : Table Nat} (nodup : t.keys.Nodup)
    (covers : ∀ label ∈ labels, label ∈ t.keys) (counts : ∀ e ∈ t, e.2 = labels.count e.1) :
    t.values.sum = labels.length := by
  have each : t.values = t.keys.map fun key => labels.count key := by
    rw [values, keys, List.map_map]
    exact List.map_congr_left counts
  have all : ∀ label ∈ (labels : Multiset String), label ∈ t.keys.toFinset :=
    fun label mem => List.mem_toFinset.mpr (covers label mem)
  have whole := Multiset.sum_count_eq_card all
  rw [Multiset.coe_card] at whole
  rw [each, ← List.sum_toFinset _ nodup, ← whole]
  exact Finset.sum_congr rfl fun key _ => (Multiset.coe_count key labels).symm

/-- The counts of a tally are together the number of labels. -/
theorem sum_values_tally (labels : List String) : (tally labels).values.sum = labels.length := by
  refine sum_values_of_counts (nodup_tally labels) (fun label mem => ?_) fun e mem => ?_
  · exact List.mem_map.mpr ⟨_, mem_tally_iff.mpr ⟨mem, rfl⟩, rfl⟩
  · exact (mem_tally_iff.mp mem).2

/-- The tallies of one collection of labels are one mapping, whatever their order. -/
theorem sameMap_tally {labels labels' : List String} (perm : labels.Perm labels') :
    (tally labels).SameMap (tally labels') := by
  refine ⟨?_, nodup_tally labels⟩
  refine (List.perm_ext_iff_of_nodup (.of_map _ (nodup_tally labels))
    (.of_map _ (nodup_tally labels'))).mpr fun entry => ?_
  rw [mem_iff_get? (nodup_tally labels), mem_iff_get? (nodup_tally labels'), get?_tally,
    get?_tally, perm.count_eq]
  simp only [perm.mem_iff]

end Table

/-! ## Labels, each once -/

theorem distinct_append (labels : List String) (label : String) :
    distinct (labels ++ [label]) = if (distinct labels).contains label then distinct labels
      else distinct labels ++ [label] :=
  List.foldl_append

theorem mem_distinct {labels : List String} {label : String} :
    label ∈ distinct labels ↔ label ∈ labels := by
  induction labels using List.reverseRecOn with
  | nil => exact Iff.rfl
  | append_singleton labels last ih =>
    rw [distinct_append, List.mem_append, List.mem_singleton]
    split
    next known =>
      rw [ih, iff_self_or]
      rintro rfl
      exact ih.mp (List.contains_iff_mem.mp known)
    next => rw [List.mem_append, List.mem_singleton, ih]

theorem nodup_distinct (labels : List String) : (distinct labels).Nodup := by
  induction labels using List.reverseRecOn with
  | nil => exact List.nodup_nil
  | append_singleton labels last ih =>
    rw [distinct_append]
    split
    next => exact ih
    next new =>
      refine List.nodup_append_comm.mp (List.nodup_cons.mpr ⟨fun mem => ?_, ih⟩)
      exact new (List.contains_iff_mem.mpr mem)

theorem length_distinct (labels : List String) :
    (distinct labels).length = labels.toFinset.card := by
  rw [← List.toFinset_card_of_nodup (nodup_distinct labels)]
  refine congrArg Finset.card (Finset.ext fun label => ?_)
  rw [List.mem_toFinset, List.mem_toFinset, mem_distinct]

theorem perm_distinct {labels labels' : List String} (perm : labels.Perm labels') :
    (distinct labels).Perm (distinct labels') :=
  (List.perm_ext_iff_of_nodup (nodup_distinct labels) (nodup_distinct labels')).mpr fun label => by
    rw [mem_distinct, mem_distinct, perm.mem_iff]

end RepoSurvey
