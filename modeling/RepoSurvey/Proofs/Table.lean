import RepoSurvey.Table

/-!
# The first entry of a key

`Table.setNew` leaves an entry alone that is already there. A table that is
built by it from a list therefore holds, for each key, what the first member
of the list with that key gave (`Table.mem_foldl_setNew`), and later members
with the same key leave no trace.

`FirstAt` says that a member of a list is the first with its key. It is about
places and not only about members, because what is written into a member
before the table is built goes by its place.

Lists that are gathered under different keys stand in the table as they come
(`Table.gather_eq_self`). Values of one kind stay so when entries are changed into
values of that kind (`Table.forall_update`).
-/

namespace RepoSurvey

/-! ## First members -/

/-- The member at a place of a list is the first with its key. -/
structure FirstAt {α : Type} (key : α → String) (members : List α) (place : Nat) (x : α) :
    Prop where
  /-- The member stands at the place. -/
  here : members[place]? = some x
  /-- The members before it have other keys. -/
  fresh : ∀ earlier y, earlier < place → members[earlier]? = some y → key y ≠ key x

section

variable {α β : Type} {key : α → String} {members : List α}

/-- The head of a list is the first with its key. -/
theorem FirstAt.head (x : α) (rest : List α) : FirstAt key (x :: rest) 0 x where
  here := rfl
  fresh := fun _ _ before => absurd before (Nat.not_lt_zero _)

/-- A first member of the tail is one of the list when the head has another key. -/
theorem FirstAt.cons {x : α} {place : Nat} {y : α} (h : FirstAt key members place y)
    (other : key x ≠ key y) : FirstAt key (x :: members) (place + 1) y where
  here := h.here
  fresh := by
    intro earlier z before at_earlier
    cases earlier with
    | zero => cases at_earlier; exact other
    | succ earlier => exact h.fresh earlier z (Nat.lt_of_succ_lt_succ before) at_earlier

/-- A first member stands at the head, or in the tail after a head with another key. -/
theorem FirstAt.uncons {x : α} {place : Nat} {y : α} (h : FirstAt key (x :: members) place y) :
    (place = 0 ∧ y = x) ∨
      ∃ before, place = before + 1 ∧ key x ≠ key y ∧ FirstAt key members before y := by
  cases place with
  | zero => exact .inl ⟨rfl, (Option.some.inj h.here).symm⟩
  | succ before =>
    refine .inr ⟨before, rfl, h.fresh 0 x (Nat.succ_pos _) rfl, h.here, ?_⟩
    intro earlier z earlier_lt at_earlier
    exact h.fresh (earlier + 1) z (Nat.succ_lt_succ earlier_lt) at_earlier

/-- Changes that go by the place and leave the keys alone keep the first members. -/
theorem FirstAt.iff_of_changed {changed : List β} {key' : β → String} {change : Nat → α → β}
    (each : ∀ place, changed[place]? = members[place]?.map (change place))
    (same : ∀ place x, key' (change place x) = key x) {place : Nat} {y : β} :
    FirstAt key' changed place y ↔ ∃ x, FirstAt key members place x ∧ y = change place x := by
  constructor
  · intro h
    obtain ⟨x, here, rfl⟩ := Option.map_eq_some_iff.mp ((each place).symm.trans h.here)
    refine ⟨x, ⟨here, ?_⟩, rfl⟩
    intro earlier z before at_earlier
    have other := h.fresh earlier (change earlier z) before (by rw [each, at_earlier]; rfl)
    rwa [same, same] at other
  · rintro ⟨x, h, rfl⟩
    refine ⟨by rw [each, h.here]; rfl, ?_⟩
    intro earlier z before at_earlier
    obtain ⟨w, here, rfl⟩ := Option.map_eq_some_iff.mp ((each earlier).symm.trans at_earlier)
    rw [same, same]
    exact h.fresh earlier w before here

end

/-! ## Tables of first entries -/

namespace Table

variable {α β : Type}

/-- A key has an entry when it is the key of a member. -/
theorem has_iff {t : Table α} {k : String} : t.has k = true ↔ ∃ v, (k, v) ∈ t := by
  simp only [has, List.any_eq_true, beq_iff_eq]
  constructor
  · rintro ⟨⟨_, v⟩, mem, rfl⟩
    exact ⟨v, mem⟩
  · rintro ⟨v, mem⟩
    exact ⟨(k, v), mem, rfl⟩

/-- A key that has an entry keeps it. -/
theorem setNew_of_has {t : Table α} {k : String} (known : t.has k = true) (v : α) :
    t.setNew k v = t := by
  induction t with
  | nil => cases known
  | cons entry rest ih =>
    obtain ⟨k', v'⟩ := entry
    by_cases same : k' = k
    · simp only [setNew, update, beq_iff_eq, if_pos same, Option.getD_some]
    · have later : has rest k = true := by
        simpa only [has, List.any_cons, beq_eq_false_iff_ne.mpr same, Bool.false_or] using known
      simp only [setNew, update, beq_iff_eq, if_neg same]
      exact congrArg _ (ih later)

/-- A new key is appended. -/
theorem update_of_not_has {t : Table α} {k : String} (new : t.has k = false)
    (change : Option α → α) : t.update k change = t ++ [(k, change none)] := by
  induction t with
  | nil => rfl
  | cons entry rest ih =>
    obtain ⟨k', v'⟩ := entry
    obtain ⟨other, later⟩ : ¬ k' = k ∧ has rest k = false := by
      simpa only [has, List.any_cons, Bool.or_eq_false_iff, beq_eq_false_iff_ne] using new
    simp only [update, beq_iff_eq, if_neg other, List.cons_append]
    exact congrArg _ (ih later)

theorem setNew_of_not_has {t : Table α} {k : String} (new : t.has k = false) (v : α) :
    t.setNew k v = t ++ [(k, v)] :=
  update_of_not_has new _

/-- What stands in a table after one more member was offered to it. -/
theorem mem_setNew {t : Table α} {k k' : String} {v v' : α} :
    (k, v) ∈ t.setNew k' v' ↔ (k, v) ∈ t ∨ (t.has k = false ∧ k = k' ∧ v = v') := by
  cases known : t.has k' with
  | true =>
    rw [setNew_of_has known]
    refine ⟨.inl, ?_⟩
    rintro (mem | ⟨new, rfl, -⟩)
    · exact mem
    · rw [known] at new
      cases new
  | false =>
    rw [setNew_of_not_has known, List.mem_append, List.mem_singleton, Prod.mk.injEq]
    refine or_congr_right ⟨?_, And.right⟩
    rintro ⟨rfl, rfl⟩
    exact ⟨known, rfl, rfl⟩

/-- The keys of a table after one more member was offered to it. -/
theorem has_setNew {t : Table α} {k k' : String} {v' : α} :
    (t.setNew k' v').has k = false ↔ t.has k = false ∧ k ≠ k' := by
  rw [← Bool.not_eq_true, ← Bool.not_eq_true, has_iff, has_iff]
  simp only [mem_setNew, not_exists, not_or, not_and]
  constructor
  · intro none
    refine ⟨fun v => (none v).1, fun same => (none v').2 ?_ same rfl⟩
    exact Bool.eq_false_iff.mpr fun known => by
      obtain ⟨v, mem⟩ := has_iff.mp known
      exact (none v).1 mem
  · rintro ⟨none, other⟩ v
    exact ⟨none v, fun _ same => absurd same other⟩

/-- A table that is offered one member after the other holds what it held, and
of the other keys what the first member of each gave. -/
theorem mem_foldl_setNew (key : β → String) (value : β → α) (members : List β) (t : Table α)
    {k : String} {v : α} :
    (k, v) ∈ members.foldl (fun t x => t.setNew (key x) (value x)) t ↔
      (k, v) ∈ t ∨
        (t.has k = false ∧ ∃ place x, FirstAt key members place x ∧ key x = k ∧ value x = v) := by
  induction members generalizing t with
  | nil =>
    refine ⟨.inl, ?_⟩
    rintro (mem | ⟨-, place, x, first, -⟩)
    · exact mem
    · cases first.here
  | cons y rest ih =>
    rw [List.foldl_cons, ih, mem_setNew, has_setNew, or_assoc]
    refine or_congr_right ⟨?_, ?_⟩
    · rintro (⟨new, rfl, rfl⟩ | ⟨⟨new, other⟩, place, x, first, rfl, rfl⟩)
      · exact ⟨new, 0, y, .head y rest, rfl, rfl⟩
      · exact ⟨new, place + 1, x, first.cons (Ne.symm other), rfl, rfl⟩
    · rintro ⟨new, place, x, first, rfl, rfl⟩
      obtain ⟨-, rfl⟩ | ⟨before, -, other, later⟩ := first.uncons
      · exact .inl ⟨new, rfl, rfl⟩
      · exact .inr ⟨⟨new, Ne.symm other⟩, before, x, later, rfl, rfl⟩

/-- Lists under different keys are gathered as they stand. -/
theorem gather_eq_self {entries : List (String × List α)} (distinct : (entries.map (·.1)).Nodup) :
    gather entries = entries := by
  suffices ∀ t : Table (List α), ((t ++ entries).map (·.1)).Nodup →
      entries.foldl (fun t e => t.extend e.1 e.2) t = t ++ entries from this [] distinct
  clear distinct
  induction entries with
  | nil => exact fun t _ => (List.append_nil t).symm
  | cons entry rest ih =>
    intro t distinct
    obtain ⟨k, v⟩ := entry
    have new : t.has k = false := by
      refine Bool.eq_false_iff.mpr fun known => ?_
      obtain ⟨v', mem⟩ := has_iff.mp known
      rw [List.map_append, List.nodup_append] at distinct
      exact distinct.2.2 k (List.mem_map_of_mem mem) k List.mem_cons_self rfl
    have appended : t.extend k v = t ++ [(k, v)] := update_of_not_has new _
    have whole : t ++ (k, v) :: rest = t ++ [(k, v)] ++ rest := by
      rw [List.append_assoc, List.singleton_append]
    rw [whole] at distinct ⊢
    simp only [List.foldl_cons, appended]
    exact ih _ distinct

/-! ## Tables whose values are of one kind -/

variable {motive : α → Prop} {t : Table α} {key : String} {value : α}

theorem forall_update {change : Option α → α} (kind : ∀ e ∈ t, motive e.2)
    (changed : ∀ old, (∀ v ∈ old, motive v) → motive (change old)) :
    ∀ e ∈ t.update key change, motive e.2 := by
  induction t with
  | nil => exact List.forall_mem_singleton.mpr (changed none nofun)
  | cons entry rest ih =>
    obtain ⟨first, others⟩ := List.forall_mem_cons.mp kind
    rw [update]
    split
    · refine List.forall_mem_cons.mpr ⟨changed _ fun v held => ?_, others⟩
      rwa [← Option.some.inj held]
    · exact List.forall_mem_cons.mpr ⟨first, ih others⟩

theorem forall_set (kind : ∀ e ∈ t, motive e.2) (new : motive value) :
    ∀ e ∈ t.set key value, motive e.2 :=
  forall_update kind fun _ _ => new

theorem forall_setNew (kind : ∀ e ∈ t, motive e.2) (new : motive value) :
    ∀ e ∈ t.setNew key value, motive e.2 := by
  refine forall_update kind fun old held => ?_
  cases old with
  | none => exact new
  | some v => exact held v rfl

end Table

end RepoSurvey
