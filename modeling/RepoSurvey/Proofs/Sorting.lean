import Mathlib.Data.List.Nodup
import Mathlib.Data.List.Perm.Subperm
import Mathlib.Data.Prod.Lex
import Mathlib.Data.String.Basic
import RepoSurvey.Analysis.Finding

/-!
# What sorting depends on

Sorting by a key keeps the order of members with one key. So a sorted list is
settled by what there is for each key, in order (`mergeSort_eq_of_withKey`): how
members with different keys lie among one another before does not matter. In
particular a list of members with different keys may be rearranged at will
(`mergeSort_eq_of_perm`).

The members that belong to the keys, one key after another, are all members in
some order (`perm_flatMap_withKey`); a list that is in order by its key they
give back as it is (`flatMap_withKey`).
-/

namespace RepoSurvey

section

variable {α β κ : Type} [LinearOrder κ] {key : α → κ} {l l' : List α} {a : α} {k : κ}

/-! ## Members with one key -/

/-- The members of a list with one key. -/
def withKey (key : α → κ) (l : List α) (k : κ) : List α :=
  l.filter fun a => key a = k

theorem mem_withKey : a ∈ withKey key l k ↔ a ∈ l ∧ key a = k := by
  rw [withKey, List.mem_filter, decide_eq_true_iff]

theorem filter_beq_eq_withKey [BEq κ] [LawfulBEq κ] (key : α → κ) (l : List α) (k : κ) :
    (l.filter fun a => key a == k) = withKey key l k :=
  List.filter_congr fun _ _ => Bool.eq_iff_iff.mpr (beq_iff_eq.trans decide_eq_true_iff.symm)

theorem withKey_cons_of_eq (same : key a = k) : withKey key (a :: l) k = a :: withKey key l k := by
  rw [withKey, List.filter_cons, decide_eq_true same]
  rfl

theorem withKey_cons_of_ne (other : key a ≠ k) : withKey key (a :: l) k = withKey key l k := by
  rw [withKey, List.filter_cons, decide_eq_false other]
  rfl

theorem withKey_append (l l' : List α) (k : κ) :
    withKey key (l ++ l') k = withKey key l k ++ withKey key l' k :=
  List.filter_append l l'

theorem withKey_map (f : β → α) (entries : List β) (k : κ) :
    withKey key (entries.map f) k = (withKey (fun b => key (f b)) entries k).map f :=
  List.filter_map

/-- Of pieces that belong to keys those of one key stay. -/
theorem withKey_flatMap {entries : List β} {owner : β → κ} {each : β → List α}
    (owned : ∀ e ∈ entries, ∀ a ∈ each e, key a = owner e) (k : κ) :
    withKey key (entries.flatMap each) k = (withKey owner entries k).flatMap each := by
  induction entries with
  | nil => rfl
  | cons e rest ih =>
    have own := owned e List.mem_cons_self
    have others := ih fun e mem => owned e (List.mem_cons_of_mem _ mem)
    rw [withKey] at others
    rw [withKey, List.flatMap_cons, List.filter_append, others]
    by_cases of_k : owner e = k
    · have whole : (each e).filter (fun a => key a = k) = each e :=
        List.filter_eq_self.mpr fun a mem => decide_eq_true ((own a mem).trans of_k)
      rw [whole, withKey_cons_of_eq of_k, List.flatMap_cons]
    · have none : (each e).filter (fun a => key a = k) = [] :=
        List.filter_eq_nil_iff.mpr fun a mem taken =>
          of_k ((own a mem).symm.trans (of_decide_eq_true taken))
      rw [none, withKey_cons_of_ne of_k, List.nil_append]

theorem length_withKey_le (different : (l.map key).Nodup) : (withKey key l k).length ≤ 1 := by
  have sub : ((withKey key l k).map key).Nodup :=
    different.sublist (List.filter_sublist.map key)
  have all : (withKey key l k).map key = List.replicate (withKey key l k).length k := by
    refine List.eq_replicate_iff.mpr ⟨List.length_map _, fun x mem => ?_⟩
    obtain ⟨a, there, rfl⟩ := List.mem_map.mp mem
    exact (mem_withKey.mp there).2
  rw [all] at sub
  exact List.nodup_replicate.mp sub

/-- Among members with different keys each is the one with its key. -/
theorem withKey_eq_singleton (different : (l.map key).Nodup) (mem : a ∈ l) :
    withKey key l (key a) = [a] := by
  have few : (withKey key l (key a)).length ≤ 1 := length_withKey_le different
  have member : a ∈ withKey key l (key a) := mem_withKey.mpr ⟨mem, rfl⟩
  obtain ⟨b, found⟩ := List.length_eq_one_iff.mp
    (Nat.le_antisymm few (List.length_pos_of_mem member))
  rw [found] at member ⊢
  rw [List.mem_singleton.mp member]

/-- Members with different keys may be rearranged: each is still the one with its key. -/
theorem withKey_eq_of_perm (perm : l.Perm l') (different : (l.map key).Nodup) :
    withKey key l k = withKey key l' k := by
  have few := length_withKey_le (k := k) different
  have rearranged : (withKey key l k).Perm (withKey key l' k) := perm.filter _
  cases found : withKey key l k with
  | nil =>
    rw [found] at rearranged
    exact rearranged.nil_eq
  | cons a more =>
    rw [found] at few rearranged
    have single : more = [] := List.eq_nil_of_length_eq_zero (by simpa using few)
    rw [single] at rearranged ⊢
    exact (List.perm_singleton.mp rearranged.symm).symm

/-- The members of different keys are together the whole list. -/
theorem perm_flatMap_withKey {keys : List κ} (different : keys.Nodup)
    (known : ∀ a ∈ l, key a ∈ keys) : (keys.flatMap (withKey key l)).Perm l := by
  induction keys generalizing l with
  | nil =>
    rw [List.eq_nil_iff_forall_not_mem.mpr fun a mem => List.not_mem_nil (known a mem)]
    exact .refl _
  | cons k rest ih =>
    obtain ⟨new, others⟩ := List.nodup_cons.mp different
    -- the members with other keys are those of the other keys
    have later : rest.flatMap (withKey key l) =
        rest.flatMap (withKey key (l.filter fun a => !decide (key a = k))) := by
      refine List.flatMap_congr fun m mem => ?_
      rw [withKey, withKey, List.filter_filter]
      refine List.filter_congr fun a _ => ?_
      by_cases of_m : key a = m
      · have other : key a ≠ k := fun of_k => new (of_k ▸ of_m ▸ mem)
        rw [decide_eq_false other, Bool.not_false, Bool.and_true]
      · rw [decide_eq_false of_m, Bool.false_and]
    have covered : ∀ a ∈ l.filter (fun a => !decide (key a = k)), key a ∈ rest := by
      intro a mem
      obtain ⟨there, other⟩ := List.mem_filter.mp mem
      rcases List.mem_cons.mp (known a there) with of_k | later
      · rw [decide_eq_true of_k] at other
        cases other
      · exact later
    rw [List.flatMap_cons, later]
    exact ((ih others covered).append_left _).trans (List.filter_append_perm _ l)

/-- The members of different keys are together among those of the list, each as often as there. -/
theorem subperm_flatMap_withKey {keys : List κ} (different : keys.Nodup) (l : List α) :
    (keys.flatMap (withKey key l)).Subperm l := by
  have kept : keys.flatMap (withKey key l) =
      keys.flatMap (withKey key (l.filter fun a => key a ∈ keys)) := by
    refine List.flatMap_congr fun k known => ?_
    rw [withKey, withKey, List.filter_filter]
    refine List.filter_congr fun a _ => ?_
    by_cases of_k : key a = k
    · rw [of_k, decide_eq_true known, Bool.and_true]
    · rw [decide_eq_false of_k, Bool.false_and]
  have covered : ∀ a ∈ l.filter fun a => key a ∈ keys, key a ∈ keys :=
    fun a mem => of_decide_eq_true (List.mem_filter.mp mem).2
  rw [kept]
  exact (perm_flatMap_withKey different covered).subperm.trans List.filter_sublist.subperm

/-! ## Lists in order -/

/-- Two lists in order are the same when they have the same members for every key. -/
theorem eq_of_withKey (ordered : l.Pairwise fun a b => key a ≤ key b)
    (ordered' : l'.Pairwise fun a b => key a ≤ key b)
    (same : ∀ k, withKey key l k = withKey key l' k) : l = l' := by
  induction l generalizing l' with
  | nil =>
    refine (List.eq_nil_iff_forall_not_mem.mpr fun b mem => ?_).symm
    have there : b ∈ withKey key [] (key b) := same (key b) ▸ mem_withKey.mpr ⟨mem, rfl⟩
    cases there
  | cons a rest ih =>
    have head : a ∈ l' :=
      (mem_withKey.mp (same (key a) ▸ mem_withKey.mpr ⟨List.mem_cons_self, rfl⟩)).1
    cases l' with
    | nil => cases head
    | cons b rest' =>
      have back : b ∈ a :: rest :=
        (mem_withKey.mp (same (key b) ▸ mem_withKey.mpr ⟨List.mem_cons_self, rfl⟩)).1
      -- each of the two first members comes before the other, so they have one key
      have above : key a ≤ key b := by
        rcases List.mem_cons.mp back with rfl | later
        · exact le_refl _
        · exact List.rel_of_pairwise_cons ordered later
      have below : key b ≤ key a := by
        rcases List.mem_cons.mp head with rfl | later
        · exact le_refl _
        · exact List.rel_of_pairwise_cons ordered' later
      have firsts := same (key a)
      rw [withKey_cons_of_eq rfl, withKey_cons_of_eq (le_antisymm below above)] at firsts
      obtain ⟨rfl, -⟩ := List.cons.inj firsts
      refine congrArg (a :: ·) (ih ordered.of_cons ordered'.of_cons fun k => ?_)
      have others := same k
      by_cases of_k : key a = k
      · rw [withKey_cons_of_eq of_k, withKey_cons_of_eq of_k] at others
        exact (List.cons.inj others).2
      · rwa [withKey_cons_of_ne of_k, withKey_cons_of_ne of_k] at others

/-- A list in order is the pieces of its keys, one after another. -/
theorem flatMap_withKey {keys : List κ} (ordered : l.Pairwise fun a b => key a ≤ key b)
    (increasing : keys.Pairwise (· < ·)) (known : ∀ a ∈ l, key a ∈ keys) :
    keys.flatMap (withKey key l) = l := by
  refine eq_of_withKey ?_ ordered fun k => ?_
  · refine List.pairwise_flatMap.mpr ⟨fun k _ => ordered.filter _, ?_⟩
    refine increasing.imp fun {k m} less a here b there => ?_
    rw [(mem_withKey.mp here).2, (mem_withKey.mp there).2]
    exact le_of_lt less
  · have owned : ∀ m ∈ keys, ∀ a ∈ withKey key l m, key a = id m :=
      fun m _ a mem => (mem_withKey.mp mem).2
    rw [withKey_flatMap owned]
    by_cases there : k ∈ keys
    · have different : (keys.map id).Nodup := by
        rw [List.map_id]
        exact increasing.imp ne_of_lt
      have only : withKey id keys k = [k] := withKey_eq_singleton different there
      rw [only, List.flatMap_singleton]
    · have none : withKey id keys k = [] :=
        List.eq_nil_iff_forall_not_mem.mpr fun m mem =>
          there ((mem_withKey.mp mem).2 ▸ (mem_withKey.mp mem).1)
      have empty : withKey key l k = [] :=
        List.eq_nil_iff_forall_not_mem.mpr fun a mem =>
          there ((mem_withKey.mp mem).2 ▸ known a (mem_withKey.mp mem).1)
      rw [none, empty, List.flatMap_nil]

/-! ## Sorting by a key -/

variable {le : α → α → Bool}

/-- A sorted list is in order. -/
theorem pairwise_mergeSort_key (orders : ∀ a b, le a b = true ↔ key a ≤ key b) (l : List α) :
    (l.mergeSort le).Pairwise fun a b => key a ≤ key b := by
  refine (List.pairwise_mergeSort (fun a b c first second => ?_) (fun a b => ?_) l).imp
    (orders _ _).mp
  · exact (orders a c).mpr (le_trans ((orders a b).mp first) ((orders b c).mp second))
  · rw [Bool.or_eq_true, orders, orders]
    exact le_total _ _

/-- Sorting puts members with different keys in strictly increasing order. -/
theorem pairwise_lt_mergeSort (orders : ∀ a b, le a b = true ↔ key a ≤ key b)
    (different : (l.map key).Nodup) : (l.mergeSort le).Pairwise fun a b => key a < key b := by
  have apart : (l.mergeSort le).Pairwise fun a b => key a ≠ key b :=
    ((List.mergeSort_perm l le).pairwise_iff Ne.symm).mpr (List.pairwise_map.mp different)
  exact ((pairwise_mergeSort_key orders l).and apart).imp fun both => lt_of_le_of_ne both.1 both.2

/-- Sorting keeps the order of members that are in order already. -/
theorem filter_mergeSort (orders : ∀ a b, le a b = true ↔ key a ≤ key b) {p : α → Bool}
    (ordered : (l.filter p).Pairwise fun a b => key a ≤ key b) :
    (l.mergeSort le).filter p = l.filter p := by
  have kept : (l.filter p).Sublist (l.mergeSort le) := by
    -- stability: a sublist that is in order already stays a sublist
    refine List.sublist_mergeSort (fun a b c first second => ?_) (fun a b => ?_)
      (ordered.imp (orders _ _).mpr) List.filter_sublist
    · exact (orders a c).mpr (le_trans ((orders a b).mp first) ((orders b c).mp second))
    · rw [Bool.or_eq_true, orders, orders]
      exact le_total _ _
  have sub : ((l.filter p).filter p).Sublist ((l.mergeSort le).filter p) := kept.filter _
  have again : (l.filter p).filter p = l.filter p :=
    List.filter_eq_self.mpr fun a mem => (List.mem_filter.mp mem).2
  rw [again] at sub
  -- a sublist that is as long as the list is the list
  exact (sub.eq_of_length ((List.mergeSort_perm l le).filter _).length_eq.symm).symm

/-- Sorting keeps the order of the members with one key. -/
theorem withKey_mergeSort (orders : ∀ a b, le a b = true ↔ key a ≤ key b) (l : List α) (k : κ) :
    withKey key (l.mergeSort le) k = withKey key l k := by
  refine filter_mergeSort orders (List.pairwise_iff_forall_sublist.mpr fun {a b} sub => ?_)
  have members := sub.subset
  rw [(mem_withKey.mp (members List.mem_cons_self)).2,
    (mem_withKey.mp (members (List.mem_cons_of_mem _ List.mem_cons_self))).2]

theorem mergeSort_eq_of_withKey (orders : ∀ a b, le a b = true ↔ key a ≤ key b)
    (same : ∀ k, withKey key l k = withKey key l' k) : l.mergeSort le = l'.mergeSort le := by
  refine eq_of_withKey (pairwise_mergeSort_key orders l) (pairwise_mergeSort_key orders l') ?_
  intro k
  rw [withKey_mergeSort orders, withKey_mergeSort orders, same]

/-- Members with different keys may be rearranged before they are sorted. -/
theorem mergeSort_eq_of_perm (orders : ∀ a b, le a b = true ↔ key a ≤ key b) (perm : l.Perm l')
    (different : (l.map key).Nodup) : l.mergeSort le = l'.mergeSort le :=
  mergeSort_eq_of_withKey orders fun _ => withKey_eq_of_perm perm different

end

/-! ## Findings, entries and labels -/

theorem orders_sortByPlace {α : Type} (file : α → String) (line : α → Int) (a b : α) :
    (decide (file a < file b) || (file a == file b && decide (line a ≤ line b))) = true ↔
      toLex (file a, line a) ≤ toLex (file b, line b) := by
  rw [Prod.Lex.toLex_le_toLex, Bool.or_eq_true, Bool.and_eq_true, decide_eq_true_iff, beq_iff_eq,
    decide_eq_true_iff]

/-- Findings at one place stay in order when all are sorted by place. -/
theorem filter_sortByPlace {α : Type} {file : α → String} {line : α → Int} {found : List α}
    {p : α → Bool} (level : ∀ a ∈ found.filter p, ∀ b ∈ found.filter p,
      file a = file b ∧ line a = line b) :
    (sortByPlace file line found).filter p = found.filter p := by
  have ordered : (found.filter p).Pairwise fun a b =>
      toLex (file a, line a) ≤ toLex (file b, line b) := by
    refine List.pairwise_of_forall_mem_list fun a first b second => ?_
    rw [(level a first b second).1, (level a first b second).2]
  exact filter_mergeSort (orders_sortByPlace file line) ordered

theorem orders_sorted {α : Type} (a b : String × α) : decide (a.1 ≤ b.1) = true ↔ a.1 ≤ b.1 :=
  decide_eq_true_iff

theorem orders_labels (a b : String) : decide (a ≤ b) = true ↔ id a ≤ id b :=
  decide_eq_true_iff

/-- Different labels are sorted in strictly increasing order. -/
theorem pairwise_lt_mergeSort_labels {labels : List String} (different : labels.Nodup) :
    (labels.mergeSort fun a b => decide (a ≤ b)).Pairwise (· < ·) := by
  have apart : (labels.map id).Nodup := by rwa [List.map_id]
  exact pairwise_lt_mergeSort orders_labels apart

end RepoSurvey
