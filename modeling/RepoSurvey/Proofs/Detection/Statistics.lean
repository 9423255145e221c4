import Mathlib.Data.Prod.Lex
import RepoSurvey.Detection.Event
import RepoSurvey.Detection.Route
import RepoSurvey.Detection.State
import RepoSurvey.Proofs.Detection.RouteParameters
import RepoSurvey.Proofs.Sorting
import RepoSurvey.Proofs.Tally

/-!
# Exact statistics

The statistics of a detector are counts over its findings. A distribution holds every label of
a finding with the number of findings that have it (`Distributes`), and perhaps labels that none
has, with zero; it adds up to the number of findings. A ranking takes the labels that count, by
decreasing number and increasing name, and breaks off after ten (`Ranks`): whatever is left out
comes after all that is listed. All statistics of the three detectors are of these two kinds,
or count files, each once (`statistics_exact`).
-/

namespace RepoSurvey.Detection

variable {α : Type}

/-! ## Distributions and rankings -/

/-- The table tells how many of the findings have each label, and knows some labels from the
start. -/
structure Distributes (label : α → String) (known : List String) (found : List α)
    (t : Table Nat) : Prop where
  /-- No label has two entries. -/
  nodup : t.keys.Nodup
  /-- The labels of the findings and the known ones have an entry, and its number is exact. -/
  mem_iff : ∀ name n, (name, n) ∈ t ↔
    (name ∈ known ∨ ∃ f ∈ found, label f = name) ∧ n = found.countP fun f => label f == name
  /-- The numbers are together that of the findings. -/
  sum : t.values.sum = found.length

/-- The first of two counted labels comes earlier in a ranking. -/
def Outranks (a b : String × Nat) : Prop :=
  b.2 < a.2 ∨ a.2 = b.2 ∧ a.1 < b.1

/-- How many of the findings count for the name. -/
def frequency (label? : α → Option String) (found : List α) (name : String) : Nat :=
  found.countP fun f => label? f == some name

/-- The entries are the ten labels that come first when all that count are ranked. -/
structure Ranks (label? : α → Option String) (found : List α)
    (entries : List (String × Nat)) : Prop where
  /-- There are ten, or all. -/
  length : entries.length = min 10 (found.filterMap label?).toFinset.card
  /-- Each has its exact number, which is not zero. -/
  counted : ∀ e ∈ entries, e.2 = frequency label? found e.1 ∧ 0 < e.2
  /-- They are in order. -/
  ordered : entries.Pairwise Outranks
  /-- What is left out comes after them. -/
  first : ∀ f ∈ found, ∀ name, label? f = some name → (∀ n, (name, n) ∉ entries) →
    ∀ e ∈ entries, Outranks e (name, frequency label? found name)

/-! ## Counting -/

section

variable {known labels : List String} {label : α → String} {found : List α}

theorem distributes_of_mem_iff {t : Table Nat} (nodup : t.keys.Nodup)
    (entries : ∀ name n, (name, n) ∈ t ↔ (name ∈ known ∨ name ∈ found.map label) ∧
      n = (found.map label).count name) : Distributes label known found t where
  nodup := nodup
  mem_iff := by
    intro name n
    rw [entries, List.mem_map, List.count_eq_countP, List.countP_map]
    rfl
  sum := by
    rw [← List.length_map label]
    refine Table.sum_values_of_counts nodup (fun name mem => ?_) fun e mem => ?_
    · exact List.mem_map.mpr ⟨_, (entries name _).mpr ⟨.inr mem, rfl⟩, rfl⟩
    · exact ((entries e.1 e.2).mp mem).2

theorem distributes_tally (label : α → String) (found : List α) :
    Distributes label [] found (Table.tally (found.map label)) := by
  refine distributes_of_mem_iff (Table.nodup_tally _) fun name n => ?_
  rw [Table.mem_tally_iff, or_iff_right List.not_mem_nil]

theorem get?_zeros (known : List String) (name : String) :
    Table.get? (known.map fun label => (label, 0)) name = if name ∈ known then some 0 else none := by
  induction known with
  | nil => rfl
  | cons label known ih =>
    rw [List.map_cons, Table.get?_cons, ih]
    by_cases same : label = name
    · rw [if_pos same, if_pos (same ▸ List.mem_cons_self)]
    · rw [if_neg same]
      simp only [List.mem_cons, Ne.symm same, false_or]

/-- A distribution has the known labels and those that occur, each with its number. -/
theorem get?_distribution (known labels : List String) (name : String) :
    (distribution known labels).get? name =
      if name ∈ known ∨ name ∈ labels then some (labels.count name) else none := by
  rw [distribution, Table.get?_foldl_set (Table.nodup_tally labels), Table.get?_tally, get?_zeros]
  by_cases occurs : name ∈ labels
  · simp only [occurs, or_true, if_true, Option.some_or]
  · simp only [occurs, or_false, if_false, Option.none_or, List.count_eq_zero.mpr occurs]

theorem distributes_distribution (nodup : known.Nodup) (label : α → String) (found : List α) :
    Distributes label known found (distribution known (found.map label)) := by
  have zeros : (Table.keys (known.map fun label => (label, 0))).Nodup := by
    rw [Table.keys, List.map_map]
    exact nodup.map fun _ _ same => same
  have keys : (distribution known (found.map label)).keys.Nodup :=
    Table.nodup_foldl_set _ zeros
  refine distributes_of_mem_iff keys fun name n => ?_
  rw [Table.mem_iff_get? keys, get?_distribution, Option.ite_none_right_eq_some, Option.some_inj,
    eq_comm (a := n)]

end

/-! ## Ranking -/

section

variable {label? : α → Option String} {found : List α} {labels : List String}

/-- What a ranking goes by. -/
def rank (e : String × Nat) : Lex (Natᵒᵈ × String) :=
  toLex (OrderDual.toDual e.2, e.1)

theorem rank_lt_iff {a b : String × Nat} : rank a < rank b ↔ Outranks a b := by
  rw [rank, rank, Prod.Lex.toLex_lt_toLex, OrderDual.toDual_lt_toDual, OrderDual.toDual_inj]
  rfl

theorem orders_ranking (a b : String × Nat) :
    (decide (b.2 < a.2) || (a.2 == b.2 && decide (a.1 ≤ b.1))) = true ↔ rank a ≤ rank b := by
  rw [rank, rank, Prod.Lex.toLex_le_toLex, OrderDual.toDual_lt_toDual, OrderDual.toDual_inj,
    Bool.or_eq_true, Bool.and_eq_true, decide_eq_true_iff, beq_iff_eq, decide_eq_true_iff]

theorem rank_injective : Function.Injective rank := by
  rintro ⟨name, n⟩ ⟨name', n'⟩ same
  obtain ⟨counts, names⟩ := Prod.mk.inj (toLex_inj.mp same)
  exact Prod.ext names (OrderDual.toDual_inj.mp counts)

/-- A ranking has each label that is not empty with its number, the higher ranks first. -/
theorem mem_ranking_iff {e : String × Nat} : e ∈ ranking labels ↔
    e ∈ Table.tally (labels.filter fun label => !label.isEmpty) :=
  (List.mergeSort_perm _ _).mem_iff

theorem pairwise_ranking (labels : List String) : (ranking labels).Pairwise Outranks := by
  have different : (Table.tally (labels.filter fun label => !label.isEmpty)).Nodup :=
    .of_map _ (Table.nodup_tally _)
  exact (pairwise_lt_mergeSort orders_ranking (different.map rank_injective)).imp rank_lt_iff.mp

theorem topCounts_usualLimit (labels : List String) :
    topCounts labels usualLimit = (ranking labels).take 10 :=
  rfl

/-- The most frequent labels are the ten that rank first. -/
theorem ranks_topCounts
    (counting : labels.filter (fun label => !label.isEmpty) = found.filterMap label?) :
    Ranks label? found (topCounts labels usualLimit) := by
  have counts : ∀ name, (found.filterMap label?).count name = frequency label? found name :=
    fun name => List.count_filterMap
  have ranked : ∀ e, e ∈ ranking labels ↔
      e.1 ∈ found.filterMap label? ∧ e.2 = frequency label? found e.1 := by
    intro e
    rw [mem_ranking_iff, counting, ← counts]
    exact Table.mem_tally_iff
  have whole := List.take_append_drop 10 (ranking labels)
  have ordered := pairwise_ranking labels
  rw [← whole, List.pairwise_append] at ordered
  rw [topCounts_usualLimit]
  refine ⟨?_, fun e mem => ?_, ordered.1, fun f mem name named out e listed => ?_⟩
  · rw [List.length_take, ranking, List.length_mergeSort, counting, Table.length_tally]
  · obtain ⟨occurs, number⟩ := (ranked e).mp (List.mem_of_mem_take mem)
    refine ⟨number, ?_⟩
    rw [number, ← counts]
    exact List.count_pos_iff.mpr occurs
  · have there : (name, frequency label? found name) ∈ ranking labels :=
      (ranked _).mpr ⟨List.mem_filterMap.mpr ⟨f, mem, named⟩, rfl⟩
    rw [← whole, List.mem_append] at there
    exact ordered.2.2 e listed _ (there.resolve_left (out _))

end

/-! ## The statistics of the detectors -/

/-- The files of the findings, each once, in increasing order. -/
structure ListsFiles (file : α → String) (found : List α) (files : List String) : Prop where
  increasing : files.Pairwise (· < ·)
  mem_iff : ∀ path, path ∈ files ↔ ∃ f ∈ found, file f = path

theorem listsFiles_distinct (file : α → String) (found : List α) :
    ListsFiles file found ((distinct (found.map file)).mergeSort fun a b => decide (a ≤ b)) where
  increasing := pairwise_lt_mergeSort_labels (nodup_distinct _)
  mem_iff := by
    intro path
    rw [(List.mergeSort_perm _ _).mem_iff, mem_distinct, List.mem_map]

theorem filter_map_eq_filterMap {text : α → String} {keep : String → Bool}
    {label? : α → Option String} (found : List α)
    (each : ∀ f, label? f = if keep (text f) then some (text f) else none) :
    (found.map text).filter keep = found.filterMap label? := by
  induction found with
  | nil => rfl
  | cons f found ih =>
    rw [List.map_cons, List.filter_cons, List.filterMap_cons, ih, each]
    cases keep (text f) <;> rfl

/-- The pattern that a route counts for: its normal form, if it has a text. -/
def Route.pattern? (e : Endpoint) : Option String :=
  if e.route = "" then none else some (RoutePath.normalize e.route)

/-- The variable that a change of state counts for, if it has a name. -/
def State.subject? (s : StateChange) : Option String :=
  if s.variableName = "" then none else some s.variableName

/-- The event that a record counts for, if it is known and has a name. -/
def Event.known? (r : EventRecord) : Option String :=
  if r.event = "" ∨ r.event = unknownEvent then none else some r.event

/-- The summary tells of the routes how many there are, of each method and of each framework,
in which files, and which patterns are the most frequent. -/
def Route.Summarises (found : List Endpoint) (summary : Json) : Prop :=
  ∃ methods frameworks files patterns,
    summary = .obj [
      ("total_endpoints", .nat found.length),
      ("method_distribution", Json.table .nat methods),
      ("framework_distribution", Json.table .nat frameworks),
      ("files_with_endpoints", Json.strings files),
      ("common_patterns", rankingJson "pattern" patterns)] ∧
    Distributes Endpoint.method verbs found methods ∧
    Distributes Endpoint.framework [] found frameworks ∧
    ListsFiles Endpoint.file found files ∧ Ranks pattern? found patterns

theorem Route.filter_patterns (found : List Endpoint) :
    (((found.filter fun e => !e.route.isEmpty).map fun e => RoutePath.normalize e.route).filter
      fun label => !label.isEmpty) = found.filterMap pattern? := by
  induction found with
  | nil => rfl
  | cons e found ih =>
    by_cases empty : e.route = ""
    · simp [pattern?, empty, ← ih]
    · have some_char : RoutePath.normalize e.route ≠ "" :=
        mt RoutePath.normalize_eq_empty_iff.mp empty
      simp [pattern?, empty, some_char, ← ih]

theorem Route.summarises_statistics (found : List Endpoint) :
    Summarises found (statistics found) :=
  ⟨_, _, _, _, rfl, distributes_distribution (by decide) _ _, distributes_tally _ _,
    listsFiles_distinct _ _, ranks_topCounts (filter_patterns found)⟩

/-- The summary tells of the changes of state how many there are, of each kind, of each framework
and of each way to change, in how many files, and which variables are the most frequent. -/
def State.Summarises (found : List StateChange) (summary : Json) : Prop :=
  ∃ patterns frameworks ways names,
    summary = .obj [
      ("total_patterns", .nat found.length),
      ("pattern_distribution", Json.table .nat patterns),
      ("framework_distribution", Json.table .nat frameworks),
      ("mutation_distribution", Json.table .nat ways),
      ("files_with_state", .nat (found.map StateChange.file).toFinset.card),
      ("common_variables", rankingJson "name" names)] ∧
    Distributes StateChange.kind kinds found patterns ∧
    Distributes StateChange.framework [] found frameworks ∧
    Distributes StateChange.mutation mutations found ways ∧ Ranks subject? found names

theorem State.filter_subjects (found : List StateChange) :
    ((found.map StateChange.variableName).filter fun label => !label.isEmpty) =
      found.filterMap subject? := by
  refine filter_map_eq_filterMap found fun s => ?_
  by_cases empty : s.variableName = "" <;> simp [subject?, empty]

theorem State.summarises_statistics (found : List StateChange) :
    Summarises found (statistics found) := by
  refine ⟨_, _, _, _, ?_, distributes_distribution (by decide) _ _, distributes_tally _ _,
    distributes_distribution (by decide) _ _, ranks_topCounts (filter_subjects found)⟩
  rw [← length_distinct]
  rfl

/-- The summary tells of the events how many there are, of each kind and of each framework, in
how many files, and which names are the most frequent. -/
def Event.Summarises (found : List EventRecord) (summary : Json) : Prop :=
  ∃ types frameworks events,
    summary = .obj [
      ("total_events", .nat found.length),
      ("type_distribution", Json.table .nat types),
      ("framework_distribution", Json.table .nat frameworks),
      ("files_with_events", .nat (found.map EventRecord.file).toFinset.card),
      ("common_events", rankingJson "name" events)] ∧
    Distributes EventRecord.kind kinds found types ∧
    Distributes EventRecord.framework [] found frameworks ∧ Ranks known? found events

theorem Event.filter_known (found : List EventRecord) :
    (((found.map EventRecord.event).filter fun event => event != unknownEvent).filter
      fun label => !label.isEmpty) = found.filterMap known? := by
  rw [List.filter_filter]
  refine filter_map_eq_filterMap found fun r => ?_
  by_cases empty : r.event = "" <;> by_cases unknown : r.event = unknownEvent <;>
    simp [known?, empty, unknown]

theorem Event.summarises_statistics (found : List EventRecord) :
    Summarises found (statistics found) := by
  refine ⟨_, _, _, ?_, distributes_distribution (by decide) _ _, distributes_tally _ _,
    ranks_topCounts (filter_known found)⟩
  rw [← length_distinct]
  rfl

/-- The statistics of every list of findings are exact. -/
theorem statistics_exact :
    (∀ found, Route.Summarises found (Route.statistics found)) ∧
      (∀ found, State.Summarises found (State.statistics found)) ∧
      ∀ found, Event.Summarises found (Event.statistics found) :=
  ⟨Route.summarises_statistics, State.summarises_statistics, Event.summarises_statistics⟩

end RepoSurvey.Detection
