import RepoSurvey.Proofs.Sorting
import RepoSurvey.Proofs.Table
import RepoSurvey.Proofs.Text.Cutting
import RepoSurvey.Scan.Walk

/-!
# A scan is a filter

A walk decides at every directory whether to go on, and what it does not enter
it never sees. What it comes to can be said without the walk: a file is found
when none of the directories that it lies in is shut out, and the file itself
is not (`mem_walk_iff`). The order in which files are found is one of their
places in the tree (`WalksBefore`, `walk_ordered`), so a scan is the list of all
files with some properties, in that order and up to the limit
(`scan_eq_selection`).

A place is the list of names on the way to an entry, and the path of a file is
its place with slashes between the names.
-/

namespace RepoSurvey.Scan

/-! ## Rules -/

/-- The last rule that matches the path is not negated. -/
def Ignored (rules : List IgnoreRule) (path : String) (isDirectory : Bool) : Prop :=
  ∃ before rule after, rules = before ++ rule :: after ∧
    rule.applies path isDirectory = true ∧ rule.negate = false ∧
    ∀ later ∈ after, later.applies path isDirectory = false

section

variable {rules : List IgnoreRule} {path : String} {isDirectory : Bool}

theorem not_ignored_nil : ¬ Ignored [] path isDirectory := by
  rintro ⟨before, rule, after, same, -⟩
  exact List.append_ne_nil_of_right_ne_nil before (List.cons_ne_nil rule after) same.symm

/-- A rule in front decides when no later one matches. -/
theorem ignored_cons {rule : IgnoreRule} :
    Ignored (rule :: rules) path isDirectory ↔ Ignored rules path isDirectory ∨
      rule.applies path isDirectory = true ∧ rule.negate = false ∧
        ∀ later ∈ rules, later.applies path isDirectory = false := by
  constructor
  · rintro ⟨before, last, after, same, decisive⟩
    cases before with
    | nil =>
      obtain ⟨rfl, rfl⟩ := List.cons.inj same
      exact .inr decisive
    | cons first before =>
      obtain ⟨rfl, rest⟩ := List.cons.inj same
      exact .inl ⟨before, last, after, rest, decisive⟩
  · rintro (⟨before, last, after, rfl, decisive⟩ | decisive)
    · exact ⟨rule :: before, last, after, rfl, decisive⟩
    · exact ⟨[], rule, rules, rfl, decisive⟩

/-- Going through the rules from some answer keeps it when no rule matches. -/
theorem foldl_applies_eq_true_iff (answer : Bool) :
    rules.foldl (fun ignored r => if r.applies path isDirectory then !r.negate else ignored) answer
        = true ↔
      Ignored rules path isDirectory ∨
        answer = true ∧ ∀ rule ∈ rules, rule.applies path isDirectory = false := by
  induction rules generalizing answer with
  | nil => simp [not_ignored_nil]
  | cons rule rest ih =>
    rw [List.foldl_cons, ih, ignored_cons, or_assoc]
    by_cases applies : rule.applies path isDirectory = true
    · simp [applies]
    · simp [applies]

theorem isIgnored_iff :
    isIgnored rules path isDirectory = true ↔ Ignored rules path isDirectory := by
  rw [isIgnored, foldl_applies_eq_true_iff]
  simp

end

/-! ## Trees -/

/-- A text that can name an entry: it is not empty and has no slash. -/
def IsName (name : String) : Prop :=
  name ≠ "" ∧ '/' ∉ name.toList
  deriving Decidable

/-- A tree as file systems have them: entries have names, and those in a directory differ. -/
inductive Entry.Proper : Entry → Prop where
  | file (bytes : ByteArray) : Proper (.file bytes)
  | directory {entries : List (String × Entry)} (different : (entries.map (·.1)).Nodup)
    (named : ∀ entry ∈ entries, IsName entry.1)
    (inner : ∀ entry ∈ entries, Proper entry.2) : Proper (.directory entries)

theorem lookup_eq_some_iff_mem {α : Type} {entries : List (String × α)} {name : String} {a : α}
    (different : (entries.map (·.1)).Nodup) :
    entries.lookup name = some a ↔ (name, a) ∈ entries := by
  induction entries with
  | nil => simp
  | cons entry rest ih =>
    obtain ⟨key, b⟩ := entry
    obtain ⟨new, different⟩ := List.nodup_cons.mp different
    have elsewhere : (key, a) ∉ rest := fun mem => new (List.mem_map.mpr ⟨_, mem, rfl⟩)
    by_cases same : name = key
    · subst same
      simp [elsewhere, eq_comm]
    · have other : (name == key) = false := beq_eq_false_iff_ne.mpr same
      simp [List.lookup_cons, other, ih different, same]

theorem Entry.Proper.named_of_descend? {e inner : Entry} {place : List String} (proper : e.Proper)
    (leads : e.descend? place = some inner) :
    ∀ name ∈ place, IsName name := by
  induction place generalizing e with
  | nil => exact fun name mem => absurd mem List.not_mem_nil
  | cons name rest ih =>
    obtain ⟨next, there, further⟩ := Option.bind_eq_some_iff.mp leads
    cases proper with
    | file bytes => cases there
    | directory different named inner =>
      have mem := (lookup_eq_some_iff_mem different).mp there
      refine List.forall_mem_cons.mpr ⟨named _ mem, ?_⟩
      exact ih (inner _ mem) further

/-! ## What a walk comes to -/

/-- A walk that starts at the entry comes to this place, under which there is a
file. The entry itself lies at the place `above`. -/
structure Walked (rules : List IgnoreRule) (above : List String) (e : Entry)
    (place : List String) : Prop where
  /-- There is a file. -/
  file : ∃ bytes, e.descend? place = some (.file bytes)
  /-- No directory on the way is shut out. -/
  entered : ∀ outer name rest, place = outer ++ name :: rest → rest ≠ [] →
    name ∉ excludedDirectories ∧
      ¬ Ignored rules (Text.join "/" (above ++ outer ++ [name])) true
  /-- Neither is the name of the file. -/
  named : ∀ outer name, place = outer ++ [name] → name ∉ excludedFiles
  /-- Nor the file. -/
  kept : ¬ Ignored rules (Text.join "/" (above ++ place)) false

section

variable {rules : List IgnoreRule} {above : List String} {e : Entry} {name : String}

theorem not_walked_nil {entries : List (String × Entry)} :
    ¬ Walked rules above (.directory entries) [] := by
  rintro ⟨⟨bytes, same⟩, -⟩
  cases same

theorem entersDirectory_iff {path : String} : entersDirectory rules name path = true ↔
    name ∉ excludedDirectories ∧ ¬ Ignored rules path true := by
  simp [entersDirectory, ← isIgnored_iff]

theorem admitsFile_iff {path : String} : admitsFile rules name path = true ↔
    name ∉ excludedFiles ∧ ¬ Ignored rules path false := by
  simp [admitsFile, ← isIgnored_iff]

/-- A file in a directory is come to when it is admitted. -/
theorem walked_singleton_iff {entries : List (String × Entry)} :
    Walked rules above (.directory entries) [name] ↔
      (∃ bytes, (Entry.directory entries).child? name = some (.file bytes)) ∧
        admitsFile rules name (Text.join "/" (above ++ [name])) = true := by
  constructor
  · intro walked
    obtain ⟨bytes, leads⟩ := walked.file
    obtain ⟨found, there, same⟩ := Option.bind_eq_some_iff.mp leads
    rw [Entry.descend?, Option.some_inj] at same
    subst same
    exact ⟨⟨bytes, there⟩, admitsFile_iff.mpr ⟨walked.named [] name rfl, walked.kept⟩⟩
  · rintro ⟨⟨bytes, there⟩, admitted⟩
    obtain ⟨named, kept⟩ := admitsFile_iff.mp admitted
    refine ⟨⟨bytes, ?_⟩, ?_, ?_, kept⟩
    · rw [Entry.descend?, there]
      rfl
    · intro outer name' rest same deeper
      have lengths := congrArg List.length same
      have positive := List.length_pos_iff.mpr deeper
      simp only [List.length_append, List.length_cons, List.length_nil] at lengths
      omega
    · intro outer name' same
      cases outer with
      | nil =>
        cases same
        exact named
      | cons _ outer => exact absurd (List.cons.inj same).2.symm (by simp)

/-- What lies deeper is come to when the directory is entered. -/
theorem walked_cons_iff {entries : List (String × Entry)} {next : String} {rest : List String} :
    Walked rules above (.directory entries) (name :: next :: rest) ↔
      ∃ inner, (Entry.directory entries).child? name = some (.directory inner) ∧
        entersDirectory rules name (Text.join "/" (above ++ [name])) = true ∧
        Walked rules (above ++ [name]) (.directory inner) (next :: rest) := by
  constructor
  · intro walked
    obtain ⟨bytes, leads⟩ := walked.file
    obtain ⟨found, there, further⟩ := Option.bind_eq_some_iff.mp leads
    cases found with
    | file bytes' => cases further
    | directory inner =>
      refine ⟨inner, there, ?_, ⟨bytes, further⟩, ?_, ?_, ?_⟩
      · have first := walked.entered [] name (next :: rest) rfl (List.cons_ne_nil next rest)
        rw [List.append_nil] at first
        exact entersDirectory_iff.mpr first
      · intro outer name' rest' same deeper
        have later := walked.entered (name :: outer) name' rest' (congrArg _ same) deeper
        rwa [List.append_cons above name outer] at later
      · exact fun outer name' same => walked.named (name :: outer) name' (congrArg _ same)
      · have kept := walked.kept
        rwa [List.append_cons above name (next :: rest)] at kept
  · rintro ⟨inner, there, first, walked⟩
    constructor
    case file =>
      obtain ⟨bytes, further⟩ := walked.file
      exact ⟨bytes, Option.bind_eq_some_iff.mpr ⟨_, there, further⟩⟩
    case entered =>
      intro outer name' rest' same deeper
      cases outer with
      | nil =>
        obtain ⟨rfl, -⟩ := List.cons.inj same
        rw [List.append_nil]
        exact entersDirectory_iff.mp first
      | cons name'' outer =>
        obtain ⟨rfl, further⟩ := List.cons.inj same
        rw [List.append_cons above name outer]
        exact walked.entered outer name' rest' further deeper
    case named =>
      intro outer name' same
      cases outer with
      | nil => cases same
      | cons name'' outer => exact walked.named outer name' (List.cons.inj same).2
    case kept =>
      rw [List.append_cons above name (next :: rest)]
      exact walked.kept

end

/-! ## The paths of a walk -/

/-- What a walk finds under a name in the directory at `folder`, if anything. -/
def foundAt? (rules : List IgnoreRule) (folder : String) :
    String × Entry → Option (String × Found)
  | (name, .file _) =>
    if admitsFile rules name (childPath folder name) then some (name, .file) else none
  | (name, .directory inner) =>
    if entersDirectory rules name (childPath folder name) then
      some (name, .below (Entry.walk rules (childPath folder name) (.directory inner)))
    else none

section

variable {rules : List IgnoreRule} {folder name path : String} {entry : String × Entry}
  {entries : List (String × Entry)} {found : Table Found}

theorem walkEntries_eq :
    walkEntries rules folder entries = entries.filterMap (foundAt? rules folder) := by
  induction entries with
  | nil => rfl
  | cons entry rest ih =>
    obtain ⟨key, e⟩ := entry
    cases e with
    | file bytes =>
      rw [walkEntries, ih, List.filterMap_cons, foundAt?]
      by_cases admitted : admitsFile rules key (childPath folder key) = true
      · simp [admitted]
      · simp [admitted]
    | directory inner =>
      rw [walkEntries, ih, List.filterMap_cons, foundAt?]
      by_cases entered : entersDirectory rules key (childPath folder key) = true
      · simp [entered]
      · simp [entered]

theorem foundAt?_eq_some_file : foundAt? rules folder entry = some (name, .file) ↔
    (∃ bytes, entry = (name, .file bytes)) ∧
      admitsFile rules name (childPath folder name) = true := by
  obtain ⟨key, e⟩ := entry
  cases e with
  | file bytes =>
    simp only [foundAt?, Option.ite_none_right_eq_some, Option.some_inj, Prod.mk.injEq]
    grind
  | directory inner => simp [foundAt?]

theorem foundAt?_eq_some_below {paths : List String} :
    foundAt? rules folder entry = some (name, .below paths) ↔
      ∃ inner, entry = (name, .directory inner) ∧
        entersDirectory rules name (childPath folder name) = true ∧
        paths = Entry.walk rules (childPath folder name) (.directory inner) := by
  obtain ⟨key, e⟩ := entry
  cases e with
  | file bytes => simp [foundAt?]
  | directory inner =>
    simp only [foundAt?, Option.ite_none_right_eq_some, Option.some_inj, Prod.mk.injEq,
      Found.below.injEq, Entry.directory.injEq]
    grind

theorem name_of_foundAt? {f : String × Found} (made : foundAt? rules folder entry = some f) :
    f.1 = entry.1 := by
  obtain ⟨name, kind⟩ := f
  cases kind with
  | file =>
    obtain ⟨⟨bytes, rfl⟩, -⟩ := foundAt?_eq_some_file.mp made
    rfl
  | below paths =>
    obtain ⟨inner, rfl, -⟩ := foundAt?_eq_some_below.mp made
    rfl

/-- The paths found in a directory are those of its files and those below its subdirectories. -/
theorem mem_foundPaths : path ∈ foundPaths folder found ↔
    (∃ name, (name, .file) ∈ found ∧ path = childPath folder name) ∨
      ∃ name paths, (name, .below paths) ∈ found ∧ path ∈ paths := by
  have sorted : ∀ f, f ∈ found.sorted ↔ f ∈ found := fun _ => List.mem_mergeSort
  rw [foundPaths, List.mem_append, List.mem_filterMap, List.mem_flatMap]
  refine or_congr ⟨?_, ?_⟩ ⟨?_, ?_⟩
  · rintro ⟨⟨name, kind⟩, mem, made⟩
    cases kind with
    | file => exact ⟨name, (sorted _).mp mem, (Option.some.inj made).symm⟩
    | below paths => cases made
  · rintro ⟨name, mem, rfl⟩
    exact ⟨_, (sorted _).mpr mem, rfl⟩
  · rintro ⟨⟨name, kind⟩, mem, inside⟩
    cases kind with
    | file => exact absurd inside List.not_mem_nil
    | below paths => exact ⟨name, paths, (sorted _).mp mem, inside⟩
  · rintro ⟨name, paths, mem, inside⟩
    exact ⟨_, (sorted _).mpr mem, inside⟩

/-- What is found under different names is sorted by strictly growing names. -/
theorem pairwise_sorted (different : (found.map (·.1)).Nodup) :
    found.sorted.Pairwise fun a b => a.1 < b.1 :=
  pairwise_lt_mergeSort orders_sorted different

theorem nodup_keys_walkEntries (different : (entries.map (·.1)).Nodup) :
    ((walkEntries rules folder entries).map (·.1)).Nodup := by
  rw [walkEntries_eq]
  refine List.pairwise_map.mpr (List.pairwise_filterMap.mpr ?_)
  refine (List.pairwise_map.mp different).imp fun apart f made f' made' => ?_
  rwa [name_of_foundAt? made, name_of_foundAt? made']

/-- The paths found in a directory are in some order when those of files are, those
below each subdirectory are, and files come before what is deeper. -/
theorem pairwise_foundPaths {before : String → String → Prop}
    (different : (found.map (·.1)).Nodup)
    (files : ∀ name name', (name, .file) ∈ found → (name', .file) ∈ found → name < name' →
      before (childPath folder name) (childPath folder name'))
    (inside : ∀ name paths, (name, .below paths) ∈ found → paths.Pairwise before)
    (apart : ∀ name paths name' paths', (name, .below paths) ∈ found →
      (name', .below paths') ∈ found → name < name' →
      ∀ path ∈ paths, ∀ path' ∈ paths', before path path')
    (between : ∀ name name' paths', (name, .file) ∈ found → (name', .below paths') ∈ found →
      ∀ path' ∈ paths', before (childPath folder name) path') :
    (foundPaths folder found).Pairwise before := by
  have strict := pairwise_sorted different
  have sorted : ∀ {f}, f ∈ found.sorted → f ∈ found := List.mem_mergeSort.mp
  refine List.pairwise_append.mpr
    ⟨List.pairwise_filterMap.mpr ?_, List.pairwise_flatMap.mpr ⟨?_, ?_⟩, ?_⟩
  · refine strict.imp_of_mem ?_
    rintro ⟨name, kind⟩ ⟨name', kind'⟩ mem mem' less path made path' made'
    cases kind with
    | below paths => cases made
    | file =>
      cases kind' with
      | below paths' => cases made'
      | file =>
        cases made
        cases made'
        exact files name name' (sorted mem) (sorted mem') less
  · rintro ⟨name, kind⟩ mem
    cases kind with
    | file => exact List.Pairwise.nil
    | below paths => exact inside name paths (sorted mem)
  · refine strict.imp_of_mem ?_
    rintro ⟨name, kind⟩ ⟨name', kind'⟩ mem mem' less path there path' there'
    cases kind with
    | file => cases there
    | below paths =>
      cases kind' with
      | file => cases there'
      | below paths' =>
        exact apart name paths name' paths' (sorted mem) (sorted mem') less path there path' there'
  · intro path mem path' mem'
    obtain ⟨⟨name, kind⟩, there, made⟩ := List.mem_filterMap.mp mem
    obtain ⟨⟨name', kind'⟩, there', deeper⟩ := List.mem_flatMap.mp mem'
    cases kind with
    | below paths => cases made
    | file =>
      cases made
      cases kind' with
      | file => cases deeper
      | below paths' => exact between name name' paths' (sorted there) (sorted there') path' deeper

end

/-! ## Places -/

theorem childPath_join {above : List String} (named : ∀ name ∈ above, IsName name)
    (name : String) :
    childPath (Text.join "/" above) name = Text.join "/" (above ++ [name]) := by
  cases above with
  | nil => rfl
  | cons first rest =>
    have written : (Text.join "/" (first :: rest)).isEmpty = false :=
      String.isEmpty_eq_false_iff.mpr (Text.join_cons_ne_empty (named first List.mem_cons_self).1)
    rw [childPath, written, Text.join, Text.join, String.intercalate_append_of_ne_nil
      (List.cons_ne_nil first rest) (List.cons_ne_nil name []), String.intercalate_singleton]
    rfl

/-- The order of a walk: the files of a directory by name, and then what is below
its subdirectories, these by name as well. -/
def WalksBefore : List String → List String → Prop
  | [file], [file'] => file < file'
  | [_], _ :: _ :: _ => True
  | name :: next :: rest, name' :: next' :: rest' =>
    name < name' ∨ name = name' ∧ WalksBefore (next :: rest) (next' :: rest')
  | _, _ => False

theorem WalksBefore.cons {place place' : List String} (h : WalksBefore place place')
    (name : String) : WalksBefore (name :: place) (name :: place') := by
  cases place with
  | nil => cases h
  | cons next rest =>
    cases place' with
    | nil => cases rest <;> cases h
    | cons next' rest' => exact .inr ⟨rfl, h⟩

theorem not_walksBefore_self (place : List String) : ¬ WalksBefore place place := by
  induction place with
  | nil => exact id
  | cons name rest ih =>
    cases rest with
    | nil => exact lt_irrefl name
    | cons next rest => exact fun h => h.elim (lt_irrefl name) fun same => ih same.2

theorem WalksBefore.append_left {place place' : List String} (h : WalksBefore place place')
    (above : List String) : WalksBefore (above ++ place) (above ++ place') := by
  induction above with
  | nil => exact h
  | cons name above ih => exact ih.cons name

section

variable {rules : List IgnoreRule} {above : List String} {e : Entry} {name path : String}
  {entries : List (String × Entry)}

theorem mem_walkEntries {f : String × Found} :
    f ∈ walkEntries rules (Text.join "/" above) entries ↔
      ∃ entry ∈ entries, foundAt? rules (Text.join "/" above) entry = some f := by
  rw [walkEntries_eq, List.mem_filterMap]

theorem forall_mem_append_singleton {p : String → Prop} (outside : ∀ name ∈ above, p name)
    (here : p name) : ∀ other ∈ above ++ [name], p other := by
  intro other mem
  rcases List.mem_append.mp mem with old | new
  · exact outside other old
  · rwa [List.mem_singleton.mp new]

/-- A walk comes to the files that nothing shuts out. -/
theorem mem_walk_iff (proper : e.Proper) (named : ∀ name ∈ above, IsName name)
    (isDirectory : e.isDirectory = true) :
    path ∈ Entry.walk rules (Text.join "/" above) e ↔
      ∃ place, Walked rules above e place ∧ path = Text.join "/" (above ++ place) := by
  induction proper generalizing above path with
  | file bytes => cases isDirectory
  | @directory entries different written inner ih =>
    have lookup : ∀ {name e}, (Entry.directory entries).child? name = some e ↔
        (name, e) ∈ entries := lookup_eq_some_iff_mem different
    rw [Entry.walk, mem_foundPaths]
    constructor
    · rintro (⟨name, mem, rfl⟩ | ⟨name, paths, mem, inside⟩)
      · obtain ⟨entry, there, made⟩ := mem_walkEntries.mp mem
        obtain ⟨⟨bytes, rfl⟩, admitted⟩ := foundAt?_eq_some_file.mp made
        rw [childPath_join named] at admitted ⊢
        exact ⟨[name], walked_singleton_iff.mpr ⟨⟨bytes, lookup.mpr there⟩, admitted⟩, rfl⟩
      · obtain ⟨entry, there, made⟩ := mem_walkEntries.mp mem
        obtain ⟨deeper, rfl, entered, rfl⟩ := foundAt?_eq_some_below.mp made
        rw [childPath_join named] at entered inside
        have further := forall_mem_append_singleton named (written _ there)
        obtain ⟨place, walked, rfl⟩ := (ih _ there further rfl).mp inside
        cases place with
        | nil => exact absurd walked not_walked_nil
        | cons next rest =>
          have reached := walked_cons_iff.mpr ⟨deeper, lookup.mpr there, entered, walked⟩
          refine ⟨name :: next :: rest, reached, ?_⟩
          rw [List.append_cons above name (next :: rest)]
    · rintro ⟨place, walked, rfl⟩
      match place with
      | [] => exact absurd walked not_walked_nil
      | [name] =>
        obtain ⟨⟨bytes, there⟩, admitted⟩ := walked_singleton_iff.mp walked
        rw [← childPath_join named] at admitted ⊢
        refine .inl ⟨name, mem_walkEntries.mpr ⟨_, lookup.mp there, ?_⟩, rfl⟩
        exact foundAt?_eq_some_file.mpr ⟨⟨bytes, rfl⟩, admitted⟩
      | name :: next :: rest =>
        obtain ⟨deeper, there, entered, walked⟩ := walked_cons_iff.mp walked
        have mem := lookup.mp there
        have further := forall_mem_append_singleton named (written _ mem)
        have inside := (ih _ mem further rfl).mpr ⟨next :: rest, walked, rfl⟩
        rw [← childPath_join named] at entered inside
        rw [List.append_cons above name (next :: rest)]
        refine .inr ⟨name, _, mem_walkEntries.mpr ⟨_, mem, ?_⟩, inside⟩
        exact foundAt?_eq_some_below.mpr ⟨deeper, rfl, entered, rfl⟩

/-- The place of a file can be told from its path. -/
theorem Walked.split_join {place : List String} (walked : Walked rules above e place)
    (proper : e.Proper) (named : ∀ name ∈ above, IsName name) (nonempty : place ≠ []) :
    Text.split '/' (Text.join "/" (above ++ place)) = above ++ place := by
  obtain ⟨bytes, leads⟩ := walked.file
  refine Text.split_join (List.append_ne_nil_of_right_ne_nil above nonempty) fun name mem => ?_
  rcases List.mem_append.mp mem with outside | inside
  · exact (named name outside).2
  · exact (proper.named_of_descend? leads name inside).2

/-- What a walk comes to below a subdirectory lies at a longer place. -/
theorem exists_of_mem_below (proper : (Entry.directory entries).Proper)
    (named : ∀ name ∈ above, IsName name) {paths : List String}
    (below : (name, .below paths) ∈ walkEntries rules (Text.join "/" above) entries)
    (mem : path ∈ paths) :
    ∃ next rest, Text.split '/' path = above ++ name :: next :: rest := by
  obtain ⟨entry, there, made⟩ := mem_walkEntries.mp below
  obtain ⟨deeper, rfl, entered, rfl⟩ := foundAt?_eq_some_below.mp made
  rw [childPath_join named] at mem
  cases proper with
  | directory different written inner =>
    have further := forall_mem_append_singleton named (written _ there)
    obtain ⟨place, walked, rfl⟩ := (mem_walk_iff (inner _ there) further rfl).mp mem
    cases place with
    | nil => exact absurd walked not_walked_nil
    | cons next rest =>
      refine ⟨next, rest, ?_⟩
      rw [walked.split_join (inner _ there) further (List.cons_ne_nil next rest),
        List.append_cons above name (next :: rest)]

theorem split_of_file (written : ∀ entry ∈ entries, IsName entry.1)
    (named : ∀ name ∈ above, IsName name)
    (mem : (name, .file) ∈ walkEntries rules (Text.join "/" above) entries) :
    Text.split '/' (childPath (Text.join "/" above) name) = above ++ [name] := by
  obtain ⟨entry, there, made⟩ := mem_walkEntries.mp mem
  obtain ⟨⟨bytes, rfl⟩, -⟩ := foundAt?_eq_some_file.mp made
  rw [childPath_join named]
  have whole := forall_mem_append_singleton named (written _ there)
  exact Text.split_join (List.append_ne_nil_of_right_ne_nil above (List.cons_ne_nil name []))
    fun other inside => (whole other inside).2

/-- A walk comes to files in its order. -/
theorem pairwise_walk (proper : e.Proper) (named : ∀ name ∈ above, IsName name) :
    (Entry.walk rules (Text.join "/" above) e).Pairwise fun path path' =>
      WalksBefore (Text.split '/' path) (Text.split '/' path') := by
  induction proper generalizing above with
  | file bytes => exact List.Pairwise.nil
  | @directory entries different written inner ih =>
    have proper : (Entry.directory entries).Proper := .directory different written inner
    rw [Entry.walk]
    refine pairwise_foundPaths (nodup_keys_walkEntries different) ?files ?inside ?apart ?between
    case files =>
      intro name name' mem mem' less
      rw [split_of_file written named mem, split_of_file written named mem']
      have before : WalksBefore [name] [name'] := less
      exact before.append_left above
    case inside =>
      intro name paths mem
      obtain ⟨entry, there, made⟩ := mem_walkEntries.mp mem
      obtain ⟨deeper, rfl, -, rfl⟩ := foundAt?_eq_some_below.mp made
      rw [childPath_join named]
      exact ih _ there (forall_mem_append_singleton named (written _ there))
    case apart =>
      intro name paths name' paths' mem mem' less path inside path' inside'
      obtain ⟨next, rest, first⟩ := exists_of_mem_below proper named mem inside
      obtain ⟨next', rest', second⟩ := exists_of_mem_below proper named mem' inside'
      rw [first, second]
      have before : WalksBefore (name :: next :: rest) (name' :: next' :: rest') := Or.inl less
      exact before.append_left above
    case between =>
      intro name name' paths' mem mem' path' inside
      obtain ⟨next, rest, second⟩ := exists_of_mem_below proper named mem' inside
      rw [split_of_file written named mem, second]
      have before : WalksBefore [name] (name' :: next :: rest) := trivial
      exact before.append_left above

end

/-! ## The choice -/

/-- The text of a repository's ignore file; empty when there is none. -/
def ignoreText (repository : Entry) : String :=
  match repository.child? ignoreFile with
  | some (.file bytes) => Text.decodeLenient bytes
  | _ => ""

/-- The rules of an ignore file, and after them those of the paths to leave out. -/
def rulesOf (text : String) (excluded : List String) : List IgnoreRule :=
  (Text.fileLines text).filterMap IgnoreRule.ofLine? ++
    excluded.filterMap fun text => IgnoreRule.ofText? text false

/-- The file at a place in a repository is one that a scan is after. -/
structure Selected (settings : ScanSettings) (rules : List IgnoreRule) (repository : Entry)
    (place : List String) : Prop where
  /-- Nothing shuts it out. -/
  walked : Walked rules [] repository place
  /-- It has one of the extensions, if there are any. -/
  extension : settings.extensions = [] ∨ ∃ extension ∈ settings.extensions,
    (Text.lower extension).toList <:+ (Text.lower (Text.join "/" place)).toList
  /-- It is no test, if tests are left out. -/
  relevant : settings.excludeTests = true → isTestFile (Text.join "/" place) = false

section

variable {w : Workspace} {settings : ScanSettings} {rules : List IgnoreRule} {path : String}
  {repository : Entry}

theorem hasExtension_iff {extensions : List String} : hasExtension extensions path = true ↔
    extensions = [] ∨ ∃ extension ∈ extensions,
      (Text.lower extension).toList <:+ (Text.lower path).toList := by
  rw [hasExtension, Bool.or_eq_true, List.isEmpty_iff, List.any_eq_true]
  simp only [Text.endsWith, List.isSuffixOf_iff_suffix]

theorem isChosen_iff : isChosen settings path = true ↔
    (settings.extensions = [] ∨ ∃ extension ∈ settings.extensions,
      (Text.lower extension).toList <:+ (Text.lower path).toList) ∧
    (settings.excludeTests = true → isTestFile path = false) := by
  rw [isChosen, Bool.and_eq_true, hasExtension_iff]
  refine and_congr Iff.rfl ?_
  cases settings.excludeTests with
  | false => simp
  | true => simp

/-- An ignore file that is no directory has rules. -/
theorem ignoreFileRules_eq
    (readable : ∀ entries, repository.child? ignoreFile ≠ some (.directory entries)) :
    ignoreFileRules w path repository =
      .ok ((Text.fileLines (ignoreText repository)).filterMap IgnoreRule.ofLine?) := by
  rw [ignoreFileRules, ignoreText]
  cases there : repository.child? ignoreFile with
  | none => rfl
  | some found =>
    cases found with
    | file bytes => rfl
    | directory entries => exact absurd there (readable entries)

theorem scan_eq {entries : List (String × Entry)}
    (there : w.entry? path = some (.directory entries))
    (readable : ∀ inner, (Entry.directory entries).child? ignoreFile ≠ some (.directory inner)) :
    scan w settings path = .ok (choose settings (Entry.walk
      (rulesOf (ignoreText (.directory entries)) settings.excludePaths) ""
      (.directory entries))) := by
  rw [scan, repositoryAt, there]
  simp only [bind, Except.bind, ignoreFileRules_eq readable]
  rfl

end

/-- A scan chooses exactly the files that are selected, each once and in the order of
a walk, up to the limit. -/
theorem scan_eq_selection {w : Workspace} {settings : ScanSettings} {path : String}
    {entries : List (String × Entry)} (there : w.entry? path = some (.directory entries))
    (proper : (Entry.directory entries).Proper)
    (readable : ∀ inner, (Entry.directory entries).child? ignoreFile ≠ some (.directory inner)) :
    ∃ (places : List (List String)) (choice : Choice), scan w settings path = .ok choice ∧
      places.Pairwise WalksBefore ∧
      (∀ place, place ∈ places ↔
        Selected settings (rulesOf (ignoreText (.directory entries)) settings.excludePaths)
          (.directory entries) place) ∧
      (places.map (Text.join "/")).Nodup ∧
      (settings.limit = none → choice.paths = places.map (Text.join "/")) ∧
      ∀ k : Nat, settings.limit = some ↑k →
        choice.paths = (places.map (Text.join "/")).take k := by
  let rules := rulesOf (ignoreText (.directory entries)) settings.excludePaths
  let all := (Entry.walk rules "" (.directory entries)).filter (isChosen settings)
  have walked : ∀ {path}, path ∈ Entry.walk rules "" (.directory entries) ↔
      ∃ place, Walked rules [] (.directory entries) place ∧ path = Text.join "/" place :=
    mem_walk_iff proper (List.forall_mem_nil IsName) rfl
  have cut : ∀ {place}, Walked rules [] (.directory entries) place →
      Text.split '/' (Text.join "/" place) = place := by
    intro place reached
    refine reached.split_join proper (List.forall_mem_nil _) ?_
    rintro rfl
    exact not_walked_nil reached
  have ordered : all.Pairwise fun path path' =>
      WalksBefore (Text.split '/' path) (Text.split '/' path') :=
    (pairwise_walk proper (List.forall_mem_nil IsName)).filter _
  have joined : (all.map (Text.split '/')).map (Text.join "/") = all := by
    rw [List.map_map]
    refine (List.map_congr_left fun path mem => ?_).trans (List.map_id all)
    obtain ⟨place, reached, rfl⟩ := walked.mp (List.mem_filter.mp mem).1
    exact congrArg (Text.join "/") (cut reached)
  refine ⟨all.map (Text.split '/'), _, scan_eq there readable, List.pairwise_map.mpr ordered,
    ?exact, ?once, ?whole, ?limited⟩
  case exact =>
    intro place
    rw [List.mem_map]
    constructor
    · rintro ⟨path, mem, rfl⟩
      obtain ⟨mem, chosen⟩ := List.mem_filter.mp mem
      obtain ⟨place, reached, rfl⟩ := walked.mp mem
      obtain ⟨extension, relevant⟩ := isChosen_iff.mp chosen
      rw [cut reached]
      exact ⟨reached, extension, relevant⟩
    · intro selected
      have mem := walked.mpr ⟨place, selected.walked, rfl⟩
      have chosen := isChosen_iff.mpr ⟨selected.extension, selected.relevant⟩
      exact ⟨_, List.mem_filter.mpr ⟨mem, chosen⟩, cut selected.walked⟩
  case once =>
    rw [joined]
    refine ordered.imp fun before same => ?_
    rw [same] at before
    exact not_walksBefore_self _ before
  case whole =>
    intro unlimited
    rw [joined, choose, unlimited]
    rfl
  case limited =>
    intro k limited
    rw [joined, choose, limited]
    show upTo (some ↑k) all = all.take k
    rw [upTo, if_pos (Int.natCast_nonneg k), Int.toNat_natCast]

/-- A repository with two scripts, one of them built. -/
def builtScript : List (String × Entry) :=
  [(".gitignore", .file "*.min.js\n".toUTF8),
    ("src", .directory [("app.min.js", .file .empty), ("app.js", .file .empty)])]

/-- The working directory is that repository. -/
def inBuiltScript : Workspace where
  location := "/work"
  tree := .directory builtScript

theorem proper_builtScript : (Entry.directory builtScript).Proper := by
  refine .directory (by decide) (by decide +kernel) ?_
  refine List.forall_mem_cons.mpr ⟨.file _, List.forall_mem_singleton.mpr ?_⟩
  refine .directory (by decide) (by decide +kernel) ?_
  exact List.forall_mem_cons.mpr ⟨.file _, List.forall_mem_singleton.mpr (.file _)⟩

theorem scan_eq_selection_of_builtScript :
    inBuiltScript.entry? "." = some (.directory builtScript) ∧
      (Entry.directory builtScript).Proper ∧
      (∀ inner, (Entry.directory builtScript).child? ignoreFile ≠ some (.directory inner)) ∧
      ∃ (places : List (List String)) (choice : Choice),
        scan inBuiltScript { limit := some 5 } "." = .ok choice ∧
        places.Pairwise WalksBefore ∧
        (∀ place, place ∈ places ↔
          Selected { limit := some 5 } (rulesOf (ignoreText (.directory builtScript)) [])
            (.directory builtScript) place) ∧
        (places.map (Text.join "/")).Nodup ∧
        (some (5 : Int) = none → choice.paths = places.map (Text.join "/")) ∧
        ∀ k : Nat, some (5 : Int) = some ↑k →
          choice.paths = (places.map (Text.join "/")).take k := by
  have there : inBuiltScript.entry? "." = some (.directory builtScript) := rfl
  have readable : ∀ inner,
      (Entry.directory builtScript).child? ignoreFile ≠ some (.directory inner) := nofun
  exact ⟨there, proper_builtScript, readable,
    scan_eq_selection there proper_builtScript readable⟩

end RepoSurvey.Scan
