import RepoSurvey.Proofs.Outcomes
import RepoSurvey.Proofs.Paths
import RepoSurvey.Proofs.Scan.Selection
import RepoSurvey.Proofs.Text.Decoding

/-!
# Reading a file gives its text

A file is looked for by a path that leads from the working directory to the repository and on to
the file, part by part (`parts_join`). As long as no name on the way is made of points, that is
the way down the tree (`found?_of_file`), so a file that holds a text within the limits is read as
that text (`readSource_of_holds`), and one that is too large as nothing (`readSource_of_large`).

What a scan chooses are files of the repository (`exists_file_of_scan`).
-/

namespace RepoSurvey

namespace Scan

/-! ## Trees -/

/-- A name that leads to an entry of a directory, and neither to the directory itself nor to the
one above. -/
structure LeadsDown (name : String) : Prop where
  /-- It is a name. -/
  isName : IsName name
  /-- It is not that of the directory. -/
  ne_here : name ≠ "."
  /-- It is not that of the directory above. -/
  ne_above : name ≠ ".."

/-- A tree in which no entry is called like the directory itself or the one above. -/
inductive Entry.Undotted : Entry → Prop where
  | file (bytes : ByteArray) : Undotted (.file bytes)
  | directory {entries : List (String × Entry)}
    (named : ∀ entry ∈ entries, entry.1 ≠ "." ∧ entry.1 ≠ "..")
    (inner : ∀ entry ∈ entries, Undotted entry.2) : Undotted (.directory entries)

theorem Entry.Undotted.of_descend? {e inner : Entry} {place : List String} (plain : e.Undotted)
    (leads : e.descend? place = some inner) : ∀ name ∈ place, name ≠ "." ∧ name ≠ ".." := by
  induction place generalizing e with
  | nil => exact List.forall_mem_nil _
  | cons name rest ih =>
    obtain ⟨next, there, further⟩ := Option.bind_eq_some_iff.mp leads
    cases plain with
    | file bytes => cases there
    | directory named inner =>
      obtain ⟨before, after, rfl, -⟩ := List.lookup_eq_some_iff.mp there
      have mem : (name, next) ∈ before ++ (name, next) :: after :=
        List.mem_append_right before List.mem_cons_self
      exact List.forall_mem_cons.mpr ⟨named _ mem, ih (inner _ mem) further⟩

theorem Entry.descend?_append (e : Entry) (way further : List String) :
    e.descend? (way ++ further) = (e.descend? way).bind fun inner => inner.descend? further := by
  induction way generalizing e with
  | nil => rfl
  | cons name rest ih =>
    rw [List.cons_append, Entry.descend?, Entry.descend?, Option.bind_assoc]
    exact congrArg _ (funext ih)

namespace Workspace

variable {w : Workspace} {path : String} {places : List String}

/-- Without two points on the way nothing leads back. -/
theorem visit_eq_descend? {names : List String} (onward : ".." ∉ names) (above : List Entry)
    (here : Entry) : visit above here names = here.descend? names := by
  induction names generalizing above here with
  | nil => rfl
  | cons name rest ih =>
    have first : name ≠ ".." := fun same => onward (same ▸ List.mem_cons_self)
    rw [visit, Entry.descend?]
    · have later : ".." ∉ rest := fun mem => onward (List.mem_cons_of_mem name mem)
      exact congrArg _ (funext fun inner => ih later _ inner)
    · exact first

theorem leadsDown_of_places? (known : w.places? path = some places) :
    ∀ name ∈ places, LeadsDown name := by
  obtain ⟨relative, -, ends⟩ := Option.bind_eq_some_iff.mp known
  dsimp only at ends
  split at ends
  next => cases ends
  next inside =>
    cases ends
    intro name mem
    have entered := List.mem_reverse.mp mem
    have other : name ≠ ".." := by
      rintro rfl
      exact inside (List.contains_iff_mem.mpr entered)
    rcases Path.mem_foldl_enter entered with part | nothing | points
    · obtain ⟨piece, some_name, one_point⟩ := Path.mem_parts.mp part
      exact ⟨⟨some_name, Text.not_mem_of_mem_split piece⟩, one_point, other⟩
    · cases nothing
    · exact absurd points other

/-- As it is seen from the working directory, a path has the places it leads to as its parts. -/
theorem parts_seen (known : w.places? path = some places) :
    Text.startsWith (w.seen path) "/" = false ∧ Path.parts (w.seen path) = places := by
  have down := leadsDown_of_places? known
  by_cases here : places = []
  · have point : w.seen path = "." := by rw [seen, known, here]; rfl
    rw [point, here]
    exact ⟨rfl, rfl⟩
  · have cut : Text.split '/' (w.seen path) = places := by
      rw [seen, known]
      dsimp only
      rw [List.isEmpty_eq_false_iff.mpr here]
      exact Text.split_join here fun name mem => (down name mem).isName.2
    rw [← cut] at down
    refine ⟨Path.not_rooted_of_split fun name mem => (down name mem).isName.1, ?_⟩
    rw [Path.parts_eq_split fun name mem => ⟨(down name mem).isName.1, (down name mem).ne_here⟩,
      cut]

theorem relative?_of_free (free : Text.startsWith path "/" = false) :
    w.relative? path = some path := by
  rw [relative?, free, Bool.not_false, if_pos rfl]

/-- A path below a repository is found by going down from the repository. -/
theorem found?_join {repository : String} {e : Entry} (there : w.entry? repository = some e)
    (down : ∀ name ∈ Text.split '/' path, LeadsDown name) :
    w.found? (Path.join (w.seen repository) path) = e.descend? (Text.split '/' path) := by
  obtain ⟨places, known, leads⟩ := Option.bind_eq_some_iff.mp there
  obtain ⟨free, above⟩ := parts_seen known
  have free' := Path.not_rooted_of_split fun name mem => (down name mem).isName.1
  have below : Path.parts path = Text.split '/' path :=
    Path.parts_eq_split fun name mem => ⟨(down name mem).isName.1, (down name mem).ne_here⟩
  have onward : ".." ∉ places ++ Text.split '/' path := by
    intro mem
    rcases List.mem_append.mp mem with mem | mem
    · exact (leadsDown_of_places? known _ mem).ne_above rfl
    · exact (down _ mem).ne_above rfl
  rw [found?, relative?_of_free (Path.not_rooted_join free free'), Option.bind_some,
    Path.parts_join free', above, below, visit_eq_descend? onward, Entry.descend?_append, leads,
    Option.bind_some]

end Workspace

/-! ## Texts -/

/-- The tree holds a text at a path: a file of a size within the limit, without carriage returns. -/
structure Entry.Holds (e : Entry) (limit : Int) (path text : String) : Prop where
  /-- The bytes of the file at the path are those of the text. -/
  file : e.descend? (Text.split '/' path) = some (.file text.toUTF8)
  /-- They are not too many. -/
  small : (text.toUTF8.size : Int) ≤ limit
  /-- Lines end with line feeds. -/
  fed : '\r' ∉ text.toList

/-! ## Files -/

section

variable {w : Workspace} {settings : ScanSettings} {repository path : String} {e : Entry}
  {bytes : ByteArray}

theorem mem_of_mem_upTo {limit : Option Int} {paths : List String}
    (mem : path ∈ upTo limit paths) : path ∈ paths := by
  unfold upTo at mem
  split at mem
  · split at mem
    · exact List.mem_of_mem_take mem
    · exact mem
  · exact mem

/-- What a scan chooses are files of the repository. -/
theorem exists_file_of_scan {choice : Choice} (there : w.entry? repository = some e)
    (proper : e.Proper) (scanned : scan w settings repository = .ok choice) :
    ∀ path ∈ choice.paths, ∃ bytes,
      e.descend? (Text.split '/' path) = some (.file bytes) := by
  intro path mem
  obtain ⟨found, at_path, scanned⟩ := Outcome.exists_of_bind_ok scanned
  obtain ⟨rules, -, scanned⟩ := Outcome.exists_of_bind_ok scanned
  cases scanned
  rw [repositoryAt, there] at at_path
  cases e with
  | file bytes => cases at_path
  | directory entries =>
    cases at_path
    have walked := (List.mem_filter.mp (mem_of_mem_upTo mem)).1
    have outermost := List.forall_mem_nil IsName
    obtain ⟨place, reached, rfl⟩ := (mem_walk_iff proper outermost rfl).mp walked
    have nonempty : place ≠ [] := by
      rintro rfl
      exact not_walked_nil reached
    rw [reached.split_join proper outermost nonempty]
    exact reached.file

/-- A file in a proper tree is found where it lies. -/
theorem found?_of_file (there : w.entry? repository = some e) (proper : e.Proper)
    (undotted : e.Undotted) (file : e.descend? (Text.split '/' path) = some (.file bytes)) :
    w.found? (Path.join (w.seen repository) path) = some (.file bytes) := by
  have down : ∀ name ∈ Text.split '/' path, LeadsDown name := by
    intro name mem
    obtain ⟨ne_here, ne_above⟩ := undotted.of_descend? file name mem
    exact ⟨proper.named_of_descend? file name mem, ne_here, ne_above⟩
  rw [Workspace.found?_join there down, file]

/-- A file that is larger than the limit counts as empty. -/
theorem readSource_of_large (there : w.entry? repository = some e) (proper : e.Proper)
    (undotted : e.Undotted) (file : e.descend? (Text.split '/' path) = some (.file bytes))
    (large : settings.maxFileSize < (bytes.size : Int)) :
    (readSource w settings repository path).1 = "" := by
  unfold readSource
  rw [found?_of_file there proper undotted file]
  dsimp only
  rw [if_pos large]

/-- What a proper tree holds at a path is read from there, and nothing is complained about. -/
theorem readSource_of_holds {text : String} (there : w.entry? repository = some e)
    (proper : e.Proper) (undotted : e.Undotted) (holds : e.Holds settings.maxFileSize path text) :
    readSource w settings repository path = (text, []) := by
  unfold readSource
  rw [found?_of_file there proper undotted holds.file]
  dsimp only
  rw [if_neg (Int.not_lt.mpr holds.small), Text.decode?_toUTF8 holds.fed]

end

end Scan

end RepoSurvey
