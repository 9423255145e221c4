import RepoSurvey.Proofs.Detection.HintFlaws
import RepoSurvey.Proofs.Outcomes
import RepoSurvey.Proofs.Sorting

/-!
# Findings in many files

A detector looks at file after file and sorts what it has found by file and
line. Its findings name their files, so the order in which the files came does
not show in the outcome (`gathered_eq_of_perm`), and the outcome is that of the
files in order of path, one after another (`gathered_eq_flatMap`).

Routes, changes of state and events are all gathered in this way, routes as
long as every hint has a line.
-/

namespace RepoSurvey.Detection

section

variable {α : Type} {file : α → String} {line : α → Int} {each : String → FileAnalysis → List α}
variable {corpus corpus' : Corpus}

/-- What is found in the files of a corpus, in order of file and line. -/
def gathered (file : α → String) (line : α → Int) (each : String → FileAnalysis → List α)
    (corpus : Corpus) : List α :=
  sortByPlace file line (corpus.usable.flatMap fun entry => each entry.1 entry.2)

/-- What is found in a file of the corpus names it. -/
def NameFiles (file : α → String) (each : String → FileAnalysis → List α) (corpus : Corpus) :
    Prop :=
  ∀ entry ∈ corpus, ∀ x ∈ each entry.1 entry.2, file x = entry.1

/-- The findings of one place are among those of its file. -/
theorem withKey_place (found : List α) (k : String ×ₗ Int) :
    withKey (fun x => toLex (file x, line x)) found k =
      withKey (fun x => toLex (file x, line x)) (withKey file found (ofLex k).1) k := by
  rw [withKey, withKey, withKey, List.filter_filter]
  refine List.filter_congr fun x _ => ?_
  rw [← Bool.decide_and]
  refine decide_eq_decide.mpr ⟨?_, And.left⟩
  rintro rfl
  exact ⟨rfl, rfl⟩

theorem mem_of_mem_usable {entry : String × FileAnalysis} (mem : entry ∈ corpus.usable) :
    entry ∈ corpus :=
  List.mem_of_mem_filter mem

theorem nodup_usable (distinct : corpus.keys.Nodup) :
    (corpus.usable.map (·.1)).Nodup :=
  distinct.sublist (List.filter_sublist.map _)

/-- The order of the files does not show in what is found. -/
theorem gathered_eq_of_perm (names : NameFiles file each corpus)
    (names' : NameFiles file each corpus') (perm : corpus.Perm corpus')
    (distinct : corpus.keys.Nodup) :
    gathered file line each corpus = gathered file line each corpus' := by
  -- Sorting is stable, so what counts are the findings of one place in their order; they all
  -- come from one file, and that has the same findings in both corpora.
  refine mergeSort_eq_of_withKey (orders_sortByPlace file line) fun k => ?_
  rw [withKey_place, withKey_place (corpus'.usable.flatMap _)]
  refine congrArg (fun found => withKey _ found k) ?_
  have same : withKey (·.1) corpus.usable (ofLex k).1 = withKey (·.1) corpus'.usable (ofLex k).1 :=
    withKey_eq_of_perm (perm.filter _) (nodup_usable distinct)
  rw [withKey_flatMap fun entry mem => names entry (mem_of_mem_usable mem),
    withKey_flatMap fun entry mem => names' entry (mem_of_mem_usable mem), same]

/-- The findings are in order of file, and of line within a file. -/
def InPlaces (file : α → String) (line : α → Int) (found : List α) : Prop :=
  found.Pairwise fun x y => file x < file y ∨ file x = file y ∧ line x ≤ line y

theorem inPlaces_gathered (corpus : Corpus) : InPlaces file line (gathered file line each corpus) :=
  (pairwise_mergeSort_key (orders_sortByPlace file line) _).imp Prod.Lex.toLex_le_toLex.mp

/-- What is found in a corpus is found in one of its files. -/
theorem mem_gathered {x : α} : x ∈ gathered file line each corpus ↔
    ∃ entry ∈ corpus.usable, x ∈ each entry.1 entry.2 := by
  rw [gathered, sortByPlace, List.mem_mergeSort, List.mem_flatMap]

/-- What is found is what belongs to the files, one after another in order of path. -/
theorem gathered_eq_flatMap (names : NameFiles file each corpus) (distinct : corpus.keys.Nodup) :
    ((corpus.keys.mergeSort fun a b => decide (a ≤ b)).flatMap fun path =>
      (gathered file line each corpus).filter fun x => file x == path) =
        gathered file line each corpus := by
  refine @flatMap_withKey _ _ _ file _ _ ?_ ?_ ?_
  · refine (inPlaces_gathered corpus).imp fun order => ?_
    rcases order with before | ⟨same, -⟩
    · exact le_of_lt before
    · exact le_of_eq same
  · exact pairwise_lt_mergeSort_labels distinct
  · intro x mem
    obtain ⟨entry, usable, found⟩ := mem_gathered.mp mem
    have there := mem_of_mem_usable usable
    rw [names entry there x found]
    exact List.mem_mergeSort.mpr (List.mem_map_of_mem there)

end

/-! ## The three detectors -/

variable {corpus : Corpus}

theorem State.detect_eq (corpus : Corpus) :
    State.detect corpus = gathered StateChange.file StateChange.line State.detectFile corpus :=
  rfl

theorem State.nameFiles (corpus : Corpus) :
    NameFiles StateChange.file State.detectFile corpus :=
  fun _ _ _ mem => State.file_detectFile mem

theorem Event.detect_eq (corpus : Corpus) :
    Event.detect corpus = gathered EventRecord.file EventRecord.line Event.detectFile corpus :=
  rfl

theorem Event.nameFiles (corpus : Corpus) :
    NameFiles EventRecord.file Event.detectFile corpus :=
  fun _ _ _ mem => Event.file_detectFile mem

/-- Every hint in the files of a corpus is legible. -/
def Route.AllLegible (corpus : Corpus) : Prop :=
  ∀ entry ∈ corpus, ∀ c ∈ containers entry.2, ∀ value ∈ c.info.routeHints, Route.Legible value

/-- The routes of a file, none when looking for them fails. -/
def Route.routesIn (path : String) (a : FileAnalysis) : List Endpoint :=
  (Route.detectFile path a).toOption.getD []

theorem Route.detectFile_eq {entry : String × FileAnalysis} (legible : Route.AllLegible corpus)
    (mem : entry ∈ corpus) : Route.detectFile entry.1 entry.2 =
      .ok (Route.routesIn entry.1 entry.2) := by
  obtain ⟨found, returns, -⟩ := Route.exists_detectFile entry.1 (legible entry mem)
  rw [Route.routesIn, returns]
  rfl

theorem Route.nameFiles (legible : Route.AllLegible corpus) :
    NameFiles Endpoint.file Route.routesIn corpus := by
  intro entry mem e there
  obtain ⟨found, returns, names⟩ := Route.exists_detectFile entry.1 (legible entry mem)
  rw [Route.routesIn, returns] at there
  exact names e there

/-- Looking for routes does not fail where every hint is legible. -/
theorem Route.detect_eq (legible : Route.AllLegible corpus) :
    Route.detect corpus =
      .ok (gathered Endpoint.file Endpoint.line Route.routesIn corpus) := by
  have every : (corpus.usable.mapM fun entry => Route.detectFile entry.1 entry.2) =
      .ok (corpus.usable.map fun entry => Route.routesIn entry.1 entry.2) :=
    Outcome.mapM_eq_ok fun entry usable => Route.detectFile_eq legible (mem_of_mem_usable usable)
  rw [Route.detect, every]
  show Except.ok (sortByPlace _ _ (List.map _ _).flatten) = _
  rw [← List.flatMap_def]
  rfl

/-! ## All findings -/

/-- What the three detectors find in a corpus. -/
def allFindings (corpus : Corpus) : Findings where
  endpoints := gathered Endpoint.file Endpoint.line Route.routesIn corpus
  states := State.detect corpus
  events := Event.detect corpus

/-- The findings do not depend on the order of the files. -/
theorem allFindings_of_perm {corpus' : Corpus} (perm : corpus.Perm corpus')
    (distinct : corpus.keys.Nodup) (legible : Route.AllLegible corpus) :
    allFindings corpus = allFindings corpus' := by
  have legible' : Route.AllLegible corpus' := fun entry mem => legible entry (perm.mem_iff.mpr mem)
  have routes : gathered _ Endpoint.line _ corpus = gathered _ Endpoint.line _ corpus' :=
    gathered_eq_of_perm (Route.nameFiles legible) (Route.nameFiles legible') perm distinct
  have states : State.detect corpus = State.detect corpus' :=
    gathered_eq_of_perm (State.nameFiles corpus) (State.nameFiles corpus') perm distinct
  have events : Event.detect corpus = Event.detect corpus' :=
    gathered_eq_of_perm (Event.nameFiles corpus) (Event.nameFiles corpus') perm distinct
  rw [allFindings, allFindings, routes, states, events]

end RepoSurvey.Detection
