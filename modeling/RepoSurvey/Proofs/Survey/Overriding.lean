import RepoSurvey.Proofs.Survey.Repositories

/-!
# What a run asks for prevails

A run may ask for settings in place of the configured ones. What it asks for is
in force and the rest stays as configured, with one exception: a size limit of
zero counts as none (`merges_applyTo_iff`).

What is in force decides what is read. Every file that a scan chooses is read,
and whatever is larger than the limit in force is read as empty, a limit below
zero leaving nothing else (`overrides_prevail`).
-/

namespace RepoSurvey.Survey

/-! ## Settings in force -/

/-- What is asked for is in force, and where nothing is asked for, what is configured. -/
structure Prevails {α : Type} (asked : Option α) (configured inForce : α) : Prop where
  /-- What is asked for is in force. -/
  wins : ∀ a, asked = some a → inForce = a
  /-- Where nothing is asked for, what is configured is in force. -/
  otherwise : asked = none → inForce = configured

/-- The settings in force are those that a run asks for, and else the configured ones. -/
structure Merges (o : Overrides) (configured inForce : ScanSettings) : Prop where
  /-- The extensions asked for are in force. -/
  extensions : Prevails o.extensions configured.extensions inForce.extensions
  /-- Patterns of paths are added to the configured ones. -/
  excludePaths : inForce.excludePaths = configured.excludePaths ++ o.excludePaths
  /-- The choice on tests is in force. -/
  excludeTests : Prevails o.excludeTests configured.excludeTests inForce.excludeTests
  /-- The limit on the number of files is in force. -/
  limit : Prevails (o.limit.map some) configured.limit inForce.limit
  /-- The limit on the size of files is in force. -/
  maxFileSize : Prevails o.maxFileSize configured.maxFileSize inForce.maxFileSize

section

variable {α : Type}

theorem prevails_getD (asked : Option α) (configured : α) :
    Prevails asked configured (asked.getD configured) := by
  constructor
  · rintro a rfl
    rfl
  · rintro rfl
    rfl

theorem prevails_or (asked configured : Option α) :
    Prevails (asked.map some) configured (asked.or configured) := by
  cases asked with
  | none => exact ⟨nofun, fun _ => rfl⟩
  | some a => exact ⟨fun b same => Option.some.inj same, nofun⟩

/-- Where zero counts as none, a number prevails if it is not zero, or if zero is configured. -/
theorem prevails_filter_iff {asked : Option Int} {configured : Int} :
    Prevails asked configured ((asked.filter (· != 0)).getD configured) ↔
      asked ≠ some 0 ∨ configured = 0 := by
  cases asked with
  | none => exact iff_of_true ⟨nofun, fun _ => rfl⟩ (.inl nofun)
  | some m =>
    by_cases zero : m = 0
    · subst zero
      constructor
      · intro prevails
        exact .inr (prevails.wins 0 rfl)
      · rintro (other | same)
        · exact absurd rfl other
        · exact ⟨fun a asked => same.trans (Option.some.inj asked), nofun⟩
    · have kept : (some m).filter (· != 0) = some m := by simp [zero]
      rw [kept]
      refine iff_of_true (prevails_getD (some m) configured) (.inl ?_)
      intro same
      exact zero (Option.some.inj same)

end

section

variable {o : Overrides} {s : ScanSettings}

/-- What a run asks for prevails, unless it asks for a size limit of zero. -/
theorem merges_applyTo_iff :
    Merges o s (o.applyTo s) ↔ o.maxFileSize ≠ some 0 ∨ s.maxFileSize = 0 := by
  rw [← prevails_filter_iff]
  constructor
  · intro merges
    exact merges.maxFileSize
  · intro prevails
    exact {
      extensions := prevails_getD o.extensions s.extensions
      excludePaths := rfl
      excludeTests := prevails_getD o.excludeTests s.excludeTests
      limit := prevails_or o.limit s.limit
      maxFileSize := prevails }

theorem maxFileSize_applyTo {m : Int} (asked : o.maxFileSize = some m) (nonzero : m ≠ 0) :
    (o.applyTo s).maxFileSize = m := by
  have merges : Merges o s (o.applyTo s) := by
    refine merges_applyTo_iff.mpr (.inl ?_)
    rw [asked]
    intro zero
    exact nonzero (Option.some.inj zero)
  exact merges.maxFileSize.wins m asked

end

/-! ## Files that are read -/

section

variable {k : Components} {w : Watch} {ws : Scan.Workspace} {settings : ScanSettings}
  {repository : String} {e : Scan.Entry} {choice : Scan.Choice}

/-- Whoever watches, when files are read to the end the same is read. -/
theorem eq_of_readRest {paths : List String} {total done : Nat} {r r' : Run} {read : Table String}
    (ran : (readRest w ws settings repository total done paths).run.run r = (.ok read, r')) :
    read = sourcesIn ws settings repository paths := by
  have course : Follows w (fun _ => True) (fun _ => True)
      (readRest w ws settings repository total done paths) _ _ := follows_readRest total done
  obtain ⟨r'', follows, -⟩ := course r trivial
  obtain ⟨outcome, -⟩ := Prod.mk.inj (ran.symm.trans follows)
  cases stopped : (w.follow r.reports.length
      ((progress (readReport total) done paths).map .tell)).2 with
  | none =>
    rw [stopped] at outcome
    exact Except.ok.inj outcome
  | some failure =>
    rw [stopped] at outcome
    cases outcome

/-- Every file that is chosen is read, as empty if it is larger than the limit. -/
theorem exists_file_of_sourcesIn (there : ws.entry? repository = some e) (proper : e.Proper)
    (undotted : e.Undotted) (scanned : Scan.scan ws settings repository = .ok choice)
    {path text : String} (mem : (path, text) ∈ sourcesIn ws settings repository choice.paths) :
    ∃ bytes, e.descend? (Text.split '/' path) = some (.file bytes) ∧
      (settings.maxFileSize < (bytes.size : Int) → text = "") := by
  obtain ⟨chosen, inside, same⟩ := List.mem_map.mp mem
  obtain ⟨rfl, rfl⟩ := Prod.mk.inj same
  obtain ⟨bytes, file⟩ := Scan.exists_file_of_scan there proper scanned chosen inside
  exact ⟨bytes, file, Scan.readSource_of_large there proper undotted file⟩

end

/-- What a run asks for prevails over the configuration, exactly if it does not ask for a size limit
of zero where another is configured. The files that are chosen are then read, to the same texts
whoever watches, and their survey is that of these texts. A file that is larger than the limit
asked for is read as empty; where none is asked for, or zero, the configured limit counts. -/
theorem overrides_prevail (o : Overrides) (config : Config) {ws : Scan.Workspace}
    {repository : String} {e : Scan.Entry} (there : ws.entry? repository = some e)
    (proper : e.Proper) (undotted : e.Undotted) {choice : Scan.Choice}
    (scanned : Scan.scan ws (o.applyTo config.scan) repository = .ok choice) :
    (Merges o config.scan (o.applyTo config.scan) ↔
      o.maxFileSize ≠ some 0 ∨ config.scan.maxFileSize = 0) ∧
    ∃ sources : Table String, sources.keys = choice.paths ∧
      (∀ w total done r read r', (readRest w ws (o.applyTo config.scan) repository total done
        choice.paths).run.run r = (.ok read, r') → read = sources) ∧
      (∀ k w r, w.Calm → r.session.Sound k →
        ((ofRepository k w config o ws repository).run.run r).1 =
          sourcesOutcome k config repository sources) ∧
      ∀ path text, (path, text) ∈ sources →
        ∃ bytes, e.descend? (Text.split '/' path) = some (.file bytes) ∧
          (∀ m, o.maxFileSize = some m → m ≠ 0 → m < (bytes.size : Int) → text = "") ∧
          (o.maxFileSize = none ∨ o.maxFileSize = some 0 →
            config.scan.maxFileSize < (bytes.size : Int) → text = "") := by
  refine ⟨merges_applyTo_iff, sourcesIn ws (o.applyTo config.scan) repository choice.paths,
    keys_sourcesIn, ?_, ?_, ?_⟩
  · intro w total done r read r' ran
    exact eq_of_readRest ran
  · intro k w r calm sound
    exact ofRepository_of_calm calm scanned sound
  · intro path text mem
    obtain ⟨bytes, file, large⟩ := exists_file_of_sourcesIn there proper undotted scanned mem
    refine ⟨bytes, file, ?_, ?_⟩
    · intro m asked nonzero more
      rw [maxFileSize_applyTo asked nonzero] at large
      exact large more
    · intro unasked more
      have configured : (o.applyTo config.scan).maxFileSize = config.scan.maxFileSize := by
        rcases unasked with unasked | unasked <;> rw [Overrides.applyTo, unasked] <;> rfl
      rw [configured] at large
      exact large more

/-- Settings of a run that asks for a size limit. -/
def capped (limit : Int) : Overrides where
  maxFileSize := some limit

/-- A limit on sizes does not change what is chosen. -/
theorem scan_capped (limit : Int) :
    ∃ choice, Scan.scan besideApp ((capped limit).applyTo ({} : Config).scan) "app" = .ok choice ∧
      choice.paths = ["src/a.js"] :=
  scan_besideApp

/-- The script of seven bytes is surveyed as an empty file under a limit of three. -/
theorem overrides_prevail_of_three :
    besideApp.entry? "app" = some smallApp ∧ smallApp.Proper ∧ smallApp.Undotted ∧
      (∃ choice,
        Scan.scan besideApp ((capped 3).applyTo ({} : Config).scan) "app" = .ok choice) ∧
      ((ofRepository (usual {}) {} {} (capped 3) besideApp "app").run.run {}).1 =
        sourcesOutcome (usual {}) {} "app" [("src/a.js", "")] := by
  have there : besideApp.entry? "app" = some smallApp := rfl
  obtain ⟨choice, scanned, paths⟩ := scan_capped 3
  refine ⟨there, proper_smallApp, undotted_smallApp, ⟨choice, scanned⟩, ?_⟩
  obtain ⟨-, sources, keys, -, outcome, empty⟩ :=
    overrides_prevail (capped 3) {} there proper_smallApp undotted_smallApp scanned
  obtain ⟨text, rfl⟩ : ∃ text, sources = [("src/a.js", text)] := by
    rw [paths] at keys
    obtain ⟨⟨path, text⟩, rfl, rfl⟩ := List.map_eq_singleton_iff.mp keys
    exact ⟨text, rfl⟩
  obtain ⟨bytes, file, large, -⟩ := empty _ _ List.mem_cons_self
  have script : smallApp.descend? (Text.split '/' "src/a.js") =
      some (.file "setX(1)".toUTF8) := rfl
  obtain rfl : bytes = "setX(1)".toUTF8 := by
    cases script.symm.trans file
    rfl
  have new : Session.Sound (usual {}) {} := nofun
  rw [outcome (usual {}) {} {} calm_unwatched new, large 3 rfl (by decide) (by decide +kernel)]

/-- A limit of zero does not make the script empty. -/
theorem script_read_under_zero : ¬ ∀ (limit : Int) (choice : Scan.Choice),
    Scan.scan besideApp ((capped limit).applyTo ({} : Config).scan) "app" = .ok choice →
      ∀ path text bytes, (path, text) ∈
          sourcesIn besideApp ((capped limit).applyTo ({} : Config).scan) "app" choice.paths →
        smallApp.descend? (Text.split '/' path) = some (.file bytes) →
          limit < (bytes.size : Int) → text = "" := by
  obtain ⟨choice, scanned, paths⟩ := scan_capped 0
  intro empty
  have read : ("src/a.js", "setX(1)") ∈
      sourcesIn besideApp ((capped 0).applyTo ({} : Config).scan) "app" choice.paths := by
    rw [paths]
    decide +kernel
  have file : smallApp.descend? (Text.split '/' "src/a.js") = some (.file "setX(1)".toUTF8) := rfl
  exact absurd (empty 0 choice scanned _ _ _ read file (by decide +kernel)) (by decide)

end RepoSurvey.Survey
