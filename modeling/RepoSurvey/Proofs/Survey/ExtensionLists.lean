import RepoSurvey.Proofs.Config.Misread
import RepoSurvey.Proofs.Scan.Selection
import RepoSurvey.Proofs.Text.Lowering

/-!
# Extensions of a file and of a run

A list of extensions stands in a configuration file, or a run asks for it. What
a file says is brought into a normal form, without blanks around it, in lower
case and with a point in front. What a run asks for is taken as it is.

Two lists are after the same files if every extension of one ends in an
extension of the other (`hasExtension_eq_iff`). So the two ways come to the same
exactly for the lists that have this with their normal form (`Settled`), among
them every list of extensions with a point and without blanks, in any case. An
extension without its point is not one of these: asked for by a run it is also
the end of a name that has no extension.
-/

namespace RepoSurvey

/-! ## Lists of extensions -/

namespace Scan

/-- Each of the extensions ends in one of the others, whatever their case. -/
def EndIn (extensions others : List String) : Prop :=
  ∀ e ∈ extensions, ∃ e' ∈ others, (Text.lower e').toList <:+ (Text.lower e).toList

section

variable {extensions others : List String}

theorem EndIn.hasExtension {path : String} (within : EndIn extensions others)
    (empty : extensions = [] → others = []) (has : hasExtension extensions path = true) :
    hasExtension others path = true := by
  rw [hasExtension_iff] at has ⊢
  rcases has with none | ⟨e, mem, ends⟩
  · exact .inl (empty none)
  · obtain ⟨e', mem', shorter⟩ := within e mem
    exact .inr ⟨e', mem', shorter.trans ends⟩

/-- If all that has one of the extensions has one of the others, then this is so for the
extensions themselves. -/
theorem endIn_of_hasExtension (empty : others = [] → extensions = [])
    (has : ∀ path, Scan.hasExtension extensions path = true →
      Scan.hasExtension others path = true) : EndIn extensions others := by
  intro e mem
  have own : Scan.hasExtension extensions e = true :=
    hasExtension_iff.mpr (.inr ⟨e, mem, List.suffix_refl _⟩)
  rcases hasExtension_iff.mp (has e own) with none | found
  · rw [empty none] at mem
    cases mem
  · exact found

/-- Lists of extensions are after the same files if each of their members ends in one of the
other list. -/
theorem hasExtension_eq_iff (empty : extensions = [] ↔ others = []) :
    (∀ path, Scan.hasExtension extensions path = Scan.hasExtension others path) ↔
      EndIn extensions others ∧ EndIn others extensions := by
  constructor
  · intro same
    refine ⟨endIn_of_hasExtension empty.mpr ?_, endIn_of_hasExtension empty.mp ?_⟩
    · intro path has
      rwa [← same]
    · intro path has
      rwa [same]
  · rintro ⟨within, within'⟩ path
    exact Bool.eq_iff_iff.mpr ⟨within.hasExtension empty.mp, within'.hasExtension empty.mpr⟩

end

/-- Settings that differ in extensions after the same files give the same scan. -/
theorem scan_congr {w : Workspace} {s s' : ScanSettings} {path : String}
    (same : ∀ file, hasExtension s.extensions file = hasExtension s'.extensions file)
    (patterns : s.excludePaths = s'.excludePaths) (tests : s.excludeTests = s'.excludeTests)
    (limit : s.limit = s'.limit) : scan w s path = scan w s' path := by
  have chosen : isChosen s = isChosen s' := by
    funext file
    rw [isChosen, isChosen, same, tests]
  have skipped : isSkippedTest s = isSkippedTest s' := by
    funext file
    rw [isSkippedTest, isSkippedTest, same, tests]
  have choice : choose s = choose s' := by
    funext walked
    rw [choose, choose, chosen, skipped, limit]
  rw [scan, scan, patterns, choice]

end Scan

/-! ## The normal form -/

namespace Config

/-- Nothing changes when the extensions are brought into their normal form. -/
structure Settled (extensions : List String) : Prop where
  /-- What has one of the extensions has one in normal form. -/
  kept : Scan.EndIn extensions (extensions.map normalExtension)
  /-- What has one in normal form has one of the extensions. -/
  nothingNew : Scan.EndIn (extensions.map normalExtension) extensions

/-- The extension begins with a point and has no blanks around it. -/
def Pointed (extension : String) : Prop :=
  Text.trim extension = extension ∧ Text.startsWith extension "." = true
  deriving Decidable

theorem settled_iff {extensions : List String} : Settled extensions ↔
    ∀ file, Scan.hasExtension extensions file =
      Scan.hasExtension (extensions.map normalExtension) file := by
  rw [Scan.hasExtension_eq_iff List.map_eq_nil_iff.symm]
  exact ⟨fun ⟨kept, nothingNew⟩ => ⟨kept, nothingNew⟩, fun ⟨kept, nothingNew⟩ => ⟨kept, nothingNew⟩⟩

theorem startsWith_lower {s : String} (pointed : Text.startsWith s "." = true) :
    Text.startsWith (Text.lower s) "." = true := by
  rw [Text.startsWith, List.isPrefixOf_iff_prefix] at pointed ⊢
  obtain ⟨rest, same⟩ := pointed
  have first : (Text.lower s).toList = Text.lowerFrom [] ('.' :: rest) := by
    rw [Text.lower, String.toList_ofList, Text.lowerChars, ← same]
    rfl
  rw [first]
  exact ⟨Text.lowerFrom ['.'] rest, rfl⟩

/-- In lower case an extension with its point is in normal form. -/
theorem Pointed.lower_normalExtension {e : String} (pointed : Pointed e) :
    Text.lower (normalExtension e) = Text.lower e := by
  obtain ⟨trimmed, starts⟩ := pointed
  rw [normalExtension, trimmed, if_pos (startsWith_lower starts), Text.lower_lower]

theorem settled_of_pointed {extensions : List String} (pointed : ∀ e ∈ extensions, Pointed e) :
    Settled extensions := by
  constructor
  · intro e mem
    refine ⟨normalExtension e, List.mem_map_of_mem mem, ?_⟩
    simp only [(pointed e mem).lower_normalExtension, List.suffix_refl]
  · intro e' mem'
    obtain ⟨e, mem, rfl⟩ := List.mem_map.mp mem'
    refine ⟨e, mem, ?_⟩
    simp only [(pointed e mem).lower_normalExtension, List.suffix_refl]

/-! ## Extensions of a file -/

/-- The mapping names these extensions. -/
structure NamesExtensions (entries : Table Setting) (extensions : List String) : Prop where
  /-- There is an entry for extensions. -/
  there : (entries.setting "scan").section?.has "extensions" = true
  /-- Its texts are the extensions. -/
  texts : ((entries.setting "scan").section?.setting "extensions").texts = .ok extensions

instance (entries : Table Setting) (extensions : List String) :
    Decidable (NamesExtensions entries extensions) :=
  decidable_of_iff
    ((entries.setting "scan").section?.has "extensions" = true ∧
      ((entries.setting "scan").section?.setting "extensions").texts = .ok extensions)
    ⟨fun ⟨there, texts⟩ => ⟨there, texts⟩, fun ⟨there, texts⟩ => ⟨there, texts⟩⟩

section

variable {entries : Table Setting} {extensions : List String} {config : Config}

theorem extensions_of_ofEntries (named : NamesExtensions entries extensions)
    (given : ofEntries entries = .ok config) :
    config.scan.extensions = extensions.map normalExtension := by
  have read := (readFrom_of_scanOf (ofEntries_eq_ok_iff.mp given).1).extensions
  rw [extensionsOf, if_pos named.there, named.texts] at read
  exact (Except.ok.inj read).symm

end

end Config

/-! ## Scans -/

namespace Survey

variable {ws : Scan.Workspace} {path : String} {entries : Table Setting} {config : Config}
  {reader : Setting.Reader} {extensions : List String}

/-- A list of extensions that a configuration file names and one that a run asks for are after the
same files exactly if the list is settled, and extensions with their point and without blanks are.
Then the two give the same scan of every repository, whatever else the run asks for and whatever
extensions it replaces. -/
theorem extensions_alike (stands : ConfiguredBy ws path entries reader)
    (named : Config.NamesExtensions entries extensions)
    (given : loadConfig ws path reader = .ok config) :
    ((∀ file, Scan.hasExtension extensions file =
        Scan.hasExtension config.scan.extensions file) ↔ Config.Settled extensions) ∧
      ((∀ e ∈ extensions, Config.Pointed e) → Config.Settled extensions) ∧
      (Config.Settled extensions → ∀ (o : Overrides) replaced ws' repository,
        Scan.scan ws' (Overrides.applyTo { o with extensions := some extensions }
            { config.scan with extensions := replaced }) repository =
          Scan.scan ws' (Overrides.applyTo { o with extensions := none } config.scan)
            repository) := by
  have normal := Config.extensions_of_ofEntries named (ofEntries_of_loadConfig stands given)
  refine ⟨?_, Config.settled_of_pointed, ?_⟩
  · rw [normal, Config.settled_iff]
  · intro settled o replaced ws' repository
    apply Scan.scan_congr
    · show ∀ file, Scan.hasExtension extensions file =
        Scan.hasExtension config.scan.extensions file
      rw [normal]
      exact Config.settled_iff.mp settled
    · rfl
    · rfl
    · rfl

/-- A file that names extensions with their point, one of them in capitals. -/
def pointedExtensions : ByteArray :=
  "scan:\n  extensions: [.py, .TS]\n".toUTF8

theorem extensions_alike_of_pointed : ∃ entries config,
    ConfiguredBy (configured pointedExtensions) "." entries ∧
      Config.NamesExtensions entries [".py", ".TS"] ∧
      loadConfig (configured pointedExtensions) "." = .ok config ∧
      ∀ ws' repository,
        Scan.scan ws' (Overrides.applyTo { extensions := some [".py", ".TS"] }
            { config.scan with extensions := [] }) repository =
          Scan.scan ws' (Overrides.applyTo {} config.scan) repository := by
  obtain ⟨entries, stands, named⟩ :
      ∃ entries, ConfiguredBy (configured pointedExtensions) "." entries ∧
        Config.NamesExtensions entries [".py", ".TS"] :=
    exists_configured "scan:\n  extensions: [.py, .TS]\n"
      (by decide +kernel) (by decide +kernel)
  have loaded : (loadConfig (configured pointedExtensions) ".").toOption.isSome = true := by
    decide +kernel
  obtain ⟨config, some⟩ := Option.isSome_iff_exists.mp loaded
  have given := Outcome.eq_ok_of_toOption some
  refine ⟨entries, config, stands, named, given, ?_⟩
  obtain ⟨-, settled, same⟩ := extensions_alike stands named given
  exact same (settled (by decide +kernel)) {} []

/-- A file that names an extension without its point. -/
def barePy : ByteArray :=
  "scan:\n  extensions: [py]\n".toUTF8

/-- A repository with a file whose name ends in an extension that it does not have. -/
def besideCopy : Scan.Workspace where
  location := "/work"
  tree := .directory [("copy", .file .empty)]

/-- A run that asks for the extension without its point is after the file, and one that is
configured to look for it is not. -/
theorem copy_scanned_for_bare_extension : ¬ ∀ entries config,
    ConfiguredBy (configured barePy) "." entries → Config.NamesExtensions entries ["py"] →
      loadConfig (configured barePy) "." = .ok config →
        Scan.scan besideCopy (Overrides.applyTo { extensions := some ["py"] }
            { config.scan with extensions := [] }) "." =
          Scan.scan besideCopy (Overrides.applyTo {} config.scan) "." := by
  obtain ⟨entries, stands, named⟩ :
      ∃ entries, ConfiguredBy (configured barePy) "." entries ∧
        Config.NamesExtensions entries ["py"] :=
    exists_configured "scan:\n  extensions: [py]\n"
      (by decide +kernel) (by decide +kernel)
  have loaded : (loadConfig (configured barePy) ".").toOption.map (fun config =>
      ((Scan.scan besideCopy (Overrides.applyTo { extensions := some ["py"] }
            { config.scan with extensions := [] }) ".").toOption.map (·.paths),
        (Scan.scan besideCopy (Overrides.applyTo {} config.scan) ".").toOption.map (·.paths))) =
      some (some ["copy"], some []) := by
    decide +kernel
  obtain ⟨config, some, apart⟩ := Option.map_eq_some_iff.mp loaded
  obtain ⟨asked, looked⟩ := Prod.mk.inj apart
  intro same
  rw [same entries config stands named (Outcome.eq_ok_of_toOption some), looked] at asked
  exact absurd asked (by decide)

end Survey

end RepoSurvey
