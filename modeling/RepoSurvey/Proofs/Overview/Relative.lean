import RepoSurvey.Proofs.Overview.ImportEdges
import RepoSurvey.Proofs.Paths
import RepoSurvey.Proofs.Text.Classes

/-!
# Where relative specifiers lead

A relative specifier is a walk: from the directory of the importing file up some levels, and
then down through names. In dots (`dotted`) and in slashes (`slashed`) it is the same walk, so
both notations find the same file (`dotted_and_slashed_agree`): the first that is known of the
paths that may hold a module at the end of the walk (`modulePaths`).

A walk that climbs above the repository ends at a path that begins with two points. Such paths
are not looked for, with one exception: the directory right above the repository, which is two
points and nothing else, is completed like any other target (`resolve?_of_climbs`). A file with
a name such as `...js` is then found by a specifier that has left the repository
(`file_found_above_root`).
-/

namespace RepoSurvey.Overview

/-! ## Notations -/

/-- A relative specifier in dots: one for the directory, and one for each level up. -/
def dotted (ups : Nat) (modules : List String) : String :=
  String.ofList (List.replicate (ups + 1) '.') ++ Text.join "." modules

/-- A relative specifier in slashes. -/
def slashed (ups : Nat) (modules : List String) : String :=
  (if ups = 0 then "./" else String.join (List.replicate ups "../")) ++ Text.join "/" modules

/-- An identifier of ASCII letters, digits and underscores. -/
def IsAsciiIdentifier (s : String) : Prop :=
  ∃ first rest, s.toList = first :: rest ∧ (first.isAlpha || first == '_') = true ∧
    ∀ c ∈ rest, (Text.isAsciiAlphanumeric c || c == '_') = true

/-- The paths that may hold the module below `base`, in order. -/
def modulePaths (base : List String) : List String :=
  if base = [] then ["index.js", "index.ts", "index.jsx", "index.tsx", "__init__.py"]
  else candidateSuffixes.map (Text.join "/" base ++ ·)

/-- The parts of the walk that a specifier describes. -/
def wayOf (specifier : String) : List String :=
  Path.parts ((pathOfDotted? specifier).getD specifier)

/-! ## Dotted modules -/

section

variable {s : String} {modules : List String} {c : Char}

/-- The characters of an identifier. -/
theorem IsAsciiIdentifier.letters (h : IsAsciiIdentifier s) (mem : c ∈ s.toList) :
    Text.isAsciiAlphanumeric c = true ∨ c = '_' := by
  obtain ⟨first, rest, written, starts, further⟩ := h
  rw [written] at mem
  rcases List.mem_cons.mp mem with rfl | later
  · exact (Bool.or_eq_true_iff.mp starts).imp Text.isAscii_of_isAlpha beq_iff_eq.mp
  · exact (Bool.or_eq_true_iff.mp (further c later)).imp id beq_iff_eq.mp

theorem IsAsciiIdentifier.not_mem (h : IsAsciiIdentifier s)
    (other : (Text.isAsciiAlphanumeric c || c == '_') = false) : c ∉ s.toList := by
  intro mem
  obtain ⟨no_letter, no_score⟩ := Bool.or_eq_false_iff.mp other
  rcases h.letters mem with letter | rfl
  · rw [letter] at no_letter
    cases no_letter
  · cases no_score

theorem IsAsciiIdentifier.isSegment (h : IsAsciiIdentifier s) : Path.IsSegment s := by
  have no_point : '.' ∉ s.toList := h.not_mem (by decide)
  refine ⟨Path.leadsDown_iff.mpr ⟨⟨?_, ?_⟩, ?_⟩, h.not_mem (by decide)⟩
  · rintro rfl
    obtain ⟨first, rest, written, -⟩ := h
    cases written
  · rintro rfl
    exact no_point (by decide)
  · rintro rfl
    exact no_point (by decide)

/-- What identifiers with points between them are made of. -/
theorem mem_join_identifiers (ascii : ∀ m ∈ modules, IsAsciiIdentifier m)
    (mem : c ∈ (Text.join "." modules).toList) :
    (Text.isAsciiAlphanumeric c = true ∨ c = '_') ∨ c = '.' := by
  induction modules with
  | nil => cases mem
  | cons first rest ih =>
    have here := ascii first List.mem_cons_self
    cases rest with
    | nil => exact .inl (here.letters mem)
    | cons next more =>
      rw [Text.join, String.intercalate_cons_cons, String.toList_append, String.toList_append]
        at mem
      rcases List.mem_append.mp mem with before | later
      · rcases List.mem_append.mp before with own | point
        · exact .inl (here.letters own)
        · exact .inr (List.mem_singleton.mp point)
      · exact ih (fun m inside => ascii m (List.mem_cons_of_mem first inside)) later

theorem join_identifiers_cases (ascii : ∀ m ∈ modules, IsAsciiIdentifier m) :
    (Text.join "." modules).toList = [] ∨
      ∃ first rest, (Text.join "." modules).toList = first :: rest ∧
        (first.isAlpha || first == '_') = true := by
  cases modules with
  | nil => exact .inl rfl
  | cons m rest =>
    obtain ⟨first, letters, written, starts, -⟩ := ascii m List.mem_cons_self
    refine .inr ⟨first, ?_⟩
    cases rest with
    | nil => exact ⟨letters, written, starts⟩
    | cons next more =>
      rw [Text.join, String.intercalate_cons_cons, String.toList_append, String.toList_append,
        written]
      exact ⟨_, rfl, starts⟩

theorem isDottedModule_join (ascii : ∀ m ∈ modules, IsAsciiIdentifier m) :
    isDottedModule (Text.join "." modules).toList = true := by
  rcases join_identifiers_cases ascii with none | ⟨first, rest, written, starts⟩
  · rw [none]
    rfl
  · rw [written, isDottedModule, starts, Bool.true_and, List.all_eq_true]
    intro c mem
    have inside : c ∈ (Text.join "." modules).toList := by
      rw [written]
      exact List.mem_cons_of_mem first mem
    rcases mem_join_identifiers ascii inside with (letter | rfl) | rfl
    · rw [Text.isWordChar_of_ascii letter, Bool.true_or]
    · decide
    · decide

theorem replaceChar_of_not_mem {old : Char} {new cs : List Char} (free : old ∉ cs) :
    Text.replaceChar old new cs = cs := by
  induction cs with
  | nil => rfl
  | cons c rest ih =>
    have other : c ≠ old := fun same => free (same ▸ List.mem_cons_self)
    have later := ih fun mem => free (List.mem_cons_of_mem c mem)
    rw [Text.replaceChar] at later ⊢
    rw [List.flatMap_cons, later, if_neg (mt beq_iff_eq.mp other)]
    rfl

/-- With slashes for its points a dotted module is the path of its names. -/
theorem replaceChar_join (ascii : ∀ m ∈ modules, IsAsciiIdentifier m) :
    Text.replaceChar '.' ['/'] (Text.join "." modules).toList =
      (Text.join "/" modules).toList := by
  induction modules with
  | nil => rfl
  | cons first rest ih =>
    have here : Text.replaceChar '.' ['/'] first.toList = first.toList :=
      replaceChar_of_not_mem ((ascii first List.mem_cons_self).not_mem (by decide))
    cases rest with
    | nil => exact here
    | cons next more =>
      have later := ih fun m inside => ascii m (List.mem_cons_of_mem first inside)
      rw [Text.replaceChar] at here later ⊢
      rw [Text.join, Text.join, String.intercalate_cons_cons, String.intercalate_cons_cons,
        String.toList_append, String.toList_append, String.toList_append, String.toList_append,
        List.flatMap_append, List.flatMap_append, here]
      exact congrArg _ later

theorem withoutFinalBreak_of_not_mem {cs : List Char} (free : '\n' ∉ cs) :
    withoutFinalBreak cs = cs :=
  if_neg fun last => free (List.mem_of_getLast? (beq_iff_eq.mp last))

theorem slashed_eq_climb (ups : Nat) (modules : List String) :
    slashed ups modules = climb (ups + 1) ++ Text.join "/" modules := by
  cases ups <;> rfl

/-- The points that a specifier begins with are counted as written. -/
theorem length_points {rest : List Char} (pointless : rest.head?.any (· == '.') = false)
    (n : Nat) : ((List.replicate n '.' ++ rest).takeWhile (· == '.')).length = n := by
  rw [Text.takeWhile_run (fun c mem => beq_iff_eq.mpr (List.eq_of_mem_replicate mem)) pointless,
    List.length_replicate]

/-- A dotted specifier stands for the path with slashes. -/
theorem pathOfDotted?_dotted (ascii : ∀ m ∈ modules, IsAsciiIdentifier m) (ups : Nat) :
    pathOfDotted? (dotted ups modules) = some (slashed ups modules) := by
  have text : (dotted ups modules).toList =
      List.replicate (ups + 1) '.' ++ (Text.join "." modules).toList := by
    rw [dotted, String.toList_append, String.toList_ofList]
  have pointless : (Text.join "." modules).toList.head?.any (· == '.') = false := by
    rcases join_identifiers_cases ascii with none | ⟨first, rest, written, starts⟩
    · rw [none]
      rfl
    · rw [written]
      refine beq_eq_false_iff_ne.mpr ?_
      rintro rfl
      cases starts
  have points : ((dotted ups modules).toList.takeWhile (· == '.')).length = ups + 1 := by
    rw [text, length_points pointless]
  have unbroken : '\n' ∉ (Text.join "." modules).toList := by
    intro mem
    rcases mem_join_identifiers ascii mem with (letter | score) | point
    · cases letter
    · cases score
    · cases point
  have rest : (dotted ups modules).toList.drop (ups + 1) = (Text.join "." modules).toList := by
    rw [text, List.drop_left' List.length_replicate]
  simp only [pathOfDotted?, points, rest, withoutFinalBreak_of_not_mem unbroken,
    isDottedModule_join ascii, replaceChar_join ascii, slashed_eq_climb, String.ofList_toList]
  rfl

/-- What begins with points and a slash is no dotted specifier. -/
theorem not_isDottedModule_slash (rest : List Char) :
    isDottedModule (withoutFinalBreak ('/' :: rest)) = false := by
  rw [withoutFinalBreak]
  split
  next broken =>
    cases rest with
    | nil => cases broken
    | cons c rest => rfl
  next => rfl

theorem pathOfDotted?_slashed (ups : Nat) (modules : List String) :
    pathOfDotted? (slashed ups modules) = none := by
  obtain ⟨points, rest, text⟩ : ∃ points rest, (slashed ups modules).toList =
      List.replicate points '.' ++ '/' :: rest := by
    rw [slashed_eq_climb, String.toList_append]
    match ups with
    | 0 => exact ⟨1, _, rfl⟩
    | n + 1 =>
      refine ⟨2, (String.join (List.replicate n "../") ++ Text.join "/" modules).toList, ?_⟩
      have first : climb (n + 1 + 1) = "../" ++ String.join (List.replicate n "../") :=
        String.join_cons
      rw [first, String.toList_append, String.toList_append, List.append_assoc]
      rfl
  have counted : ((slashed ups modules).toList.takeWhile (· == '.')).length = points := by
    rw [text]
    exact length_points rfl points
  have after : (slashed ups modules).toList.drop points = '/' :: rest := by
    rw [text, List.drop_left' List.length_replicate]
  simp [pathOfDotted?, counted, after, not_isDottedModule_slash]

end

/-! ## The way of a specifier -/

section

variable {modules : List String} {specifier : String}

theorem parts_slashed (segments : ∀ m ∈ modules, Path.IsSegment m) (ups : Nat) :
    Path.parts (slashed ups modules) = List.replicate ups ".." ++ modules := by
  have climbing (n : Nat) (path : String) :
      Path.parts (String.join (List.replicate n "../") ++ path) =
        List.replicate n ".." ++ Path.parts path := by
    induction n with
    | zero =>
      rw [List.replicate_zero, String.join_nil, String.empty_append]
      rfl
    | succ n ih =>
      rw [List.replicate_succ, String.join_cons, String.append_assoc]
      show Path.parts (".." ++ "/" ++ _) = _
      rw [Path.parts_append, ih]
      rfl
  cases ups with
  | zero =>
    show Path.parts ("." ++ "/" ++ Text.join "/" modules) = _
    rw [Path.parts_append, Path.parts_join_segments segments]
    rfl
  | succ n => exact (climbing (n + 1) _).trans (by rw [Path.parts_join_segments segments])

/-- In both notations a specifier is the same walk. -/
theorem wayOf_eq (ascii : ∀ m ∈ modules, IsAsciiIdentifier m) (ups : Nat) :
    wayOf (dotted ups modules) = List.replicate ups ".." ++ modules ∧
      wayOf (slashed ups modules) = List.replicate ups ".." ++ modules := by
  have parts := parts_slashed (fun m mem => (ascii m mem).isSegment) ups
  rw [wayOf, wayOf, pathOfDotted?_dotted ascii, pathOfDotted?_slashed]
  exact ⟨parts, parts⟩

end

/-! ## Targets -/

section

variable {importer specifier : String} {names : List String} {up : Nat}

theorem not_rooted_of_point {path : String} {rest : List Char} (text : path.toList = '.' :: rest) :
    Text.startsWith path "/" = false := by
  rw [Text.startsWith, text]
  rfl

theorem exists_climb_eq {dots : Nat} (some_dot : dots ≠ 0) :
    ∃ rest, (climb dots).toList = '.' :: rest := by
  match dots, some_dot with
  | 1, _ => exact ⟨_, rfl⟩
  | n + 2, _ =>
    have first : climb (n + 2) = "../" ++ String.join (List.replicate n "../") := String.join_cons
    exact ⟨_, by rw [first, String.toList_append]; rfl⟩

/-- The path of a relative specifier is seen from the importing file. -/
theorem not_rooted_path (relative : Text.startsWith specifier "." = true) :
    Text.startsWith ((pathOfDotted? specifier).getD specifier) "/" = false := by
  cases dots : pathOfDotted? specifier with
  | none =>
    obtain ⟨rest, text⟩ := List.isPrefixOf_iff_prefix.mp relative
    exact not_rooted_of_point text.symm
  | some path =>
    obtain ⟨proper, made⟩ := Option.ite_none_left_eq_some.mp dots
    cases made
    have some_dot : (specifier.toList.takeWhile (· == '.')).length ≠ 0 := fun none =>
      proper (by rw [none]; rfl)
    obtain ⟨rest, text⟩ := exists_climb_eq some_dot
    exact not_rooted_of_point (by rw [Option.getD_some, String.toList_append, text]; rfl)

/-- A relative specifier leads from the directory of the importing file. -/
theorem targetPath_eq (free : Text.startsWith importer "/" = false)
    (relative : Text.startsWith specifier "." = true)
    (leads : Path.Leads (Path.parts (Path.directory importer) ++ wayOf specifier) up names) :
    targetPath importer specifier = Path.written (List.replicate up ".." ++ names) := by
  have free' := not_rooted_path relative
  rw [wayOf, ← Path.parts_join free'] at leads
  exact leads.normal_eq (Path.not_rooted_join (Path.not_rooted_directory free) free')

/-- The names below which such a walk ends are parts of it. -/
theorem isSegment_of_leads
    (leads : Path.Leads (Path.parts (Path.directory importer) ++ wayOf specifier) up names) :
    ∀ name ∈ names, Path.IsSegment name := by
  intro name mem
  have down := leads.named name mem
  refine ⟨down, ?_⟩
  have inside : name ∈ names.reverse ++ List.replicate up ".." :=
    List.mem_append_left _ (List.mem_reverse.mpr mem)
  rw [← leads.ends] at inside
  rcases Path.mem_foldl_enter inside with part | nothing | points
  · rcases List.mem_append.mp part with base | own
    · exact Text.not_mem_of_mem_split (Path.mem_parts.mp base).1
    · exact Text.not_mem_of_mem_split (Path.mem_parts.mp own).1
  · cases nothing
  · rw [points] at down
    cases down

/-! ## Candidates -/

/-- A path of parts begins with two points and a slash when its first part is two points, and
not its only one. -/
theorem startsWith_up_iff {parts : List String} (whole : ∀ part ∈ parts, '/' ∉ part.toList) :
    Text.startsWith (Text.join "/" parts) "../" = true ↔ ∃ next more, parts = ".." :: next :: more := by
  rw [Text.startsWith, List.isPrefixOf_iff_prefix]
  constructor
  · rintro ⟨rest, text⟩
    have nonempty : parts ≠ [] := by
      rintro rfl
      cases text
    have points : '/' ∉ ['.', '.'] := by decide
    obtain ⟨piece, pieces, further⟩ := Text.exists_splitAt_eq_cons '/' rest
    have cut := congrArg (List.map String.ofList) (Text.splitAt_append points rest)
    rw [further] at cut
    rw [← Path.split_join nonempty whole, Text.split, ← text]
    exact ⟨_, _, cut⟩
  · rintro ⟨next, more, rfl⟩
    refine ⟨(Text.join "/" (next :: more)).toList, ?_⟩
    rw [Text.join, Text.join, String.intercalate_cons_cons, String.toList_append]
    rfl

theorem rootCandidates_eq :
    rootCandidates = ["index.js", "index.ts", "index.jsx", "index.tsx", "__init__.py"] := by
  decide +kernel

/-- Below the repository's root, a target is completed to the paths of a module. -/
theorem candidates_of_segments (segments : ∀ name ∈ names, Path.IsSegment name) :
    candidates (Path.written names) = modulePaths names := by
  by_cases none : names = []
  · rw [none]
    exact rootCandidates_eq
  have cut := Path.split_join none fun name mem => (segments name mem).2
  have no_point : Text.join "/" names ≠ "." := by
    intro point
    rw [point] at cut
    have point : Path.IsSegment "." := segments "." (cut ▸ List.mem_singleton_self ".")
    exact absurd point (by decide)
  have inside : Text.startsWith (Text.join "/" names) "../" = false := by
    refine Bool.eq_false_iff.mpr fun up => ?_
    obtain ⟨next, more, rfl⟩ := (startsWith_up_iff fun name mem => (segments name mem).2).mp up
    have points : Path.IsSegment ".." := segments ".." List.mem_cons_self
    exact absurd points (by decide)
  simp [candidates, Path.written, modulePaths, none, no_point, inside]

theorem slash_notMem_of_above (segments : ∀ name ∈ names, Path.IsSegment name) (up : Nat) :
    ∀ part ∈ List.replicate up ".." ++ names, '/' ∉ part.toList := by
  intro part mem
  rcases List.mem_append.mp mem with points | below
  · rw [List.eq_of_mem_replicate points]
    decide
  · exact (segments part below).2

/-- Above it, only the directory right above is. -/
theorem candidates_above (segments : ∀ name ∈ names, Path.IsSegment name) (up : Nat) :
    candidates (Path.written (List.replicate (up + 1) ".." ++ names)) =
      if up = 0 ∧ names = [] then candidateSuffixes.map (".." ++ ·) else [] := by
  split
  next right_above =>
    rw [right_above.1, right_above.2]
    rfl
  next further =>
    obtain ⟨next, more, same⟩ :
        ∃ next more, List.replicate (up + 1) ".." ++ names = ".." :: next :: more := by
      match up, names with
      | 0, [] => exact absurd ⟨rfl, rfl⟩ further
      | 0, name :: rest => exact ⟨name, rest, rfl⟩
      | up + 1, names => exact ⟨"..", List.replicate up ".." ++ names, rfl⟩
    have whole : ∀ part ∈ ".." :: next :: more, '/' ∉ part.toList := by
      rw [← same]
      exact slash_notMem_of_above segments (up + 1)
    have climbs := (startsWith_up_iff whole).mpr ⟨next, more, rfl⟩
    have no_point : Text.join "/" (".." :: next :: more) ≠ "." := by
      intro point
      rw [point] at climbs
      cases climbs
    simp [candidates, Path.written, same, no_point, climbs]

end

/-! ## Both notations -/

section

variable {directory modules : List String} {name : String} {ups : Nat}

theorem relative_notations (ups : Nat) (modules : List String) :
    Text.startsWith (dotted ups modules) "." = true ∧
      Text.startsWith (slashed ups modules) "." = true := by
  obtain ⟨rest, text⟩ := exists_climb_eq (Nat.succ_ne_zero ups)
  simp only [Text.startsWith, dotted, slashed_eq_climb, String.toList_append,
    String.toList_ofList, List.replicate_succ, text]
  exact ⟨rfl, rfl⟩

theorem not_rooted_file (segments : ∀ part ∈ directory, Path.IsSegment part)
    (whole : '/' ∉ name.toList) :
    Text.startsWith (Text.join "/" (directory ++ [name])) "/" = false := by
  refine Bool.eq_false_iff.mpr fun rooted => ?_
  obtain ⟨rest, text⟩ := Path.rooted_iff.mp rooted
  cases directory with
  | nil => exact whole (text ▸ List.mem_cons_self)
  | cons first more =>
    have cut := Path.split_join (List.append_ne_nil_of_left_ne_nil
      (List.cons_ne_nil first more) [name]) (List.forall_mem_append.mpr
        ⟨fun part mem => (segments part mem).2, fun part mem => List.mem_singleton.mp mem ▸ whole⟩)
    rw [Text.split, text, Text.splitAt_cons_self] at cut
    obtain ⟨rfl, -⟩ := List.cons.inj cut
    exact absurd (segments _ List.mem_cons_self) (by decide)

/-- The walk from a directory up some levels, not above the root, and down again. -/
theorem leads_within (segments : ∀ part ∈ directory, Path.IsSegment part)
    (ascii : ∀ m ∈ modules, IsAsciiIdentifier m) (within : ups ≤ directory.length) :
    Path.Leads (directory ++ (List.replicate ups ".." ++ modules)) 0
      (directory.take (directory.length - ups) ++ modules) := by
  rw [← List.append_assoc]
  have down : Path.Leads directory 0 directory :=
    Path.Leads.start.downAll fun part mem => (segments part mem).1
  exact (down.backAll ups within).downAll fun m mem => (ascii m mem).isSegment.1

/-- A relative specifier names the first known file of those that may hold a module: below the
directory of the importing file, without its last segments, one for each level up, and then
below the names of the specifier. Its two notations name the same file. -/
theorem dotted_and_slashed_agree (segments : ∀ part ∈ directory, Path.IsSegment part)
    (whole : '/' ∉ name.toList) (within : ups ≤ directory.length)
    (ascii : ∀ m ∈ modules, IsAsciiIdentifier m) (known : List String) :
    resolve? (Text.join "/" (directory ++ [name])) (dotted ups modules) known =
        (modulePaths (directory.take (directory.length - ups) ++ modules)).find? known.contains ∧
      resolve? (Text.join "/" (directory ++ [name])) (slashed ups modules) known =
        (modulePaths (directory.take (directory.length - ups) ++ modules)).find?
          known.contains := by
  have found {specifier : String} (relative : Text.startsWith specifier "." = true)
      (way : wayOf specifier = List.replicate ups ".." ++ modules) :
      resolve? (Text.join "/" (directory ++ [name])) specifier known =
        (modulePaths (directory.take (directory.length - ups) ++ modules)).find?
          known.contains := by
    have leads : Path.Leads
        (Path.parts (Path.directory (Text.join "/" (directory ++ [name]))) ++ wayOf specifier) 0
        (directory.take (directory.length - ups) ++ modules) := by
      rw [Path.directory_join segments whole, Path.parts_join_segments segments, way]
      exact leads_within segments ascii within
    have below : ∀ part ∈ directory.take (directory.length - ups) ++ modules,
        Path.IsSegment part :=
      List.forall_mem_append.mpr ⟨fun part mem => segments part (List.mem_of_mem_take mem),
        fun m mem => (ascii m mem).isSegment⟩
    have target := targetPath_eq (not_rooted_file segments whole) relative leads
    rw [resolve?, target, List.replicate_zero, List.nil_append, candidates_of_segments below]
  have relative := relative_notations ups modules
  have ways := wayOf_eq ascii ups
  exact ⟨found relative.1 ways.1, found relative.2 ways.2⟩

theorem dotted_and_slashed_agree_of_sibling_package :
    ((∀ part ∈ ["app", "views"], Path.IsSegment part) ∧ '/' ∉ "list.py".toList ∧
      1 ≤ ["app", "views"].length ∧ ∀ m ∈ ["models"], IsAsciiIdentifier m) ∧
    resolve? "app/views/list.py" "..models" ["app/models/__init__.py"] =
      (modulePaths ["app", "models"]).find? ["app/models/__init__.py"].contains ∧
    resolve? "app/views/list.py" "../models" ["app/models/__init__.py"] =
      (modulePaths ["app", "models"]).find? ["app/models/__init__.py"].contains := by
  have segments : ∀ part ∈ ["app", "views"], Path.IsSegment part := by decide
  have whole : '/' ∉ "list.py".toList := by decide
  have within : 1 ≤ ["app", "views"].length := by decide
  have ascii : ∀ m ∈ ["models"], IsAsciiIdentifier m :=
    List.forall_mem_singleton.mpr ⟨'m', "odels".toList, rfl, rfl, List.all_eq_true.mp (by decide)⟩
  exact ⟨⟨segments, whole, within, ascii⟩,
    dotted_and_slashed_agree segments whole within ascii ["app/models/__init__.py"]⟩

end

/-! ## Above the repository -/

section

variable {importer specifier : String} {corpus : Corpus} {a : FileAnalysis}

/-- A specifier of a file that names no file of the repository is a dependency of it. -/
theorem exists_edge_of_unresolved (known : (importer, a) ∈ corpus)
    (mem : specifier ∈ a.imports.keys) (relative : Text.startsWith specifier "." = true)
    (other : specifier ≠ importer) (unresolved : resolve? importer specifier corpus.keys = none) :
    ∃ dependencies, (importer, dependencies) ∈ importGraph corpus ∧
      specifier ∈ dependencies := by
  have stands : dependencyOf corpus.keys importer specifier = specifier := by
    rw [dependencyOf, if_pos relative, unresolved, Option.getD_none]
  have some_text : specifier ≠ "" := by
    rintro rfl
    cases relative
  have inside : specifier ∈ dependenciesOf corpus.keys importer a.imports.keys :=
    mem_dependenciesOf.mpr ⟨other, imports_iff.mpr ⟨specifier, mem, some_text, stands⟩⟩
  refine ⟨_, List.mem_filter.mpr ⟨List.mem_map.mpr ⟨_, known, rfl⟩, ?_⟩, inside⟩
  rw [Bool.not_eq_true', List.isEmpty_eq_false_iff_exists_mem]
  exact ⟨specifier, inside⟩

/-- A target above the repository is two points alone when it lies right above it. -/
theorem written_above_eq_iff {names : List String} {up : Nat}
    (segments : ∀ name ∈ names, Path.IsSegment name) :
    Text.split '/' (Path.written (List.replicate (up + 1) ".." ++ names)) =
        List.replicate (up + 1) ".." ++ names ∧
      (Path.written (List.replicate (up + 1) ".." ++ names) = ".." ↔ up = 0 ∧ names = []) := by
  have nonempty : List.replicate (up + 1) ".." ++ names ≠ [] := List.cons_ne_nil _ _
  have cut := Path.split_join nonempty (slash_notMem_of_above segments (up + 1))
  rw [Path.written, if_neg nonempty]
  refine ⟨cut, fun points => ?_, ?_⟩
  · rw [points] at cut
    obtain ⟨-, none⟩ := List.cons.inj cut
    obtain ⟨no_more, no_name⟩ := List.append_eq_nil_iff.mp none.symm
    exact ⟨by simpa using no_more, no_name⟩
  · rintro ⟨rfl, rfl⟩
    rfl

/-- A specifier that climbs higher than its file lies below the root leads above the repository.
It names no file and is kept as it stands, in the import graph as well; but when it leads to the
directory right above the root, that is completed to paths, and the first known of these is the
file it names. -/
theorem resolve?_of_climbs (free : Text.startsWith importer "/" = false)
    (below : ∀ part ∈ Path.parts (Path.directory importer), part ≠ "..")
    (relative : Text.startsWith specifier "." = true)
    (climbs : Path.Climbs ((Path.parts (Path.directory importer)).length + 1) (wayOf specifier)) :
    (∃ more, Text.split '/' (targetPath importer specifier) = ".." :: more) ∧
    (∀ known, resolve? importer specifier known =
      if targetPath importer specifier = ".." then
        (candidateSuffixes.map (".." ++ ·)).find? known.contains
      else none) ∧
    ∀ (corpus : Corpus) (a : FileAnalysis), (importer, a) ∈ corpus → specifier ∈ a.imports.keys →
      specifier ≠ importer →
      (targetPath importer specifier = ".." → ∀ suffix ∈ candidateSuffixes,
        ".." ++ suffix ∉ corpus.keys) →
      ∃ dependencies, (importer, dependencies) ∈ importGraph corpus ∧
        specifier ∈ dependencies := by
  have down : ∀ part ∈ Path.parts (Path.directory importer), Path.leadsDown part = true :=
    fun part mem => Path.leadsDown_iff.mpr ⟨(Path.mem_parts.mp mem).2, below part mem⟩
  obtain ⟨up, names, leads⟩ :=
    Path.exists_leads (Path.parts (Path.directory importer) ++ wayOf specifier)
  obtain ⟨k, rfl⟩ : ∃ k, up = k + 1 :=
    Nat.exists_eq_add_of_le' ((leads.highest 1).mpr ((Path.climbs_append down).mpr climbs))
  have segments := isSegment_of_leads leads
  have target := targetPath_eq free relative leads
  obtain ⟨cut, right_above⟩ := @written_above_eq_iff names k segments
  rw [← target] at cut right_above
  have found (known : List String) : resolve? importer specifier known =
      if targetPath importer specifier = ".." then
        (candidateSuffixes.map (".." ++ ·)).find? known.contains
      else none := by
    rw [resolve?, target, candidates_above segments, ← target]
    simp only [right_above]
    split <;> rfl
  refine ⟨⟨_, cut⟩, found, fun corpus a known mem other unknown => ?_⟩
  refine exists_edge_of_unresolved known mem relative other ?_
  rw [found]
  split
  next points =>
    refine List.find?_eq_none.mpr fun path mem taken => ?_
    obtain ⟨suffix, listed, rfl⟩ := List.mem_map.mp mem
    exact unknown points suffix listed (List.contains_iff_mem.mp taken)
  next => rfl

end

theorem resolve?_of_climbs_of_two_levels :
    (Text.startsWith "src/a.js" "/" = false ∧
      (∀ part ∈ Path.parts (Path.directory "src/a.js"), part ≠ "..") ∧
      Text.startsWith "../../lib/x" "." = true ∧
      Path.Climbs ((Path.parts (Path.directory "src/a.js")).length + 1) (wayOf "../../lib/x")) ∧
    (∃ more, Text.split '/' (targetPath "src/a.js" "../../lib/x") = ".." :: more) ∧
    (∀ known, resolve? "src/a.js" "../../lib/x" known =
      if targetPath "src/a.js" "../../lib/x" = ".." then
        (candidateSuffixes.map (".." ++ ·)).find? known.contains
      else none) ∧
    ∀ (corpus : Corpus) (a : FileAnalysis), ("src/a.js", a) ∈ corpus →
      "../../lib/x" ∈ a.imports.keys → "../../lib/x" ≠ "src/a.js" →
      (targetPath "src/a.js" "../../lib/x" = ".." → ∀ suffix ∈ candidateSuffixes,
        ".." ++ suffix ∉ corpus.keys) →
      ∃ dependencies, ("src/a.js", dependencies) ∈ importGraph corpus ∧
        "../../lib/x" ∈ dependencies := by
  have free : Text.startsWith "src/a.js" "/" = false := by decide
  have base : Path.parts (Path.directory "src/a.js") = ["src"] := by decide +kernel
  have below : ∀ part ∈ Path.parts (Path.directory "src/a.js"), part ≠ ".." := by
    rw [base]
    decide
  have relative : Text.startsWith "../../lib/x" "." = true := by decide
  have way : wayOf "../../lib/x" = ["..", "..", "lib", "x"] := by decide +kernel
  have climbs : Path.Climbs ((Path.parts (Path.directory "src/a.js")).length + 1)
      (wayOf "../../lib/x") := by
    rw [base, way]
    exact ⟨["..", ".."], ⟨["lib", "x"], rfl⟩, by decide⟩
  exact ⟨⟨free, below, relative, climbs⟩, resolve?_of_climbs free below relative climbs⟩

/-- A specifier that has left the repository names a file of it: two points are completed to the
name `...js`. -/
theorem file_found_above_root :
    ¬ ∀ (importer specifier : String) (known : List String),
      Text.startsWith importer "/" = false →
      (∀ part ∈ Path.parts (Path.directory importer), part ≠ "..") →
      Text.startsWith specifier "." = true →
      Path.Climbs ((Path.parts (Path.directory importer)).length + 1) (wayOf specifier) →
      resolve? importer specifier known = none := by
  intro claim
  have base : Path.parts (Path.directory "a.js") = [] := by decide +kernel
  have climbs : Path.Climbs ((Path.parts (Path.directory "a.js")).length + 1) (wayOf "..") := by
    have way : wayOf ".." = [".."] := by decide +kernel
    rw [base, way]
    exact ⟨[".."], List.prefix_refl _, by decide⟩
  have found : resolve? "a.js" ".." ["a.js", "...js"] = some "...js" := by decide +kernel
  have none := claim "a.js" ".." ["a.js", "...js"] (by decide) (by rw [base]; decide) (by decide)
    climbs
  rw [found] at none
  cases none

end RepoSurvey.Overview
