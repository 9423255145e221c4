import Mathlib.Data.List.Induction
import RepoSurvey.Path
import RepoSurvey.Proofs.Text.Cutting

/-!
# Where a path leads

The parts of a path that count say where it leads, and those of a path as seen from a base
are the ones of the base and then its own (`parts_join`).

A walk through parts goes down at a name and up at two points. It ends some levels above the
place it started from, and from there it has gone down through some names (`Leads`). How far
above it ends is the most by which it has at any time gone up more often than down
(`Climbs`), because what lies above the start is not left again. The normal form of a path
writes just that: the levels above, and then the names (`Leads.normal_eq`).
-/

namespace RepoSurvey.Path

/-! ## Parts -/

variable {base path part : String}

theorem rooted_iff : Text.startsWith path "/" = true ↔ ∃ rest, path.toList = '/' :: rest := by
  rw [Text.startsWith, List.isPrefixOf_iff_prefix]
  constructor <;> exact fun ⟨rest, whole⟩ => ⟨rest, whole.symm⟩

theorem closed_iff : Text.endsWith path "/" = true ↔ ∃ start, path = start ++ "/" := by
  rw [Text.endsWith, List.isSuffixOf_iff_suffix]
  constructor
  · rintro ⟨start, whole⟩
    refine ⟨String.ofList start, String.toList_inj.mp ?_⟩
    rw [String.toList_append, String.toList_ofList, whole]
  · rintro ⟨start, rfl⟩
    exact ⟨start.toList, String.toList_append.symm⟩

theorem mem_parts : part ∈ parts path ↔
    part ∈ Text.split '/' path ∧ part ≠ "" ∧ part ≠ "." := by
  simp only [parts, List.mem_filter, Bool.and_eq_true, bne_iff_ne]

theorem parts_eq_split (counts : ∀ name ∈ Text.split '/' path, name ≠ "" ∧ name ≠ ".") :
    parts path = Text.split '/' path := by
  refine List.filter_eq_self.mpr fun name mem => ?_
  obtain ⟨some_name, no_point⟩ := counts name mem
  rw [bne_iff_ne.mpr some_name, bne_iff_ne.mpr no_point, Bool.and_self]

theorem parts_append (base path : String) :
    parts (base ++ "/" ++ path) = parts base ++ parts path := by
  have cut : Text.split '/' (base ++ "/" ++ path) = Text.split '/' base ++ Text.split '/' path :=
    Text.split_append base path
  rw [parts, cut, List.filter_append]
  rfl

/-- The parts of a path as seen from a base are those of the base and then its own. -/
theorem parts_join (free : Text.startsWith path "/" = false) :
    parts (join base path) = parts base ++ parts path := by
  rw [join, if_neg (Bool.eq_false_iff.mp free)]
  split
  next closed =>
    rcases Bool.or_eq_true_iff.mp closed with empty | slash
    · rw [String.isEmpty_iff.mp empty, String.empty_append]
      rfl
    · obtain ⟨start, rfl⟩ := closed_iff.mp slash
      have alone : parts (start ++ "/") = parts start := by
        rw [← String.append_empty (s := start ++ "/"), parts_append]
        exact List.append_nil _
      rw [alone, parts_append]
  next => exact parts_append base path

theorem join_cases (base path : String) :
    join base path = path ∨ base ≠ "" ∧ ∃ rest, join base path = base ++ rest := by
  rw [join]
  by_cases empty : base = ""
  · rw [empty, String.empty_append]
    split <;> exact .inl rfl
  · split
    · exact .inl rfl
    · refine .inr ⟨empty, ?_⟩
      split
      · exact ⟨path, rfl⟩
      · exact ⟨"/" ++ path, String.append_assoc⟩

/-- A path is rooted only when the base or the path seen from it is. -/
theorem not_rooted_join (free : Text.startsWith base "/" = false)
    (free' : Text.startsWith path "/" = false) : Text.startsWith (join base path) "/" = false := by
  rcases join_cases base path with same | ⟨some_base, rest, longer⟩
  · rw [same, free']
  · rw [longer]
    refine Bool.eq_false_iff.mpr fun rooted => Bool.eq_false_iff.mp free (rooted_iff.mpr ?_)
    obtain ⟨tail, whole⟩ := rooted_iff.mp rooted
    rw [String.toList_append] at whole
    rcases List.append_eq_cons_iff.mp whole with ⟨empty, -⟩ | ⟨more, start, -⟩
    · exact absurd (String.toList_eq_nil_iff.mp empty) some_base
    · exact ⟨more, start⟩

theorem not_rooted_of_split (named : ∀ name ∈ Text.split '/' path, name ≠ "") :
    Text.startsWith path "/" = false := by
  refine Bool.eq_false_iff.mpr fun rooted => ?_
  obtain ⟨rest, whole⟩ := rooted_iff.mp rooted
  refine named "" ?_ rfl
  rw [Text.split, whole, Text.splitAt_cons_self]
  exact List.mem_cons_self

theorem mem_enter {rooted : Bool} {above : List String} {name : String}
    (mem : name ∈ enter rooted above part) : name = part ∨ name ∈ above ∨ name = ".." := by
  unfold enter at mem
  split at mem
  · exact .inr (.inl mem)
  split at mem
  · exact (List.mem_cons.mp mem).imp_right .inl
  cases above with
  | nil =>
    cases rooted with
    | true => cases mem
    | false => exact .inr (.inr (List.mem_singleton.mp mem))
  | cons outer rest =>
    dsimp only at mem
    split at mem
    · exact .inr ((List.mem_cons.mp mem).symm)
    · exact .inr (.inl (List.mem_cons_of_mem outer mem))

theorem mem_foldl_enter {rooted : Bool} {names above : List String} {name : String}
    (mem : name ∈ names.foldl (enter rooted) above) :
    name ∈ names ∨ name ∈ above ∨ name = ".." := by
  induction names generalizing above with
  | nil => exact .inr (.inl mem)
  | cons part rest ih =>
    rcases ih mem with later | here | points
    · exact .inl (List.mem_cons_of_mem part later)
    · rcases mem_enter here with rfl | kept
      · exact .inl List.mem_cons_self
      · exact .inr kept
    · exact .inr (.inr points)

/-! ## Names -/

/-- The part leads to something below. -/
def leadsDown (part : String) : Bool :=
  part != "" && part != "." && part != ".."

theorem leadsDown_iff : leadsDown part = true ↔ (part ≠ "" ∧ part ≠ ".") ∧ part ≠ ".." := by
  simp only [leadsDown, Bool.and_eq_true, bne_iff_ne]

/-- Parts as a path, a point when there are none. -/
def written (parts : List String) : String :=
  if parts = [] then "." else Text.join "/" parts

theorem join_eq_empty_iff {names : List String} (some_text : ∀ name ∈ names, name ≠ "") :
    Text.join "/" names = "" ↔ names = [] := by
  refine ⟨fun empty => ?_, fun none => none ▸ rfl⟩
  cases names with
  | nil => rfl
  | cons first rest =>
    exact absurd empty (Text.join_cons_ne_empty (some_text first List.mem_cons_self))

theorem split_join {names : List String} (nonempty : names ≠ [])
    (whole : ∀ name ∈ names, '/' ∉ name.toList) :
    Text.split '/' (Text.join "/" names) = names :=
  Text.split_join nonempty whole

/-! ## Steps of a walk -/

section

variable {rooted : Bool} {above rest : List String} {name : String}

theorem enter_of_skipped (skipped : part = "" ∨ part = ".") : enter rooted above part = above := by
  rcases skipped with rfl | rfl <;> rfl

theorem enter_of_leadsDown (down : leadsDown part = true) :
    enter rooted above part = part :: above := by
  obtain ⟨⟨some_text, no_point⟩, no_points⟩ := leadsDown_iff.mp down
  simp only [enter, beq_iff_eq, bne_iff_ne, some_text, no_point, no_points, Bool.or_self,
    Bool.false_eq_true, if_false, ne_eq, not_false_eq_true, if_true, beq_eq_false_iff_ne.mpr]

/-- Above the start a way up leads further above. -/
theorem enter_up (up : Nat) :
    enter false (List.replicate up "..") ".." = List.replicate (up + 1) ".." := by
  cases up <;> rfl

theorem enter_back (other : name ≠ "..") : enter rooted (name :: rest) ".." = rest :=
  if_neg fun same => other (beq_iff_eq.mp same)

/-- The parts that do not count are passed over. -/
theorem foldl_enter_parts (path : String) :
    (Text.split '/' path).foldl (enter rooted) above = (parts path).foldl (enter rooted) above := by
  rw [parts, List.foldl_filter]
  refine congrArg (fun step => List.foldl step above (Text.split '/' path))
    (funext fun above => funext fun part => ?_)
  split
  next => rfl
  next skipped =>
    refine enter_of_skipped ?_
    rwa [Bool.and_eq_true, bne_iff_ne, bne_iff_ne, not_and_or, not_not, not_not] at skipped

end

/-! ## Walks -/

/-- At some time the walk has gone up `n` times more often than down. -/
def Climbs (n : Nat) (way : List String) : Prop :=
  ∃ start, start <+: way ∧ n + start.countP leadsDown ≤ start.count ".."

/-- The walk ends `up` levels above its start, and from there below `names`. -/
structure Leads (way : List String) (up : Nat) (names : List String) : Prop where
  /-- The parts of the place where it ends, innermost first. -/
  ends : way.foldl (enter false) [] = names.reverse ++ List.replicate up ".."
  /-- What it ends below is made of names. -/
  named : ∀ name ∈ names, leadsDown name = true
  /-- It has gone up as often as down, but for where it ends. -/
  level : way.count ".." + names.length = way.countP leadsDown + up
  /-- It has never been higher. -/
  highest : ∀ n, n ≤ up ↔ Climbs n way

section

variable {way names more : List String} {name : String} {up n : Nat}

theorem climbs_concat : Climbs n (way ++ [part]) ↔
    Climbs n way ∨ n + (way ++ [part]).countP leadsDown ≤ (way ++ [part]).count ".." := by
  constructor
  · rintro ⟨start, begins, high⟩
    rcases List.prefix_concat_iff.mp begins with rfl | earlier
    · exact .inr high
    · exact .inl ⟨start, earlier, high⟩
  · rintro (⟨start, begins, high⟩ | high)
    · exact ⟨start, begins.trans (List.prefix_append _ _), high⟩
    · exact ⟨_, List.prefix_refl _, high⟩

namespace Leads

theorem start : Leads [] 0 [] where
  ends := rfl
  named := List.forall_mem_nil _
  level := rfl
  highest := by
    refine fun n => ⟨fun low => ⟨[], List.prefix_refl _, low⟩, ?_⟩
    rintro ⟨start, begins, high⟩
    rw [List.prefix_nil.mp begins] at high
    exact high

theorem skip (h : Leads way up names) (skipped : part = "" ∨ part = ".") :
    Leads (way ++ [part]) up names := by
  have counts : (way ++ [part]).countP leadsDown = way.countP leadsDown ∧
      (way ++ [part]).count ".." = way.count ".." := by
    rw [List.countP_append, List.count_append]
    rcases skipped with rfl | rfl <;> exact ⟨rfl, rfl⟩
  refine ⟨?_, h.named, ?_, fun n => ?_⟩
  · rw [List.foldl_append, h.ends]
    exact enter_of_skipped skipped
  · rw [counts.1, counts.2]
    exact h.level
  · rw [climbs_concat, ← h.highest, counts.1, counts.2]
    have level := h.level
    omega

theorem down (h : Leads way up names) (down : leadsDown part = true) :
    Leads (way ++ [part]) up (names ++ [part]) := by
  have counts : (way ++ [part]).countP leadsDown = way.countP leadsDown + 1 ∧
      (way ++ [part]).count ".." = way.count ".." := by
    rw [List.countP_append, List.count_append, List.countP_singleton, if_pos down,
      List.count_singleton, if_neg (mt beq_iff_eq.mp (leadsDown_iff.mp down).2)]
    exact ⟨rfl, rfl⟩
  have level := h.level
  refine ⟨?_, ?_, ?_, fun n => ?_⟩
  · rw [List.foldl_append, h.ends, List.reverse_append]
    exact enter_of_leadsDown down
  · exact List.forall_mem_append.mpr ⟨h.named, List.forall_mem_singleton.mpr down⟩
  · rw [counts.1, counts.2, List.length_append, List.length_singleton]
    omega
  · rw [climbs_concat, ← h.highest, counts.1, counts.2]
    omega

theorem counts_up (way : List String) : (way ++ [".."]).countP leadsDown = way.countP leadsDown ∧
    (way ++ [".."]).count ".." = way.count ".." + 1 := by
  rw [List.countP_append, List.count_append]
  exact ⟨rfl, rfl⟩

/-- A way up takes the last name back. -/
theorem back (h : Leads way up (names ++ [name])) : Leads (way ++ [".."]) up names := by
  have counts := counts_up way
  have level := h.level
  rw [List.length_append, List.length_singleton] at level
  obtain ⟨named, last⟩ := List.forall_mem_append.mp h.named
  refine ⟨?_, named, ?_, fun n => ?_⟩
  · rw [List.foldl_append, h.ends, List.reverse_append]
    show enter false (name :: (names.reverse ++ List.replicate up "..")) ".." = _
    exact enter_back (leadsDown_iff.mp (last name List.mem_cons_self)).2
  · rw [counts.1, counts.2]
    omega
  · rw [climbs_concat, ← h.highest, counts.1, counts.2]
    omega

/-- A way up that finds no name leads further above the start. -/
theorem rise (h : Leads way up []) : Leads (way ++ [".."]) (up + 1) [] := by
  have counts := counts_up way
  have level := h.level
  rw [List.length_nil] at level
  refine ⟨?_, h.named, ?_, fun n => ?_⟩
  · rw [List.foldl_append, h.ends]
    exact enter_up up
  · rw [counts.1, counts.2, List.length_nil]
    omega
  · rw [climbs_concat, ← h.highest, counts.1, counts.2]
    omega

theorem downAll (h : Leads way up names) (down : ∀ part ∈ more, leadsDown part = true) :
    Leads (way ++ more) up (names ++ more) := by
  induction more using List.reverseRecOn with
  | nil => rwa [List.append_nil, List.append_nil]
  | append_singleton more part ih =>
    obtain ⟨earlier, last⟩ := List.forall_mem_append.mp down
    rw [← List.append_assoc, ← List.append_assoc]
    exact (ih earlier).down (last part List.mem_cons_self)

theorem backAll (h : Leads way up names) (n : Nat) (enough : n ≤ names.length) :
    Leads (way ++ List.replicate n "..") up (names.take (names.length - n)) := by
  induction n with
  | zero => rwa [List.replicate_zero, List.append_nil, Nat.sub_zero, List.take_length]
  | succ n ih =>
    have there : names.length - (n + 1) < names.length := by omega
    have next : names.length - n = names.length - (n + 1) + 1 := by omega
    have before := ih (Nat.le_of_succ_le enough)
    rw [next, List.take_succ_eq_append_getElem there] at before
    rw [List.replicate_succ', ← List.append_assoc]
    exact before.back

end Leads

/-- Every walk leads to some place. -/
theorem exists_leads (way : List String) : ∃ up names, Leads way up names := by
  induction way using List.reverseRecOn with
  | nil => exact ⟨0, [], .start⟩
  | append_singleton way part ih =>
    obtain ⟨up, names, h⟩ := ih
    by_cases skipped : part = "" ∨ part = "."
    · exact ⟨up, names, h.skip skipped⟩
    by_cases points : part = ".."
    · subst points
      rcases List.eq_nil_or_concat names with rfl | ⟨front, name, rfl⟩
      · exact ⟨up + 1, [], h.rise⟩
      · rw [List.concat_eq_append] at h
        exact ⟨up, front, h.back⟩
    · exact ⟨up, names ++ [part], h.down (leadsDown_iff.mpr ⟨not_or.mp skipped, points⟩)⟩

/-- A walk that has gone down through names climbs above its start when it goes up more often
than it has names to take back. -/
theorem climbs_append (down : ∀ name ∈ names, leadsDown name = true) :
    Climbs (n + 1) (names ++ way) ↔ Climbs (names.length + (n + 1)) way := by
  have none_up : names.count ".." = 0 := List.count_eq_zero.mpr fun mem => nomatch down _ mem
  have all_down : names.countP leadsDown = names.length := List.countP_eq_length.mpr down
  constructor
  · rintro ⟨start, begins, high⟩
    obtain ⟨rest, cut⟩ := begins
    rcases List.append_eq_append_iff.mp cut with ⟨more, within, -⟩ | ⟨later, rfl, begins⟩
    · have few : start.count ".." ≤ names.count ".." :=
        List.Sublist.count_le _ (within ▸ List.sublist_append_left start more)
      omega
    · rw [List.countP_append, List.count_append] at high
      exact ⟨later, ⟨rest, begins.symm⟩, by omega⟩
  · rintro ⟨start, begins, high⟩
    refine ⟨names ++ start, (List.prefix_append_right_inj names).mpr begins, ?_⟩
    rw [List.countP_append, List.count_append]
    omega

end

/-! ## Normal forms -/

section

variable {names : List String} {up : Nat}

theorem Leads.normal_eq (h : Leads (parts path) up names)
    (free : Text.startsWith path "/" = false) :
    normal path = written (List.replicate up ".." ++ names) := by
  have unmarked : rootMark path = "" := by
    rw [rootMark, free]
    rfl
  have some_text : ∀ part ∈ List.replicate up ".." ++ names, part ≠ "" := by
    intro part mem
    rcases List.mem_append.mp mem with above | below
    · rw [List.eq_of_mem_replicate above]
      decide
    · exact (leadsDown_iff.mp (h.named part below)).1.1
  have text : (names.reverse ++ List.replicate up "..").reverse =
      List.replicate up ".." ++ names := by
    rw [List.reverse_append, List.reverse_reverse, List.reverse_replicate]
  simp only [normal, unmarked, String.empty_append, bne_self_eq_false, foldl_enter_parts, h.ends,
    text, String.isEmpty_iff, join_eq_empty_iff some_text]
  rfl

end

/-! ## Segments and directories -/

/-- The part is a name of its own. -/
def IsSegment (part : String) : Prop :=
  leadsDown part = true ∧ '/' ∉ part.toList
  deriving Decidable

section

variable {names : List String} {name directory : String}

theorem parts_join_segments (segments : ∀ part ∈ names, IsSegment part) :
    parts (Text.join "/" names) = names := by
  by_cases none : names = []
  · rw [none]
    rfl
  have cut := split_join none fun part mem => (segments part mem).2
  rw [parts_eq_split, cut]
  intro part mem
  rw [cut] at mem
  exact (leadsDown_iff.mp (segments part mem).1).1

theorem directory_of_not_mem (whole : '/' ∉ name.toList) : Path.directory name = "" := by
  have others : ∀ c ∈ name.toList.reverse, (c != '/') = true :=
    fun c mem => bne_iff_ne.mpr fun same => whole (same ▸ List.mem_reverse.mp mem)
  rw [Path.directory, ← List.append_nil name.toList.reverse, List.dropWhile_append_of_pos others]
  rfl

theorem directory_append {front : List Char} {c : Char} (last : directory.toList = front ++ [c])
    (other : c ≠ '/') (whole : '/' ∉ name.toList) :
    Path.directory (directory ++ "/" ++ name) = directory := by
  have others : ∀ c ∈ name.toList.reverse, (c != '/') = true :=
    fun c mem => bne_iff_ne.mpr fun same => whole (same ▸ List.mem_reverse.mp mem)
  have head : ((directory ++ "/" ++ name).toList.reverse.dropWhile (· != '/')).reverse =
      directory.toList ++ ['/'] := by
    rw [String.toList_append, List.reverse_append, List.dropWhile_append_of_pos others,
      String.toList_append, List.reverse_append]
    show ('/' :: directory.toList.reverse).reverse = _
    rw [List.reverse_cons, List.reverse_reverse]
  have mixed : (directory.toList ++ ['/']).all (· == '/') = false := by
    rw [last]
    refine Bool.eq_false_iff.mpr fun all => other ?_
    exact beq_iff_eq.mp (List.all_eq_true.mp all c (by simp))
  have trimmed : Text.trimEndBy (· == '/') (directory.toList ++ ['/']) = directory.toList := by
    rw [Text.trimEndBy, last, List.reverse_append, List.reverse_append]
    show (List.dropWhile _ ('/' :: c :: front.reverse)).reverse = _
    simp only [List.dropWhile_cons, beq_self_eq_true, if_true, beq_iff_eq, other, if_false,
      List.reverse_cons, List.reverse_reverse]
  rw [Path.directory, head, mixed, trimmed]
  exact String.ofList_toList

/-- A file lies in the directory whose segments stand before its name. -/
theorem directory_join (segments : ∀ part ∈ names, IsSegment part) (whole : '/' ∉ name.toList) :
    Path.directory (Text.join "/" (names ++ [name])) = Text.join "/" names := by
  rcases List.eq_nil_or_concat names with rfl | ⟨front, last, rfl⟩
  · exact directory_of_not_mem whole
  rw [List.concat_eq_append] at segments ⊢
  obtain ⟨counts, in_one_piece⟩ := segments last (by simp)
  obtain ⟨cs, c, letters⟩ : ∃ cs c, last.toList = cs ++ [c] := by
    rcases List.eq_nil_or_concat last.toList with none | ⟨cs, c, letters⟩
    · exact absurd (String.toList_eq_nil_iff.mp none) (leadsDown_iff.mp counts).1.1
    · exact ⟨cs, c, by rw [letters, List.concat_eq_append]⟩
  have other : c ≠ '/' := by
    rintro rfl
    exact in_one_piece (by rw [letters]; simp)
  obtain ⟨before, ends⟩ : ∃ before, (Text.join "/" (front ++ [last])).toList = before ++ [c] := by
    by_cases none : front = []
    · exact ⟨cs, by rw [none]; exact letters⟩
    · rw [Text.join, String.intercalate_append_of_ne_nil none (List.cons_ne_nil _ _),
        String.toList_append, String.intercalate_singleton, letters, ← List.append_assoc]
      exact ⟨_, rfl⟩
  rw [← directory_append ends other whole]
  refine congrArg Path.directory ?_
  rw [Text.join, String.intercalate_append_of_ne_nil (List.append_ne_nil_of_right_ne_nil front
    (List.cons_ne_nil last [])) (List.cons_ne_nil name []), String.intercalate_singleton]
  rfl

theorem directory_isPrefix (path : String) : (Path.directory path).toList <+: path.toList := by
  have head : (path.toList.reverse.dropWhile (· != '/')).reverse <+: path.toList := by
    rw [← List.reverse_suffix, List.reverse_reverse]
    exact List.dropWhile_suffix _
  rw [Path.directory]
  split
  · rwa [String.toList_ofList]
  · rw [String.toList_ofList, Text.trimEndBy]
    refine List.IsPrefix.trans ?_ head
    rw [← List.reverse_suffix, List.reverse_reverse]
    exact List.dropWhile_suffix _

theorem not_rooted_directory (free : Text.startsWith path "/" = false) :
    Text.startsWith (Path.directory path) "/" = false := by
  refine Bool.eq_false_iff.mpr fun rooted => Bool.eq_false_iff.mp free ?_
  rw [Text.startsWith, List.isPrefixOf_iff_prefix] at rooted ⊢
  exact rooted.trans (directory_isPrefix path)

end

end RepoSurvey.Path
