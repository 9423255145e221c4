import RepoSurvey.Proofs.Detection.Claims
import RepoSurvey.Proofs.JavaScript.Calls
import RepoSurvey.Proofs.JavaScript.Masking
import RepoSurvey.Proofs.Text.Classes
import RepoSurvey.Proofs.Text.Cutting

/-!
# What is read from the tags of state

In a script that imports React, and neither Redux nor MobX, a tag of state is a
tag of React (`originOf_react`), and the change that it stands for has the
variable that was captured in the source: the value of a pair, the key of a
component's state, the type of an action, the name that a setter sets
(`stateTags_decode`).

But any tag that holds `setState` is taken for a call of a component's setter,
before it is looked at as a setter or a dispatched action. So the setter of a
variable `state` is not found to change that variable (`setter_of_state_lost`).
-/

namespace RepoSurvey.Detection.State

open JavaScript (StateCall IsIdentifier IsLiteral Masked analyse mask parse)
open Text (Pattern Pieces isWordOrDollar)

/-! ## Tags -/

section

variable {value hook key type name : String} {bound creator : Option String} {call : StateCall}

theorem toList_tag_setState : (StateCall.setState (some key)).tag.toList =
    "this.setState(".toList ++ '\x7b' :: (key.toList ++ "\x7d)".toList) := by
  have written : (StateCall.setState (some key)).tag = "this.setState(\x7b" ++ key ++ "\x7d)" := rfl
  simp [written]

theorem toList_tag_dispatch : (StateCall.dispatch (some type) creator).tag.toList =
    "dispatch(\x7btype: ".toList ++ '\'' :: (type.toList ++ '\'' :: "\x7d)".toList) := by
  have written : (StateCall.dispatch (some type) creator).tag =
    "dispatch(\x7btype: '" ++ type ++ "'\x7d)" := rfl
  simp [written]

theorem toList_tag_setter : (StateCall.setter name).tag.toList = name.toList ++ ['('] :=
  String.toList_append

theorem exists_toList_tag_pair (value hook : String) (bound : Option String) :
    ∃ rest, (StateCall.pair value bound hook).tag.toList = '[' :: (value.toList ++ rest) ∧
      rest.head?.any isWordOrDollar = false ∧ hook.toList <:+ rest := by
  have outside : isWordOrDollar ']' = false ∧ isWordOrDollar ',' = false := by decide
  cases bound with
  | none =>
    have written : (StateCall.pair value none hook).tag = "[" ++ value ++ "] = " ++ hook := rfl
    exact ⟨"] = ".toList ++ hook.toList, by simp [written], outside.1, List.suffix_append _ _⟩
  | some s =>
    have written : (StateCall.pair value (some s) hook).tag =
      "[" ++ value ++ ", " ++ s ++ "] = " ++ hook := rfl
    exact ⟨", ".toList ++ s.toList ++ "] = ".toList ++ hook.toList, by simp [written], outside.2,
      List.suffix_append _ _⟩

/-! ## What the forms read -/

section

variable {before piece after : List Char} {caps : Pieces}

theorem reads_destructured : destructured.Reads before piece after [] caps ↔
    ∃ name : String, piece = '[' :: name.toList ∧
      ((∀ c ∈ name.toList, isWordOrDollar c = true) ∧ name.toList ≠ []) ∧
      caps = [(1, name.toList)] := by
  simp [destructured, Pattern.reads_seq, Pattern.reads_capture_some1]

/-- A character of a key. -/
def isKeyPart (c : Char) : Bool :=
  Pattern.otherThan ":\x7d," c && !Text.isBlank c

theorem reads_stateKey : stateKey.Reads before piece after [] caps ↔
    ∃ (first second third : List Char) (key : String),
      piece = "setState".toList ++ (first ++ '(' :: (second ++ '\x7b' :: (third ++ key.toList))) ∧
        (∀ c ∈ first, Text.isBlank c = true) ∧ (∀ c ∈ second, Text.isBlank c = true) ∧
          (∀ c ∈ third, Text.isBlank c = true) ∧
            ((∀ c ∈ key.toList, isKeyPart c = true) ∧ key.toList ≠ []) ∧
              caps = [(1, key.toList)] := by
  simp [stateKey, isKeyPart, Pattern.sequence, Pattern.reads_seq, Pattern.reads_capture_some1]

theorem among_quotes (c : Char) : Pattern.among "'\"" c = JavaScript.isQuote c := by
  rw [Bool.eq_iff_iff]
  simp [Pattern.among, JavaScript.isQuote]

theorem reads_dispatchedType : dispatchedType.Reads before piece after [] caps ↔
    ∃ (blanks : List Char) (type : String) (closer opener : Char),
      piece = "type:".toList ++ (blanks ++ opener :: (type.toList ++ [closer])) ∧
        (∀ c ∈ blanks, Text.isBlank c = true) ∧ JavaScript.isQuote opener = true ∧
          ((∀ c ∈ type.toList, JavaScript.isQuote c = false) ∧ type.toList ≠ []) ∧
            JavaScript.isQuote closer = true ∧ caps = [(1, type.toList)] := by
  have other : ∀ c, Pattern.otherThan "'\"" c = !JavaScript.isQuote c :=
    fun c => congrArg _ (among_quotes c)
  simp [dispatchedType, Pattern.sequence, Pattern.reads_seq, Pattern.reads_one,
    Pattern.reads_capture_some1, among_quotes, other]

theorem reads_setterCall : setterCall.Reads before piece after [] caps ↔
    ∃ (rest : List Char) (first : Char), piece = "set".toList ++ first :: (rest ++ ['(']) ∧
      isCapital first = true ∧ (∀ c ∈ rest, isWordOrDollar c = true) ∧
      (after = [] ∨ after = ['\n']) ∧
        caps = [] := by
  simp [setterCall, Pattern.sequence, Pattern.reads_seq, Pattern.reads_textEnd, Pattern.reads_one]

end

/-! ## What is found in a tag -/

/-- The name of a setter. -/
def IsSetter (name : String) : Prop :=
  ∃ first rest, name.toList = "set".toList ++ first :: rest ∧ isCapital first = true ∧
    ∀ c ∈ rest, isWordOrDollar c = true

/-- Piece 1 of the first match, where all matches agree on it. -/
theorem found?_eq {p : Pattern} {s held : String} {before piece after : List Char} {caps : Pieces}
    (plain : p.Plain = true) (whole : s.toList = before ++ piece ++ after)
    (reads : p.Reads before piece after [] caps)
    (agree : ∀ {before piece after caps}, s.toList = before ++ piece ++ after →
      p.Reads before piece after [] caps →
        (∀ accepts, p.EndsInRun accepts → after.head?.any accepts = false) →
          caps.lookup 1 = some held.toList) :
    found? p s = some held := by
  have whole' : s.toList.toArray.toList = before ++ piece ++ after := whole
  obtain ⟨m, found⟩ := Option.isSome_iff_exists.mp (Pattern.isSome_findFrom? plain whole' reads)
  obtain ⟨before, piece, after, caps, whole, reads, groups, stops⟩ :=
    Pattern.exists_reads_of_findFrom? found
  have group : m.group s.toList.toArray 1 = held := by
    rw [Text.Match.group, groups, agree whole reads stops]
    exact String.ofList_toList
  rw [found?, found, Option.map_some, group]

theorem found?_eq_none {p : Pattern} {s : String}
    (unread : ∀ {before piece after caps}, s.toList = before ++ piece ++ after →
      ¬ p.Reads before piece after [] caps) : found? p s = none := by
  rw [found?, Option.map_eq_none_iff, ← Option.not_isSome_iff_eq_none]
  intro found
  obtain ⟨m, found⟩ := Option.isSome_iff_exists.mp found
  obtain ⟨before, piece, after, caps, whole, reads, -⟩ := Pattern.exists_reads_of_findFrom? found
  exact unread whole reads

theorem opens?_destructured_eq_none {tag : String} (other : tag.toList.head? ≠ some '[') :
    destructured.opens? tag = none := by
  rw [← Option.not_isSome_iff_eq_none]
  intro opens
  obtain ⟨⟨m, text⟩, opens⟩ := Option.isSome_iff_exists.mp opens
  obtain ⟨piece, after, caps, whole, reads, -⟩ := Pattern.exists_reads_of_opens? opens
  obtain ⟨name, rfl, -⟩ := reads_destructured.mp reads
  rw [whole] at other
  exact other rfl

/-- The value of a pair is read up to where it ends. -/
theorem exists_opens?_destructured {tag : String} {rest : List Char}
    (whole : tag.toList = '[' :: (value.toList ++ rest))
    (known : (∀ c ∈ value.toList, isWordOrDollar c = true) ∧ value.toList ≠ [])
    (stop : rest.head?.any isWordOrDollar = false) :
    ∃ m text, destructured.opens? tag = some (m, text) ∧ m.group text 1 = value := by
  have reads : destructured.Reads [] ('[' :: value.toList) rest [] [(1, value.toList)] :=
    reads_destructured.mpr ⟨value, rfl, known, rfl⟩
  have opens := Pattern.isSome_opens? rfl whole reads
  obtain ⟨⟨m, text⟩, opens⟩ := Option.isSome_iff_exists.mp opens
  obtain ⟨piece, after, caps, whole', reads', groups, stops⟩ := Pattern.exists_reads_of_opens? opens
  obtain ⟨held, rfl, ⟨parts, -⟩, rfl⟩ := reads_destructured.mp reads'
  have ends : destructured.EndsInRun isWordOrDollar := .seq (.capture .run)
  have same : held.toList = value.toList :=
    Text.run_inj parts known.1 (stops isWordOrDollar ends) stop
      (List.cons.inj (whole'.symm.trans whole)).2
  refine ⟨m, text, opens, ?_⟩
  rw [Text.Match.group, groups, String.toList_inj.mp same]
  exact String.ofList_toList

theorem isKeyPart_of_isWordOrDollar {c : Char} (part : isWordOrDollar c = true) :
    isKeyPart c = true := by
  have blank : Text.isBlank c = false := by
    refine Bool.eq_false_iff.mpr fun blank => ?_
    rw [isWordOrDollar, Text.not_isWordChar_of_isBlank blank, Bool.false_or, beq_iff_eq] at part
    subst part
    exact absurd blank (by decide)
  have others : [':', '\x7d', ','].any isWordOrDollar = false := by decide
  have other : Pattern.otherThan ":\x7d," c = true := by
    rw [Pattern.otherThan, Bool.not_eq_true', ← Bool.not_eq_true, List.contains_iff_mem]
    exact fun mem => List.any_eq_false.mp others c mem part
  rw [isKeyPart, other, blank]
  rfl

/-- A key begins with no blank. -/
theorem head_not_blank {cs : List Char} (known : (∀ c ∈ cs, isKeyPart c = true) ∧ cs ≠ [])
    (rest : List Char) : (cs ++ rest).head?.any Text.isBlank = false := by
  obtain ⟨first, more, rfl⟩ := List.exists_cons_of_ne_nil known.2
  have part := known.1 first List.mem_cons_self
  rw [isKeyPart, Bool.and_eq_true, Bool.not_eq_true'] at part
  exact part.2

/-- The key of a component's state is found in the tag of its setter. -/
theorem found?_stateKey (known : (∀ c ∈ key.toList, isWordOrDollar c = true) ∧ key.toList ≠ []) :
    found? stateKey (StateCall.setState (some key)).tag = some key := by
  have parts : ∀ c ∈ key.toList, isKeyPart c = true :=
    fun c mem => isKeyPart_of_isWordOrDollar (known.1 c mem)
  have written : (StateCall.setState (some key)).tag.toList =
      "this.".toList ++
          ("setState".toList ++ ([] ++ '(' :: ([] ++ '\x7b' :: ([] ++ key.toList)))) ++
        "\x7d)".toList := by
    rw [toList_tag_setState]
    simp
  refine found?_eq rfl written
    (reads_stateKey.mpr ⟨[], [], [], key, rfl, nofun, nofun, nofun, ⟨parts, known.2⟩, rfl⟩) ?_
  intro before piece after caps whole reads stops
  obtain ⟨first, second, third, held, rfl, -, -, blank, ⟨parts', some_held⟩, rfl⟩ :=
    reads_stateKey.mp reads
  have ends : stateKey.EndsInRun isKeyPart :=
    .seq (.seq (.seq (.seq (.seq (.seq (.capture .run))))))
  have braces : "this.setState(".toList ++ '\x7b' :: (key.toList ++ "\x7d)".toList) =
      (before ++ "setState".toList ++ first ++ '(' :: second) ++
        '\x7b' :: (third ++ (held.toList ++ after)) := by
    rw [← toList_tag_setState, whole]
    simp
  have brace_free : '\x7b' ∉ key.toList ++ "\x7d)".toList := by
    intro mem
    rcases List.mem_append.mp mem with inside | after
    · exact absurd (known.1 _ inside) (by decide)
    · exact absurd after (by decide)
  obtain ⟨-, -, rest⟩ := (List.append_cons_inj_of_notMem (by decide) brace_free).mp braces
  -- the key follows the brace at once, since no blank begins a key
  obtain rfl : third = [] :=
    Text.run_inj blank nofun (head_not_blank ⟨parts', some_held⟩ after)
      (head_not_blank ⟨parts, known.2⟩ "\x7d)".toList) rest.symm
  rw [Text.run_inj parts' parts (stops isKeyPart ends) (by decide) rest.symm]
  rfl

/-- No key is found in the tag of a setter. -/
theorem found?_stateKey_setter (setter : IsSetter name) :
    found? stateKey (StateCall.setter name).tag = none := by
  refine found?_eq_none fun whole reads => ?_
  obtain ⟨first, second, third, held, rfl, -⟩ := reads_stateKey.mp reads
  obtain ⟨initial, rest, parts, capital, more⟩ := setter
  have brace : '\x7b' ∈ (StateCall.setter name).tag.toList := by
    rw [whole]
    simp
  rw [toList_tag_setter, parts] at brace
  rcases List.mem_append.mp brace with named | last
  · rcases List.mem_append.mp named with start | later
    · exact absurd start (by decide)
    · rcases List.mem_cons.mp later with rfl | later
      · exact absurd capital (by decide)
      · exact absurd (more _ later) (by decide)
  · exact absurd last (by decide)

/-- The type of an action is found in the tag of a dispatch. -/
theorem found?_dispatchedType (literal : IsLiteral type) :
    found? dispatchedType (StateCall.dispatch (some type) creator).tag = some type := by
  have written : (StateCall.dispatch (some type) creator).tag.toList =
      "dispatch(\x7b".toList ++ ("type:".toList ++ ([' '] ++ '\'' :: (type.toList ++ ['\'']))) ++
        "\x7d)".toList := by
    rw [toList_tag_dispatch]
    simp
  have free : ∀ c ∈ type.toList, JavaScript.isQuote c = false := literal.2
  refine found?_eq rfl written (reads_dispatchedType.mpr
    ⟨[' '], type, '\'', '\'', rfl, List.forall_mem_singleton.mpr (by decide), by decide,
      ⟨free, literal.1⟩, by decide, rfl⟩) ?_
  intro before piece after caps whole reads _
  obtain ⟨blanks, held, closer, opener, rfl, -, opens, ⟨free', -⟩, closes, rfl⟩ :=
    reads_dispatchedType.mp reads
  have quotes : (before ++ "type:".toList ++ blanks) ++ opener :: (held.toList ++ closer :: after) =
      "dispatch(\x7btype: ".toList ++ '\'' :: (type.toList ++ '\'' :: "\x7d)".toList) := by
    rw [← toList_tag_dispatch, whole]
    simp
  have outside : ∀ s ∈ ["dispatch(\x7btype: ", "\x7d)"],
      s.toList.any JavaScript.isQuote = false := by decide
  have unquoted : ∀ s ∈ ["dispatch(\x7btype: ", "\x7d)"],
      ∀ c ∈ s.toList, JavaScript.isQuote c = false :=
    fun s mem c inside => Bool.eq_false_iff.mpr (List.any_eq_false.mp (outside s mem) c inside)
  rw [Text.enclosed_inj_of_class opens free' closes (by decide)
    (unquoted _ List.mem_cons_self) free (by decide)
    (unquoted _ (List.mem_cons_of_mem _ List.mem_cons_self)) quotes]
  rfl

/-! ## What a tag stands for -/

/-- The name that a setter sets, with its first letter in lower case. -/
def nameSet (setter : String) : String :=
  lowerFirst (setter.toList.drop 3)

theorem isWordOrDollar_of_isIdentifier (identifier : IsIdentifier name) :
    (∀ c ∈ name.toList, isWordOrDollar c = true) ∧ name.toList ≠ [] := by
  obtain ⟨first, rest, parts, starts, more⟩ := identifier
  have start : isWordOrDollar first = true := by
    simp only [JavaScript.isNameStart, Bool.or_eq_true, beq_iff_eq] at starts
    rcases starts with ((lower | upper) | rfl) | rfl
    · have letter : Text.isAsciiAlphanumeric first = true := by
        simp [Text.isAsciiAlphanumeric, lower]
      rw [isWordOrDollar, Text.isWordChar_of_ascii letter, Bool.true_or]
    · have letter : Text.isAsciiAlphanumeric first = true := by
        simp [Text.isAsciiAlphanumeric, upper]
      rw [isWordOrDollar, Text.isWordChar_of_ascii letter, Bool.true_or]
    · decide
    · decide
  rw [parts]
  exact ⟨List.forall_mem_cons.mpr ⟨start, more⟩, List.cons_ne_nil _ _⟩

theorem suffix_tag_pair : hook.toList <:+ (StateCall.pair value bound hook).tag.toList := by
  obtain ⟨rest, whole, -, ends⟩ := exists_toList_tag_pair value hook bound
  rw [whole]
  exact ends.trans ((List.suffix_append _ _).trans (List.suffix_cons _ _))

theorem holds_tag_setState :
    Text.holds (StateCall.setState (some key)).tag "setState" = true := by
  refine Text.holds_iff.mpr ⟨"this.".toList, '(' :: '\x7b' :: (key.toList ++ "\x7d)".toList), ?_⟩
  rw [toList_tag_setState]
  rfl

theorem head?_tag_dispatch_ne :
    (StateCall.dispatch (some type) creator).tag.toList.head? ≠ some '[' := by
  rw [toList_tag_dispatch]
  simp

theorem isDispatch_tag : isDispatch (StateCall.dispatch (some type) creator).tag = true := by
  rw [isDispatch, Text.startsWith, toList_tag_dispatch]
  rfl

theorem IsSetter.exists_toList_tag (setter : IsSetter name) :
    ∃ first rest, (StateCall.setter name).tag.toList = "set".toList ++ first :: (rest ++ ['(']) ∧
      isCapital first = true ∧ ∀ c ∈ rest, isWordOrDollar c = true := by
  obtain ⟨first, rest, parts, capital, more⟩ := setter
  refine ⟨first, rest, ?_, capital, more⟩
  rw [toList_tag_setter, parts, List.append_assoc]
  rfl

theorem IsSetter.head?_tag_ne (setter : IsSetter name) :
    (StateCall.setter name).tag.toList.head? ≠ some '[' := by
  obtain ⟨first, rest, whole, -⟩ := setter.exists_toList_tag
  rw [whole]
  simp

theorem IsSetter.begins_tag (setter : IsSetter name) :
    begins setterCall (StateCall.setter name).tag = true := by
  obtain ⟨first, rest, whole, capital, more⟩ := setter.exists_toList_tag
  have reads : setterCall.Reads [] (StateCall.setter name).tag.toList [] [] [] :=
    reads_setterCall.mpr ⟨rest, first, whole, capital, more, .inl rfl, rfl⟩
  exact Pattern.isSome_opens? rfl (List.append_nil _).symm reads

theorem reactChange_pair (c : Container) (identifier : IsIdentifier value)
    (known : hook ∈ ["useState", "useReducer"]) :
    reactChange c (StateCall.pair value bound hook).tag = (hook, value, "update") := by
  obtain ⟨rest, whole, stop, -⟩ := exists_toList_tag_pair value hook bound
  obtain ⟨m, text, opens, group⟩ :=
    exists_opens?_destructured whole (isWordOrDollar_of_isIdentifier identifier) stop
  have kind : (if Text.endsWith (StateCall.pair value bound hook).tag "useReducer" then "useReducer"
      else "useState") = hook := by
    simp only [List.mem_cons, List.not_mem_nil, or_false] at known
    rcases known with rfl | rfl
    · refine if_neg fun ends => ?_
      have nested : "useState".toList <:+ "useReducer".toList :=
        List.suffix_of_suffix_length_le suffix_tag_pair (List.isSuffixOf_iff_suffix.mp ends)
          (by decide)
      exact absurd nested (by decide)
    · exact if_pos (List.isSuffixOf_iff_suffix.mpr suffix_tag_pair)
  rw [reactChange, opens]
  show (_, m.group text 1, "update") = _
  rw [group, kind]

/-- A tag that holds `setState` and binds no pair is taken for a call of a component's setter. -/
theorem reactChange_of_holds {tag : String} (c : Container) (unbound : tag.toList.head? ≠ some '[')
    (holds : Text.holds tag "setState" = true) :
    reactChange c tag = ("setState", (found? stateKey tag).getD "unknown", "update") := by
  rw [reactChange, opens?_destructured_eq_none unbound]
  exact if_pos holds

theorem reactChange_setState (c : Container) (identifier : IsIdentifier key) :
    reactChange c (StateCall.setState (some key)).tag = ("setState", key, "update") := by
  have unbound : (StateCall.setState (some key)).tag.toList.head? ≠ some '[' := by
    rw [toList_tag_setState]
    simp
  rw [reactChange_of_holds c unbound holds_tag_setState,
    found?_stateKey (isWordOrDollar_of_isIdentifier identifier)]
  rfl

theorem reactChange_dispatch (c : Container) (literal : IsLiteral type)
    (apart : Text.holds (StateCall.dispatch (some type) creator).tag "setState" = false) :
    reactChange c (StateCall.dispatch (some type) creator).tag = ("dispatch", type, "update") := by
  have action : dispatchedAction (StateCall.dispatch (some type) creator).tag = type := by
    rw [dispatchedAction, found?_dispatchedType literal]
  rw [reactChange, opens?_destructured_eq_none head?_tag_dispatch_ne]
  show (if _ then _ else _) = _
  rw [apart, if_neg Bool.false_ne_true, if_pos isDispatch_tag, action]

theorem reactChange_setter (c : Container) (setter : IsSetter name)
    (apart : Text.holds (StateCall.setter name).tag "setState" = false) :
    reactChange c (StateCall.setter name).tag = ("useState", nameSet name, "update") := by
  obtain ⟨first, rest, whole, -⟩ := setter.exists_toList_tag
  have other : isDispatch (StateCall.setter name).tag = false := by
    rw [isDispatch, Text.startsWith, whole]
    rfl
  have unselected : (StateCall.setter name).tag ≠ selectorTag := by
    intro same
    have heads := congrArg (fun s : String => s.toList.head?) same
    simp [whole, selectorTag] at heads
  have variable_eq :
      lowerFirst ((StateCall.setter name).tag.toList.drop 3).dropLast = nameSet name := by
    have left : (StateCall.setter name).tag.toList.drop 3 = name.toList.drop 3 ++ ['('] := by
      obtain ⟨_, _, parts, -⟩ := setter
      rw [toList_tag_setter, parts]
      rfl
    rw [nameSet, left, List.dropLast_concat]
  rw [reactChange, opens?_destructured_eq_none setter.head?_tag_ne]
  show (if _ then _ else _) = _
  rw [apart, if_neg Bool.false_ne_true, other, if_neg Bool.false_ne_true,
    beq_false_of_ne unselected, if_neg Bool.false_ne_true, if_pos setter.begins_tag, variable_eq]

/-! ## What is captured of a change -/

/-- The kind and the variable of what is captured, where the source gives it a name. -/
def changeOf? : StateCall → Option (String × String)
  | .pair value _ hook => some (hook, value)
  | .setState (some key) => some ("setState", key)
  | .dispatch (some type) _ => some ("dispatch", type)
  | .setter name => some ("useState", nameSet name)
  | _ => none

/-- The tag of a setter or of a dispatched action is taken for a component's setter. -/
def Mistaken : StateCall → Prop
  | .dispatch (some type) creator =>
    Text.holds (StateCall.dispatch (some type) creator).tag "setState" = true
  | .setter name => Text.holds (StateCall.setter name).tag "setState" = true
  | _ => False

/-- What is captured can be read back from its tag. -/
def Readable : StateCall → Prop
  | .pair value _ hook => IsIdentifier value ∧ hook ∈ ["useState", "useReducer"]
  | .setState key => ∀ k ∈ key, IsIdentifier k
  | .dispatch type _ => ∀ t ∈ type, IsLiteral t
  | .setter name => IsSetter name
  | _ => True

theorem readable_of_proper (proper : call.Proper) : Readable call := by
  cases call with
  | pair value bound hook => exact ⟨proper.1, proper.2.2⟩
  | setState key => exact proper
  | dispatch type creator => exact proper.1
  | setter name => exact proper.1
  | hook _ | observable _ => trivial

theorem reactChange_tag (c : Container) {kind variableName : String} (readable : Readable call)
    (known : changeOf? call = some (kind, variableName)) (apart : ¬ Mistaken call) :
    reactChange c call.tag = (kind, variableName, "update") := by
  cases call with
  | pair value bound hook =>
    cases known
    exact reactChange_pair c readable.1 readable.2
  | setState key =>
    cases key with
    | none => cases known
    | some key =>
      cases known
      exact reactChange_setState c (readable _ rfl)
  | dispatch type creator =>
    cases type with
    | none => cases known
    | some type =>
      cases known
      exact reactChange_dispatch c (readable _ rfl) (Bool.eq_false_iff.mpr apart)
  | setter name =>
    cases known
    exact reactChange_setter c readable (Bool.eq_false_iff.mpr apart)
  | hook _ | observable _ => cases known

theorem exists_changeOf?_of_mistaken (mistaken : Mistaken call) :
    ∃ change, changeOf? call = some change := by
  cases call with
  | dispatch type creator =>
    cases type with
    | none => cases mistaken
    | some type => exact ⟨_, rfl⟩
  | setter name => exact ⟨_, rfl⟩
  | pair _ _ _ | hook _ | setState _ | observable _ => cases mistaken

/-- A mistaken tag stands for a change of a component's state; a setter then names none. -/
theorem reactChange_mistaken (c : Container) (readable : Readable call) (mistaken : Mistaken call) :
    ∃ variableName, reactChange c call.tag = ("setState", variableName, "update") ∧
      ∀ name, call = .setter name → variableName = "unknown" := by
  cases call with
  | dispatch type creator =>
    cases type with
    | none => cases mistaken
    | some type => exact ⟨_, reactChange_of_holds c head?_tag_dispatch_ne mistaken, nofun⟩
  | setter name =>
    have setter : IsSetter name := readable
    refine ⟨_, reactChange_of_holds c setter.head?_tag_ne mistaken, fun _ _ => ?_⟩
    rw [found?_stateKey_setter setter]
    rfl
  | pair _ _ _ | hook _ | setState _ | observable _ => cases mistaken

/-! ## Whose tag it is -/

/-- A file imports React, and neither Redux nor MobX. -/
structure OnlyReact (ctx : Context) : Prop where
  react : ctx.react = true
  redux : ctx.redux = false
  mobx : ctx.mobx = false

/-- In a script that imports React alone, what changes a named variable belongs to React. -/
theorem originOf_react {ctx : Context} {change : String × String} (only : OnlyReact ctx)
    (script : ctx.analysis.language ≠ "python") (readable : Readable call)
    (known : changeOf? call = some change) : originOf ctx call.tag = .react := by
  have words : (reactWords.any (Text.holds call.tag) || begins setterCall call.tag) = true := by
    rw [Bool.or_eq_true, List.any_eq_true]
    cases call with
    | pair value bound hook =>
      have word : ∀ hook ∈ ["useState", "useReducer"], hook ∈ reactWords := by decide
      exact .inl ⟨hook, word hook readable.2, Text.holds_iff.mpr suffix_tag_pair.isInfix⟩
    | setState key =>
      cases key with
      | none => cases known
      | some key => exact .inl ⟨"setState", by decide, holds_tag_setState⟩
    | dispatch type creator =>
      cases type with
      | none => cases known
      | some type =>
        have opens : "dispatch(".toList <+: (StateCall.dispatch (some type) creator).tag.toList :=
          List.isPrefixOf_iff_prefix.mp isDispatch_tag
        have word : "dispatch".toList <+: "dispatch(".toList := by decide
        exact .inl ⟨"dispatch", by decide, Text.holds_iff.mpr (word.trans opens).isInfix⟩
    | setter name => exact .inr (IsSetter.begins_tag readable)
    | hook _ | observable _ => cases known
  have script : (ctx.analysis.language == "python") = false := beq_false_of_ne script
  simp [originOf, script, only.react, only.redux, only.mobx, words]

/-- The change that a tag of React stands for. -/
def reactFinding (ctx : Context) (c : Container) (tag kind variableName : String) : StateChange :=
  change ctx c.name (c.info.lineFor tag) kind "React" variableName "update" tag

theorem judge_react {ctx : Context} {c : Container} {tag kind variableName : String}
    (origin : originOf ctx tag = .react)
    (made : reactChange c tag = (kind, variableName, "update")) :
    judge ctx c tag = .found (reactFinding ctx c tag kind variableName) [] := by
  rw [judge, tagChange?, origin, made]
  rfl

/-! ## Setters of variables -/

/-- A variable that begins with a lower-case letter. -/
def IsVariable (v : String) : Prop :=
  ∃ first rest, v.toList = first :: rest ∧ ('a' ≤ first && first ≤ 'z') = true ∧
    ∀ c ∈ rest, isWordOrDollar c = true

theorem IsVariable.isIdentifier {v : String} (known : IsVariable v) : IsIdentifier v := by
  obtain ⟨first, rest, parts, lower, more⟩ := known
  refine ⟨first, rest, parts, ?_, more⟩
  rw [JavaScript.isNameStart, lower]
  rfl

/-- The name of the setter of a variable by convention. -/
def setterOf (v : String) : String :=
  match v.toList with
  | [] => "set"
  | first :: rest => "set" ++ Text.upper (String.singleton first) ++ String.ofList rest

theorem exists_capital {first : Char} (lower : ('a' ≤ first && first ≤ 'z') = true) :
    ∃ capital, Text.upper (String.singleton first) = String.singleton capital ∧
      isCapital capital = true ∧
        Text.lower (String.singleton capital) = String.singleton first := by
  have letters : ∀ n < 123, ('a' ≤ Char.ofNat n && Char.ofNat n ≤ 'z') = true →
      Text.upper (String.singleton (Char.ofNat n)) = String.singleton (Char.ofNat (n - 32)) ∧
        isCapital (Char.ofNat (n - 32)) = true ∧
          Text.lower (String.singleton (Char.ofNat (n - 32))) =
            String.singleton (Char.ofNat n) := by
    decide +kernel
  have small : first.toNat < 123 := by
    rw [Bool.and_eq_true, decide_eq_true_eq, decide_eq_true_eq] at lower
    exact Nat.lt_of_le_of_lt lower.2 (by decide : 'z'.toNat < 123)
  have known := letters first.toNat small
  rw [Char.ofNat_toNat] at known
  exact ⟨_, known lower⟩

theorem isSetter_setterOf {v : String} (known : IsVariable v) :
    IsSetter (setterOf v) ∧ nameSet (setterOf v) = v := by
  obtain ⟨first, rest, parts, lower, more⟩ := known
  obtain ⟨capital, upper, is_capital, back⟩ := exists_capital lower
  have written : (setterOf v).toList = "set".toList ++ capital :: rest := by
    rw [setterOf, parts]
    simp [upper]
  refine ⟨⟨capital, rest, written, is_capital, more⟩, ?_⟩
  rw [nameSet, written]
  show Text.lower (String.singleton capital) ++ String.ofList rest = v
  rw [back, ← String.toList_inj, parts]
  simp

/-! ## Findings -/

/-- The tag is judged to be the change of a variable by React, and the change is found. -/
def Finds (file : String) (a : FileAnalysis) (c : Container) (call : StateCall)
    (kind variableName : String) : Prop :=
  judge (contextOf file a) c call.tag =
      .found (reactFinding (contextOf file a) c call.tag kind variableName) [] ∧
    reactFinding (contextOf file a) c call.tag kind variableName ∈ detectFile file a

theorem finds_of_reactChange {file : String} {a : FileAnalysis} {c : Container}
    {kind variableName : String} {change : String × String}
    (only : OnlyReact (contextOf file a)) (script : a.language ≠ "python")
    (there : c ∈ containers a) (signal : call.tag ∈ c.info.stateTags) (readable : Readable call)
    (known : changeOf? call = some change)
    (made : reactChange c call.tag = (kind, variableName, "update")) :
    Finds file a c call kind variableName := by
  have judged := judge_react (originOf_react only script readable known) made
  exact ⟨judged, mem_detectFile there signal judged⟩

/-- What the findings tell of a tag, by what it was written of: a mistaken tag is found as a
change of a component's state, and any other as what was captured. -/
structure Decodes (file : String) (a : FileAnalysis) (c : Container) (call : StateCall) : Prop where
  found : ∀ kind variableName, changeOf? call = some (kind, variableName) → ¬ Mistaken call →
    Finds file a c call kind variableName
  mistaken : Mistaken call → ∃ variableName, Finds file a c call "setState" variableName ∧
    ∀ name, call = .setter name → variableName = "unknown"

theorem language_ne_python {content path : String} {a : FileAnalysis}
    (parsed : parse content path = .ok a) : a.language ≠ "python" := by
  obtain ⟨m, -, rfl⟩ := JavaScript.parse_eq_ok_iff.mp parsed
  dsimp only [analyse]
  rw [JavaScript.languageOf]
  split <;> decide

theorem decodes_of_readable {file : String} {a : FileAnalysis} {c : Container}
    (only : OnlyReact (contextOf file a)) (script : a.language ≠ "python")
    (there : c ∈ containers a) (signal : call.tag ∈ c.info.stateTags)
    (readable : Readable call) : Decodes file a c call where
  found kind variableName known apart :=
    finds_of_reactChange only script there signal readable known
      (reactChange_tag c readable known apart)
  mistaken mistaken := by
    obtain ⟨change, known⟩ := exists_changeOf?_of_mistaken mistaken
    obtain ⟨variableName, made, unknown⟩ := reactChange_mistaken c readable mistaken
    exact ⟨variableName, finds_of_reactChange only script there signal readable known made, unknown⟩

/-- Of a source that is read, with React as its only library of state, every tag of state in
a container was written of something that is captured in the code, and is found to change what
was captured, unless it is mistaken for a component's setter. So a pair and the setter of its
value, named by convention, change one variable, when the setter's name does not hold
`setState`. -/
theorem stateTags_decode {content path file : String} {a : FileAnalysis}
    (parsed : parse content path = .ok a) (only : OnlyReact (contextOf file a)) :
    ∃ m, mask content.toList = .ok m ∧
      (∀ c ∈ containers a, ∀ tag ∈ c.info.stateTags,
        (∃ call found, StateCall.Matches m.code found call ∧ call.tag = tag) ∧
          ∀ call found, StateCall.Matches m.code found call → call.tag = tag →
            Decodes file a c call) ∧
      ∀ v bound, IsVariable v → ∀ c ∈ containers a, ∀ d ∈ containers a,
        (StateCall.pair v bound "useState").tag ∈ c.info.stateTags →
          (StateCall.setter (setterOf v)).tag ∈ d.info.stateTags →
            Finds file a c (.pair v bound "useState") "useState" v ∧
              (¬ Mistaken (.setter (setterOf v)) →
                Finds file a d (.setter (setterOf v)) "useState" v) := by
  have script := language_ne_python parsed
  obtain ⟨m, masked, traces⟩ := JavaScript.trace_in_container_iff parsed
  refine ⟨m, masked, fun c there tag signal => ⟨?_, ?_⟩, ?_⟩
  · obtain ⟨found, mark, speaks, left, -⟩ := (traces (.stateTag tag)).mp ⟨c, there, signal⟩
    cases mark with
    | state written =>
      cases left
      obtain ⟨call, matched, same⟩ := speaks.exists_stateCall
      exact ⟨call, found, matched, same⟩
    | event _ | route _ _ _ => cases left
  · rintro call found matched rfl
    exact decodes_of_readable only script there signal (readable_of_proper matched.proper)
  · intro v bound known c there d there' pair setter
    obtain ⟨isSetter, same⟩ := isSetter_setterOf known
    have identifier : IsIdentifier v := known.isIdentifier
    refine ⟨?_, fun apart => ?_⟩
    · exact (decodes_of_readable only script there pair ⟨identifier, by decide⟩).found _ _ rfl id
    · have named : changeOf? (.setter (setterOf v)) = some ("useState", v) := by
        rw [changeOf?, same]
      exact (decodes_of_readable only script there' setter isSetter).found _ _ named apart

/-- A script that keeps a variable in React and sets it. -/
def stateKept : String :=
  "import 'react'\nlet[state,setState]=useState()\nsetState()"

/-- What the script says once its literal is blanked. -/
def stateKeptMasked : Masked where
  code := stateKept.toList.toArray
  skeleton := "import '     '\nlet[state,setState]=useState()\nsetState()".toList.toArray

theorem parse_stateKept (path : String) :
    parse stateKept path = .ok (analyse stateKeptMasked path) :=
  JavaScript.parse_eq_ok_iff.mpr
    ⟨stateKeptMasked, JavaScript.mask_eq_of_toOption (by decide +kernel), rfl⟩

theorem onlyReact_stateKept : OnlyReact (contextOf "a.js" (analyse stateKeptMasked "a.js")) := by
  have imports : (analyse stateKeptMasked "a.js").imports = [("react", [])] := by decide +kernel
  constructor
  all_goals
    simp only [contextOf, hasImport, imports]
    decide

theorem exists_container_stateKept :
    ∃ c ∈ containers (analyse stateKeptMasked "a.js"),
      "[state, setState] = useState" ∈ c.info.stateTags ∧ "setState(" ∈ c.info.stateTags := by
  decide +kernel

theorem stateTags_decode_of_stateKept :
    parse stateKept "a.js" = .ok (analyse stateKeptMasked "a.js") ∧
      OnlyReact (contextOf "a.js" (analyse stateKeptMasked "a.js")) ∧
      ∃ m, mask stateKept.toList = .ok m ∧
        (∀ c ∈ containers (analyse stateKeptMasked "a.js"), ∀ tag ∈ c.info.stateTags,
          (∃ call found, StateCall.Matches m.code found call ∧ call.tag = tag) ∧
            ∀ call found, StateCall.Matches m.code found call → call.tag = tag →
              Decodes "a.js" (analyse stateKeptMasked "a.js") c call) ∧
        ∀ v bound, IsVariable v → ∀ c ∈ containers (analyse stateKeptMasked "a.js"),
          ∀ d ∈ containers (analyse stateKeptMasked "a.js"),
            (StateCall.pair v bound "useState").tag ∈ c.info.stateTags →
              (StateCall.setter (setterOf v)).tag ∈ d.info.stateTags →
                Finds "a.js" (analyse stateKeptMasked "a.js") c (.pair v bound "useState")
                    "useState" v ∧
                  (¬ Mistaken (.setter (setterOf v)) →
                    Finds "a.js" (analyse stateKeptMasked "a.js") d (.setter (setterOf v))
                      "useState" v) :=
  ⟨parse_stateKept "a.js", onlyReact_stateKept,
    stateTags_decode (parse_stateKept "a.js") onlyReact_stateKept⟩

/-- The setter of a variable `state` is not found to change it, unlike the pair of the two. -/
theorem setter_of_state_lost :
    ¬ ∀ (content path file : String) (a : FileAnalysis), parse content path = .ok a →
      OnlyReact (contextOf file a) → ∀ v bound, IsVariable v → ∀ c ∈ containers a,
        ∀ d ∈ containers a, (StateCall.pair v bound "useState").tag ∈ c.info.stateTags →
          (StateCall.setter (setterOf v)).tag ∈ d.info.stateTags →
            Finds file a c (.pair v bound "useState") "useState" v ∧
              Finds file a d (.setter (setterOf v)) "useState" v := by
  intro claim
  obtain ⟨c, there, pair, setter⟩ := exists_container_stateKept
  have known : IsVariable "state" := ⟨'s', "tate".toList, rfl, by decide, List.all_eq_true.mp (by decide)⟩
  have named : setterOf "state" = "setState" := by decide +kernel
  have pair_tag : (StateCall.pair "state" (some "setState") "useState").tag =
    "[state, setState] = useState" := by decide +kernel
  have setter_tag : (StateCall.setter (setterOf "state")).tag = "setState(" := by decide +kernel
  obtain ⟨-, ⟨judged, -⟩⟩ := claim stateKept "a.js" "a.js" _ (parse_stateKept "a.js")
    onlyReact_stateKept "state" (some "setState") known c there c there (pair_tag ▸ pair)
    (setter_tag ▸ setter)
  have mistaken : Mistaken (.setter (setterOf "state")) := by
    rw [Mistaken, setter_tag]
    decide
  have readable : Readable (.setter (setterOf "state")) := (isSetter_setterOf known).1
  have decodes := decodes_of_readable onlyReact_stateKept
    (language_ne_python (parse_stateKept "a.js")) there (setter_tag ▸ setter) readable
  obtain ⟨_, ⟨judged', -⟩, -⟩ := decodes.mistaken mistaken
  have same := (Verdict.found.inj (judged.symm.trans judged')).1
  have kinds : "useState" = "setState" := congrArg StateChange.kind same
  exact absurd kinds (by decide)

end

end RepoSurvey.Detection.State
