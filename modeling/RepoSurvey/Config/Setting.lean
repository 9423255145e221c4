import RepoSurvey.Decimal.Shortest
import RepoSurvey.Decimal.Spelled
import RepoSurvey.Table
import RepoSurvey.Text.Blank
import RepoSurvey.Yaml.Document

/-!
# Settings

A configuration file is a tree of settings. A setting is asked for as a truth
value, a whole number, a real number or a list of texts; one that cannot be
understood that way counts as not given.
-/

namespace RepoSurvey

/-- What a configuration says at one place. -/
inductive Setting where
  | null
  | bool (value : Bool)
  | int (value : Int)
  | real (value : Float)
  | text (value : String)
  | list (items : List Setting)
  | record (entries : List (String × Setting))
  /-- A value that no setting takes. -/
  | other
  deriving Inhabited

namespace Setting

/-- The setting at a node of a document, down to a number of levels. -/
def ofNode (d : Yaml.Document) (number : Nat) : Nat → Setting
  | 0 => .other
  | depth + 1 =>
    match d.datum number with
    | .null => .null
    | .bool b => .bool b
    | .int n => .int n
    | .float x => .real x
    | .text s => .text s
    | .bytes bytes => .list (bytes.map fun b => .int b.toNat)
    | .sequence items => .list (items.map fun item => ofNode d item depth)
    | .mapping entries =>
      .record (entries.foldl (fun t (key, value) => Table.set t key (ofNode d value depth)) [])
    | .date => .other
    | .pairs => .list []
    | .set => .other

/-- The levels that matter: the file, a section, a setting and the items of a list. -/
def levels : Nat := 4

/-- The settings of a document. -/
def ofDocument (d : Yaml.Document) : Setting :=
  ofNode d d.root levels

/-- A reader of configuration texts: the setting that a text spells, or what is
wrong with it. A text without a value spells null. -/
abbrev Reader := String → Except Yaml.Problem Setting

/-- The reader of texts in YAML. -/
def ofYaml : Reader := fun text =>
  match Yaml.read text.toList with
  | .error problem => .error problem
  | .ok d? => .ok ((d?.map ofDocument).getD .null)

/-! ## Readings of a setting -/

/-- A number that is too large to be used as asked. -/
inductive Excess where
  /-- An integer with more digits than are written out. -/
  | tooManyDigits
  /-- An integer beyond the range of doubles. -/
  | beyondReals
  deriving Repr, DecidableEq

/-- The entries of a section; a setting that is none has no entries. -/
def section? : Setting → Table Setting
  | .record entries => entries
  | _ => []

/-- A truth value, also as one of the usual words. -/
def bool? : Setting → Option Bool
  | .bool b => some b
  | .text s =>
    let word := Text.lower (Text.trim s)
    if ["true", "yes", "1"].contains word then some true
    else if ["false", "no", "0"].contains word then some false
    else none
  | _ => none

/-- A whole number, also as a text. -/
def int? : Setting → Option Int
  | .int n => some n
  | .text s => Decimal.integer? 10 s.toList
  | _ => none

/-- A real number, also as a whole one or as a text. -/
def real? : Setting → Except Excess (Option Float)
  | .int n =>
    match Decimal.ofInteger? n with
    | some x => .ok (some x)
    | none => .error .beyondReals
  | .real x => .ok (some x)
  | .text s => .ok (Decimal.real? s.toList)
  | _ => .ok none

/-- The text of a list's item; collections and nothing are no items. -/
def itemText : Setting → Except Excess (Option String)
  | .bool b => .ok (some (if b then "True" else "False"))
  | .int n =>
    match Decimal.integerText? n with
    | some digits => .ok (some digits)
    | none => .error .tooManyDigits
  | .real x => .ok (some (Decimal.plainReal.text x))
  | .text s => .ok (some s)
  | _ => .ok none

/-- A list of texts. A single text is a list of one. -/
def texts : Setting → Except Excess (List String)
  | .text s => .ok [s]
  | .list items => do
    let named ← items.mapM itemText
    return named.filterMap id
  | _ => .ok []

end Setting

/-- The setting under a key; null when the key is missing. -/
def Table.setting (entries : Table Setting) (key : String) : Setting :=
  (entries.get? key).getD .null

end RepoSurvey
