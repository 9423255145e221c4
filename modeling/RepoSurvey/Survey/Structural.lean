import RepoSurvey.Failure
import RepoSurvey.Log
import RepoSurvey.Outline.Collect

/-!
# The structural parser

A library of grammars may be installed, and a grammar is loaded when a file of
its language comes up for the first time. A grammar that could not be loaded
is not tried again. The trees themselves are given by the library.

A parser is a value. `prepared` is the parser after it was asked for a
language; `has` is what it answers, and the answer stays the same however
often it is asked.
-/

namespace RepoSurvey.Survey

/-- The syntax trees that grammars give for sources. -/
structure Trees where
  /-- The tree of a source in a language. -/
  of? : (language content : String) → Option Outline.Node

namespace Trees

instance : CoeFun Trees fun _ => (language content : String) → Option Outline.Node := ⟨of?⟩

/-- Trees that the content alone tells, as where every source has one language. -/
instance : Coe (String → Option Outline.Node) Trees := ⟨fun tree? => ⟨fun _ => tree?⟩⟩

end Trees

/-- A library of grammars. -/
structure GrammarLibrary where
  /-- It is installed. -/
  available : Bool := false
  /-- The languages whose grammars can be loaded. -/
  languages : List String := []
  /-- The syntax trees of sources. -/
  tree? : Trees := ⟨fun _ _ => none⟩

/-- A parser that reads syntax trees. -/
structure StructuralParser where
  /-- It is switched on. -/
  enabled : Bool
  /-- The languages whose grammars are loaded, in order. -/
  loaded : List String := []
  /-- The languages whose grammars could not be loaded, in order. -/
  rejected : List String := []
  deriving Repr, DecidableEq

namespace StructuralParser

/-- The parser can be used at all. -/
def isAvailable (p : StructuralParser) (library : GrammarLibrary) : Bool :=
  p.enabled && library.available

/-- The language is one for which a grammar is known and has not been rejected. -/
def considers (p : StructuralParser) (library : GrammarLibrary) (language : String) : Bool :=
  p.isAvailable library && Outline.languages.contains language && !p.rejected.contains language

/-- The parser has a grammar for the language, or can load one. -/
def has (p : StructuralParser) (library : GrammarLibrary) (language : String) : Bool :=
  p.considers library language &&
    (p.loaded.contains language || library.languages.contains language)

/-- The parser after it was asked for a language. -/
def prepared (p : StructuralParser) (library : GrammarLibrary) (language : String) :
    StructuralParser :=
  if !p.considers library language || p.loaded.contains language then p
  else if library.languages.contains language then { p with loaded := p.loaded ++ [language] }
  else { p with rejected := p.rejected ++ [language] }

/-- The record that asking for a language leaves: one when its grammar is rejected. -/
def askRecords (p : StructuralParser) (library : GrammarLibrary) (language : String) :
    List Log.Record :=
  if p.considers library language && !p.has library language then
    [⟨.warning, Log.loggerName (some "parsers.tree_sitter"),
      "Tree-sitter grammar for " ++ language ++ " unavailable: no grammar " ++ language⟩]
  else []

end StructuralParser

/-! ## Reading -/

/-- A failure of the structural parser. -/
def structuralFailure (text : String) : Failure :=
  .unparsable "tree-sitter" text

/-- The analysis of a source whose grammar is loaded. -/
def GrammarLibrary.analyse (library : GrammarLibrary) (language content path : String) :
    Except Failure FileAnalysis :=
  match Outline.grammars.get? language, library.tree? language content with
  | some g, some root => .ok (Outline.collect g language content path root)
  | some _, none => .error (structuralFailure "Structural parsing failed: no tree")
  | none, _ => .error (structuralFailure ("No structural parser for " ++ path))

/-- The analysis of a source in a language, which the path tells when none is given. -/
def StructuralParser.parse (p : StructuralParser) (library : GrammarLibrary)
    (language : Option String) (content path : String) : Except Failure FileAnalysis :=
  let named := language.filter fun l => !l.isEmpty
  match named.or (Outline.languageOfPath? path) with
  | some language =>
    if p.has library language then library.analyse language content path
    else .error (structuralFailure ("No structural parser for " ++ path))
  | none => .error (structuralFailure ("No structural parser for " ++ path))

end RepoSurvey.Survey
