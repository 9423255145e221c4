import RepoSurvey.Command.Usage
import RepoSurvey.Text.Pattern

/-!
# Reading a command line

Switches take the words behind them as they come, and the words between them
fill the places: as many places at once as the words up to the end allow, each
taking as much as it may. Words that nothing takes are left over. The reading
stops at the first switch that asks for help and at the first word that is not
as demanded, whichever is met first.
-/

namespace RepoSurvey.Command

/-- What has been read of a command line. -/
structure Reading where
  /-- The words that each switch and place took. -/
  given : Table (List String) := []
  /-- The places that are still open. -/
  openPlaces : List Place
  /-- The words that nothing took. -/
  leftOver : List String := []
  deriving Repr

/-! ## Taking words -/

/-- The words are as demanded; of the rest of a command line only the first word is looked at. -/
def meets (span : Span) (demand : Demand) (words : List String) : Bool :=
  (if span == .rest then words.take 1 else words).all demand.accepts

/-- Keeps the words that a switch took. -/
def Reading.keepSwitch (r : Reading) (s : Switch) (words : List String) : Except Stop Reading :=
  if s.isHelp then .error .help
  else if meets s.span s.demand words then .ok { r with given := Table.set r.given s.name words }
  else .error .misuse

/-- Keeps the words that a place took. A divider among them does not count,
except in the rest of a line; nothing is kept for a place that was passed over. -/
def Reading.keepPlace (r : Reading) (p : Place) (words : List String) : Except Stop Reading :=
  let counted := if p.span == .rest then words else words.erase dividerWord
  if p.span == .atMostOne && counted.isEmpty then .ok r
  else if meets p.span p.demand counted then
    .ok { r with given := Table.set r.given p.name counted }
  else .error .misuse

/-! ## Switches -/

/-- The number of words that a switch takes of those behind it. -/
def Span.taken? (span : Span) (behind : List (String × Role)) : Option Nat :=
  let plain := (behind.takeWhile fun (_, role) => role matches .plain).length
  match span with
  | .nothing => some 0
  | .atMostOne => some (min plain 1)
  | .one => if plain == 0 then none else some 1
  | .several => if plain == 0 then none else some plain
  | .rest => if plain == 0 then none else some behind.length

/-- Switches written as one word. -/
structure Cluster where
  /-- The switches in front, which take no words. -/
  flags : List Switch
  /-- The last switch and the value attached to it; none when no switch is known by its letter. -/
  last : Option (Switch × Option String)
  /-- What is left over when no switch is known by a letter. -/
  stray : List String := []

/-- Puts a switch in front of a cluster. -/
def Cluster.after (s : Switch) (c : Cluster) : Cluster :=
  { c with flags := s :: c.flags }

/-- The cluster of a switch and what is attached to it. Only a short switch
that takes no words may be followed by others, and by none that is attached
with an equals sign or another dash. -/
def Usage.cluster (u : Usage) (isShort : Bool) (s : Switch) (byEquals : Bool) :
    List Char → Except Stop Cluster
  | [] => if s.span == .nothing then .error .misuse else .ok ⟨[], some (s, some ""), []⟩
  | c :: more =>
    if s.span != .nothing then .ok ⟨[], some (s, some (String.ofList (c :: more))), []⟩
    else if !isShort || byEquals || c == '-' then .error .misuse
    else match u.switch? (String.ofList ['-', c]) with
      | none => .ok ⟨[s], none, [String.ofList ('-' :: c :: more)]⟩
      | some next =>
        match more with
        | [] => .ok ⟨[s], some (next, none), []⟩
        | '=' :: value => (Cluster.after s) <$> u.cluster isShort next true value
        | d :: rest => (Cluster.after s) <$> u.cluster isShort next false (d :: rest)

/-- The cluster that a switch is written in. -/
def Usage.clusterOf (u : Usage) (s : Switch) (spelling : String) (attached : Option Attached) :
    Except Stop Cluster :=
  match attached with
  | none => .ok ⟨[], some (s, none), []⟩
  | some value =>
    u.cluster (!Text.startsWith spelling dividerWord) s value.byEquals value.text.toList

/-- Takes the switches of a cluster and the words of the last one; gives the words behind them. -/
def Reading.takeCluster (r : Reading) (c : Cluster) (behind : List (String × Role)) :
    Except Stop (Reading × List (String × Role)) := do
  let count ← match c.last with
    | some (s, none) => match s.span.taken? behind with
      | some n => pure n
      | none => throw .misuse
    | _ => pure 0
  let r ← c.flags.foldlM (fun r flag => r.keepSwitch flag []) r
  let r ← match c.last with
    | none => pure { r with leftOver := r.leftOver ++ c.stray }
    | some (s, some value) => r.keepSwitch s [value]
    | some (s, none) => r.keepSwitch s ((behind.take count).map (·.1))
  return (r, behind.drop count)

/-! ## Places -/

/-- The letter of a part in a line of letters. -/
def Role.letter : Role → Char
  | .plain => 'A'
  | .divider => '-'
  | .switch _ _ _ | .stray => 'O'

/-- The letters of the words that a place may take, longest first. -/
def Span.pattern (span : Span) : Text.Pattern :=
  let dividers := Text.Pattern.many (· == '-')
  let word := Text.Pattern.one (· == 'A')
  match span with
  | .nothing => .empty
  | .one => .sequence [dividers, word, dividers]
  | .atMostOne => .sequence [dividers, .optional word, dividers]
  | .several => .sequence [dividers, word, .many fun c => c == 'A' || c == '-']
  | .rest => .sequence [dividers, word, .many fun _ => true]

/-- How many of the words with these letters go to each of the places. -/
def shares? (letters : Array Char) (places : List Place) : Option (List Nat) :=
  let numbered := places.zipIdx
  let whole := Text.Pattern.sequence (numbered.map fun (p, i) => .capture i p.span.pattern)
  (whole.matchAt? letters 0).map fun m =>
    numbered.map fun (_, i) => match m.place? i with
      | some (start, stop) => stop - start
      | none => 0

/-- The shares of as many of the places as possible. -/
def greatestShares (letters : Array Char) (places : List Place) : Nat → List Nat
  | 0 => []
  | n + 1 =>
    match shares? letters (places.take (n + 1)) with
    | some shares => shares
    | none => greatestShares letters places n

/-- Fills places with words; gives the words behind them. -/
def Reading.fill (r : Reading) (words : List (String × Role)) :
    List Nat → List Place → Except Stop (Reading × List (String × Role))
  | n :: shares, p :: places => do
    let r ← r.keepPlace p ((words.take n).map (·.1))
    Reading.fill { r with openPlaces := places } (words.drop n) shares places
  | _, _ => return (r, words)

/-- Fills as many open places as possible; gives the words behind them. -/
def Reading.fillOpen (r : Reading) (words : List (String × Role)) :
    Except Stop (Reading × List (String × Role)) :=
  let letters := (words.map fun (_, role) => role.letter).toArray
  r.fill words (greatestShares letters r.openPlaces r.openPlaces.length) r.openPlaces

/-! ## Whole lines -/

/-- Reads the words of a line. Each step takes at least one of them, so as many steps suffice. -/
def Usage.readFrom (u : Usage) (r : Reading) (words : List (String × Role)) :
    Nat → Except Stop Reading
  | 0 => .ok r
  | fuel + 1 => do
    if !words.any fun (_, role) => role.isSwitch then
      let (r, behind) ← r.fillOpen words
      return { r with leftOver := r.leftOver ++ behind.map (·.1) }
    let lead := words.takeWhile fun (_, role) => !role.isSwitch
    let (r, behind) ← if lead.isEmpty then pure (r, words) else r.fillOpen words
    if behind.length < words.length then u.readFrom r behind fuel
    else
      let r := { r with leftOver := r.leftOver ++ lead.map (·.1) }
      match words.drop lead.length with
      | (_, .switch s spelling attached) :: behind => do
        let (r, behind) ← r.takeCluster (← u.clusterOf s spelling attached) behind
        u.readFrom r behind fuel
      | (word, _) :: behind => u.readFrom { r with leftOver := r.leftOver ++ [word] } behind fuel
      | [] => return r

/-- A place has to be filled. -/
def Place.isRequired (p : Place) : Bool :=
  p.span == .one || p.span == .several || p.span == .rest

/-- Reads a command line. -/
def Usage.read (u : Usage) (words : List String) : Except Stop Reading := do
  let roles ← u.roles words
  let r ← u.readFrom { openPlaces := u.places } roles (roles.length + 1)
  if r.openPlaces.any Place.isRequired then throw .misuse
  return r

end RepoSurvey.Command
