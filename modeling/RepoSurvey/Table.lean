/-!
# Order-keeping tables

A table is a list of entries in the order in which their keys first came.
The operations here keep at most one entry a key: `set` overwrites where the
key stands, `setNew` leaves an existing entry alone, and `update` changes the
entry or appends it.
-/

namespace RepoSurvey

/-- Entries by key, in order of first insertion. -/
abbrev Table (α : Type) := List (String × α)

namespace Table

variable {α β : Type}

/-- The value stored under `key`. -/
def get? (t : Table α) (key : String) : Option α :=
  (t.find? fun entry => entry.1 == key).map (·.2)

/-- The key has an entry. -/
def has (t : Table α) (key : String) : Bool :=
  t.any fun entry => entry.1 == key

/-- The keys in order. -/
def keys (t : Table α) : List String :=
  t.map (·.1)

/-- The values in order. -/
def values (t : Table α) : List α :=
  t.map (·.2)

/-- Changes the entry of `key` by `change`, or appends what `change` makes of nothing. -/
def update (t : Table α) (key : String) (change : Option α → α) : Table α :=
  match t with
  | [] => [(key, change none)]
  | (k, v) :: rest =>
    if k == key then (k, change (some v)) :: rest else (k, v) :: update rest key change

/-- Stores `value` under `key`, in place when the key is there. -/
def set (t : Table α) (key : String) (value : α) : Table α :=
  t.update key fun _ => value

/-- Stores `value` under `key` unless the key has an entry. -/
def setNew (t : Table α) (key : String) (value : α) : Table α :=
  t.update key fun old => old.getD value

/-- Applies `f` to every value. -/
def mapValues (f : α → β) (t : Table α) : Table β :=
  t.map fun (k, v) => (k, f v)

/-- Appends `items` to the list stored under `key`. -/
def extend (t : Table (List α)) (key : String) (items : List α) : Table (List α) :=
  t.update key fun old => old.getD [] ++ items

/-- How often each value occurs, in order of first occurrence. -/
def tally (labels : List String) : Table Nat :=
  labels.foldl (fun t label => t.update label fun n => n.getD 0 + 1) []

/-- Joins the lists that belong to one key, keys in order of first occurrence. -/
def gather (entries : List (String × List α)) : Table (List α) :=
  entries.foldl (fun t (k, v) => t.extend k v) []

/-- Entries in increasing order of key; entries of one key keep their order. -/
def sorted (t : Table α) : Table α :=
  t.mergeSort fun a b => decide (a.1 ≤ b.1)

end Table

/-- The distinct members of a list, in order of first occurrence. -/
def distinct (labels : List String) : List String :=
  labels.foldl (fun seen label => if seen.contains label then seen else seen ++ [label]) []

end RepoSurvey
