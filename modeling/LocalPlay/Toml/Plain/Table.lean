import LocalPlay.Toml.Value

set_option autoImplicit false

/-! # Adding to tables

How the entries of a document grow while it is read. Nothing may be added to a table between braces,
nothing by a dotted key to a table with a header, and no header to a table that a dotted key made. -/

namespace LocalPlay.Toml.Value

/-- The entries with another value for a name, which is added if it is not there. -/
def put (name : String) (v : Value) : Entries → Entries
  | [] => [(name, v)]
  | (n, w) :: rest => if n = name then (n, v) :: rest else (n, w) :: put name v rest

/-- A table together with how it came to be. -/
abbrev Place := Origin × Entries

/-- Changes the table at the end of a path, and makes the tables that are missing on the way. A path
leads through the last of a row of tables. No path leads through a table between braces, and no dotted
path through a table with a header. -/
def alter (isDotted : Bool) (change : Place → Option Entries) : List String → Place → Option Entries
  | [], place => change place
  | name :: path, (_, entries) =>
    match entries.lookup name with
    | none =>
      let origin : Origin := if isDotted then .dotted else .implied
      (alter isDotted change path (origin, [])).map fun inner =>
        put name (.table origin inner) entries
    | some (.table origin inner) =>
      if origin = .braced ∨ isDotted ∧ origin = .given then none
      else (alter isDotted change path (origin, inner)).map fun inner' =>
        put name (.table origin inner') entries
    | some (.tables items) =>
      match items.getLast? with
      | none => none
      | some inner =>
        (alter isDotted change path (.given, inner)).map fun inner' =>
          put name (.tables (items.dropLast ++ [inner'])) entries
    | some _ => none

def add? (name : String) (v : Value) (entries : Entries) : Option Entries :=
  match entries.lookup name with
  | none => some (put name v entries)
  | some _ => none

/-- Adds a value under a dotted key. The table that gets it has to be one that dotted keys make, unless
the key has one part only. -/
def assign (path : List String) (name : String) (v : Value) (place : Place) : Option Entries :=
  alter true (fun (origin, entries) =>
    if path.isEmpty ∨ origin = .dotted then add? name v entries else none) path place

/-- Gives a header to the table of a name: a new one, or one that is implied. -/
def openTable (name : String) (place : Place) : Option Entries :=
  match place.2.lookup name with
  | none => some (put name (.table .given []) place.2)
  | some (.table .implied inner) => some (put name (.table .given inner) place.2)
  | some _ => none

/-- Adds a table to the row of tables of a name. -/
def extendTables (name : String) (place : Place) : Option Entries :=
  match place.2.lookup name with
  | none => some (put name (.tables [[]]) place.2)
  | some (.tables items) => some (put name (.tables (items ++ [[]])) place.2)
  | some _ => none

/-- The table of the given entries between braces: pairs of a dotted key and a value. -/
def ofPairs (pairs : List (List String × String × Value)) : Option Value :=
  (pairs.foldlM (fun entries (path, name, v) => assign path name v (.given, entries)) []).map
    (table .braced)

end LocalPlay.Toml.Value
