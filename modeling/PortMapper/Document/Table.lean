import PortMapper.Document.Value

/-!
# Building tables

A document builds its table by opening tables under headers (`openTable`,
`openElement`) and setting keys in the one opened last (`set`). Each key is
set once, a table has at most one header, and dotted keys only reach into
tables that dotted keys or headers of inner tables have made. What does not
keep to this has no result.
-/

namespace PortMapper.Document

namespace Entries

/-- Changes the value under a key, or adds one. -/
def alter (es : Entries) (key : List Char) (f : Option Value → Option Value) : Option Entries :=
  match es with
  | [] => (f none).map fun v => [(key, v)]
  | (k, v) :: rest =>
    if k = key then (f (some v)).map fun v => (k, v) :: rest
    else (alter rest key f).map ((k, v) :: ·)

/-- Changes the table at the end of a path, making the tables on the way that
do not exist. The last table of an array stands for it. The path is that of a
dotted key if `dotted` holds, and that of a header otherwise. -/
def within (dotted : Bool) (f : Origin → Entries → Option Entries) :
    List (List Char) → Origin → Entries → Option Entries
  | [], origin, es => f origin es
  | key :: path, _, es => es.alter key fun
    | none =>
      let origin := if dotted then .dotted else .implied
      (within dotted f path origin []).map (.table origin)
    | some (.table origin inner) =>
      if origin = .braces ∨ dotted ∧ origin = .header then none
      else (within dotted f path origin inner).map (.table origin)
    | some (.tables ts) =>
      match ts.getLast? with
      | none => none
      | some last => (within dotted f path .header last).map fun t => .tables (ts.dropLast ++ [t])
    | some _ => none

/-- Sets a key of a table to a value, the path before the key being dotted. -/
def set (path : List (List Char)) (key : List Char) (value : Value) (origin : Origin)
    (es : Entries) : Option Entries :=
  within true (fun reached es =>
    if path ≠ [] ∧ reached ≠ .dotted then none
    else es.alter key fun
      | none => some value
      | some _ => none) path origin es

/-- Opens the table of a header: a new one, or one that is there only because
inner tables have headers. -/
def openTable (path : List (List Char)) (key : List Char) (es : Entries) : Option Entries :=
  within false (fun _ es => es.alter key fun
    | none => some (.table .header [])
    | some (.table .implied inner) => some (.table .header inner)
    | some _ => none) path .header es

/-- Opens the next table of an array under a header. -/
def openElement (path : List (List Char)) (key : List Char) (es : Entries) : Option Entries :=
  within false (fun _ es => es.alter key fun
    | none => some (.tables [[]])
    | some (.tables ts) => some (.tables (ts ++ [[]]))
    | some _ => none) path .header es

end Entries

/-- The keys before the last of a path, and the last. -/
def splitLast? : List (List Char) → Option (List (List Char) × List Char)
  | [] => none
  | [key] => some ([], key)
  | k :: path => (splitLast? path).map fun (p, key) => (k :: p, key)

/-- The value in braces that holds the given keys. -/
def braces (pairs : List (List (List Char) × Value)) : Option Value :=
  (pairs.foldlM (fun es (path, value) => do
    let (path, key) ← splitLast? path
    Entries.set path key value .braces es) []).map (.table .braces)

end PortMapper.Document
