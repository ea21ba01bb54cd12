/-!
# Documents

A settings file is a TOML document: a table of values under keys. A table
remembers how it came about (`Origin`), since that decides what a document
may still add to it. Keys and strings are lists of characters.
-/

namespace PortMapper.Document

/-- How a table came about. -/
inductive Origin where
  /-- By a header of its own, or as the document. -/
  | header
  /-- As a parent of the table of some header. -/
  | implied
  /-- By a dotted key. -/
  | dotted
  /-- As a value in braces, to which nothing is added later. -/
  | braces
deriving DecidableEq, Repr

/-- A value of a document. -/
inductive Value where
  | string (text : List Char)
  | integer (n : Int)
  /-- A number with a fraction or an exponent, infinity or not a number, as
  it is written. -/
  | float (text : List Char)
  | boolean (b : Bool)
  /-- A date, a time or both, as it is written. -/
  | dateTime (text : List Char)
  | array (elements : List Value)
  | table (origin : Origin) (entries : List (List Char × Value))
  /-- The tables of an array that is written as a header for each of them. -/
  | tables (elements : List (List (List Char × Value)))
deriving Repr

/-- What a table holds, by key. -/
abbrev Entries := List (List Char × Value)

/-- The value under a key. -/
def Entries.get? (es : Entries) (key : List Char) : Option Value := es.lookup key

/-- The elements of an array, in either way of writing it. -/
def Value.elements? : Value → Option (List Value)
  | .array vs => some vs
  | .tables ts => some (ts.map (.table .header))
  | _ => none

end PortMapper.Document
