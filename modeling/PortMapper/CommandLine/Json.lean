import PortMapper.Decimal

/-!
# Output for programs

JSON values, and their text with two spaces of indentation (`Json.pretty`).
-/

namespace PortMapper.CommandLine

/-- A value of strings, numbers, and arrays and objects of them. -/
inductive Json where
  | string (cs : List Char)
  | number (n : Nat)
  | array (items : List Json)
  | object (fields : List (String × Json))

namespace Json

/-- A character of a string. Control characters are escaped, by a letter if
they have one. -/
def character (c : Char) : List Char :=
  match c with
  | '"' => ['\\', '"']
  | '\\' => ['\\', '\\']
  | '\n' => ['\\', 'n']
  | '\r' => ['\\', 'r']
  | '\t' => ['\\', 't']
  | '\x08' => ['\\', 'b']
  | '\x0c' => ['\\', 'f']
  | c =>
    if c < ' ' then ['\\', 'u', '0', '0', (c.toNat / 16).digitChar, (c.toNat % 16).digitChar]
    else [c]

/-- A string between quotes. -/
def quote (cs : List Char) : List Char := '"' :: cs.flatMap character ++ ['"']

/-- Items between brackets, each on a line that is indented by `indent`
beyond the brackets' own indentation. -/
def block (opening closing : Char) (indent : Nat) (items : List (List Char)) : List Char :=
  if items = [] then [opening, closing]
  else
    let line (n : Nat) : List Char := '\n' :: List.replicate n ' '
    opening :: [','].intercalate (items.map (line (indent + 2) ++ ·)) ++ line indent ++ [closing]

mutual

/-- The text of a value on lines that are indented so far. -/
def pretty (indent : Nat) : Json → List Char
  | .string cs => quote cs
  | .number n => Decimal.text n
  | .array items => block '[' ']' indent (prettyItems (indent + 2) items)
  | .object fields => block '\x7b' '\x7d' indent (prettyFields (indent + 2) fields)

/-- The texts of the items of an array. -/
def prettyItems (indent : Nat) : List Json → List (List Char)
  | [] => []
  | v :: vs => pretty indent v :: prettyItems indent vs

/-- The texts of the fields of an object. -/
def prettyFields (indent : Nat) : List (String × Json) → List (List Char)
  | [] => []
  | (key, v) :: fields =>
    (quote key.toList ++ [':', ' '] ++ pretty indent v) :: prettyFields indent fields

end

end Json

end PortMapper.CommandLine
