import EnvConfig.Number.Written
import EnvConfig.SchemaSet
import EnvConfig.Text.Basic

/-!
# Schemas as JSON

A schema set is shown as a JSON document with two blanks of indentation.  The keys of an object
keep the order in which they are given; empty arrays and objects have no inside.

* `JsonValue.pretty`: the text of a document;
* `SchemaSet.json`: the document of a schema set.
-/

namespace EnvConfig

open Text

inductive JsonValue where
  | null
  | integer (n : Int)
  | string (s : String)
  | array (items : List JsonValue)
  | object (entries : List (String × JsonValue))
deriving Repr, Inhabited

namespace JsonValue

/-- the start of a line at depth `n` -/
def newLine (n : Nat) : String := "\n" ++ String.ofList (List.replicate (2 * n) ' ')

mutual

/-- the text of a document at depth `n` -/
def prettyAt (n : Nat) : JsonValue → String
  | null => "null"
  | integer i => String.ofList (Number.decimalText i)
  | string s => quote s
  | array [] => "[]"
  | array (j :: js) =>
    "[" ++ newLine (n + 1) ++ prettyAt (n + 1) j ++ itemsAt (n + 1) js ++ newLine n ++ "]"
  | object [] => "\x7b\x7d"
  | object ((k, j) :: es) =>
    "\x7b" ++ newLine (n + 1) ++ quote k ++ ": " ++ prettyAt (n + 1) j ++ entriesAt (n + 1) es ++
      newLine n ++ "\x7d"

/-- more items, each after a comma -/
def itemsAt (n : Nat) : List JsonValue → String
  | [] => ""
  | j :: js => "," ++ newLine n ++ prettyAt n j ++ itemsAt n js

/-- more entries, each after a comma -/
def entriesAt (n : Nat) : List (String × JsonValue) → String
  | [] => ""
  | (k, j) :: es => "," ++ newLine n ++ quote k ++ ": " ++ prettyAt n j ++ entriesAt n es

end

def pretty (j : JsonValue) : String := prettyAt 0 j

def optional (s : Option String) : JsonValue :=
  match s with
  | some s => string s
  | none => null

def place (p : Position) : List (String × JsonValue) :=
  [("line", integer p.line), ("column", integer p.column)]

end JsonValue

open JsonValue

def ImportKind.json : ImportKind → JsonValue
  | ordinary => string "Default"
  | reexported => string "Public"
  | weak => string "Weak"

def Import.json (i : Import) : JsonValue := object [("path", string i.path), ("kind", i.kind.json)]

def Setting.json (s : Setting) : JsonValue :=
  object [("name", string s.name), ("value", string s.value)]

def Targets.json : Targets → JsonValue
  | all => string "All"
  | only ids => object [("Only", array (ids.map fun t => string t.id))]

def Label.json : Label → JsonValue
  | plain => string "None"
  | optional => string "Optional"
  | repeated => string "Repeated"
  | oneof group => object [("Oneof", string group)]

def Field.json (f : Field) : JsonValue :=
  object ([("name", string f.name)] ++ place f.position ++
    [("type_name", string f.type.text), ("number", integer f.number.toInt), ("label", f.label.json),
      ("options", array (f.options.map Setting.json)), ("targets", f.targets.json)])

def Message.json (m : Message) : JsonValue :=
  object ([("name", string m.name)] ++ place m.position ++
    [("fields", array (m.fields.map Field.json)), ("options", array (m.options.map Setting.json)),
      ("targets", m.targets.json)])

def Symbol.json (s : Symbol) : JsonValue :=
  object [("name", string s.name), ("number", integer s.number.toInt)]

def Enum.json (e : Enum) : JsonValue :=
  object ([("name", string e.name)] ++ place e.position ++
    [("values", array (e.symbols.map Symbol.json))])

def File.json (f : File) : JsonValue :=
  object [("name", string f.name), ("syntax", optional f.dialect), ("package", optional f.package),
    ("imports", array (f.imports.map Import.json)), ("options", array (f.options.map Setting.json)),
    ("messages", array (f.messages.map Message.json)), ("enums", array (f.enums.map Enum.json))]

def SchemaSet.json (set : SchemaSet) : JsonValue :=
  object [("root", set.root.json), ("imports", array (set.imports.map File.json))]

end EnvConfig
