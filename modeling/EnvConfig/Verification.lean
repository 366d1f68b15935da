import EnvConfig.Nesting
import EnvConfig.Schema.Kind
import EnvConfig.Text.Basic

/-!
# Well-formed schemas

The root file of a schema set is checked before anything is generated from it.  `Violation` lists
what can be wrong; `SchemaSet.verify` reports the first violation in this order: names of types,
then enums, then messages field by field, then messages inside themselves.
-/

namespace EnvConfig

open Text

inductive Violation where
  | typeTwice (name : String)
  | enumEmpty (enum : String)
  | symbolTwice (symbol enum : String)
  | fieldTwice (field message : String)
  | numberNotPositive (field : String)
  | numberTwice (field : String)
  | typeUnknown (type field : String)
  | recursive (message : String)
deriving Repr, DecidableEq

def Violation.describe : Violation → String
  | typeTwice name => "The type " ++ quote name ++ " is defined twice"
  | enumEmpty enum => "The enum " ++ quote enum ++ " has no values"
  | symbolTwice symbol enum =>
    "The enum value " ++ quote symbol ++ " is defined twice in " ++ quote enum
  | fieldTwice field message =>
    "The field " ++ quote field ++ " is defined twice in " ++ quote message
  | numberNotPositive field => "The id for field " ++ quote field ++ " must be positive"
  | numberTwice field => "The id for field " ++ quote field ++ " is used twice"
  | typeUnknown type field =>
    "The type " ++ quote type ++ " is not defined for field " ++ quote field
  | recursive message => "Recursive nesting of " ++ quote message ++ " is not allowed"

def Violation.message (v : Violation) : String := "Verifier error: " ++ v.describe

/-- the first name that stands in the list a second time -/
def firstRepeated? (before : List String) : List String → Option String
  | [] => none
  | n :: ns => if before.contains n then some n else firstRepeated? (n :: before) ns

namespace SchemaSet

/-- a field of the root file may have the type `name` -/
def isKnownType (set : SchemaSet) (name : String) : Bool :=
  name == "bytes" || (ScalarKind.ofDeclared? name).isSome ||
    (Storage.ofWrapperType? name).isSome || (set.resolve name).isSome

/-- what is wrong with the field `f`, which comes after the fields `before` -/
def fieldViolation? (set : SchemaSet) (message : String) (before : List Field) (f : Field) :
    Option Violation :=
  if before.any (·.name == f.name) then some (.fieldTwice f.name message)
  else if f.number.toInt ≤ 0 then some (.numberNotPositive f.name)
  else if before.any (·.number == f.number) then some (.numberTwice f.name)
  else (f.type.mentioned.find? (!set.isKnownType ·)).map fun type => .typeUnknown type f.name

/-- the first thing wrong with fields that come after the fields `before` -/
def fieldsViolation? (set : SchemaSet) (message : String) (before : List Field) :
    List Field → Option Violation
  | [] => none
  | f :: fs =>
    (set.fieldViolation? message before f).or (fieldsViolation? set message (f :: before) fs)

def messageViolation? (set : SchemaSet) (m : Message) : Option Violation :=
  set.fieldsViolation? m.name [] m.fields

end SchemaSet

def Enum.violation? (e : Enum) : Option Violation :=
  if e.symbols.isEmpty then some (.enumEmpty e.name)
  else (firstRepeated? [] (e.symbols.map (·.name))).map fun s => .symbolTwice s e.name

/-- the names of the types that a file defines, messages first -/
def File.typeNames (f : File) : List String := f.messages.map (·.name) ++ f.enums.map (·.name)

namespace SchemaSet

/-- the first thing wrong with the root file -/
def violation? (set : SchemaSet) : Option Violation :=
  ((firstRepeated? [] set.root.typeNames).map .typeTwice).or <|
  (set.root.enums.findSome? Enum.violation?).or <|
  (set.root.messages.findSome? set.messageViolation?).or <|
  set.recursive?.map fun h => .recursive h.message.name

def verify (set : SchemaSet) : Except Violation Unit :=
  match set.violation? with
  | some v => .error v
  | none => .ok ()

end SchemaSet

end EnvConfig
