import EnvConfig.Lexical.Token
import EnvConfig.Schema.Target

/-!
# Schemas

A schema file declares messages with fields and enums with symbols.  Everything in it keeps the
order of the text.  Messages, fields and enums carry the position of their name.
-/

namespace EnvConfig

/-- how an import passes on what it brings -/
inductive ImportKind where
  | ordinary
  | reexported
  | weak
deriving Repr, DecidableEq

structure Import where
  path : String
  kind : ImportKind
deriving Repr, DecidableEq

/-- a named setting; the value is the text of a constant, or of a string literal what it spells -/
structure Setting where
  name : String
  value : String
deriving Repr, DecidableEq

/-- the value of the first setting of the given name -/
def setting? (settings : List Setting) (name : String) : Option String :=
  (settings.find? (·.name == name)).map (·.value)

/-- the declared type of a field -/
inductive FieldType where
  | named (name : String)
  | map (key value : String)
deriving Repr, DecidableEq

/-- the type as it is written -/
def FieldType.text : FieldType → String
  | .named name => name
  | .map key value => "map<" ++ key ++ "," ++ value ++ ">"

/-- the names of the types that a declared type mentions -/
def FieldType.mentioned : FieldType → List String
  | .named name => [name]
  | .map key value => [key, value]

inductive Label where
  | plain
  /-- a value that may be absent -/
  | optional
  | repeated
  /-- one of a group of fields of which one at most is present -/
  | oneof (group : String)
deriving Repr, DecidableEq

structure Field where
  name : String
  position : Position
  type : FieldType
  number : Int32
  label : Label
  options : List Setting
  targets : Targets
deriving Repr, DecidableEq

structure Message where
  name : String
  position : Position
  fields : List Field
  options : List Setting
  targets : Targets
deriving Repr, DecidableEq

/-- a symbol of an enum with its number -/
structure Symbol where
  name : String
  number : Int32
deriving Repr, DecidableEq

structure Enum where
  name : String
  position : Position
  symbols : List Symbol
deriving Repr, DecidableEq

/-- the number of the first symbol of the given name -/
def numberOf? (symbols : List Symbol) (name : String) : Option Int32 :=
  (symbols.find? (·.name == name)).map (·.number)

structure File where
  /-- the name that the file was loaded under -/
  name : String
  /-- the version of the schema language that the file declares -/
  dialect : Option String
  package : Option String
  imports : List Import
  options : List Setting
  messages : List Message
  enums : List Enum
deriving Repr, DecidableEq

namespace File

/-- the file that declares nothing -/
def empty (name : String) : File := ⟨name, none, none, [], [], [], []⟩

def message? (f : File) (name : String) : Option Message := f.messages.find? (·.name == name)

def enum? (f : File) (name : String) : Option Enum := f.enums.find? (·.name == name)

def option? (f : File) (name : String) : Option String := setting? f.options name

/-- the name of a definition of this file with its package -/
def fullName (f : File) (name : String) : String :=
  match f.package with
  | some package => package ++ "." ++ name
  | none => name

end File

end EnvConfig
