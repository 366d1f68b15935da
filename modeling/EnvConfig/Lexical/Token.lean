import EnvConfig.Text.Basic

/-!
# Tokens and what can be wrong with them

A token is a piece of a schema text with the position of its first character.  Lines and columns
count from one; a column counts the bytes of the UTF-8 form since the last line feed.

`Tokens` is a whole text cut up: its tokens, none of them empty, and the position of its end.

A `Fault` is a cause why a text cannot be read.  A `ParseError` is a fault with the position where
it shows.  The texts of both are `Fault.message` and `ParseError.message`; texts taken from the
schema are quoted.
-/

namespace EnvConfig

open Text

structure Position where
  line : Nat
  column : Nat
deriving Repr, DecidableEq, Inhabited

namespace Position

def start : Position := ⟨1, 1⟩

/-- the position after the character `c` -/
def after (p : Position) (c : Char) : Position :=
  if c = '\n' then ⟨p.line + 1, 1⟩ else ⟨p.line, p.column + c.utf8Size⟩

/-- the position after all of `cs` -/
def afterAll (p : Position) (cs : List Char) : Position := cs.foldl after p

theorem afterAll_nil (p : Position) : p.afterAll [] = p := rfl

theorem afterAll_cons (p : Position) (c : Char) (cs : List Char) :
    p.afterAll (c :: cs) = (p.after c).afterAll cs := rfl

theorem afterAll_append (p : Position) (cs ds : List Char) :
    p.afterAll (cs ++ ds) = (p.afterAll cs).afterAll ds := List.foldl_append ..

end Position

structure Token where
  text : String
  position : Position
deriving Repr, DecidableEq, Inhabited

structure Tokens where
  list : List Token
  finish : Position
deriving Repr, DecidableEq

/-! ### faults -/

/-- what a reader was looking for when it met something else -/
inductive Expectation where
  | mark (text : String)
  | optionName
  | constant
  | mapKeyType
  | mapValueType
  | typeName
  | fieldName
  | fieldNumber
  | oneofName
  | messageName
  | enumName
  | enumValue
  | integer
  | string
  | packageName
  | importPath
  | identifier
deriving Repr, DecidableEq

def Expectation.describe : Expectation → String
  | .mark text => quote text
  | .optionName => "option name"
  | .constant => "constant"
  | .mapKeyType => "map key type"
  | .mapValueType => "map value type"
  | .typeName => "type"
  | .fieldName => "field name"
  | .fieldNumber => "field number"
  | .oneofName => "oneof name"
  | .messageName => "message name"
  | .enumName => "enum name"
  | .enumValue => "enum value"
  | .integer => "integer"
  | .string => "string"
  | .packageName => "package name"
  | .importPath => "import path"
  | .identifier => "identifier"

inductive Fault where
  /-- characters that belong to no lexeme -/
  | stray (text : String)
  /-- another token than the only fitting ones; the end of the text counts as the empty token -/
  | expected (what : Expectation) (found : String)
  /-- a token that begins nothing -/
  | unexpected (found : String)
  /-- the text ends inside something -/
  | unfinished
  /-- an integer that is not written in ASCII or does not fit 32 bits -/
  | badInteger (text : String)
  /-- a second package declaration in one text -/
  | secondPackage
  /-- a definition inside a message -/
  | nested (keyword : String)
deriving Repr, DecidableEq

def Fault.message : Fault → String
  | .stray text => "Syntax error: " ++ quote text
  | .expected what found => "Expected " ++ what.describe ++ " but found " ++ quote found
  | .unexpected found => "Unexpected token " ++ quote found
  | .unfinished => "Unexpected end of file"
  | .badInteger text => "Invalid integer " ++ quote text
  | .secondPackage => "Multiple package definitions"
  | .nested keyword => "Nested " ++ keyword ++ " definitions are not supported"

structure ParseError where
  fault : Fault
  position : Position
deriving Repr, DecidableEq

def ParseError.message (e : ParseError) : String :=
  "Parse error at line " ++ toString e.position.line ++ ", column " ++
    toString e.position.column ++ ": " ++ e.fault.message

end EnvConfig
