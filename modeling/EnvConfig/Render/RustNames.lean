import EnvConfig.Naming.Words
import EnvConfig.Schema.Kind

/-!
# Names in Rust code

Fields are in snake case and types in camel case.  A field name that is a keyword of the language
is written as a raw identifier, or, where that is not allowed, with an underscore at its end.
-/

namespace EnvConfig.RustCode

open Text Naming

/-- the words that cannot be identifiers -/
def keywords : List String :=
  ["abstract", "as", "async", "await", "become", "box", "break", "const", "continue", "crate",
    "do", "dyn", "else", "enum", "extern", "false", "final", "fn", "for", "if", "impl", "in", "let",
    "loop", "macro", "match", "mod", "move", "mut", "override", "priv", "pub", "ref", "return",
    "self", "Self", "static", "struct", "super", "trait", "true", "try", "type", "typeof", "unsafe",
    "unsized", "use", "virtual", "where", "while", "yield"]

/-- the keywords that cannot be raw identifiers either -/
def pathKeywords : List String := ["self", "super", "crate", "Self"]

def fieldName (name : String) : String :=
  let snake := snakeCase name
  if snake ∈ pathKeywords then snake ++ "_"
  else if snake ∈ keywords then "r#" ++ snake
  else snake

/-- A field whose small spelling is a keyword has a raw identifier, or one with an underscore at its
end. -/
theorem fieldName_cases (name : String) :
    fieldName name = "r#" ++ snakeCase name ∨ fieldName name = snakeCase name ++ "_" ∨
      fieldName name = snakeCase name := by
  unfold fieldName
  simp only
  split
  · exact .inr (.inl rfl)
  · split
    · exact .inl rfl
    · exact .inr (.inr rfl)

/-- a word with its first letter in upper case -/
def capitalized : List Char → List Char
  | [] => []
  | c :: cs => toUpper c ++ cs

def typeName (name : String) : String :=
  String.ofList ((segments '_' (snakeCase name).toList).flatMap capitalized)

/-- the type of a stored scalar -/
def typeOf : Storage → String
  | .double => "f64"
  | .float => "f32"
  | .int32 => "i32"
  | .int64 => "i64"
  | .uint32 => "u32"
  | .uint64 => "u64"
  | .bool => "bool"
  | .string => "String"

/-- a value of the kind has to be cloned to be copied -/
def isHeap (k : ScalarKind) : Bool := k == .string

end EnvConfig.RustCode
