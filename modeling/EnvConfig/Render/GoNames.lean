import EnvConfig.Schema.Kind

/-!
# Names in Go code

Fields and types are in camel case with a capital at the front.  An underscore is dropped before a
small letter, which becomes a capital; other underscores and all digits stay.
-/

namespace EnvConfig.GoCode

/-- the spelling of the rest of a name; `inWord` says that small letters just go on -/
def camelFrom (inWord : Bool) : List Char → List Char
  | [] => []
  | c :: cs =>
    if inWord && c.isLower then c :: camelFrom true cs
    else if c == '_' && cs.head?.any Char.isLower then camelFrom false cs
    else if c.isDigit || c == '_' then c :: camelFrom false cs
    else c.toUpper :: camelFrom true cs

section
variable {inWord : Bool} {cs : List Char}

theorem camelFrom_underscore : camelFrom inWord ('_' :: cs) =
    if cs.head?.any Char.isLower then camelFrom false cs else '_' :: camelFrom false cs := by
  have hlower : ('_' : Char).isLower = false := by decide
  simp [camelFrom, hlower]

theorem camelFrom_ne_nil (h : cs ≠ []) : camelFrom inWord cs ≠ [] := by
  induction cs generalizing inWord with
  | nil => exact absurd rfl h
  | cons c cs ih =>
    unfold camelFrom
    split
    · exact List.cons_ne_nil _ _
    · split
      · rename_i hdropped
        refine ih ?_
        rintro rfl
        simp at hdropped
      · split <;> exact List.cons_ne_nil _ _

end

/-- the spelling of a name; an underscore at the front becomes a letter -/
def camel : List Char → List Char
  | '_' :: cs => 'X' :: camelFrom false cs
  | cs => camelFrom false cs

/-- the name of a field, a message or an enum -/
def fieldName (name : String) : String := String.ofList (camel name.toList)

/-- the type of a stored scalar -/
def typeOf : Storage → String
  | .double => "float64"
  | .float => "float32"
  | .int32 => "int32"
  | .int64 => "int64"
  | .uint32 => "uint32"
  | .uint64 => "uint64"
  | .bool => "bool"
  | .string => "string"

end EnvConfig.GoCode
