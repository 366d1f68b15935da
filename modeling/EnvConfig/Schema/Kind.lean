/-!
# Kinds of scalars

A scalar field is declared with one of fourteen names.  Several names differ only in how a value
travels; what is stored is one of eight kinds (`Storage`), and each of these has a wrapper message
in `google.protobuf` for a scalar that may be absent.
-/

namespace EnvConfig

/-- what a scalar is stored as -/
inductive Storage where
  | double
  | float
  | int64
  | uint64
  | int32
  | uint32
  | bool
  | string
deriving Repr, DecidableEq

/-- the declared kinds of scalars -/
inductive ScalarKind where
  | double
  | float
  | int32
  | int64
  | uint32
  | uint64
  | sint32
  | sint64
  | fixed32
  | fixed64
  | sfixed32
  | sfixed64
  | bool
  | string
deriving Repr, DecidableEq

namespace Storage

def all : List Storage := [double, float, int64, uint64, int32, uint32, bool, string]

theorem mem_all (s : Storage) : s ∈ all := by cases s <;> decide

/-- the name of the wrapper message without its ending -/
def shortName : Storage → String
  | double => "Double"
  | float => "Float"
  | int64 => "Int64"
  | uint64 => "UInt64"
  | int32 => "Int32"
  | uint32 => "UInt32"
  | bool => "Bool"
  | string => "String"

/-- the name of the wrapper message -/
def messageName (s : Storage) : String := s.shortName ++ "Value"

/-- the scalar kind that a wrapper message holds -/
def scalar : Storage → ScalarKind
  | double => .double
  | float => .float
  | int64 => .int64
  | uint64 => .uint64
  | int32 => .int32
  | uint32 => .uint32
  | bool => .bool
  | string => .string

/-- the package of the wrapper messages, with the dot after it -/
def wrapperPackage : String := "google.protobuf."

/-- the full name of the wrapper message -/
def wrapperType (s : Storage) : String := wrapperPackage ++ s.messageName

/-- the wrapper message that `name` spells in full, with a leading dot or without -/
def ofWrapperType? (name : String) : Option Storage :=
  all.find? fun s => name = s.wrapperType ∨ name = "." ++ s.wrapperType

end Storage

namespace ScalarKind

def all : List ScalarKind :=
  [double, float, int32, int64, uint32, uint64, sint32, sint64, fixed32, fixed64, sfixed32,
    sfixed64, bool, string]

theorem mem_all (k : ScalarKind) : k ∈ all := by cases k <;> decide

/-- the name in a declaration -/
def declared : ScalarKind → String
  | double => "double"
  | float => "float"
  | int32 => "int32"
  | int64 => "int64"
  | uint32 => "uint32"
  | uint64 => "uint64"
  | sint32 => "sint32"
  | sint64 => "sint64"
  | fixed32 => "fixed32"
  | fixed64 => "fixed64"
  | sfixed32 => "sfixed32"
  | sfixed64 => "sfixed64"
  | bool => "bool"
  | string => "string"

/-- the kind that is declared by `name` -/
def ofDeclared? (name : String) : Option ScalarKind := all.find? fun k => k.declared = name

theorem ofDeclared?_declared (k : ScalarKind) : ofDeclared? k.declared = some k := by
  cases k <;> decide

theorem declared_of_ofDeclared? {name : String} {k : ScalarKind} (h : ofDeclared? name = some k) :
    k.declared = name := by
  simpa using List.find?_some h

def storage : ScalarKind → Storage
  | double => .double
  | float => .float
  | int32 | sint32 | sfixed32 => .int32
  | int64 | sint64 | sfixed64 => .int64
  | uint32 | fixed32 => .uint32
  | uint64 | fixed64 => .uint64
  | bool => .bool
  | string => .string

end ScalarKind

theorem Storage.storage_scalar (s : Storage) : s.scalar.storage = s := by cases s <;> rfl

end EnvConfig
