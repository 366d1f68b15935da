import EnvConfig.Loader.Unit
import EnvConfig.Render.Code
import EnvConfig.Render.RustNames

/-!
# Loaders in Rust

A procedure becomes an implementation of the trait `LoadFromEnv` for the struct of its message.
Wrappers and nested messages are optional fields, enums are numbers, and maps are hash maps.

* `statementCode`, `procedureCode`: the code of one field and of one message;
* `loaders`: a whole file, with everything in one module.
-/

namespace EnvConfig.RustCode

open Code

/-- the function that reads a variable for a storage kind -/
def getter (s : Storage) : String :=
  "env::get_" ++ (if s = .string then "string" else typeOf s) ++ "_env"

/-- the zero of a storage kind -/
def zeroLiteral : Storage → String
  | .bool => "false"
  | .float | .double => "0.0"
  | .string => "\"\""
  | _ => "0"

/-- a test whether an expression is zero -/
def isZero (s : Storage) (expr : String) : String :=
  match s with
  | .string => expr ++ ".is_empty()"
  | .bool => "!" ++ expr
  | s => expr ++ " == " ++ zeroLiteral s

/-- a test whether an expression is not zero -/
def isNonzero (s : Storage) (expr : String) : String :=
  match s with
  | .string => "!" ++ expr ++ ".is_empty()"
  | .bool => expr
  | s => expr ++ " != " ++ zeroLiteral s

/-- an expression for a copy of the value of another one -/
def copyOf (k : ScalarKind) (expr : String) : String :=
  if isHeap k then expr ++ ".clone()" else expr

/-- the name of the variable of a field, bound to `key` -/
def keyLine (slot : Slot) : Code :=
  line ("let key = format!(\"\x7bprefix\x7d" ++ slot.fragment ++ "\");")

/-- the branch that takes a default which is not zero in place of a zero -/
def fallback (name zero nonzero copy : String) : String × List Code :=
  ("else if " ++ zero,
    [block "if let Some(d) = defaults"
      [block ("if " ++ nonzero) [line ("self." ++ name ++ " = " ++ copy ++ ";")]]])

def scalarCode (slot : Slot) (k : ScalarKind) : List Code :=
  let name := fieldName slot.name
  [keyLine slot,
    blocks [("if let Some(val) = " ++ getter k.storage ++ "(&key)",
        [line ("self." ++ name ++ " = val;")]),
      fallback name (isZero k.storage ("self." ++ name)) (isNonzero k.storage ("d." ++ name))
        (copyOf k ("d." ++ name))]]

def wrapperCode (slot : Slot) (k : ScalarKind) : List Code :=
  let name := fieldName slot.name
  [keyLine slot,
    blocks [("if let Some(val) = " ++ getter k.storage ++ "(&key)",
        [line ("self." ++ name ++ " = Some(val);")]),
      ("else if self." ++ name ++ ".is_none()",
        [line ("self." ++ name ++ " = Some(defaults.and_then(|d| " ++ copyOf k ("d." ++ name) ++
          ").unwrap_or_default());")])]]

def enumCode (slot : Slot) (table : SymbolTable) : List Code :=
  let name := fieldName slot.name
  [keyLine slot,
    blocks [("if let Some(val) = env::get_string_env(&key)",
        [line ("self." ++ name ++ " = env::resolve_enum(&key, &val, " ++ typeName table.name ++
          "::from_str_name)? as i32;")]),
      fallback name ("self." ++ name ++ " == 0") ("d." ++ name ++ " != 0") ("d." ++ name)]]

def enumListCode (slot : Slot) (table : SymbolTable) : List Code :=
  let name := fieldName slot.name
  [keyLine slot,
    blocks [("if let Some(vals) = env::get_array_string_env(&key)",
        [line ("self." ++ name ++ " = vals"),
          line "    .iter()",
          line ("    .map(|val| env::resolve_enum(&key, val, " ++ typeName table.name ++
            "::from_str_name).map(|v| v as i32))"),
          line "    .collect::<Result<Vec<_>, LoadError>>()?;"]),
      fallback name ("self." ++ name ++ ".is_empty()") ("!d." ++ name ++ ".is_empty()")
        ("d." ++ name ++ ".clone()")]]

def nestedCode (slot : Slot) : List Code :=
  let name := fieldName slot.name
  [line ("self." ++ name),
    line "    .get_or_insert_with(Default::default)",
    line ("    .load_from_env(&format!(\"\x7bprefix\x7d" ++ slot.fragment ++
      "_\"), defaults.and_then(|d| d." ++ name ++ ".as_ref()))?;")]

def mergeMapCode (slot : Slot) : List Code :=
  let name := fieldName slot.name
  [block "if let Some(d) = defaults"
    [block ("for (k, v) in &d." ++ name)
      [line ("self." ++ name ++ ".entry(k.clone()).or_insert_with(|| v.clone());")]]]

/-- the code that fills one field -/
def statementCode : Statement → List Code
  | .scalar slot k => scalarCode slot k
  | .wrapper slot shape => wrapperCode slot shape.scalar
  | .enum slot table => enumCode slot table
  | .enumList slot table => enumListCode slot table
  | .nested slot _ => nestedCode slot
  | .mergeMap slot => mergeMapCode slot

/-- the method that puts values into a map -/
def mutatorCode (slot : Slot) : List Code :=
  let name := fieldName slot.name
  [line ("/// Merges `values` into `" ++ name ++ "`, overwriting existing keys."),
    block ("pub fn put_all_" ++ Naming.snakeCase slot.name ++
        "(&mut self, values: ::std::collections::HashMap<String, String>)")
      [line ("self." ++ name ++ ".extend(values);")]]

/-- the implementation for a message, and one with the methods of its maps if it has any -/
def procedureCode (p : Procedure) : List Code :=
  let type := typeName p.message
  let unused := if p.statements.isEmpty then [line "let _ = (prefix, defaults);"] else []
  let loading := block ("impl LoadFromEnv for " ++ type)
    [line "/// Loads the data from env vars and defaults, making sure all values are initialized.",
      block ("fn load_from_env(&mut self, prefix: &str, defaults: Option<&" ++ type ++
          ">) -> Result<(), LoadError>")
        (unused ++ separated (p.statements.map statementCode) ++ [line "Ok(())"])]
  let mutators := if p.mapMutators.isEmpty then []
    else [empty, block ("impl " ++ type) (separated (p.mapMutators.map mutatorCode))]
  loading :: mutators

/-- the code of a file whose loaders stand in `module` -/
def loaderCode (u : LoaderUnit) (module : String) : List Code :=
  [line "// Code generated by protoenv. DO NOT EDIT.",
    line ("// source: " ++ u.source),
    empty,
    block ("pub mod " ++ module)
      ([line "use super::*;",
        line "#[allow(unused_imports)]",
        line "use protoenv::\x7benv, LoadError, LoadFromEnv\x7d;"] ++
        u.procedures.flatMap fun p => empty :: procedureCode p)]

/-- the text of a file whose loaders stand in `module` -/
def loaders (u : LoaderUnit) (module : String) : String := Code.text "    " (loaderCode u module)

end EnvConfig.RustCode
