import EnvConfig.Loader.Unit
import EnvConfig.Render.Code
import EnvConfig.Render.GoNames

/-!
# Loaders in Go

A procedure becomes a method of the struct of its message.  The functions that read variables are
expected in the same package.

* `statementCode`, `procedureCode`: the code of one field and of one message;
* `importLines`: the packages that the code of a unit refers to;
* `loaders`: a whole file.
-/

namespace EnvConfig.GoCode

open Code

/-- the function that reads a variable for a storage kind -/
def getter (s : Storage) : String := "get" ++ s.shortName ++ "Env"

/-- the zero of a storage kind -/
def zeroLiteral : Storage → String
  | .string => "\"\""
  | .bool => "false"
  | _ => "0"

/-- an expression for the name of the variable of a field -/
def key (slot : Slot) : String := "prefix + \"" ++ slot.fragment ++ "\""

/-- `field` of the default values -/
def default (name : String) : String := "defaultValues." ++ name

/-- there are default values, and `condition` holds of them -/
def ifDefaults (condition : String) : String := "defaultValues != nil && " ++ condition

def scalarCode (slot : Slot) (s : Storage) : List Code :=
  let name := fieldName slot.name
  let zero := zeroLiteral s
  [blocks [("if val, ok := " ++ getter s ++ "(" ++ key slot ++ "); ok",
      [line ("x." ++ name ++ " = val")]),
    ("else if x." ++ name ++ " == " ++ zero ++ " && " ++
        ifDefaults (default name ++ " != " ++ zero),
      [line ("x." ++ name ++ " = " ++ default name)])]]

/-- the branches of a wrapper message: a value from the variable, else one that is made -/
def wellKnownParts (name : String) (s : Storage) : List Code × List Code :=
  let wrapper := "wrappers." ++ s.messageName
  ([line ("x." ++ name ++ " = &" ++ wrapper ++ "\x7bValue: val\x7d")],
    [line "// when there is no value to set we still prefer to initialize the variable to avoid",
      line "// `nil` checks in the consumers.",
      line ("x." ++ name ++ " = new(" ++ wrapper ++ ")"),
      block ("if " ++ ifDefaults (default name ++ " != nil"))
        [line ("x." ++ name ++ " = &" ++ wrapper ++ "\x7bValue: " ++ default name ++
          ".Value\x7d")]])

/-- the branches of an optional scalar -/
def optionalParts (name : String) (s : Storage) : List Code × List Code :=
  ([line ("x." ++ name ++ " = &val")],
    [line ("var v " ++ typeOf s),
      block ("if " ++ ifDefaults (default name ++ " != nil")) [line ("v = *" ++ default name)],
      line ("x." ++ name ++ " = &v")])

def wrapperCode (slot : Slot) (shape : WrapperShape) : List Code :=
  let name := fieldName slot.name
  let parts := match shape with
    | .wellKnown s => wellKnownParts name s
    | .optional k => optionalParts name k.storage
  [blocks [("if val, ok := " ++ getter shape.scalar.storage ++ "(" ++ key slot ++ "); ok", parts.1),
    ("else if x." ++ name ++ " == nil", parts.2)]]

/-- the refusal of a symbol that the enum does not have -/
def unknownSymbol (slot : Slot) : Code :=
  block "if !ok"
    [line ("return fmt.Errorf(\"environment variable %s holds unknown enum symbol %q\", " ++
      key slot ++ ", val)")]

/-- the look-up of a symbol -/
def symbolLine (type : String) : Code :=
  line ("v, ok := " ++ type ++ "_value[strings.TrimSpace(val)]")

def enumCode (slot : Slot) (table : SymbolTable) : List Code :=
  let name := fieldName slot.name
  let type := fieldName table.name
  [blocks [("if val, ok := getStringEnv(" ++ key slot ++ "); ok",
      [symbolLine type, unknownSymbol slot, line ("x." ++ name ++ " = " ++ type ++ "(v)")]),
    ("else if x." ++ name ++ " == 0 && " ++ ifDefaults (default name ++ " != 0"),
      [line ("x." ++ name ++ " = " ++ default name)])]]

def enumListCode (slot : Slot) (table : SymbolTable) : List Code :=
  let name := fieldName slot.name
  let type := fieldName table.name
  [blocks [("if vals, ok := getArrayStringEnv(" ++ key slot ++ "); ok",
      [line ("items := make([]" ++ type ++ ", 0, len(vals))"),
        block "for _, val := range vals"
          [symbolLine type, unknownSymbol slot, line ("items = append(items, " ++ type ++ "(v))")],
        line ("x." ++ name ++ " = items")]),
    ("else if len(x." ++ name ++ ") == 0 && " ++ ifDefaults ("len(" ++ default name ++ ") > 0"),
      [line ("x." ++ name ++ " = append([]" ++ type ++ "(nil), " ++ default name ++ "...)")])]]

def nestedCode (slot : Slot) (message : String) : List Code :=
  let name := fieldName slot.name
  let type := fieldName message
  [block ("if x." ++ name ++ " == nil") [line ("x." ++ name ++ " = new(" ++ type ++ ")")],
    line ("var default" ++ name ++ " *" ++ type),
    block "if defaultValues != nil" [line ("default" ++ name ++ " = " ++ default name)],
    block ("if err := x." ++ name ++ ".loadFromEnv(prefix+\"" ++ slot.fragment ++ "_\", default" ++
        name ++ "); err != nil")
      [line "return err"]]

def mergeMapCode (slot : Slot) : List Code :=
  let name := fieldName slot.name
  [block ("if " ++ ifDefaults ("len(" ++ default name ++ ") > 0"))
    [block ("if x." ++ name ++ " == nil")
        [line ("x." ++ name ++ " = make(map[string]string, len(" ++ default name ++ "))")],
      block ("for k, v := range " ++ default name)
        [block ("if _, ok := x." ++ name ++ "[k]; !ok") [line ("x." ++ name ++ "[k] = v")]]]]

/-- the code that fills one field -/
def statementCode : Statement → List Code
  | .scalar slot k => scalarCode slot k.storage
  | .wrapper slot shape => wrapperCode slot shape
  | .enum slot table => enumCode slot table
  | .enumList slot table => enumListCode slot table
  | .nested slot message => nestedCode slot message
  | .mergeMap slot => mergeMapCode slot

/-- the method that puts values into a map -/
def mutatorCode (type : String) (slot : Slot) : List Code :=
  let name := fieldName slot.name
  [line ("// PutAll" ++ name ++ " merges values into " ++ name ++ ", overwriting existing keys."),
    block ("func (x *" ++ type ++ ") PutAll" ++ name ++ "(values map[string]string)")
      [block ("if x." ++ name ++ " == nil")
          [line ("x." ++ name ++ " = make(map[string]string, len(values))")],
        block "for k, v := range values" [line ("x." ++ name ++ "[k] = v")]]]

/-- the methods of a message: its loader, and one for each of its maps -/
def procedureCode (p : Procedure) : List Code :=
  let type := fieldName p.message
  [line ("// loadFromEnv loads the data from env vars, defaults and makes sure all values are " ++
      "initialized."),
    block ("func (x *" ++ type ++ ") loadFromEnv(prefix string, defaultValues *" ++ type ++
        ") error")
      (separated (p.statements.map statementCode) ++ [line "return nil"])] ++
    p.mapMutators.flatMap fun slot => empty :: mutatorCode type slot

/-- the statement refers to the packages for errors and texts -/
def readsSymbols : Statement → Bool
  | .enum _ _ | .enumList _ _ => true
  | _ => false

/-- the statement refers to the package of the wrapper messages -/
def makesWrappers : Statement → Bool
  | .wrapper _ (.wellKnown _) => true
  | _ => false

/-- the packages that the code of a unit refers to -/
def importLines (u : LoaderUnit) : List String :=
  let statements := u.procedures.flatMap (·.statements)
  (if statements.any readsSymbols then ["\"fmt\"", "\"strings\""] else []) ++
    if statements.any makesWrappers then
      ["wrappers \"github.com/golang/protobuf/ptypes/wrappers\""]
    else []

/-- the code of a file of the package `module` -/
def loaderCode (u : LoaderUnit) (module : String) : List Code :=
  let imports := importLines u
  [line "// Code generated by protoenv. DO NOT EDIT.",
    line ("// source: " ++ u.source),
    empty,
    line ("package " ++ module)] ++
    (if imports.isEmpty then [] else [empty, group "import" (imports.map line)]) ++
    u.procedures.flatMap fun p => empty :: procedureCode p

/-- the text of a file of the package `module` -/
def loaders (u : LoaderUnit) (module : String) : String := Code.text "\t" (loaderCode u module)

end EnvConfig.GoCode
