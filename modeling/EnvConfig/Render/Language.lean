import EnvConfig.Render.GoLoader
import EnvConfig.Render.RustLoader
import EnvConfig.Schema.Basic

/-!
# Output languages

A language has a spelling on the command line, an ending for its files, an option by which a
schema names its output module, and a way to print loaders.

* `Language.ofName?`: the language that a text names, in letters of either case;
* `Language.moduleName`: the output module of a schema, from its option, else from its package, else
  from its file name;
* `outputFile`: the name of the output file.
-/

namespace EnvConfig

open Text

inductive Language where
  | rust
  | go
deriving Repr, DecidableEq

/-- a text that names no language, in small letters -/
structure UnknownLanguage where
  name : String
deriving Repr, DecidableEq

def UnknownLanguage.message (e : UnknownLanguage) : String :=
  "unknown language \"" ++ e.name ++ "\", expected rust or go"

namespace Language

def name : Language → String
  | rust => "rust"
  | go => "go"

def ofName? (text : String) : Except UnknownLanguage Language :=
  let small := asciiLowercase text
  if small = "rust" ∨ small = "rs" then .ok rust
  else if small = "go" ∨ small = "golang" then .ok go
  else .error ⟨small⟩

/-- what the names of output files end in -/
def suffix : Language → String
  | rust => ".pbloader.rs"
  | go => ".pbloader.go"

/-- the option of a schema that names the output module -/
def packageOption : Language → String
  | rust => "rust_package"
  | go => "go_package"

def loaders : Language → LoaderUnit → String → String
  | rust => RustCode.loaders
  | go => GoCode.loaders

end Language

/-! ### names of modules -/

def schemaEnding : String := ".proto"

/-- the name of a schema file without its directories and its ending -/
def File.stem (f : File) : String := Text.stem (· == '/') schemaEnding f.name

/-- the text with an underscore for each character with `p` -/
def underscored (p : Char → Bool) (s : String) : String :=
  String.ofList (s.toList.map fun c => if p c then '_' else c)

/-- an identifier of Rust: other characters become underscores, and one goes before a digit -/
def RustCode.moduleIdentifier (s : String) : String :=
  let ident := underscored (fun c => !(c.isAlphanum || c == '_')) s
  if ident.toList.head?.any Char.isDigit then "_" ++ ident else ident

def RustCode.moduleName (f : File) : String :=
  match f.option? Language.rust.packageOption, f.package with
  | some name, _ => moduleIdentifier name
  | none, some package => moduleIdentifier (underscored (· == '.') package)
  | none, none => moduleIdentifier f.stem

/-- the name of the package at a path: what stands after the first semicolon, else the last part -/
def GoCode.packageAt (path : String) : String :=
  match path.toList.dropWhile (· != ';') with
  | _ :: name => String.ofList name
  | [] => String.ofList (lastSegment (· == '/') path.toList)

/-- a dash or a dot -/
def isDashOrDot (c : Char) : Bool := c == '-' || c == '.'

def GoCode.moduleName (f : File) : String :=
  match f.option? Language.go.packageOption, f.package with
  | some path, _ => underscored isDashOrDot (packageAt path)
  | none, some package => String.ofList (lastSegment (· == '.') package.toList)
  | none, none => underscored isDashOrDot f.stem

def Language.moduleName : Language → File → String
  | rust => RustCode.moduleName
  | go => GoCode.moduleName

/-- the name of the output file for a schema; a backslash ends a directory too -/
def outputFile (source suffix : String) : String :=
  Text.stem (fun c => c == '/' || c == '\\') schemaEnding source ++ suffix

end EnvConfig
