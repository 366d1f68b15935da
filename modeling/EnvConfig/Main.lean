import EnvConfig.CommandLine.Run

/-!
# The command line

The files that a run can ask for are read first; what it does is then decided on them alone, and
carried out.  No program is started here, so the text of a generated file stays as it was printed.
-/

namespace EnvConfig.Console

/-- files that have been read, or the reason why not -/
structure Snapshot where
  files : List (String × Except AccessError (List UInt8))

namespace Snapshot

def read (s : Snapshot) (path : String) : Except AccessError (List UInt8) :=
  match s.files.find? (·.1 == path) with
  | some (_, content) => content
  | none => .error .notFound

def contents (s : Snapshot) : List (List UInt8) := s.files.filterMap (·.2.toOption)

theorem mem_contents {s : Snapshot} {path : String} {bytes : List UInt8}
    (h : s.read path = .ok bytes) : bytes ∈ s.contents := by
  unfold read at h
  split at h
  · rename_i name content hfind
    subst h
    exact List.mem_filterMap.mpr ⟨_, List.mem_of_find?_eq_some hfind, rfl⟩
  · cases h

def disk (s : Snapshot) : Disk where
  read := s.read
  contents := s.contents
  mem_contents _ _ h := mem_contents h

/-- the paths of the modules that the file at `path` imports -/
def importsOf (s : Snapshot) (path root : String) : List String :=
  match s.disk.readText path with
  | .ok text => (pathsOf text).map (Path.ofModule root)
  | .error _ => []

end Snapshot

/-! ### the system -/

/-- the two codes of the system for a reason: the number and its negative -/
def isCode (code number : UInt32) : Bool := code == number || code == 0 - number

def reasonOf : IO.Error → AccessError
  | .noFileOrDirectory _ _ _ => .notFound
  | .inappropriateType _ code _ => if isCode code 21 then .isDirectory else .notDirectory
  | .invalidArgument _ code _ => if isCode code 36 then .nameTooLong else .unusablePath
  | .permissionDenied _ _ _ => .denied
  | e => .other (toString e)

def readFile (path : String) : IO (Except AccessError (List UInt8)) := do
  try return .ok (← IO.FS.readBinFile path).toList
  catch e => return .error (reasonOf e)

/-- reads the files in `queue` and those that they import -/
partial def gather (root : String) (s : Snapshot) : List String → IO Snapshot
  | [] => return s
  | path :: queue => do
    if s.files.any (·.1 == path) then gather root s queue
    else
      let s : Snapshot := ⟨(path, ← readFile path) :: s.files⟩
      gather root s (queue ++ s.importsOf path root)

/-- the files that a run can ask for -/
def filesOf (a : Arguments) : IO Snapshot :=
  match a.schema with
  | none => return ⟨[]⟩
  | some schema => gather (importRoot schema a.protoPath) ⟨[]⟩ [schema]

/-! ### what is shown -/

def usage : String := "\n".intercalate [
  "Generates loaders of environment variables for the messages of a schema.",
  "",
  "Usage: [OPTIONS] [SCHEMA]",
  "",
  "  -o, --out-dir DIR     where the generated file goes [default: .]",
  "  -I, --proto-path DIR  where imports are looked for [default: beside the schema]",
  "  -l, --lang LANG       output language: rust or go [default: rust]",
  "  -t, --target ID       runtime to generate for [env: PROTOENV_TARGET] [default: rust]",
  "      --no-format       keep the text as it is printed",
  "      --dump-schema     show the schema as JSON",
  "  -v, --verbose         more messages",
  "  -h, --help            show this text",
  "  -V, --version         show the version"]

def version : String := "0.1.0"

def refusal : ArgumentError → String
  | .unknownArgument => "unknown argument"
  | .invalidValue => "a value is missing"
  | .valueValidation => "expected rust or go"
  | .argumentConflict => "an option cannot be given twice"
  | .tooManyValues => "a switch takes no value"
  | .displayHelp => usage
  | .displayVersion => version

def fail (e : RunError) : IO UInt32 := do
  IO.eprintln e.message
  return 1

/-- the formatter of a language, which is not there -/
def format (l : Language) (_ : String) : Except FormatError String :=
  l.formatter.formatted (.notStarted .notFound)

def carryOut : Outcome → IO UInt32
  | .usage => do IO.println usage; return 0
  | .dumped text => do IO.println text; return 0
  | .generated path content => do
    try
      IO.FS.writeBinFile path content.toUTF8
      IO.println ("Generated " ++ path)
      return 0
    catch e => fail (.unwritten path (reasonOf e))

end EnvConfig.Console

open EnvConfig in
def main (args : List String) : IO UInt32 := do
  match Arguments.read args (← IO.getEnv targetVariable) with
  | .error e =>
    if e = .displayHelp ∨ e = .displayVersion then
      IO.println (Console.refusal e)
      return 0
    else
      IO.eprintln ("error: " ++ Console.refusal e)
      return 2
  | .ok a =>
    let files ← Console.filesOf a
    match a.run files.disk (Console.format a.language) with
    | .error e => Console.fail e
    | .ok outcome => Console.carryOut outcome
