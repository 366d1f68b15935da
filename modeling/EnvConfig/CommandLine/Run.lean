import EnvConfig.CommandLine.Arguments
import EnvConfig.CommandLine.Json
import EnvConfig.Files.Tree
import EnvConfig.Generation
import EnvConfig.Import.Loading

/-!
# A run of the command line

A run reads a schema from a disk and shows it, or generates a file from it.  What it does to the
disk is one file to be written at most (`Outcome`), and none if anything goes wrong before.

* `SchemaSet.ofDisk`: the schema at a path, with the modules that it imports;
* `Arguments.run`: what a run does;
* `Arguments.runOn`: the same with a tree of files, the writing included;
* `Session`, `Arguments.execute`: a run as steps on a tree;
* `Arguments.execute_eq`: it is the run of `Arguments.runOn`, the tree kept where that fails.
-/

namespace EnvConfig

/-- why a run fails -/
inductive RunError where
  | unopened (path : String) (reason : AccessError)
  | unloaded (error : LoadError)
  | ungenerated (error : GenerationError)
  | unwritten (path : String) (reason : AccessError)
deriving Repr, DecidableEq

def RunError.message : RunError → String
  | unopened path reason => "Unable to open the proto file " ++ path ++ ": " ++ reason.message
  | unloaded e => e.message
  | ungenerated e => e.message
  | unwritten path reason => "Failed to write " ++ path ++ ": " ++ reason.message

/-- the directory that imports are looked for in: the given one, or that of the schema -/
def importRoot (schema : String) (protoPath : Option String) : String :=
  protoPath.getD (Path.directory schema)

/-- the schema at a path, loaded under the name of its file -/
def SchemaSet.ofDisk (disk : Disk) (schema : String) (protoPath : Option String) :
    Except RunError SchemaSet :=
  match disk.readText schema with
  | .error reason => .error (.unopened schema reason)
  | .ok text =>
    (load (Path.fileName schema) text (disk.library (importRoot schema protoPath))).mapError
      .unloaded

/-- what a run does when nothing goes wrong -/
inductive Outcome where
  | usage
  | dumped (text : String)
  | generated (path content : String)
deriving Repr, DecidableEq

/-- what a run does; `format` may fail -/
def Arguments.run (a : Arguments) (disk : Disk) (format : String → Except FormatError String) :
    Except RunError Outcome :=
  match a.schema with
  | none => .ok .usage
  | some schema =>
    match SchemaSet.ofDisk disk schema a.protoPath with
    | .error e => .error e
    | .ok set =>
      if a.dumpSchema then .ok (.dumped set.json.pretty)
      else
        match set.generate a.language a.target (if a.format then format else .ok) with
        | .error e => .error (.ungenerated e)
        | .ok file => .ok (.generated (Path.join a.outDir file.fileName) file.content)

/-- what a run does on a tree of files, and the tree after it -/
def Arguments.runOn (a : Arguments) (tree : FileTree)
    (format : String → Except FormatError String) : Except RunError (Outcome × FileTree) :=
  match a.run tree.disk format with
  | .error e => .error e
  | .ok (.generated path content) =>
    match tree.write path content.toUTF8.toList with
    | .error reason => .error (.unwritten path reason)
    | .ok after => .ok (.generated path content, after)
  | .ok outcome => .ok (outcome, tree)

/-! ### steps -/

/-- steps on a tree of files; one that fails stops them, and the tree stays as it is then -/
abbrev Session (α : Type) := ExceptT RunError (StateM FileTree) α

namespace Session

variable {α β : Type}

/-- the result of the steps from a tree, and the tree after them -/
def on (s : Session α) (tree : FileTree) : Except RunError α × FileTree := s.run.run tree

theorem on_bind (s : Session α) (next : α → Session β) (tree : FileTree) :
    (s >>= next).on tree = match s.on tree with
      | (.error e, after) => (.error e, after)
      | (.ok a, after) => (next a).on after := by
  show ((ExceptT.bindCont next) (s.on tree).1).run (s.on tree).2 = _
  rcases s.on tree with ⟨_ | a, after⟩
  · rfl
  · rfl

/-- a step that looks at the tree and does nothing else -/
def look (f : FileTree → Except RunError α) : Session α := do
  let tree ← get
  match f tree with
  | .error e => throw e
  | .ok a => return a

theorem on_look (f : FileTree → Except RunError α) (tree : FileTree) :
    (look f).on tree = (f tree, tree) := by
  show (match f tree with
    | .error e => (throw e : Session α)
    | .ok a => pure a).on tree = _
  cases f tree with
  | error e => rfl
  | ok a => rfl

/-- the schema at a path, with the modules that it imports -/
def load (schema : String) (protoPath : Option String) : Session SchemaSet :=
  look fun tree => SchemaSet.ofDisk tree.disk schema protoPath

def write (path content : String) : Session Unit := do
  let tree ← get
  match tree.write path content.toUTF8.toList with
  | .error reason => throw (RunError.unwritten path reason)
  | .ok after => set after

theorem on_write (path content : String) (tree : FileTree) :
    (write path content).on tree = match tree.write path content.toUTF8.toList with
      | .error reason => (.error (.unwritten path reason), tree)
      | .ok after => (.ok (), after) := by
  show (match tree.write path content.toUTF8.toList with
    | .error reason => (throw (RunError.unwritten path reason) : Session Unit)
    | .ok after => set after).on tree = _
  cases tree.write path content.toUTF8.toList with
  | error reason => rfl
  | ok after => rfl

end Session

namespace Arguments

/-- the file of loaders that a run is asked for -/
def generate (a : Arguments) (set : SchemaSet) (format : String → Except FormatError String) :
    Except GenerationError Generated :=
  set.generate a.language a.target (if a.format then format else .ok)

/-- a run, step by step -/
def execute (a : Arguments) (format : String → Except FormatError String) : Session Outcome :=
  match a.schema with
  | none => return .usage
  | some schema => do
    let set ← Session.load schema a.protoPath
    if a.dumpSchema then return .dumped set.json.pretty
    else
      let file ← Session.look fun _ => (a.generate set format).mapError .ungenerated
      Session.write (Path.join a.outDir file.fileName) file.content
      return .generated (Path.join a.outDir file.fileName) file.content

/-- The steps of a run come to what a run does; where it fails the tree is the one it began with. -/
theorem execute_eq (a : Arguments) (format : String → Except FormatError String)
    (tree : FileTree) :
    (a.execute format).on tree = match a.runOn tree format with
      | .error e => (.error e, tree)
      | .ok (outcome, after) => (.ok outcome, after) := by
  unfold execute runOn run
  cases a.schema with
  | none => rfl
  | some schema =>
    simp only [Session.on_bind, Session.load, Session.on_look]
    cases SchemaSet.ofDisk tree.disk schema a.protoPath with
    | error e => rfl
    | ok set =>
      by_cases hdump : a.dumpSchema = true
      · simp only [hdump, if_true]
        rfl
      · simp only [hdump, Bool.false_eq_true, if_false, Session.on_bind, Session.on_look,
          Session.on_write, generate]
        cases set.generate a.language a.target (if a.format then format else .ok) with
        | error e => rfl
        | ok file =>
          have hfile : (Except.ok file : Except GenerationError Generated).mapError
              RunError.ungenerated = .ok file := rfl
          simp only [hfile]
          cases tree.write (Path.join a.outDir file.fileName) file.content.toUTF8.toList with
          | error reason => rfl
          | ok after => rfl

end Arguments

end EnvConfig
