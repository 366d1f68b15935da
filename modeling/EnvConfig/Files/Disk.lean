import EnvConfig.Import.Library
import EnvConfig.Text.Basic
import EnvConfig.Text.Segment
import EnvConfig.Text.Utf8

/-!
# Files as a source of modules

A path is a text with slashes between the names of directories.  It is taken as it is written:
only at the end of a directory's path are slashes and single dots left out.

A disk gives the bytes at a path or refuses.  As a library it looks for a module under a root; a
built-in module steps in when the file cannot be opened, but not when it can and has no text.

* `Path.join`: a path inside a directory; an absolute path stays as it is;
* `Path.directory`: the directory around a file;
* `Path.ofModule`: where a module lies under the root of imports;
* `Disk.library`: the modules under a root.
-/

namespace EnvConfig

open Text

namespace Path

def isAbsolute (path : String) : Bool := path.toList.head? == some '/'

/-- the path `path` seen from `base` -/
def join (base path : String) : String :=
  if isAbsolute path then path
  else if base = "" || base.toList.getLast? == some '/' then base ++ path
  else base ++ "/" ++ path

/-- a path, read from its end, without slashes and single dots there; the slash of the top stays -/
def withoutIdleEnd : List Char → List Char
  | ['/'] => ['/']
  | '/' :: cs => withoutIdleEnd cs
  | '.' :: '/' :: cs => withoutIdleEnd ('/' :: cs)
  | cs => cs

/-- the directory that the last name of a path is in -/
def directory (path : String) : String :=
  String.ofList (withoutIdleEnd (dropEndWhile (· != '/') path.toList).reverse).reverse

/-- the part of a path after its last slash -/
def fileName (path : String) : String := String.ofList (lastSegment (· == '/') path.toList)

/-- what the paths of the well-known modules begin with -/
def wellKnown : String := "google/protobuf/"

/-- where a module lies under `root`; well-known modules have a place of their own -/
def ofModule (root module : String) : String :=
  if wellKnown.toList.isPrefixOf module.toList then
    join (join (join root "protobuf") "src") module
  else join root module

end Path

structure Disk where
  read : String → Except AccessError (List UInt8)
  /-- the bytes of every file that `read` can give -/
  contents : List (List UInt8)
  mem_contents : ∀ path bytes, read path = .ok bytes → bytes ∈ contents

namespace Disk

/-- the bytes as a text -/
def textOf (bytes : List UInt8) : Except AccessError String :=
  match Utf8.decode bytes with
  | .ok text => .ok text
  | .error _ => .error .notText

/-- the text of the file at `path` -/
def readText (disk : Disk) (path : String) : Except AccessError String :=
  (disk.read path).bind textOf

/-- the text of a module under `root` -/
def fetch (disk : Disk) (root module : String) : Except AccessError String :=
  match disk.read (Path.ofModule root module) with
  | .ok bytes => textOf bytes
  | .error reason =>
    if reason.atOpening then
      match Builtin.text? module with
      | some text => .ok text
      | none => .error reason
    else .error reason

/-- the texts among the contents of the disk, and the built-in one -/
def texts (disk : Disk) : List String :=
  Builtin.wrappers :: disk.contents.filterMap fun bytes => (textOf bytes).toOption

theorem mem_texts_of_fetch {disk : Disk} {root module text : String}
    (h : disk.fetch root module = .ok text) : text ∈ disk.texts := by
  unfold fetch at h
  split at h
  · rename_i bytes hread
    refine List.mem_cons_of_mem _ (List.mem_filterMap.mpr ⟨bytes, disk.mem_contents _ _ hread, ?_⟩)
    rw [h]
    rfl
  · split at h
    · split at h
      · rename_i t ht
        cases h
        unfold Builtin.text? at ht
        split at ht
        · cases ht; exact List.mem_cons_self
        · cases ht
      · cases h
    · cases h

/-- the modules under `root` -/
def library (disk : Disk) (root : String) : Library where
  fetch := disk.fetch root
  texts := disk.texts
  mem_texts _ _ h := mem_texts_of_fetch h

end Disk

end EnvConfig
