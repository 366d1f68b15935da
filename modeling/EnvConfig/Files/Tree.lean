import EnvConfig.Files.Disk

/-!
# Trees of files

A tree holds directories and files, and one of its directories is the working directory.  What is
in it is told apart by the names on the way down from the top.  A path is walked name by name, from
the top if it is absolute and from the working directory if not; there is nothing above the top.

* `FileTree.locate`: what a path leads to;
* `FileTree.read`, `FileTree.write`: the bytes at a path, and the tree with other bytes there.
-/

namespace EnvConfig

open Text

structure FileTree where
  /-- the names of the working directory -/
  here : List String
  directories : List (List String)
  files : List (List String × List UInt8)
deriving Repr, DecidableEq

/-- what a path leads to -/
inductive Place where
  | directory (names : List String)
  | file (names : List String) (bytes : List UInt8)
deriving Repr, DecidableEq

namespace FileTree

/-- nothing but a working directory -/
def empty (here : List String) : FileTree := ⟨here, [], []⟩

/-- the working directory and those around it are always there -/
def hasDirectory (tree : FileTree) (names : List String) : Bool :=
  names.isPrefixOf tree.here || tree.directories.contains names

/-- the bytes of the file with these names -/
def bytes? (tree : FileTree) (names : List String) : Option (List UInt8) :=
  (tree.files.find? (·.1 == names)).map (·.2)

/-- the greatest length of a name, in bytes -/
def longestName : Nat := 255

/-- the name, in UTF-8, is no longer than a name may be -/
def fits (name : String) : Bool := name.utf8ByteSize ≤ longestName

/-- the greatest length of a path, in bytes -/
def longestPath : Nat := 4095

/-- why a path is refused before anything is looked up -/
def refusal? (path : String) : Option AccessError :=
  if path.toList.contains (Char.ofNat 0) then some .unusablePath
  else if longestPath < path.utf8ByteSize then some .nameTooLong
  else if path = "" then some .notFound
  else none

/-- goes on from the directory `names` by the names of a path -/
def walk (tree : FileTree) (names : List String) : List String → Except AccessError Place
  | [] => .ok (.directory names)
  | name :: rest =>
    if name = "" ∨ name = "." then walk tree names rest
    else if name = ".." then walk tree names.dropLast rest
    else if !fits name then .error .nameTooLong
    else if tree.hasDirectory (names ++ [name]) then walk tree (names ++ [name]) rest
    else match tree.bytes? (names ++ [name]) with
      | some bytes =>
        if rest.isEmpty then .ok (.file (names ++ [name]) bytes) else .error .notDirectory
      | none => .error .notFound

/-- the names in a path -/
def namesOf (path : String) : List String := (segments '/' path.toList).map String.ofList

/-- the directory where a path begins -/
def start (tree : FileTree) (path : String) : List String :=
  if Path.isAbsolute path then [] else tree.here

/-- what is at a path -/
def locate (tree : FileTree) (path : String) : Except AccessError Place :=
  match refusal? path with
  | some reason => .error reason
  | none => tree.walk (tree.start path) (namesOf path)

/-- the bytes of the file at a path -/
def read (tree : FileTree) (path : String) : Except AccessError (List UInt8) :=
  match tree.locate path with
  | .ok (.file _ bytes) => .ok bytes
  | .ok (.directory _) => .error .isDirectory
  | .error reason => .error reason

theorem mem_of_walk {tree : FileTree} {start path names : List String} {bytes : List UInt8}
    (h : tree.walk start path = .ok (.file names bytes)) : (names, bytes) ∈ tree.files := by
  fun_induction walk tree start path with
  | case1 => cases h
  | case2 start name rest _ ih => exact ih h
  | case3 start rest _ ih => exact ih h
  | case4 => cases h
  | case5 start name rest _ _ _ _ ih => exact ih h
  | case6 start name rest _ _ _ _ b hb _ =>
    simp only [Except.ok.injEq, Place.file.injEq] at h
    obtain ⟨rfl, rfl⟩ := h
    obtain ⟨entry, hentry, rfl⟩ := Option.map_eq_some_iff.mp hb
    have hnames := List.find?_some hentry
    simp only [beq_iff_eq] at hnames
    rw [← hnames]
    exact List.mem_of_find?_eq_some hentry
  | case7 => cases h
  | case8 => cases h

theorem mem_of_read {tree : FileTree} {path : String} {bytes : List UInt8}
    (h : tree.read path = .ok bytes) : bytes ∈ tree.files.map (·.2) := by
  unfold read at h
  split at h
  · rename_i names b hloc
    cases h
    unfold locate at hloc
    split at hloc
    · cases hloc
    · exact List.mem_map_of_mem (mem_of_walk hloc)
  · cases h
  · cases h

/-- the tree as a source of modules -/
def disk (tree : FileTree) : Disk where
  read := tree.read
  contents := tree.files.map (·.2)
  mem_contents _ _ h := mem_of_read h

/-- the tree with other bytes in the file with these names -/
def put (tree : FileTree) (names : List String) (bytes : List UInt8) : FileTree :=
  { tree with files := (names, bytes) :: tree.files.filter (·.1 != names) }

/-- the tree with the directories around these names -/
def withParents (tree : FileTree) (names : List String) : FileTree :=
  { tree with directories := (List.range names.length).map names.take ++ tree.directories }

/-- the tree with other bytes at a path; the directory of the path has to be there -/
def write (tree : FileTree) (path : String) (bytes : List UInt8) : Except AccessError FileTree :=
  match refusal? path with
  | some reason => .error reason
  | none =>
    let name := (namesOf path).getLast?.getD ""
    match tree.walk (tree.start path) (namesOf path).dropLast with
    | .error reason => .error reason
    | .ok (.file _ _) => .error .notDirectory
    | .ok (.directory parent) =>
      if name = "" ∨ name = "." ∨ name = ".." then .error .isDirectory
      else if !fits name then .error .nameTooLong
      else if tree.hasDirectory (parent ++ [name]) then .error .isDirectory
      else .ok (tree.put (parent ++ [name]) bytes)

end FileTree

end EnvConfig
