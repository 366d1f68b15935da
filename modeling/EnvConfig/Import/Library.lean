import EnvConfig.Schema.Kind

/-!
# Libraries of modules

A library gives the text of a module for its import path, or refuses.  All the texts it can give
are listed, so that loading from it comes to an end.

The schema of the wrapper messages is known without being given.  Its messages stand at fixed
lines, six lines apart, because positions in it can show.

* `AccessError`: the refusals of a library, of a tree of files and of a system that runs programs;
* `Builtin.text?`: the modules that are always there;
* `Library.given`: modules held in memory, and the built-in ones after them.
-/

namespace EnvConfig

/-! ### refusals

Some arise when a file is opened, others only when it is read: a directory can be opened, and so can
a file whose bytes are no text. -/

/-- why something cannot be read, written or run -/
inductive AccessError where
  /-- no module of this name has been given -/
  | noModule (name : String)
  | notFound
  | notDirectory
  | isDirectory
  | nameTooLong
  /-- the path holds a NUL -/
  | unusablePath
  /-- a word of a command holds a NUL -/
  | unusableWord
  /-- what is there may not be used in this way -/
  | denied
  /-- a program reads no more of what it is given -/
  | brokenPipe
  /-- the bytes are not the UTF-8 form of a text -/
  | notText
  /-- another refusal of the system -/
  | other (text : String)
deriving Repr, DecidableEq

namespace AccessError

def message : AccessError → String
  | noModule name => "no module " ++ name
  | notFound => "No such file or directory (os error 2)"
  | notDirectory => "Not a directory (os error 20)"
  | isDirectory => "Is a directory (os error 21)"
  | nameTooLong => "File name too long (os error 36)"
  | unusablePath => "file name contained an unexpected NUL byte"
  | unusableWord => "nul byte found in provided data"
  | denied => "Permission denied (os error 13)"
  | brokenPipe => "Broken pipe (os error 32)"
  | notText => "stream did not contain valid UTF-8"
  | other text => text

/-- the refusal comes when a file is opened and not later -/
def atOpening : AccessError → Bool
  | isDirectory | notText => false
  | _ => true

end AccessError

/-! ### modules that are always there -/

namespace Builtin

/-- the module path of the wrapper messages -/
def wrappersPath : String := "google/protobuf/wrappers.proto"

/-- a message that wraps the declared type `type` -/
def wrapper (name type : String) : String :=
  "\n// Wrapper message for " ++ type ++ ".\nmessage " ++ name ++ " \x7b\n  " ++ type ++
    " value = 1;\n\x7d\n"

/-- what stands before the messages -/
def heading : String :=
  String.ofList (List.replicate 30 '\n') ++
  "syntax = \"proto3\";\n" ++
  "\n" ++
  "package google.protobuf;\n" ++
  "\n" ++
  "option csharp_namespace = \"Google.Protobuf.WellKnownTypes\";\n" ++
  "option cc_enable_arenas = true;\n" ++
  "option go_package = \"google.golang.org/protobuf/types/known/wrapperspb\";\n" ++
  "option java_package = \"com.google.protobuf\";\n" ++
  "option java_outer_classname = \"WrappersProto\";\n" ++
  "option java_multiple_files = true;\n" ++
  "option objc_class_prefix = \"GPB\";\n"

def wrappers : String :=
  heading ++
    String.join (Storage.all.map fun s => wrapper s.messageName s.scalar.declared) ++
    wrapper "BytesValue" "bytes"

/-- the text of a module that is always there -/
def text? (module : String) : Option String :=
  if module = wrappersPath then some wrappers else none

end Builtin

/-! ### libraries -/

structure Library where
  fetch : String → Except AccessError String
  /-- every text that `fetch` can give -/
  texts : List String
  mem_texts : ∀ module text, fetch module = .ok text → text ∈ texts

namespace Library

/-- the text of the first given module of this name -/
def find? (modules : List (String × String)) (name : String) : Option String :=
  (modules.find? (·.1 == name)).map (·.2)

theorem mem_of_find? {modules : List (String × String)} {name text : String}
    (h : find? modules name = some text) : text ∈ modules.map (·.2) := by
  simp only [find?, Option.map_eq_some_iff] at h
  obtain ⟨entry, hentry, rfl⟩ := h
  exact List.mem_map_of_mem (List.mem_of_find?_eq_some hentry)

/-- the given modules, and the built-in ones for names that are not given -/
def given (modules : List (String × String)) : Library where
  fetch name :=
    match (find? modules name).or (Builtin.text? name) with
    | some text => .ok text
    | none => .error (.noModule name)
  texts := Builtin.wrappers :: modules.map (·.2)
  mem_texts name text h := by
    split at h
    · rename_i t ht
      cases h
      rcases Option.or_eq_some_iff.mp ht with h | ⟨_, h⟩
      · exact List.mem_cons_of_mem _ (mem_of_find? h)
      · unfold Builtin.text? at h
        split at h
        · cases h; exact List.mem_cons_self
        · cases h
    · cases h

end Library

end EnvConfig
