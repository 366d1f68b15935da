import EnvConfig.Schema.Basic

/-!
# Schema sets and the names of types

A schema set is a root file and the files that it imports, directly or not.  A type name is
resolved in the scope of the file that holds it: with a leading dot it is a full name, otherwise
it is tried in the package of the file and in every package around that one, inside out.

* `SchemaSet.findFull`: the first definition of a full name, files in loading order;
* `SchemaSet.resolveFrom`: the definition that a name means in a file.

A search through finitely many names ends because each step takes a name that it has not taken
before: what is left of the names gets shorter (`length_remaining_cons_lt`).
-/

namespace EnvConfig

open Text

structure SchemaSet where
  root : File
  imports : List File
deriving Repr, DecidableEq

/-- a definition, with the file that holds it -/
inductive Definition where
  | message (file : File) (message : Message)
  | enum (file : File) (enum : Enum)
deriving Repr, DecidableEq

def Definition.message? : Definition → Option Message
  | message _ m => some m
  | enum _ _ => none

def Definition.enum? : Definition → Option Enum
  | enum _ e => some e
  | message _ _ => none

def Definition.file : Definition → File
  | message f _ => f
  | enum f _ => f

/-- the definition with the full name `full` in `f`; a message comes before an enum -/
def File.definition? (f : File) (full : String) : Option Definition :=
  ((f.messages.find? fun m => f.fullName m.name == full).map (.message f)).or
    ((f.enums.find? fun e => f.fullName e.name == full).map (.enum f))

/-- the scopes around a package, inside out: `a.b`, `a` and the empty one -/
def scopes (package : String) : List String :=
  let parts := segments '.' package.toList
  (List.range (parts.length + 1)).reverse.map fun n => String.ofList (join '.' (parts.take n))

/-- `name` in a scope -/
def qualified (scope name : String) : String := if scope = "" then name else scope ++ "." ++ name

namespace SchemaSet

/-- all files, the root first -/
def files (set : SchemaSet) : List File := set.root :: set.imports

def findFull (set : SchemaSet) (full : String) : Option Definition :=
  set.files.findSome? (·.definition? full)

/-- the name without its leading dot, for a name that has one -/
def absolute? (name : String) : Option String :=
  match name.toList with
  | '.' :: full => some (String.ofList full)
  | _ => none

/-- what `name` means in the file `f` -/
def resolveFrom (set : SchemaSet) (f : File) (name : String) : Option Definition :=
  match absolute? name with
  | some full => set.findFull full
  | none => (scopes (f.package.getD "")).findSome? fun scope => set.findFull (qualified scope name)

/-- what `name` means in the root file -/
def resolve (set : SchemaSet) (name : String) : Option Definition := set.resolveFrom set.root name

def resolveMessage (set : SchemaSet) (name : String) : Option Message :=
  (set.resolve name).bind Definition.message?

def resolveEnum (set : SchemaSet) (name : String) : Option Enum :=
  (set.resolve name).bind Definition.enum?

end SchemaSet

namespace FieldType

/-- the definition that a type means in the file `f`; a map means none -/
def definition? (set : SchemaSet) (f : File) : FieldType → Option Definition
  | named name => set.resolveFrom f name
  | map _ _ => none

end FieldType

/-! ### what is left of finitely many names -/

/-- the names that are not among `taken` -/
def remaining (names taken : List String) : List String := names.filter fun n => !taken.contains n

theorem remaining_cons (names taken : List String) (m : String) :
    remaining names (m :: taken) = (remaining names taken).filter fun n => !(n == m) := by
  unfold remaining
  rw [List.filter_filter]
  refine List.filter_congr fun n _ => ?_
  simp only [List.contains_cons, Bool.not_or]

theorem length_remaining_cons_lt {names taken : List String} {m : String} (hm : m ∈ names)
    (ht : taken.contains m = false) :
    (remaining names (m :: taken)).length < (remaining names taken).length := by
  rw [remaining_cons]
  refine List.length_filter_lt_length_iff_exists.mpr ⟨m, ?_, by simp⟩
  exact List.mem_filter.mpr ⟨hm, by rw [ht]; rfl⟩

end EnvConfig
