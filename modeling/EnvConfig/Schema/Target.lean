import EnvConfig.Text.Basic
import EnvConfig.Text.Case
import EnvConfig.Text.Segment

/-!
# Targets

A target is a runtime that a configuration is loaded in (`go`, `java`, `rust`, …).  A message or a
field is meant for all targets or for some (`Targets`).

* `Target.of`: the target that an identifier names, without regard to case and outer blanks;
* `Target.ofName?`: the target of a name of the form `<runtime>agent`, where underscores do not
  count: `javaagent`, `java_agent` and `JavaAgent` are all for `java`.
-/

namespace EnvConfig

open Text

structure Target where
  id : String
deriving Repr, DecidableEq

def Target.of (id : String) : Target := ⟨lowercase (trim id)⟩

/-- the runtimes that a name can end in `agent` after -/
def Target.known : List String :=
  ["go", "java", "python", "nodejs", "node", "php", "dotnet", "ruby", "rust", "cpp"]

/-- `name` without underscores, each character in lower case by itself -/
def Target.plainName (name : String) : List Char :=
  (name.toList.filter (· != '_')).flatMap toLower

def Target.ofName? (name : String) : Option Target :=
  match withoutEnd? "agent".toList (plainName name) with
  | some runtime =>
    if String.ofList runtime ∈ known then some (of (String.ofList runtime)) else none
  | none => none

/-- the targets that something is meant for; the listed ones are in order, each once -/
inductive Targets where
  | all
  | only (ids : List Target)
deriving Repr, DecidableEq

namespace Targets

/-- `t` among targets in order -/
def insert (t : Target) : List Target → List Target
  | [] => [t]
  | u :: us =>
    if t.id < u.id then t :: u :: us else if t.id = u.id then u :: us else u :: insert t us

theorem mem_insert {t u : Target} {us : List Target} : u ∈ insert t us ↔ u = t ∨ u ∈ us := by
  induction us with
  | nil => simp [insert]
  | cons v us ih =>
    unfold insert
    split
    · simp
    · split
      · rename_i h
        have : t = v := by cases t; cases v; simp_all
        subst this
        simp
      · simp only [List.mem_cons, ih]
        constructor
        · rintro (h | h | h) <;> simp [h]
        · rintro (h | h | h) <;> simp [h]

/-- the targets that the identifiers name -/
def ofIds (ids : List String) : Targets :=
  only (ids.foldl (fun us id => insert (.of id) us) [])

def includes : Targets → Target → Bool
  | all, _ => true
  | only ids, t => ids.contains t

theorem includes_all (t : Target) : all.includes t = true := rfl

theorem includes_only {ids : List Target} {t : Target} :
    (only ids).includes t = true ↔ t ∈ ids := by simp [includes]

/-- the targets in a text that lists identifiers with commas between them -/
def ofList (text : String) : Targets :=
  ofIds (((segments ',' text.toList).map trimmed).filter (!·.isEmpty) |>.map String.ofList)

/-- the target of the first name that is for one, else all -/
def ofNames (names : List String) : Targets :=
  match names.findSome? Target.ofName? with
  | some t => only [t]
  | none => all

end Targets

end EnvConfig
