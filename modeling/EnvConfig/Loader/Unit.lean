import EnvConfig.Loader.FieldClass
import EnvConfig.Naming.Words

/-!
# Loader procedures

Every message of the root file that is for a target becomes a procedure: one statement for each
field that is loaded, in the order of the fields.  A statement names its field and the fragment
that the field adds to the names of variables; no two statements of a procedure have the same
fragment.

* `Procedure.emit`, `LoaderUnit.emit`: the procedure of a message, and those of a schema.
-/

namespace EnvConfig

/-- a field as a statement sees it -/
structure Slot where
  name : String
  fragment : String
deriving Repr, DecidableEq

def Field.slot (f : Field) : Slot := ⟨f.name, Naming.fragment f.name⟩

/-- the symbols of an enum, in order -/
structure SymbolTable where
  name : String
  symbols : List Symbol
deriving Repr, DecidableEq

def Enum.table (e : Enum) : SymbolTable := ⟨e.name, e.symbols⟩

inductive Statement where
  | scalar (slot : Slot) (kind : ScalarKind)
  | wrapper (slot : Slot) (shape : WrapperShape)
  | enum (slot : Slot) (table : SymbolTable)
  | enumList (slot : Slot) (table : SymbolTable)
  | nested (slot : Slot) (message : String)
  | mergeMap (slot : Slot)
deriving Repr, DecidableEq

def Statement.slot : Statement → Slot
  | scalar slot _ | wrapper slot _ | enum slot _ | enumList slot _ | nested slot _
  | mergeMap slot => slot

structure Procedure where
  message : String
  statements : List Statement
deriving Repr, DecidableEq

/-- the slot of a statement that fills a map -/
def Statement.mapSlot? : Statement → Option Slot
  | mergeMap slot => some slot
  | _ => none

/-- the maps that values can be put into after loading -/
def Procedure.mapMutators (p : Procedure) : List Slot := p.statements.filterMap Statement.mapSlot?

theorem Procedure.mergeMap_of_mem_mapMutators {p : Procedure} {slot : Slot}
    (h : slot ∈ p.mapMutators) : .mergeMap slot ∈ p.statements := by
  obtain ⟨s, hs, hslot⟩ := List.mem_filterMap.mp h
  cases s with
  | mergeMap slot' =>
    cases hslot
    exact hs
  | _ => cases hslot

/-- the procedures of one schema file, in the order of its messages -/
structure LoaderUnit where
  source : String
  procedures : List Procedure
deriving Repr, DecidableEq

def LoaderUnit.procedure? (u : LoaderUnit) (message : String) : Option Procedure :=
  u.procedures.find? (·.message == message)

/-- the statement for a field of this class, if it is loaded -/
def FieldClass.statement? (slot : Slot) : FieldClass → Option Statement
  | skipped _ | repeatedOther => none
  | scalar kind => some (.scalar slot kind)
  | wrapper shape => some (.wrapper slot shape)
  | enum e => some (.enum slot e.table)
  | repeatedEnum e => some (.enumList slot e.table)
  | nested m => some (.nested slot m.name)
  | stringMap => some (.mergeMap slot)

/-- the statements for the fields of a message that come after the statements `before` -/
def statementsFrom (set : SchemaSet) (message : String) (t : Target) (before : List Statement) :
    List Field → Except EmitError (List Statement)
  | [] => .ok []
  | f :: fs =>
    match f.classify set message t with
    | .error e => .error e
    | .ok c =>
      match c.statement? f.slot with
      | none => statementsFrom set message t before fs
      | some s =>
        match before.find? (·.slot.fragment == s.slot.fragment) with
        | some first =>
          .error (.sameVariable message s.slot.fragment first.slot.name f.name)
        | none => (statementsFrom set message t (s :: before) fs).map (s :: ·)

def Procedure.emit (set : SchemaSet) (t : Target) (m : Message) : Except EmitError Procedure :=
  (statementsFrom set m.name t [] m.fields).map fun statements => ⟨m.name, statements⟩

/-- the procedures of a schema for the target `t`; the first field without a loader is refused -/
def LoaderUnit.emit (set : SchemaSet) (t : Target) : Except EmitError LoaderUnit :=
  ((set.root.messages.filter (·.targets.includes t)).mapM (Procedure.emit set t)).map
    fun procedures => ⟨set.root.name, procedures⟩

end EnvConfig
