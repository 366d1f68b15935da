import EnvConfig.Environment.Setting
import EnvConfig.Loader.Unit
import EnvConfig.Value.Basic

/-!
# Filling messages

Running a procedure fills the fields of a message one by one.  A field takes its variable if that
is set and can be read.  Otherwise

* a scalar, an enum or a list of enums keeps what it holds unless that is zero, then takes the
  default unless that is zero, and is zero at last;
* a wrapper keeps what it holds if it is set, then takes the default if that is set, and is zero
  at last;
* a nested message is made if it is unset, and its own procedure runs on it with a longer lead;
* a map gets the entries of the default whose keys it does not have.

A run stops at the first variable with an unknown symbol.  What was filled before stays filled,
except inside a nested message whose run stopped (`Population`).

`Statement.apply` is one step, `LoaderUnit.populateWithin` a run with at most so many procedures
inside each other, and `LoaderUnit.populate` a run that ends in every case in which it can end: once
the lead is longer than every variable no text is read any more, and then a procedure that is
inside itself stays there.
-/

namespace EnvConfig

/-- why a run stopped -/
inductive PopulationError where
  | unknownSymbol (error : UnknownSymbol)
  | noProcedure (message : String)
  /-- procedures run inside each other without end -/
  | endless
deriving Repr, DecidableEq

def PopulationError.message : PopulationError → String
  | unknownSymbol e => e.message
  | noProcedure name => "No loader procedure for message \"" ++ name ++ "\""
  | endless => "Loader procedures do not end"

/-- the value after a run, and why the run stopped if it did -/
structure Population where
  value : Value
  error? : Option PopulationError

/-- the value that a variable gives a scalar of this storage kind -/
def Environment.scalar? (env : Environment) (key : String) : Storage → Option Value
  | .double => (env.double? key).map .double
  | .float => (env.single? key).map .float
  | .int32 => (env.int32? key).map .int32
  | .int64 => (env.int64? key).map .int64
  | .uint32 => (env.uint32? key).map .uint32
  | .uint64 => (env.uint64? key).map .uint64
  | .bool => (env.flag? key).map .bool
  | .string => (env.text? key).map .string

/-- the value of a field of the defaults -/
def default? (defaults : Option Value) (field : String) : Option Value :=
  defaults.bind (·.get? field)

/-- `w` after a field with no readable variable: what is not zero stays, else the default if that
is not zero, else `zero` -/
def fallBack (w : Value) (field : String) (defaults : Option Value) (zero : Value) : Value :=
  if ((w.get? field).getD zero).isZero then
    w.set field (((default? defaults field).filter (!·.isZero)).getD zero)
  else w

/-- the entries of a field that is a map -/
def mapEntries (v : Option Value) : Entries String := (v.bind Value.asMap?).getD []

def SymbolTable.numberOf? (t : SymbolTable) (symbol : String) : Option Int32 :=
  EnvConfig.numberOf? t.symbols symbol

/-- runs a procedure on a value, with a lead and defaults -/
abbrev Run := String → Value → String → Option Value → Population

/-- the value after one statement -/
def Statement.apply (run : Run) (env : Environment) (lead : String) (defaults : Option Value)
    (w : Value) (s : Statement) : Except PopulationError Value :=
  let field := s.slot.name
  let key := lead ++ s.slot.fragment
  match s with
  | .scalar _ kind =>
    match env.scalar? key kind.storage with
    | some v => .ok (w.set field v)
    | none => .ok (fallBack w field defaults (.zero kind.storage))
  | .wrapper _ shape =>
    match env.scalar? key shape.scalar.storage with
    | some v => .ok (w.set field v)
    | none =>
      match w.get? field with
      | some _ => .ok w
      | none => .ok (w.set field ((default? defaults field).getD (.zero shape.scalar.storage)))
  | .enum _ table =>
    match env.text? key with
    | some symbol =>
      match resolveSymbol key table.numberOf? symbol with
      | .ok n => .ok (w.set field (.int32 n))
      | .error e => .error (.unknownSymbol e)
    | none => .ok (fallBack w field defaults (.int32 0))
  | .enumList _ table =>
    match env.items? key with
    | some symbols =>
      match resolveSymbols key table.numberOf? symbols with
      | .ok ns => .ok (w.set field (.list (ns.map .int32)))
      | .error e => .error (.unknownSymbol e)
    | none => .ok (fallBack w field defaults (.list []))
  | .nested _ message =>
    let p := run message ((w.get? field).getD (.empty message)) (key ++ "_")
      (default? defaults field)
    match p.error? with
    | none => .ok (w.set field p.value)
    | some e => .error e
  | .mergeMap _ =>
    .ok (w.set field (.map ((mapEntries (w.get? field)).insertAbsent
      (mapEntries (default? defaults field)))))

/-- the value after statements, up to the first that stops the run -/
def applyAll (run : Run) (env : Environment) (lead : String) (defaults : Option Value) (w : Value) :
    List Statement → Population
  | [] => ⟨w, none⟩
  | s :: ss =>
    match s.apply run env lead defaults w with
    | .ok w' => applyAll run env lead defaults w' ss
    | .error e => ⟨w, some e⟩

namespace LoaderUnit

/-- runs the procedure of `message`, with no more than `depth` procedures inside each other -/
def populateWithin (u : LoaderUnit) (env : Environment) : Nat → Run
  | 0, _, w, _, _ => ⟨w, some .endless⟩
  | depth + 1, message, w, lead, defaults =>
    match u.procedure? message with
    | none => ⟨w, some (.noProcedure message)⟩
    | some p => applyAll (u.populateWithin env depth) env lead defaults w p.statements

/-- as many procedures inside each other as a run that ends can have -/
def depthBound (u : LoaderUnit) (env : Environment) : Nat :=
  env.longestKey + u.procedures.length + 2

/-- runs the procedure of `message` on `w` -/
def populate (u : LoaderUnit) (env : Environment) : Run := u.populateWithin env (u.depthBound env)

end LoaderUnit

/-- `w` with `news` put into the map in `field`, over what was there -/
def Value.putAll (w : Value) (field : String) (news : Entries String) : Value :=
  w.set field (.map ((mapEntries (w.get? field)).insertAll news))

end EnvConfig
