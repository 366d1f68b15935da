import EnvConfig.Entries
import EnvConfig.Environment.Setting
import EnvConfig.Number.Binary

/-!
# The configuration of a service

A service as a record of its own: wrappers and nested messages are options, enums are numbers.  Its
fields are filled in the order of their declaration: the tags before the options, the reporting and
the accent.  An unknown colour stops the loading, and what was filled before stays filled.

* `Color.ofSymbol?`, `Color.ofNumber?`: the colours by their symbols and numbers;
* `Service.load`, `Service.fromEnvironment`: a service filled from the environment.
-/

namespace EnvConfig

open Number

inductive Color where
  | red
  | green
  | blue
deriving Repr, DecidableEq

namespace Color

def symbol : Color → String
  | red => "RED"
  | green => "GREEN"
  | blue => "BLUE"

def number : Color → Int32
  | red => 0
  | green => 1
  | blue => 2

def all : List Color := [red, green, blue]

def ofSymbol? (symbol : String) : Option Color := all.find? (·.symbol == symbol)

def ofNumber? (n : Int32) : Option Color := all.find? (·.number == n)

theorem ofSymbol?_symbol (c : Color) : ofSymbol? c.symbol = some c := by cases c <;> decide

theorem ofNumber?_number (c : Color) : ofNumber? c.number = some c := by cases c <;> decide

/-- the number of the colour with a symbol -/
def numberOf? (symbol : String) : Option Int32 := (ofSymbol? symbol).map number

end Color

structure Reporting where
  endpoint : String
  port : Option UInt32
  secure : Bool
  sampleRatio : Double
deriving Repr, DecidableEq

structure Service where
  name : String
  timeout : Option Int32
  tags : List Int32
  opts : Entries String
  reporting : Option Reporting
  accent : Int32
deriving Repr, DecidableEq

def Reporting.empty : Reporting := ⟨"", none, false, .zero⟩

def Service.empty : Service := ⟨"", none, [], [], none, 0⟩

/-- the service with `news` put into its options, over what was there -/
def Service.putAllOpts (s : Service) (news : Entries String) : Service :=
  { s with opts := s.opts.insertAll news }

/-! ### loading -/

/-- a service after loading, and why the loading stopped if it did -/
structure Loaded where
  service : Service
  error? : Option UnknownSymbol

/-- what a field holds after a loading without a readable variable, for a value with a zero -/
def keptOr {α : Type} (isZero : α → Bool) (current : α) (default : Option α) : α :=
  if isZero current then
    match default with
    | some d => if isZero d then current else d
    | none => current
  else current

namespace Reporting

def load (env : Environment) (lead : String) (defaults : Option Reporting) (r : Reporting) :
    Reporting where
  endpoint := (env.text? (lead ++ "ENDPOINT")).getD
    (keptOr (· == "") r.endpoint (defaults.map (·.endpoint)))
  port := (env.uint32? (lead ++ "PORT")).or
    (r.port.or (some ((defaults.bind (·.port)).getD 0)))
  secure := (env.flag? (lead ++ "SECURE")).getD (keptOr (!·) r.secure (defaults.map (·.secure)))
  sampleRatio := (env.double? (lead ++ "SAMPLE_RATIO")).getD
    (keptOr Double.isZero r.sampleRatio (defaults.map (·.sampleRatio)))

end Reporting

namespace Service

/-- the tags after loading -/
def loadTags (env : Environment) (lead : String) (defaults : Option Service) (s : Service) :
    Except UnknownSymbol (List Int32) :=
  match env.items? (lead ++ "TAGS") with
  | some symbols => resolveSymbols (lead ++ "TAGS") Color.numberOf? symbols
  | none => .ok (keptOr List.isEmpty s.tags (defaults.map (·.tags)))

/-- the accent after loading -/
def loadAccent (env : Environment) (lead : String) (defaults : Option Service) (s : Service) :
    Except UnknownSymbol Int32 :=
  match env.text? (lead ++ "ACCENT") with
  | some symbol => resolveSymbol (lead ++ "ACCENT") Color.numberOf? symbol
  | none => .ok (keptOr (· == 0) s.accent (defaults.map (·.accent)))

/-- the service with its name and timeout filled -/
def loadHead (env : Environment) (lead : String) (defaults : Option Service) (s : Service) :
    Service :=
  { s with
    name := (env.text? (lead ++ "NAME")).getD (keptOr (· == "") s.name (defaults.map (·.name)))
    timeout := (env.int32? (lead ++ "TIMEOUT")).or
      (s.timeout.or (some ((defaults.bind (·.timeout)).getD 0))) }

/-- the service with its options and reporting filled -/
def loadBody (env : Environment) (lead : String) (defaults : Option Service) (s : Service) :
    Service :=
  { s with
    opts := match defaults with
      | some d => s.opts.insertAbsent d.opts
      | none => s.opts
    reporting := some ((s.reporting.getD .empty).load env (lead ++ "REPORTING_")
      (defaults.bind (·.reporting))) }

/-- fills a service from the environment -/
def load (env : Environment) (lead : String) (defaults : Option Service) (s : Service) : Loaded :=
  let s := s.loadHead env lead defaults
  match s.loadTags env lead defaults with
  | .error e => ⟨s, some e⟩
  | .ok tags =>
    let s := { s with tags := tags }.loadBody env lead defaults
    match s.loadAccent env lead defaults with
    | .error e => ⟨s, some e⟩
    | .ok accent => ⟨{ s with accent := accent }, none⟩

/-- a new service filled from the environment -/
def fromEnvironment (env : Environment) (lead : String) (defaults : Option Service) :
    Except UnknownSymbol Service :=
  let loaded := empty.load env lead defaults
  match loaded.error? with
  | none => .ok loaded.service
  | some e => .error e

end Service

end EnvConfig
