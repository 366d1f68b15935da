import EnvConfig.Entries
import EnvConfig.Number.Written
import EnvConfig.Text.Basic
import EnvConfig.Text.Segment

/-!
# Settings from the environment

The environment gives texts for names of variables.  A text is trimmed and then read as a flag, a
number or a list; a text that cannot be read as what is asked for counts as not being there.

* `Environment.text?`: the text of a variable, in a table of names or in the lines of a process;
* `Environment.text?_ofVariables`: a name without an equals sign means the same in both.
-/

namespace EnvConfig

open Text Number

/-- the variables that are set, with their texts -/
inductive Environment where
  | table (entries : Entries String)
  /-- each line is a name, an equals sign and the text -/
  | process (lines : List String)
deriving Repr, DecidableEq

/-- the words that mean yes, and those that mean no -/
def yesWords : List String := ["1", "t", "T", "TRUE", "true", "True"]
def noWords : List String := ["0", "f", "F", "FALSE", "false", "False"]

def flagOf? (raw : String) : Option Bool :=
  if trim raw ∈ yesWords then some true else if trim raw ∈ noWords then some false else none

def int32Of? (raw : String) : Option Int32 := (signedSetting? (trimmed raw.toList)).bind toInt32?
def int64Of? (raw : String) : Option Int64 := (signedSetting? (trimmed raw.toList)).bind toInt64?
def uint32Of? (raw : String) : Option UInt32 :=
  (unsignedSetting? (trimmed raw.toList)).bind toUInt32?
def uint64Of? (raw : String) : Option UInt64 :=
  (unsignedSetting? (trimmed raw.toList)).bind toUInt64?
def singleOf? (raw : String) : Option Single := singleSetting? (trimmed raw.toList)
def doubleOf? (raw : String) : Option Double := doubleSetting? (trimmed raw.toList)

/-- the items between commas, trimmed, without empty ones -/
def itemsOf (raw : String) : List String :=
  (((segments ',' raw.toList).map trimmed).filter (!·.isEmpty)).map String.ofList

namespace Environment

/-- the line of a process for a variable -/
def line (key text : String) : String := key ++ "=" ++ text

/-- the environment of a process with these variables -/
def ofVariables (es : Entries String) : Environment :=
  .process (es.map fun (key, text) => line key text)

/-- what comes in a line after `key` and an equals sign -/
def textIn? (key line : String) : Option String :=
  (after? (key.toList ++ ['=']) line.toList).map String.ofList

/-- The text of a variable.  A table is asked for the whole name.  A line is asked whether it begins
with the name and an equals sign, so that a name with an equals sign in it reaches into a text; a
process has no variable with the empty name. -/
def text? (env : Environment) (key : String) : Option String :=
  match env with
  | table es => es.get? key
  | process ls => if key = "" then none else ls.findSome? (textIn? key)

theorem toList_line (key text : String) :
    (line key text).toList = key.toList ++ '=' :: text.toList := by
  simp [line, String.toList_append]

theorem textIn?_line (key text : String) : textIn? key (line key text) = some text := by
  have h : key.toList ++ '=' :: text.toList = (key.toList ++ ['=']) ++ text.toList := by simp
  rw [textIn?, toList_line, h, after?_append]
  simp

/-- a line is not that of another name when neither name holds an equals sign -/
theorem textIn?_line_of_ne {key other : String} (text : String) (hkey : '=' ∉ key.toList)
    (hother : '=' ∉ other.toList) (h : other ≠ key) : textIn? key (line other text) = none := by
  rw [textIn?, toList_line,
    after?_of_ne text.toList hkey hother fun he => h (String.toList_inj.mp he)]
  rfl

/-- a process has the same text for a name as a table, if no name holds an equals sign -/
theorem text?_ofVariables {es : Entries String} {key : String} (hne : key ≠ "")
    (hkey : '=' ∉ key.toList) (hnames : ∀ e ∈ es, '=' ∉ e.1.toList) :
    (ofVariables es).text? key = (table es).text? key := by
  simp only [text?, ofVariables, if_neg hne]
  induction es with
  | nil => rfl
  | cons e es ih =>
    obtain ⟨name, text⟩ := e
    have ih := ih fun e he => hnames e (List.mem_cons_of_mem _ he)
    rw [List.map_cons, List.findSome?_cons, Entries.get?_cons]
    by_cases h : name = key
    · subst h
      rw [textIn?_line, if_pos rfl]
    · rw [textIn?_line_of_ne text hkey (hnames _ List.mem_cons_self) h, if_neg h]
      exact ih

/-- the length of the longest name that can have a text -/
def longestKey : Environment → Nat
  | table es => (es.map (·.1.length)).foldl max 0
  | process ls => (ls.map String.length).foldl max 0

def flag? (env : Environment) (key : String) : Option Bool := (env.text? key).bind flagOf?
def int32? (env : Environment) (key : String) : Option Int32 := (env.text? key).bind int32Of?
def int64? (env : Environment) (key : String) : Option Int64 := (env.text? key).bind int64Of?
def uint32? (env : Environment) (key : String) : Option UInt32 := (env.text? key).bind uint32Of?
def uint64? (env : Environment) (key : String) : Option UInt64 := (env.text? key).bind uint64Of?
def single? (env : Environment) (key : String) : Option Single := (env.text? key).bind singleOf?
def double? (env : Environment) (key : String) : Option Double := (env.text? key).bind doubleOf?
def items? (env : Environment) (key : String) : Option (List String) := (env.text? key).map itemsOf

end Environment

/-- a variable holds a symbol that its enum does not have -/
structure UnknownSymbol where
  key : String
  symbol : String
deriving Repr, DecidableEq

def UnknownSymbol.message (e : UnknownSymbol) : String :=
  "Environment variable " ++ e.key ++ " holds unknown enum symbol \"" ++ e.symbol ++ "\""

/-- the number that `numberOf` has for a symbol read from the variable `key` -/
def resolveSymbol (key : String) (numberOf : String → Option Int32) (symbol : String) :
    Except UnknownSymbol Int32 :=
  match numberOf (trim symbol) with
  | some n => .ok n
  | none => .error ⟨key, symbol⟩

/-- the numbers of several symbols; the first unknown one is refused -/
def resolveSymbols (key : String) (numberOf : String → Option Int32) :
    List String → Except UnknownSymbol (List Int32)
  | [] => .ok []
  | s :: ss =>
    match resolveSymbol key numberOf s with
    | .error e => .error e
    | .ok n => (resolveSymbols key numberOf ss).map (n :: ·)

end EnvConfig
