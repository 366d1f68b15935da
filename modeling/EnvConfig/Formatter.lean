import EnvConfig.Import.Library
import EnvConfig.Text.Basic
import EnvConfig.Text.Utf8

/-!
# Formatters

A formatter is a program that is given a text and writes another one.  What is made of the text
depends on how the program ended (`Ending`) and on nothing else that it does.

* `ExitStatus.text`: how the end of a program is told;
* `Command.formatted`: the formatted text, or why there is none.
-/

namespace EnvConfig

open Text

/-- a program with its arguments -/
structure Command where
  program : String
  args : List String
deriving Repr, DecidableEq

/-- how a program came to its end: by itself, with a code, or by a signal -/
inductive ExitStatus where
  | code (n : Nat)
  | signal (n : Nat) (coreDumped : Bool)
deriving Repr, DecidableEq

/-- the names of the signals from the first one on, without what they begin with -/
def signalNames : List String :=
  ["HUP", "INT", "QUIT", "ILL", "TRAP", "ABRT", "BUS", "FPE", "KILL", "USR1", "SEGV", "USR2",
    "PIPE", "ALRM", "TERM", "STKFLT", "CHLD", "CONT", "STOP", "TSTP", "TTIN", "TTOU", "URG", "XCPU",
    "XFSZ", "VTALRM", "PROF", "WINCH", "IO", "PWR", "SYS"]

/-- the name of a signal, none from the thirty-second on -/
def signalName? : Nat → Option String
  | 0 => none
  | n + 1 => (signalNames[n]?).map ("SIG" ++ ·)

def ExitStatus.text : ExitStatus → String
  | code n => "exit status: " ++ toString n
  | signal n coreDumped =>
    "signal: " ++ toString n ++
      (match signalName? n with
        | some name => " (" ++ name ++ ")"
        | none => "") ++
      if coreDumped then " (core dumped)" else ""

/-- how a program ended that was given a text -/
inductive Ending where
  | notStarted (reason : AccessError)
  /-- the program did not take the whole text -/
  | notFed (reason : AccessError)
  | ended (status : ExitStatus) (output errors : List UInt8)
deriving Repr, DecidableEq

/-- why a text has not been formatted -/
inductive FormatError where
  | notStarted (program : String) (reason : AccessError)
  | notFed (program : String) (reason : AccessError)
  | failed (program : String) (status : ExitStatus) (errors : String)
  | notText (program : String) (flaw : Utf8.Flaw)
deriving Repr, DecidableEq

def FormatError.message (e : FormatError) : String :=
  "Failed to format generated code: " ++
    match e with
    | notStarted program reason => "failed to run " ++ program ++ ": " ++ reason.message
    | notFed program reason => "failed to feed " ++ program ++ ": " ++ reason.message
    | failed program status errors =>
      program ++ " exited with " ++ status.text ++ ": " ++ errors
    | notText program flaw => program ++ " produced invalid UTF-8: " ++ flaw.message

namespace Command

/-- no word of the command holds a NUL -/
def isUsable (c : Command) : Bool :=
  (c.program :: c.args).all fun word => !word.toList.contains (Char.ofNat 0)

/-- the formatted text, if the command could be run and ended well -/
def formatted (c : Command) (ending : Ending) : Except FormatError String :=
  if !c.isUsable then .error (.notStarted c.program .unusableWord)
  else match ending with
    | .notStarted reason => .error (.notStarted c.program reason)
    | .notFed reason => .error (.notFed c.program reason)
    | .ended (.code 0) output _ => (Utf8.decode output).mapError (.notText c.program)
    | .ended status _ errors => .error (.failed c.program status (trim (Utf8.decodeLossy errors)))

end Command

end EnvConfig
