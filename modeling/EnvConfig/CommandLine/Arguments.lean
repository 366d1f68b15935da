import EnvConfig.Render.Language

/-!
# Arguments of the command line

Arguments are read from left to right.  An option has a long and a short name; it takes a value,
or it is a switch.  A value stands behind an equals sign, directly behind a short name, or in the
next argument, unless that looks like an option itself.  After `--` every argument is a plain one.
One plain argument is taken: the schema.

A value in an argument of its own is looked at only when something after it is taken, or at the
end (`Partial.settle`).  So an unknown option is refused before a bad value in front of it.
-/

namespace EnvConfig

/-- why arguments are refused; a wish for help or for the version counts too -/
inductive ArgumentError where
  | unknownArgument
  /-- a value is missing, or a path is empty -/
  | invalidValue
  /-- the value is not one of the languages -/
  | valueValidation
  /-- an option is there twice -/
  | argumentConflict
  /-- a switch with a value -/
  | tooManyValues
  | displayHelp
  | displayVersion
deriving Repr, DecidableEq

/-- what a value can be given for -/
inductive Parameter where
  | schema
  | outDir
  | protoPath
  | language
  | target
deriving Repr, DecidableEq

inductive Switch where
  | noFormat
  | dumpSchema
  | verbose
  | help
  | version
deriving Repr, DecidableEq

/-- an option takes a value, or it is a switch -/
inductive Argument where
  | parameter (p : Parameter)
  | switch (s : Switch)
deriving Repr, DecidableEq

def Argument.ofLong? (name : String) : Option Argument :=
  if name = "out-dir" then some (.parameter .outDir)
  else if name = "proto-path" then some (.parameter .protoPath)
  else if name = "lang" then some (.parameter .language)
  else if name = "target" then some (.parameter .target)
  else if name = "no-format" then some (.switch .noFormat)
  else if name = "dump-schema" then some (.switch .dumpSchema)
  else if name = "verbose" then some (.switch .verbose)
  else if name = "help" then some (.switch .help)
  else if name = "version" then some (.switch .version)
  else none

def Argument.ofShort? (c : Char) : Option Argument :=
  if c = 'o' then some (.parameter .outDir)
  else if c = 'I' then some (.parameter .protoPath)
  else if c = 'l' then some (.parameter .language)
  else if c = 't' then some (.parameter .target)
  else if c = 'v' then some (.switch .verbose)
  else if c = 'h' then some (.switch .help)
  else if c = 'V' then some (.switch .version)
  else none

/-- what has been read so far -/
structure Partial where
  schema : Option String
  outDir : Option String
  protoPath : Option String
  language : Option Language
  target : Option String
  noFormat : Bool
  dumpSchema : Bool
  verbosity : Nat
  /-- what the last argument was read for, and its value if that has been read -/
  pending : Option (Parameter × Option String)
  /-- the plain argument has been taken -/
  hasPlain : Bool
deriving Repr, DecidableEq

namespace Partial

def start : Partial := ⟨none, none, none, none, none, false, false, 0, none, false⟩

/-- a path, which must not be empty -/
def path (value : String) : Except ArgumentError String :=
  if value = "" then .error .invalidValue else .ok value

/-- a value for a parameter that must not have one yet -/
def store (a : Partial) (p : Parameter) (value : String) : Except ArgumentError Partial :=
  match p with
  | .schema =>
    if a.schema.isSome then .error .argumentConflict
    else (path value).map fun v => { a with schema := some v }
  | .outDir =>
    if a.outDir.isSome then .error .argumentConflict
    else (path value).map fun v => { a with outDir := some v }
  | .protoPath =>
    if a.protoPath.isSome then .error .argumentConflict
    else (path value).map fun v => { a with protoPath := some v }
  | .language =>
    if a.language.isSome then .error .argumentConflict
    else match Language.ofName? value with
      | .ok l => .ok { a with language := some l }
      | .error _ => .error .valueValidation
  | .target =>
    if a.target.isSome then .error .argumentConflict
    else .ok { a with target := some value }

/-- stores what is pending -/
def settle (a : Partial) : Except ArgumentError Partial :=
  match a.pending with
  | none => .ok a
  | some (_, none) => .error .invalidValue
  | some (p, some value) => { a with pending := none }.store p value

/-- a parameter whose value is known at once, or comes with the next argument -/
def give (a : Partial) (p : Parameter) (value : Option String) : Except ArgumentError Partial :=
  a.settle.bind fun a =>
    match value with
    | some value => a.store p value
    | none => .ok { a with pending := some (p, none) }

def turnOn (a : Partial) (s : Switch) : Except ArgumentError Partial :=
  a.settle.bind fun a =>
    match s with
    | .noFormat => if a.noFormat then .error .argumentConflict else .ok { a with noFormat := true }
    | .dumpSchema =>
      if a.dumpSchema then .error .argumentConflict else .ok { a with dumpSchema := true }
    | .verbose => .ok { a with verbosity := a.verbosity + 1 }
    | .help => .error .displayHelp
    | .version => .error .displayVersion

/-- an argument with two dashes: a name, and a value behind the first equals sign -/
def long (a : Partial) (cs : List Char) : Except ArgumentError Partial :=
  let name := cs.takeWhile (· != '=')
  let value := match cs.dropWhile (· != '=') with
    | [] => none
    | _ :: value => some (String.ofList value)
  match Argument.ofLong? (String.ofList name), value with
  | some (.parameter p), value => a.give p value
  | some (.switch s), none => a.turnOn s
  | some (.switch _), some _ => .error .tooManyValues
  | none, _ => .error .unknownArgument

/-- the value behind a short name -/
def attached : List Char → Option String
  | [] => none
  | '=' :: value => some (String.ofList value)
  | value => some (String.ofList value)

/-- an argument with one dash: switches, and an option with the rest as its value -/
def short (a : Partial) : List Char → Except ArgumentError Partial
  | [] => .ok a
  | c :: cs =>
    match Argument.ofShort? c with
    | some (.parameter p) => a.give p (attached cs)
    | some (.switch s) => (a.turnOn s).bind fun a => short a cs
    | none => .error .unknownArgument

/-- a plain argument: the schema, once -/
def plain (a : Partial) (value : String) : Except ArgumentError Partial :=
  if a.hasPlain then .error .unknownArgument
  else a.settle.map fun a => { a with pending := some (.schema, some value), hasPlain := true }

/-- an argument before `--` -/
def read (a : Partial) (arg : String) : Except ArgumentError Partial :=
  match arg.toList with
  | '-' :: '-' :: cs => a.long cs
  | '-' :: c :: cs => a.short (c :: cs)
  | _ =>
    match a.pending with
    | some (p, none) => .ok { a with pending := some (p, some arg) }
    | _ => a.plain arg

/-- all arguments after `--` -/
def readPlain (a : Partial) : List String → Except ArgumentError Partial
  | [] => a.settle
  | arg :: args => (a.plain arg).bind fun a => readPlain a args

def readAll (a : Partial) : List String → Except ArgumentError Partial
  | [] => a.settle
  | arg :: args =>
    if arg = "--" then a.readPlain args else (a.read arg).bind fun a => readAll a args

end Partial

/-- what a run is asked for -/
structure Arguments where
  schema : Option String
  outDir : String
  protoPath : Option String
  language : Language
  target : Target
  format : Bool
  dumpSchema : Bool
  verbosity : Nat
deriving Repr, DecidableEq

/-- the variable that gives the target when the arguments do not -/
def targetVariable : String := "PROTOENV_TARGET"

/-- the arguments, with `target?` as the text of the target variable -/
def Arguments.read (args : List String) (target? : Option String) :
    Except ArgumentError Arguments :=
  (Partial.start.readAll args).map fun a =>
    { schema := a.schema
      outDir := a.outDir.getD "."
      protoPath := a.protoPath
      language := a.language.getD .rust
      target := .of ((a.target.or target?).getD "rust")
      format := !a.noFormat
      dumpSchema := a.dumpSchema
      verbosity := a.verbosity }

end EnvConfig
