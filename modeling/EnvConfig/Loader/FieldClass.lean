import EnvConfig.Schema.Kind
import EnvConfig.SchemaSet

/-!
# How a field is loaded

Each field of a message falls into one class for a target.  The class says from what kind of
variable the field is filled, or why it is left alone.  The rules are tried in a fixed order, and
the rules by which a field is left alone come first, so nothing about such a field's type matters.
-/

namespace EnvConfig

/-- why a schema has no loader -/
inductive EmitError where
  | unsupportedType (message field type : String)
  | unsupportedMap (message field key value : String)
  /-- two fields of a message would read the same variable -/
  | sameVariable (message fragment first second : String)
deriving Repr, DecidableEq

def EmitError.message : EmitError → String
  | unsupportedType m f type =>
    "Field \"" ++ f ++ "\" of message \"" ++ m ++ "\" has unsupported type \"" ++ type ++ "\""
  | unsupportedMap m f key value =>
    "Field \"" ++ f ++ "\" of message \"" ++ m ++ "\" has unsupported map type map<" ++ key ++
      "," ++ value ++ ">, only map<string,string> can be loaded"
  | sameVariable m fragment first second =>
    "Fields \"" ++ first ++ "\" and \"" ++ second ++ "\" of message \"" ++ m ++
      "\" both map to environment variable suffix " ++ fragment

/-- why a field is left alone -/
inductive SkipReason where
  | oneof
  /-- the field, or the message that it holds, is for other targets -/
  | target
deriving Repr, DecidableEq

/-- how a scalar that may be absent is declared -/
inductive WrapperShape where
  /-- by its wrapper message -/
  | wellKnown (kind : Storage)
  /-- by a label -/
  | optional (kind : ScalarKind)
deriving Repr, DecidableEq

def WrapperShape.scalar : WrapperShape → ScalarKind
  | wellKnown kind => kind.scalar
  | optional kind => kind

inductive FieldClass where
  | skipped (reason : SkipReason)
  | repeatedEnum (enum : Enum)
  /-- a repeated field of anything else, which is left alone -/
  | repeatedOther
  | wrapper (shape : WrapperShape)
  | enum (enum : Enum)
  | nested (message : Message)
  | stringMap
  | scalar (kind : ScalarKind)
deriving Repr, DecidableEq

/-- the name without all dots in front -/
def withoutDots (name : String) : List Char := name.toList.dropWhile (· == '.')

/-- the name lies in the package of the wrapper messages -/
def inWrapperPackage (name : String) : Bool :=
  Storage.wrapperPackage.toList.isPrefixOf (withoutDots name)

namespace Field

/-- the message that the type of the field means, if it is a message -/
def message? (set : SchemaSet) (f : Field) : Option Message :=
  (f.type.definition? set set.root).bind Definition.message?

/-- the enum that the type of the field means, if it is an enum -/
def enum? (set : SchemaSet) (f : Field) : Option Enum :=
  (f.type.definition? set set.root).bind Definition.enum?

/-- why the field is left alone for the target `t` -/
def skipReason? (set : SchemaSet) (f : Field) (t : Target) : Option SkipReason :=
  match f.label with
  | .oneof _ => some .oneof
  | _ =>
    if !f.targets.includes t then some .target
    else if (f.message? set).any (!·.targets.includes t) then some .target
    else none

/-- the class of a field that is neither left alone nor repeated; `message` declares it -/
def singularClass (set : SchemaSet) (message : String) (f : Field) : Except EmitError FieldClass :=
  match f.type with
  | .map key value =>
    if key = "string" ∧ value = "string" then .ok .stringMap
    else .error (.unsupportedMap message f.name key value)
  | .named name =>
    let unsupported := .error (.unsupportedType message f.name name)
    match Storage.ofWrapperType? name with
    | some kind => .ok (.wrapper (.wellKnown kind))
    | none =>
      if inWrapperPackage name then unsupported
      else match f.label, ScalarKind.ofDeclared? name with
        | .optional, some kind => .ok (.wrapper (.optional kind))
        | label, kind? =>
          match f.enum? set, f.message? set, kind? with
          | some e, _, _ => if label = .optional then unsupported else .ok (.enum e)
          | none, some m, _ => .ok (.nested m)
          | none, none, some kind => .ok (.scalar kind)
          | none, none, none => unsupported

/-- the class of a field of `message` for the target `t` -/
def classify (set : SchemaSet) (message : String) (f : Field) (t : Target) :
    Except EmitError FieldClass :=
  match f.skipReason? set t with
  | some reason => .ok (.skipped reason)
  | none =>
    if f.label = .repeated then
      match f.enum? set with
      | some e => .ok (.repeatedEnum e)
      | none => .ok .repeatedOther
    else f.singularClass set message

end Field

end EnvConfig
