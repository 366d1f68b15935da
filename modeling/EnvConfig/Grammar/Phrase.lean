import EnvConfig.Grammar.Reader
import EnvConfig.Number.Written
import EnvConfig.Schema.Basic
import EnvConfig.Text.Segment

/-!
# Phrases of a schema

The parts that declarations are made of: names, integers, literals, options, types and fields.
Each comes with the lemma that it takes a token, or that it puts none back.

A string literal stands between two equal quotes.  Inside, a backslash and the character after it
spell one character (`unescape`).  The constant of an option is a number, a literal, or a name; it
holds no line feed, so a literal that spells one with a backslash before a line break is a literal
but no constant.
-/

namespace EnvConfig.Grammar

open Reader Text

/-! ### literals and constants -/

/-- the character that a backslash and `c` spell -/
def escaped (c : Char) : Char :=
  if c = 'n' then '\n' else if c = 't' then '\t' else if c = 'r' then '\r'
  else if c = '0' then Char.ofNat 0 else c

/-- the characters that the inside of a literal spells; a last single backslash spells itself -/
def unescape : List Char → List Char
  | [] => []
  | '\\' :: c :: cs => escaped c :: unescape cs
  | c :: cs => c :: unescape cs

/-- `quote`, characters with `p`, `quote` -/
def isBetween (quote : Char) (p : Char → Bool) : List Char → Bool
  | c :: d :: cs =>
    c == quote && (d :: cs).getLast? == some quote && (d :: cs).dropLast.all p
  | _ => false

def doubleQuote : Char := '"'
def singleQuote : Char := Char.ofNat 0x27

def isLiteral (cs : List Char) : Bool :=
  isBetween doubleQuote (fun _ => true) cs || isBetween singleQuote (fun _ => true) cs

/-- what a literal spells -/
def literalText (text : String) : String :=
  String.ofList (unescape (text.toList.drop 1).dropLast)

def isNotLineFeed (c : Char) : Bool := c != '\n'

/-- the text begins like a number and goes on in any way on the same line -/
def isNumeric : List Char → Bool
  | '-' :: c :: cs => (c.isDigit || c == '.') && cs.all isNotLineFeed
  | c :: cs => (c.isDigit || c == '.') && cs.all isNotLineFeed
  | [] => false

/-- a name with dots anywhere but in front, after a minus or not -/
def isWord : List Char → Bool
  | '-' :: c :: cs => isNameStart c && cs.all fun c => isNameChar c || c == '.'
  | c :: cs => isNameStart c && cs.all fun c => isNameChar c || c == '.'
  | [] => false

/-- the constants of options -/
def isConstant (cs : List Char) : Bool :=
  isNumeric cs || isBetween doubleQuote isNotLineFeed cs ||
    isBetween singleQuote isNotLineFeed cs || isWord cs

/-! ### readers -/

def identifier (what : Expectation) : Reader Token := token (isIdentifier ·.toList) what

def typeName (what : Expectation) : Reader Token := token (isTypeName ·.toList) what

def literal (what : Expectation) : Reader String := do
  let t ← token (isLiteral ·.toList) what
  return literalText t.text

/-- an integer of 32 bits -/
def integer (what : Expectation) : Reader Int32 := do
  let t ← token (Number.isLiteral ·.toList) what
  match (Number.literal? t.text.toList).bind Number.toInt32? with
  | some n => return n
  | none => throw ⟨.badInteger t.text, some t⟩

theorem integer_cons (what : Expectation) (t : Token) (ts : List Token) :
    integer what (t :: ts) =
      if Number.isLiteral t.text.toList then
        match (Number.literal? t.text.toList).bind Number.toInt32? with
        | some n => .ok (n, ts)
        | none => .error ⟨.badInteger t.text, some t⟩
      else refuse (.expected what t.text) (t :: ts) := by
  by_cases h : Number.isLiteral t.text.toList
  · rw [if_pos h]
    have htoken : token (Number.isLiteral ·.toList) what (t :: ts) = .ok (t, ts) := if_pos h
    simp only [integer, bind, StateT.bind, Except.bind, htoken]
    cases (Number.literal? t.text.toList).bind Number.toInt32? with
    | some n => rfl
    | none => rfl
  · rw [if_neg h]
    have htoken : token (Number.isLiteral ·.toList) what (t :: ts) =
        refuse (.expected what t.text) (t :: ts) := if_neg h
    simp only [integer, bind, StateT.bind, Except.bind, htoken]
    rfl

theorem takes_identifier (what : Expectation) : (identifier what).Takes := takes_token _ _

theorem takes_typeName (what : Expectation) : (typeName what).Takes := takes_token _ _

theorem takes_literal (what : Expectation) : (literal what).Takes :=
  (takes_token _ _).bind fun _ => keeps_pure _

theorem takes_integer (what : Expectation) : (integer what).Takes := by
  refine (takes_token _ _).bind fun t => ?_
  split
  · exact keeps_pure _
  · exact keeps_error _

/-! ### options -/

/-- a dot and a name, or nothing -/
def suffix : Reader String
  | t :: ts => .ok (if isDotSuffix t.text.toList then (t.text, ts) else ("", t :: ts))
  | [] => .ok ("", [])

/-- `name`, `(name)` or `(name).name` -/
def optionName : Reader String := do
  if ← skips "(" then
    let inner ← typeName .optionName
    mark ")"
    let more ← suffix
    return "(" ++ inner.text ++ ")" ++ more
  else
    let name ← typeName .optionName
    return name.text

/-- a constant as it is written, or what it spells if it is a literal; a block stands for nothing -/
def optionValue : Reader String := do
  if (← peek) == opening then
    skipBlock
    return ""
  else
    let t ← token (isConstant ·.toList) .constant
    return if isLiteral t.text.toList then literalText t.text else t.text

/-- `name = constant` -/
def setting : Reader Setting := do
  let name ← optionName
  mark "="
  let value ← optionValue
  return ⟨name, value⟩

theorem keeps_suffix : suffix.Keeps := by
  intro ts a rest h
  unfold suffix at h
  split at h
  · split at h <;> cases h <;> simp
  · cases h; simp

theorem takes_optionName : optionName.Takes := by
  refine (keeps_skips _).bind_takes fun b => ?_
  refine Takes.ite ?_ ?_
  · exact (takes_typeName _).bind fun _ => (takes_mark _).keeps.bind fun _ =>
      keeps_suffix.bind fun _ => keeps_pure _
  · exact (takes_typeName _).bind fun _ => keeps_pure _

theorem takes_optionValue : optionValue.Takes := by
  refine keeps_peek.bind_takes fun _ => ?_
  refine Takes.ite ?_ ?_
  · exact takes_skipBlock.bind fun _ => keeps_pure _
  · exact (takes_token _ _).bind fun _ => keeps_pure _

theorem takes_setting : setting.Takes :=
  takes_optionName.bind fun _ => (takes_mark _).keeps.bind fun _ =>
    takes_optionValue.keeps.bind fun _ => keeps_pure _

/-- `option` has been read; a setting and a semicolon follow -/
def optionStatement : Reader Setting := do
  let s ← setting
  mark ";"
  return s

theorem takes_optionStatement : optionStatement.Takes :=
  takes_setting.bind fun _ => (takes_mark _).keeps.bind fun _ => keeps_pure _

/-- a comma and a setting, put after the settings before it -/
def nextSetting (before : List Setting) : Reader (List Setting) := do
  mark ","
  let s ← setting
  return before ++ [s]

theorem takes_nextSetting (before : List Setting) : (nextSetting before).Takes :=
  (takes_mark _).bind fun _ => takes_setting.keeps.bind fun _ => keeps_pure _

/-- settings in brackets with commas between them, or nothing -/
def settings : Reader (List Setting) := do
  if ← skips "[" then
    let first ← setting
    foldUntil "]" nextSetting takes_nextSetting [first]
  else return []

theorem keeps_settings : settings.Keeps := by
  refine (keeps_skips _).bind fun _ => Keeps.ite ?_ (keeps_pure _)
  exact takes_setting.keeps.bind fun _ => (takes_foldUntil _ _ _ _).keeps

/-! ### fields -/

/-- takes `map <` if both stand there, and says whether they did -/
def mapOpening : Reader Bool
  | t :: u :: ts =>
    .ok (if t.text == "map" && u.text == "<" then (true, ts) else (false, t :: u :: ts))
  | ts => .ok (false, ts)

def fieldType : Reader FieldType := do
  if ← mapOpening then
    let key ← typeName .mapKeyType
    mark ","
    let value ← typeName .mapValueType
    mark ">"
    return .map key.text value.text
  else
    let name ← typeName .typeName
    return .named name.text

/-- the label in front of a field; `required` means no more than no label -/
def label : Reader Label := do
  if ← skips "repeated" then return .repeated
  else if ← skips "optional" then return .optional
  else
    let _ ← skips "required"
    return .plain

/-- a field after its label -/
def labelled (label : Label) : Reader Field := do
  let type ← fieldType
  let name ← identifier .fieldName
  mark "="
  let number ← integer .fieldNumber
  let options ← settings
  mark ";"
  return ⟨name.text, name.position, type, number, label, options, .all⟩

def field : Reader Field := do labelled (← label)

theorem keeps_mapOpening : mapOpening.Keeps := by
  intro ts a rest h
  unfold mapOpening at h
  split at h
  · split at h <;> cases h <;> simp
    omega
  · cases h; simp

theorem takes_fieldType : fieldType.Takes := by
  refine keeps_mapOpening.bind_takes fun _ => Takes.ite ?_ ?_
  · exact (takes_typeName _).bind fun _ => (takes_mark _).keeps.bind fun _ =>
      (takes_typeName _).keeps.bind fun _ => (takes_mark _).keeps.bind fun _ => keeps_pure _
  · exact (takes_typeName _).bind fun _ => keeps_pure _

theorem keeps_label : label.Keeps := by
  refine (keeps_skips _).bind fun _ => Keeps.ite (keeps_pure _) ?_
  refine (keeps_skips _).bind fun _ => Keeps.ite (keeps_pure _) ?_
  exact (keeps_skips _).bind fun _ => keeps_pure _

theorem takes_labelled (l : Label) : (labelled l).Takes :=
  takes_fieldType.bind fun _ => (takes_identifier _).keeps.bind fun _ =>
    (takes_mark _).keeps.bind fun _ => (takes_integer _).keeps.bind fun _ =>
    keeps_settings.bind fun _ => (takes_mark _).keeps.bind fun _ => keeps_pure _

theorem takes_field : field.Takes := keeps_label.bind_takes takes_labelled

end EnvConfig.Grammar
