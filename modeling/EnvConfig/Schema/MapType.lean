import EnvConfig.Schema.Basic
import EnvConfig.Text.Segment

/-!
# The written form of a map type

`map<K,V>` with blanks anywhere inside the brackets but within the two names.  A type that has been
read holds its names apart; written, it says the same as it did (`FieldType.ofText_text`), so that
nothing is lost by not keeping it as a text.
-/

namespace EnvConfig

open Text

/-- letters, digits, underscores and dots -/
def isTypeChar (c : Char) : Bool := c.isAlphanum || c == '_' || c == '.'

/-- a name with blanks on both sides, the name and what comes after -/
def paddedName? (cs : List Char) : Option (List Char × List Char) :=
  let cs := cs.dropWhile isBlank
  let name := cs.takeWhile isTypeChar
  if name.isEmpty then none
  else some (name, (cs.dropWhile isTypeChar).dropWhile isBlank)

/-- the key and value types of a map type as written -/
def mapTypes? (text : String) : Option (String × String) := do
  let inner ← after? "map<".toList text.toList
  let (key, rest) ← paddedName? inner
  let more ← after? [','] rest
  let (value, rest) ← paddedName? more
  if rest = ['>'] then some (String.ofList key, String.ofList value) else none

/-- the type that a text spells -/
def FieldType.ofText (text : String) : FieldType :=
  match mapTypes? text with
  | some (key, value) => .map key value
  | none => .named text

/-! ### types that have been read -/

/-- one letter or more, all of them such that a name of a type can have them -/
def IsTypeText (name : String) : Prop :=
  name.toList ≠ [] ∧ ∀ c ∈ name.toList, isTypeChar c = true

theorem not_isBlank_of_isTypeChar {c : Char} (h : isTypeChar c = true) : isBlank c = false := by
  obtain hname | hdot := Bool.or_eq_true_iff.mp h
  · exact isBlank_of_isNameChar hname
  · obtain rfl := beq_iff_eq.mp hdot
    decide

/-- a name in front of a character that no name has, and without blanks in front -/
theorem paddedName?_append {name rest : List Char} (hne : name ≠ [])
    (hname : ∀ c ∈ name, isTypeChar c = true) (hrest : ∀ c ∈ rest.head?, isTypeChar c = false) :
    paddedName? (name ++ rest) = some (name, rest.dropWhile isBlank) := by
  have hstart : (name ++ rest).dropWhile isBlank = name ++ rest := by
    cases name with
    | nil => exact absurd rfl hne
    | cons c cs =>
      rw [List.cons_append, List.dropWhile_cons,
        not_isBlank_of_isTypeChar (hname c List.mem_cons_self)]
      rfl
  have hstop : rest.takeWhile isTypeChar = [] ∧ rest.dropWhile isTypeChar = rest := by
    cases rest with
    | nil => exact ⟨rfl, rfl⟩
    | cons c cs => simp [hrest c rfl]
  have hempty : name.isEmpty = false := by
    cases name with
    | nil => exact absurd rfl hne
    | cons c cs => rfl
  simp only [paddedName?, hstart, List.takeWhile_append_of_pos hname, hstop.1, List.append_nil,
    hempty, List.dropWhile_append_of_pos hname, hstop.2]
  rfl

/-- a written map type is read back -/
theorem mapTypes?_map {key value : String} (hkey : IsTypeText key) (hvalue : IsTypeText value) :
    mapTypes? ("map<" ++ key ++ "," ++ value ++ ">") = some (key, value) := by
  have htext : ("map<" ++ key ++ "," ++ value ++ ">").toList =
      'm' :: 'a' :: 'p' :: '<' :: (key.toList ++ ',' :: (value.toList ++ ['>'])) := by
    simp [String.toList_append]
  have hafter : ∀ c ∈ (',' :: (value.toList ++ ['>'])).head?, isTypeChar c = false := by
    rintro c ⟨⟩
    decide
  have hend : ∀ c ∈ ['>'].head?, isTypeChar c = false := by
    rintro c ⟨⟩
    decide
  have hinner := paddedName?_append hkey.1 hkey.2 hafter
  have hmore := paddedName?_append hvalue.1 hvalue.2 hend
  have hcomma : (',' :: (value.toList ++ ['>'])).dropWhile isBlank =
      ',' :: (value.toList ++ ['>']) := rfl
  have hbracket : ['>'].dropWhile isBlank = ['>'] := rfl
  rw [hcomma] at hinner
  rw [hbracket] at hmore
  rw [mapTypes?, htext]
  simp [after?, hinner, hmore, String.ofList_toList]

/-- a name has no bracket in it -/
theorem mapTypes?_name {name : String} (h : IsTypeText name) : mapTypes? name = none := by
  cases hinner : after? "map<".toList name.toList with
  | none =>
    rw [mapTypes?, hinner]
    rfl
  | some inner =>
    have hmem : '<' ∈ name.toList := by
      rw [← append_of_after? hinner]
      exact List.mem_append_left _ (by decide)
    exact absurd (h.2 _ hmem) (by decide)

/-- a type that has been read, written and read again -/
theorem FieldType.ofText_text {type : FieldType} (h : ∀ name ∈ type.mentioned, IsTypeText name) :
    ofText type.text = type := by
  cases type with
  | named name =>
    have hname : mapTypes? name = none := mapTypes?_name (h name List.mem_cons_self)
    rw [ofText, text, hname]
  | map key value =>
    have hmap := mapTypes?_map (h key List.mem_cons_self)
      (h value (List.mem_cons_of_mem _ List.mem_cons_self))
    rw [ofText, text, hmap]

end EnvConfig
