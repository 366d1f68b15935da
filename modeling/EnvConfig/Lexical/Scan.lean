import EnvConfig.Lexical.Lexeme
import EnvConfig.Lexical.Token

/-!
# From text to tokens

A text is cut into lexemes from front to back; gaps (blanks and comments) are dropped and the rest
become tokens.  Where no lexeme stands, the characters up to the next lexeme are at fault.

* `Tokens.scan`: the tokens of a text;
* `Tokens.scanFrom_of_token`, `Tokens.scanFrom_of_gap`, `Tokens.scanFrom_of_none`: what is scanned,
  by what stands in front;
* `strayPart_isPrefix`: the part at fault is a start of the text.
-/

namespace EnvConfig

open Lexeme

/-- the characters before the next lexeme, for a text that begins with none -/
def strayPart : List Char → List Char
  | [] => []
  | c :: cs => c :: if (lexeme? cs).isSome then [] else strayPart cs

theorem strayPart_isPrefix (cs : List Char) : strayPart cs <+: cs := by
  induction cs with
  | nil => exact List.prefix_rfl
  | cons c cs ih =>
    unfold strayPart
    split
    · exact List.prefix_cons_iff.mpr (.inr ⟨[], rfl, List.nil_prefix⟩)
    · exact List.prefix_cons_iff.mpr (.inr ⟨_, rfl, ih⟩)

/-- the tokens of the text `cs`, whose first character has the position `p` -/
def Tokens.scanFrom (p : Position) (cs : List Char) : Except ParseError Tokens :=
  match h : lexeme? cs with
  | some found =>
    have := length_rest_lt h
    (scanFrom (p.afterAll found.piece) found.rest).map fun ts =>
      match found.kind with
      | .gap => ts
      | .token => ⟨⟨String.ofList found.piece, p⟩ :: ts.list, ts.finish⟩
  | none =>
    match cs with
    | [] => .ok ⟨[], p⟩
    | c :: cs => .error ⟨.stray (String.ofList (strayPart (c :: cs))), p⟩
termination_by cs.length

namespace Tokens

variable {p : Position} {cs piece rest : List Char}

theorem scanFrom_of_gap (h : lexeme? cs = some ⟨.gap, piece, rest⟩) :
    scanFrom p cs = scanFrom (p.afterAll piece) rest := by
  rw [scanFrom]
  split
  · rename_i found hfound
    rw [h] at hfound
    cases hfound
    show (scanFrom (p.afterAll piece) rest).map _ = _
    cases scanFrom (p.afterAll piece) rest <;> rfl
  · rename_i hnone
    rw [h] at hnone
    cases hnone

theorem scanFrom_of_token (h : lexeme? cs = some ⟨.token, piece, rest⟩) :
    scanFrom p cs = (scanFrom (p.afterAll piece) rest).map fun ts =>
      ⟨⟨String.ofList piece, p⟩ :: ts.list, ts.finish⟩ := by
  rw [scanFrom]
  split
  · rename_i found hfound
    rw [h] at hfound
    cases hfound
    rfl
  · rename_i hnone
    rw [h] at hnone
    cases hnone

theorem scanFrom_nil (p : Position) : scanFrom p [] = .ok ⟨[], p⟩ := by
  rw [scanFrom]
  split
  · rename_i found hfound
    cases hfound
  · rfl

theorem scanFrom_of_none (h : lexeme? cs = none) (hne : cs ≠ []) :
    scanFrom p cs = .error ⟨.stray (String.ofList (strayPart cs)), p⟩ := by
  obtain ⟨c, cs, rfl⟩ := List.exists_cons_of_ne_nil hne
  rw [scanFrom]
  split
  · rename_i found hfound
    rw [h] at hfound
    cases hfound
  · rfl

end Tokens

/-- the tokens of a text -/
def Tokens.scan (text : String) : Except ParseError Tokens := scanFrom .start text.toList

end EnvConfig
