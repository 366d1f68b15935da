/-!
# Code as a tree

Generated code is a list of pieces: lines, empty lines, and blocks.  A block has a head before its
opening bracket, and blocks can follow each other on one line (`if … else …`).  Brackets that span
lines are written only by `Code.lines`, so they are balanced as soon as single lines are.

* `Code.lines tab n c`: the lines of `c`, each with `n` times `tab` in front; empty lines stay
  empty;
* `separated`: pieces with an empty line between neighbours;
* `Code.allTexts`: the texts that the lines of code are made of;
* `allLines_eq_flatMap`, `allLines_append`: the lines of code are those of its pieces.
-/

namespace EnvConfig

inductive Code where
  | line (text : String)
  | empty
  /-- blocks in braces, each after its head; the closing brace of one and the head of the next
  share a line -/
  | blocks (parts : List (String × List Code))
  /-- a block in parentheses after its head -/
  | group (head : String) (body : List Code)
deriving Repr, Inhabited

namespace Code

/-- `n` times `tab` -/
def indentation (tab : String) (n : Nat) : String := String.join (List.replicate n tab)

mutual

def lines (tab : String) (n : Nat) : Code → List String
  | line text => [indentation tab n ++ text]
  | empty => [""]
  | blocks parts => partLines tab n "" parts
  | group head body =>
    (indentation tab n ++ head ++ " (") :: (allLines tab (n + 1) body ++ [indentation tab n ++ ")"])

/-- the lines of blocks that begin after `lead`, and the closing brace of the last one -/
def partLines (tab : String) (n : Nat) (lead : String) : List (String × List Code) → List String
  | [] => [indentation tab n ++ "\x7d"]
  | (head, body) :: parts =>
    (indentation tab n ++ lead ++ head ++ " \x7b") ::
      (allLines tab (n + 1) body ++ partLines tab n "\x7d " parts)

def allLines (tab : String) (n : Nat) : List Code → List String
  | [] => []
  | c :: cs => lines tab n c ++ allLines tab n cs

end

/-- one block -/
def block (head : String) (body : List Code) : Code := blocks [(head, body)]

/-- pieces of code with an empty line between neighbours -/
def separated : List (List Code) → List Code
  | [] => []
  | [c] => c
  | c :: d :: cs => c ++ empty :: separated (d :: cs)

mutual

/-- the texts of a piece of code: its lines, and the heads of its blocks -/
def texts : Code → List String
  | line text => [text]
  | empty => []
  | blocks parts => partTexts parts
  | group head body => head :: allTexts body

def partTexts : List (String × List Code) → List String
  | [] => []
  | (head, body) :: parts => head :: (allTexts body ++ partTexts parts)

def allTexts : List Code → List String
  | [] => []
  | c :: cs => texts c ++ allTexts cs

end

/-- the text of code, every line ended -/
def text (tab : String) (code : List Code) : String :=
  "\n".intercalate (allLines tab 0 code) ++ "\n"

/-! ### lines and texts of parts -/

theorem indentation_zero (tab text : String) : indentation tab 0 ++ text = text :=
  String.empty_append

theorem lines_block (tab : String) (n : Nat) (head : String) (body : List Code) :
    lines tab n (block head body) = (indentation tab n ++ "" ++ head ++ " \x7b") ::
      (allLines tab (n + 1) body ++ [indentation tab n ++ "\x7d"]) := rfl

theorem allLines_eq_flatMap (tab : String) (n : Nat) (code : List Code) :
    allLines tab n code = code.flatMap (lines tab n) := by
  induction code with
  | nil => rfl
  | cons c cs ih => rw [allLines, ih, List.flatMap_cons]

theorem allLines_append (tab : String) (n : Nat) (code code' : List Code) :
    allLines tab n (code ++ code') = allLines tab n code ++ allLines tab n code' := by
  simp only [allLines_eq_flatMap, List.flatMap_append]

/-- empty lines between pieces hold nothing that is looked for -/
theorem flatMap_separated {α : Type} {f : Code → List α} (hempty : f empty = [])
    (pieces : List (List Code)) : (separated pieces).flatMap f = pieces.flatMap (·.flatMap f) := by
  induction pieces with
  | nil => rfl
  | cons piece pieces ih =>
    cases pieces with
    | nil => simp [separated]
    | cons next pieces =>
      rw [separated, List.flatMap_append, List.flatMap_cons, hempty, ih, List.flatMap_cons]
      rfl

end Code

end EnvConfig
