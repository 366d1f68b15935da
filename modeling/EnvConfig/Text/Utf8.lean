/-!
# UTF-8

Bytes are read as text one character at a time.  What is no character is either wrong, and then so
many bytes of it are known to be, or cut short by the end (`Step`).

* `decode`: the text, or where and how the bytes stop being one;
* `decodeLossy`: the text with a replacement character for each piece that is no character.
-/

namespace EnvConfig.Text.Utf8

/-- what stands at the front of bytes that are not empty -/
inductive Step where
  | char (c : Char) (rest : List UInt8)
  /-- the first `length` bytes are the start of no character -/
  | invalid (length : Nat) (rest : List UInt8)
  /-- the bytes end inside a character -/
  | incomplete
deriving Repr, DecidableEq

/-- a byte inside a character -/
def isInner (b : UInt8) : Bool := 0x80 ≤ b && b ≤ 0xbf

/-- the bits that an inner byte adds -/
def inner (b : UInt8) : Nat := b.toNat % 0x40

/-- the second byte of a character of three bytes: no long form, no surrogate -/
def isSecondOfThree (a b : UInt8) : Bool :=
  isInner b && !(a == 0xe0 && b < 0xa0) && !(a == 0xed && 0xa0 ≤ b)

/-- the second byte of a character of four bytes: no long form, nothing above the last character -/
def isSecondOfFour (a b : UInt8) : Bool :=
  isInner b && !(a == 0xf0 && b < 0x90) && !(a == 0xf4 && 0x90 ≤ b)

/-- the step for bytes that begin with `a` -/
def step (a : UInt8) (bs : List UInt8) : Step :=
  if a < 0x80 then .char (Char.ofNat a.toNat) bs
  else if 0xc2 ≤ a && a ≤ 0xdf then
    match bs with
    | [] => .incomplete
    | b :: bs' =>
      if isInner b then .char (Char.ofNat (a.toNat % 0x20 * 0x40 + inner b)) bs' else .invalid 1 bs
  else if 0xe0 ≤ a && a ≤ 0xef then
    match bs with
    | [] => .incomplete
    | b :: bs' =>
      if !isSecondOfThree a b then .invalid 1 bs
      else match bs' with
        | [] => .incomplete
        | c :: bs'' =>
          if isInner c then
            .char (Char.ofNat ((a.toNat % 0x10 * 0x40 + inner b) * 0x40 + inner c)) bs''
          else .invalid 2 bs'
  else if 0xf0 ≤ a && a ≤ 0xf4 then
    match bs with
    | [] => .incomplete
    | b :: bs' =>
      if !isSecondOfFour a b then .invalid 1 bs
      else match bs' with
        | [] => .incomplete
        | c :: bs'' =>
          if !isInner c then .invalid 2 bs'
          else match bs'' with
            | [] => .incomplete
            | d :: bs''' =>
              if isInner d then
                .char (Char.ofNat
                  (((a.toNat % 0x8 * 0x40 + inner b) * 0x40 + inner c) * 0x40 + inner d)) bs'''
              else .invalid 3 bs''
  else .invalid 1 bs

/-- the bytes after a step -/
def Step.rest : Step → List UInt8
  | char _ rest => rest
  | invalid _ rest => rest
  | incomplete => []

theorem length_rest_step (a : UInt8) (bs : List UInt8) : (step a bs).rest.length ≤ bs.length := by
  unfold step
  repeat' split
  all_goals simp only [Step.rest, List.length_cons, List.length_nil] at *
  all_goals omega

/-- where bytes stop being text; no length means that they end inside a character -/
structure Flaw where
  index : Nat
  length : Option Nat
deriving Repr, DecidableEq

def Flaw.message (f : Flaw) : String :=
  match f.length with
  | some n => "invalid utf-8 sequence of " ++ toString n ++ " bytes from index " ++ toString f.index
  | none => "incomplete utf-8 byte sequence from index " ++ toString f.index

/-- the text of bytes that come after `index` other ones -/
def decodeFrom (index : Nat) (bs : List UInt8) : Except Flaw (List Char) :=
  match bs with
  | [] => .ok []
  | a :: bs =>
    match h : step a bs with
    | .char c rest =>
      have : rest.length ≤ bs.length := by simpa [h, Step.rest] using length_rest_step a bs
      (decodeFrom (index + c.utf8Size) rest).map (c :: ·)
    | .invalid n _ => .error ⟨index, some n⟩
    | .incomplete => .error ⟨index, none⟩
termination_by bs.length

def decode (bs : List UInt8) : Except Flaw String := (decodeFrom 0 bs).map String.ofList

def replacement : Char := Char.ofNat 0xfffd

def lossyChars (bs : List UInt8) : List Char :=
  match bs with
  | [] => []
  | a :: bs =>
    match h : step a bs with
    | .char c rest =>
      have : rest.length ≤ bs.length := by simpa [h, Step.rest] using length_rest_step a bs
      c :: lossyChars rest
    | .invalid _ rest =>
      have : rest.length ≤ bs.length := by simpa [h, Step.rest] using length_rest_step a bs
      replacement :: lossyChars rest
    | .incomplete => [replacement]
termination_by bs.length

def decodeLossy (bs : List UInt8) : String := String.ofList (lossyChars bs)

end EnvConfig.Text.Utf8
