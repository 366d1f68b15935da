import EnvConfig.Proofs.Lexical.Lossless
import EnvConfig.Proofs.Printing.Phrases
import Mathlib.Data.Nat.Digits.Defs

/-!
# Integers are read exactly

What a literal denotes is said here without the reader: a sign, a base, and digits with their
places.  The reader gives this integer if it fits 32 bits and is written in ASCII, and refuses the
token otherwise.  Each integer of 32 bits is one token in decimal and in hexadecimal notation.

* `Number.denoted`: the integer that a literal denotes;
* `Number.literal?_eq_some_iff`: what the reader makes of it;
* `Number.toInt32?_through_word`: a word of 64 bits on the way changes nothing;
* `Number.Writes`: the notations of an integer;
* `Tokens.scan_of_isLiteral`: a literal is one token;
* `Grammar.integer_exact`: every literal, and every integer.
-/

namespace EnvConfig

namespace Number

open Text

/-! ### what a literal denotes -/

/-- the place of a digit among all digits, capital letters or not -/
def place (d : Char) : Nat := "0123456789abcdef".toList.idxOf d.toLower

def positional (base : Nat) (ds : List Char) : Nat := Nat.ofDigits base (ds.reverse.map place)

/-- hexadecimal after `0x` or `0X`, otherwise decimal -/
def denotedMagnitude : List Char → Nat
  | '0' :: 'x' :: ds => positional 16 ds
  | '0' :: 'X' :: ds => positional 16 ds
  | ds => positional 10 ds

/-- the integer that a literal denotes -/
def denoted : List Char → Int
  | '-' :: cs => -(denotedMagnitude cs : Int)
  | cs => denotedMagnitude cs

def IsAscii (cs : List Char) : Prop := ∀ c ∈ cs, c.toNat < 128

instance : DecidablePred IsAscii := fun cs => List.decidableBAll (fun c : Char => c.toNat < 128) cs

theorem isAscii_cons {c : Char} {cs : List Char} (hc : c.toNat < 128) :
    IsAscii (c :: cs) ↔ IsAscii cs :=
  List.forall_mem_cons.trans (and_iff_right hc)

/-! ### digits -/

theorem toNat_lt_of_isHexDigit {d : Char} (h : isHexDigit d = true) : d.toNat < 128 := by
  have hle : d.val ≤ 'f'.val := by
    simp only [isHexDigit, Bool.or_eq_true, Bool.and_eq_true, decide_eq_true_eq] at h
    rcases h with (hdigit | hlower) | hupper
    · exact UInt32.le_trans (of_decide_eq_true (Bool.and_eq_true_iff.mp hdigit).2) (by decide)
    · exact hlower.2
    · exact UInt32.le_trans hupper.2 (by decide)
  exact Nat.lt_of_le_of_lt (UInt32.le_iff_toNat_le.mp hle) (by decide)

theorem digitValue_eq_place {d : Char} (h : isHexDigit d = true) : digitValue d = place d := by
  have hall : ∀ n < 128, isHexDigit (Char.ofNat n) = true →
      digitValue (Char.ofNat n) = place (Char.ofNat n) := by decide +kernel
  have hd := hall d.toNat (toNat_lt_of_isHexDigit h)
  rw [Char.ofNat_toNat] at hd
  exact hd h

theorem isHexDigit_of_isDigit {d : Char} (h : d.isDigit = true) : isHexDigit d = true := by
  simp [isHexDigit, h]

/-- beyond ASCII there are more decimal digits, and none of them counts -/
theorem isDigit_iff {d : Char} (h : isDecimalDigit d = true) :
    d.isDigit = true ↔ d.toNat < 128 := by
  refine ⟨fun hd => toNat_lt_of_isHexDigit (isHexDigit_of_isDigit hd), fun hlt => ?_⟩
  have hall : ∀ n < 128, inSpans decimalDigit (Char.ofNat n) = false := by decide +kernel
  have hspans := hall d.toNat hlt
  rw [Char.ofNat_toNat] at hspans
  rwa [isDecimalDigit, hspans, Bool.or_false] at h

theorem digitsValue_eq_positional (base : Nat) {ds : List Char}
    (h : ∀ d ∈ ds, isHexDigit d = true) : digitsValue base ds = positional base ds := by
  induction ds using List.reverseRec with
  | nil => rfl
  | append_singleton ds d ih =>
    rw [List.forall_mem_append, List.forall_mem_singleton] at h
    rw [digitsValue_concat, ih h.1, positional, positional, List.reverse_concat, List.map_cons,
      Nat.ofDigits_cons, digitValue_eq_place h.2]
    exact (congrArg (· + place d) (Nat.mul_comm ..)).trans (Nat.add_comm ..)

/-! ### what the reader makes of it -/

theorem magnitude?_eq_some_iff {cs : List Char} (h : isMagnitude cs = true) (n : Nat) :
    magnitude? cs = some n ↔ IsAscii cs ∧ denotedMagnitude cs = n := by
  by_cases hhex : isHexMagnitude cs = true
  · rw [magnitude?, if_pos hhex, Option.some.injEq]
    unfold isHexMagnitude at hhex
    split at hhex
    · rename_i x ds
      simp only [Bool.and_eq_true, Bool.or_eq_true, beq_iff_eq, List.all_eq_true] at hhex
      obtain ⟨⟨hx, -⟩, hds⟩ := hhex
      have hascii : IsAscii ('0' :: x :: ds) := by
        refine List.forall_mem_cons.mpr ⟨by decide, List.forall_mem_cons.mpr ⟨?_, ?_⟩⟩
        · rcases hx with rfl | rfl <;> decide
        · exact fun d hd => toNat_lt_of_isHexDigit (hds d hd)
      have hvalue : denotedMagnitude ('0' :: x :: ds) = positional 16 ds := by
        rcases hx with rfl | rfl <;> rfl
      rw [hvalue, and_iff_right hascii]
      show digitsValue 16 ds = n ↔ _
      rw [digitsValue_eq_positional 16 hds]
    · cases hhex
  · rw [isMagnitude, Bool.or_eq_true, or_iff_right hhex, isDecimalMagnitude, Bool.and_eq_true,
      List.all_eq_true] at h
    obtain ⟨hne, hdigits⟩ := h
    have hascii : cs.all Char.isDigit = true ↔ IsAscii cs := by
      rw [List.all_eq_true]
      exact forall₂_congr fun d hd => isDigit_iff (hdigits d hd)
    have hvalue : denotedMagnitude cs = positional 10 cs := by
      unfold denotedMagnitude
      split
      · exact absurd (hdigits 'x' (by simp)) (by decide +kernel)
      · exact absurd (hdigits 'X' (by simp)) (by decide +kernel)
      · rfl
    rw [magnitude?, if_neg hhex, decimal?, hne, Bool.true_and, hvalue, ← hascii]
    by_cases hall : cs.all Char.isDigit = true
    · rw [if_pos hall, and_iff_right hall, Option.some.injEq, digitsValue_eq_positional 10
        fun d hd => isHexDigit_of_isDigit (List.all_eq_true.mp hall d hd)]
    · rw [if_neg hall]
      exact iff_of_false (Option.some_ne_none n).symm fun h => hall h.1

theorem literal?_minus (cs : List Char) :
    literal? ('-' :: cs) = (magnitude? cs).map fun n : Nat => -(n : Int) := by
  rw [literal?]
  cases magnitude? cs <;> rfl

theorem literal?_eq_some_iff {cs : List Char} (h : isLiteral cs = true) (i : Int) :
    literal? cs = some i ↔ IsAscii cs ∧ denoted cs = i := by
  unfold isLiteral at h
  split at h
  · rw [literal?_minus, denoted, isAscii_cons (by decide), Option.map_eq_some_iff]
    simp only [magnitude?_eq_some_iff h, and_assoc, exists_and_left, exists_eq_left']
  · rename_i hminus
    have hliteral : literal? cs = (magnitude? cs).map Int.ofNat := by
      unfold literal?
      split
      · exact absurd rfl (hminus _)
      · rfl
    have hdenoted : denoted cs = denotedMagnitude cs := by
      unfold denoted
      split
      · exact absurd rfl (hminus _)
      · rfl
    rw [hliteral, hdenoted, Option.map_eq_some_iff]
    simp only [magnitude?_eq_some_iff h, and_assoc, exists_and_left, exists_eq_left']
    rfl

theorem toInt32?_eq_some_iff {i : Int} {n : Int32} : toInt32? i = some n ↔ i = n.toInt := by
  refine ⟨fun h => (toInt_of_toInt32? h).symm, ?_⟩
  rintro rfl
  exact Grammar.toInt32?_toInt n

theorem toInt32?_eq_none_iff {i : Int} :
    toInt32? i = none ↔ ¬ (-2147483648 ≤ i ∧ i ≤ 2147483647) := by
  unfold toInt32?
  split
  · rename_i hi
    exact iff_of_false (Option.some_ne_none _) (not_not_intro hi)
  · rename_i hi
    exact iff_of_true rfl hi

/-- the way through a word of 64 bits, its negation and a narrower word loses nothing -/
theorem toInt32?_through_word (negative : Bool) (m : Nat) :
    ((toInt64? m).map fun w => if negative then -w else w).bind (toInt32? ·.toInt) =
      toInt32? (if negative then -(m : Int) else m) := by
  by_cases hm : (m : Int) ≤ 9223372036854775807
  · have hword : (Int64.ofInt m).toInt = m := Int64.toInt_ofInt_of_le (by omega) (by omega)
    rw [toInt64?, if_pos ⟨by omega, hm⟩, Option.map_some, Option.bind_some]
    cases negative with
    | false => exact congrArg toInt32? hword
    | true =>
      have hneg : (-Int64.ofInt m).toInt = -(m : Int) := by
        rw [Int64.toInt_neg, hword]
        exact Int.bmod_eq_of_le (by omega) (by omega)
      exact congrArg toInt32? hneg
  · rw [toInt64?, if_neg (fun h => hm h.2), Option.map_none, Option.bind_none, eq_comm,
      toInt32?_eq_none_iff]
    cases negative with
    | false => exact fun h => hm (Int.le_trans h.2 (by decide))
    | true =>
      show ¬ (-2147483648 ≤ -(m : Int) ∧ -(m : Int) ≤ 2147483647)
      omega

/-! ### the notations of an integer -/

def sign (i : Int) : List Char := if i < 0 then ['-'] else []

/-- decimal, or hexadecimal behind `0x` or `0X` with small and capital letters, after a minus for
negative integers -/
inductive Writes (i : Int) : List Char → Prop
  | decimal : Writes i (sign i ++ Nat.toDigits 10 i.natAbs)
  | hexadecimal {x : Char} {ds : List Char} (hx : x = 'x' ∨ x = 'X')
      (hds : ds.map Char.toLower = Nat.toDigits 16 i.natAbs) : Writes i (sign i ++ '0' :: x :: ds)

theorem positional_concat (base : Nat) (ds : List Char) (d : Char) :
    positional base (ds ++ [d]) = place d + base * positional base ds := by
  rw [positional, List.reverse_concat, List.map_cons, Nat.ofDigits_cons]
  rfl

theorem digitChar_facts : ∀ d < 16, place (Nat.digitChar d) = d ∧
    isHexDigit (Nat.digitChar d) = true ∧ (Nat.digitChar d).toLower = Nat.digitChar d := by
  decide +kernel

theorem isHexDigit_of_mem_toDigits {base n : Nat} (hbase : base ≤ 16) (h : 1 < base) :
    ∀ d ∈ Nat.toDigits base n, isHexDigit d = true := by
  induction n using Nat.strongRecOn with
  | ind n ih =>
    by_cases hn : n < base
    · rw [Nat.toDigits_of_lt_base hn, List.forall_mem_singleton]
      exact (digitChar_facts n (by omega)).2.1
    · rw [Nat.toDigits_of_base_le h (by omega), List.forall_mem_append, List.forall_mem_singleton]
      refine ⟨ih _ (Nat.div_lt_self (by omega) h), (digitChar_facts _ ?_).2.1⟩
      exact Nat.lt_of_lt_of_le (Nat.mod_lt n (by omega)) hbase

theorem positional_toDigits {base : Nat} (hbase : base ≤ 16) (h : 1 < base) (n : Nat) :
    positional base (Nat.toDigits base n) = n := by
  induction n using Nat.strongRecOn with
  | ind n ih =>
    by_cases hn : n < base
    · rw [Nat.toDigits_of_lt_base hn]
      exact (positional_concat base [] _).trans (digitChar_facts n (by omega)).1
    · have hmod := Nat.lt_of_lt_of_le (Nat.mod_lt n (by omega : base > 0)) hbase
      rw [Nat.toDigits_of_base_le h (by omega), positional_concat,
        ih _ (Nat.div_lt_self (by omega) h), (digitChar_facts _ hmod).1]
      exact Nat.mod_add_div n base

theorem lower_facts {d : Char} (h : isHexDigit d.toLower = true) :
    isHexDigit d = true ∧ place d.toLower = place d := by
  have hall : ∀ n < 128, isHexDigit (Char.ofNat n).toLower = true →
      isHexDigit (Char.ofNat n) = true ∧ place (Char.ofNat n).toLower = place (Char.ofNat n) := by
    decide +kernel
  by_cases hlt : d.toNat < 128
  · have hd := hall d.toNat hlt
    rw [Char.ofNat_toNat] at hd
    exact hd h
  · have hlower : d.toLower = d := dif_neg fun h =>
      hlt (Nat.lt_of_le_of_lt (UInt32.le_iff_toNat_le.mp h.2) (by decide))
    rw [hlower] at h
    exact absurd (toNat_lt_of_isHexDigit h) hlt

theorem isMagnitude_minus (cs : List Char) : isMagnitude ('-' :: cs) = false := by
  have hhex : isHexMagnitude ('-' :: cs) = false := by cases cs <;> rfl
  have hdecimal : isDecimalDigit '-' = false := by decide +kernel
  rw [isMagnitude, hhex, isDecimalMagnitude, List.all_cons, hdecimal]
  rfl

/-- a sign in front of a magnitude -/
theorem literal_sign {i : Int} {cs : List Char} (h : isMagnitude cs = true) (hascii : IsAscii cs)
    (hvalue : denotedMagnitude cs = i.natAbs) :
    isLiteral (sign i ++ cs) = true ∧ IsAscii (sign i ++ cs) ∧ denoted (sign i ++ cs) = i := by
  unfold sign
  split
  · refine ⟨h, (isAscii_cons (by decide)).mpr hascii, ?_⟩
    show -(denotedMagnitude cs : Int) = i
    omega
  · have hminus : ∀ ds, cs ≠ '-' :: ds := by
      rintro ds rfl
      rw [isMagnitude_minus] at h
      cases h
    rw [List.nil_append, isLiteral, denoted]
    · exact ⟨h, hascii, by omega⟩
    · exact hminus
    · exact hminus

theorem Writes.literal {i : Int} {cs : List Char} (h : Writes i cs) :
    isLiteral cs = true ∧ IsAscii cs ∧ denoted cs = i := by
  cases h with
  | decimal =>
    have hmagnitude := magnitude?_eq_some_iff (Grammar.isMagnitude_toDigits i.natAbs) i.natAbs
    obtain ⟨hascii, hvalue⟩ := hmagnitude.mp (Grammar.magnitude?_toDigits i.natAbs)
    exact literal_sign (Grammar.isMagnitude_toDigits i.natAbs) hascii hvalue
  | @hexadecimal x ds hx hds =>
    have hlower : ∀ d ∈ ds, isHexDigit d = true ∧ place d.toLower = place d := by
      intro d hd
      have hmem : d.toLower ∈ Nat.toDigits 16 i.natAbs := hds ▸ List.mem_map_of_mem hd
      exact lower_facts (isHexDigit_of_mem_toDigits (Nat.le_refl 16) (by decide) _ hmem)
    have hne : ds ≠ [] := by
      rintro rfl
      exact Nat.toDigits_ne_nil hds.symm
    have hhex : isHexMagnitude ('0' :: x :: ds) = true := by
      simp only [isHexMagnitude, Bool.and_eq_true, Bool.or_eq_true, beq_iff_eq, List.all_eq_true]
      exact ⟨⟨hx, by simpa using hne⟩, fun d hd => (hlower d hd).1⟩
    have hmagnitude : isMagnitude ('0' :: x :: ds) = true := by rw [isMagnitude, hhex, Bool.true_or]
    have hsame : positional 16 ds = positional 16 (ds.map Char.toLower) := by
      rw [positional, positional, ← List.map_reverse, List.map_map]
      refine congrArg (Nat.ofDigits 16) (List.map_congr_left fun d hd => ?_)
      exact (hlower d (List.mem_reverse.mp hd)).2.symm
    have hread : magnitude? ('0' :: x :: ds) = some i.natAbs := by
      rw [magnitude?, if_pos hhex]
      show some (digitsValue 16 ds) = _
      rw [digitsValue_eq_positional 16 fun d hd => (hlower d hd).1, hsame, hds,
        positional_toDigits (by decide) (by decide)]
    obtain ⟨hascii, hvalue⟩ := (magnitude?_eq_some_iff hmagnitude _).mp hread
    exact literal_sign hmagnitude hascii hvalue

end Number

/-! ### a literal is one token -/

open Lexeme

theorem Lexeme.isUnsigned_of_isMagnitude {cs : List Char} (h : Number.isMagnitude cs = true) :
    IsUnsigned cs := by
  rw [Number.isMagnitude, Bool.or_eq_true] at h
  rcases h with h | h
  · unfold Number.isHexMagnitude at h
    split at h
    · rename_i x ds
      simp only [Bool.and_eq_true, Bool.or_eq_true, beq_iff_eq, List.all_eq_true] at h
      exact .inl ⟨x, ds, rfl, h.1.1, by simpa using h.1.2, h.2⟩
    · cases h
  · rw [Number.isDecimalMagnitude, Bool.and_eq_true, List.all_eq_true] at h
    exact .inr ⟨cs, [], [], by rw [List.append_nil, List.append_nil], ⟨by simpa using h.1, h.2⟩,
      .inl rfl, .inl rfl⟩

theorem Lexeme.isNumber_of_isLiteral {cs : List Char} (h : Number.isLiteral cs = true) :
    IsNumber cs := by
  unfold Number.isLiteral at h
  split at h
  · exact .inr ⟨_, rfl, isUnsigned_of_isMagnitude h⟩
  · exact .inl (isUnsigned_of_isMagnitude h)

theorem Tokens.scan_of_isLiteral {cs : List Char} (h : Number.isLiteral cs = true) :
    scan (String.ofList cs) = .ok ⟨[⟨String.ofList cs, .start⟩], .past cs⟩ := by
  have hleads : Leads .token cs (cs ++ []) := by
    rw [List.append_nil]
    exact ⟨⟨.number, rfl, isNumber_of_isLiteral h⟩, List.prefix_rfl, fun _ hprefix => hprefix⟩
  have hcut : Cut (cs ++ []) [(.token, cs)] [] := .cons hleads (.nil [])
  rw [List.append_nil, ← String.toList_ofList (l := cs)] at hcut
  rw [scan_of_cut hcut, String.toList_ofList]
  rfl

/-! ### reading -/

open Number

/-- A literal is read as the integer that it denotes, if its digits are in ASCII and the integer
fits 32 bits, and refused at its place if not.  Each integer of 32 bits, written in decimal or in
hexadecimal notation, is one token that is read as this integer. -/
theorem Grammar.integer_exact :
    (∀ (what : Expectation) (t : Token) (rest : List Token),
      Number.isLiteral t.text.toList = true →
      (∀ n : Int32, integer what (t :: rest) = .ok (n, rest) ↔
        IsAscii t.text.toList ∧ denoted t.text.toList = n.toInt ∧
          -2 ^ 31 ≤ denoted t.text.toList ∧ denoted t.text.toList ≤ 2 ^ 31 - 1) ∧
      ((∀ n : Int32, integer what (t :: rest) ≠ .ok (n, rest)) →
        ∃ r, integer what (t :: rest) = .error r ∧
          ∀ finish, r.located finish = ⟨.badInteger t.text, t.position⟩)) ∧
    ∀ (n : Int32) (cs : List Char), Writes n.toInt cs →
      Tokens.scan (String.ofList cs) = .ok ⟨[⟨String.ofList cs, .start⟩], .past cs⟩ ∧
      ∀ what rest, integer what (⟨String.ofList cs, .start⟩ :: rest) = .ok (n, rest) := by
  have hread : ∀ (what : Expectation) (t : Token) (rest : List Token) (n : Int32),
      Number.isLiteral t.text.toList = true →
      (integer what (t :: rest) = .ok (n, rest) ↔
        IsAscii t.text.toList ∧ denoted t.text.toList = n.toInt) := by
    intro what t rest n h
    have hbind : (literal? t.text.toList).bind toInt32? = some n ↔
        IsAscii t.text.toList ∧ denoted t.text.toList = n.toInt := by
      simp only [Option.bind_eq_some_iff, literal?_eq_some_iff h, toInt32?_eq_some_iff, and_assoc,
        exists_and_left, exists_eq_left']
    rw [integer_cons, if_pos h, ← hbind]
    cases (literal? t.text.toList).bind toInt32? with
    | none => exact iff_of_false (by simp) (by simp)
    | some m => simp
  refine ⟨fun what t rest h => ⟨fun n => ?_, fun hnot => ?_⟩, fun n cs hwrites => ?_⟩
  · rw [hread what t rest n h]
    have hlow : -2147483648 ≤ n.toInt := n.le_toInt
    have hhigh : n.toInt ≤ 2147483647 := n.toInt_le
    refine and_congr_right fun _ => ⟨fun hn => ⟨hn, ?_, ?_⟩, fun hn => hn.1⟩
    · omega
    · omega
  · rw [integer_cons, if_pos h] at hnot ⊢
    cases hvalue : (literal? t.text.toList).bind toInt32? with
    | none => exact ⟨_, rfl, fun _ => rfl⟩
    | some m =>
      rw [hvalue] at hnot
      exact absurd rfl (hnot m)
  · obtain ⟨hliteral, hascii, hvalue⟩ := hwrites.literal
    refine ⟨Tokens.scan_of_isLiteral hliteral, fun what rest => ?_⟩
    rw [← String.toList_ofList (l := cs)] at hliteral hascii hvalue
    exact (hread what ⟨String.ofList cs, .start⟩ rest n hliteral).mpr ⟨hascii, hvalue⟩

/-- the least integer of 32 bits in hexadecimal notation, one less than it with many zeros, a digit
of another script -/
theorem Grammar.integer_exact_least :
    let least : Token := ⟨"-0X80000000", ⟨1, 1⟩⟩
    let below : Token := ⟨"-00000000000000000000002147483649", ⟨4, 7⟩⟩
    let arabic : Token := ⟨"1\u0661", ⟨2, 3⟩⟩
    Number.isLiteral least.text.toList = true ∧ Number.isLiteral below.text.toList = true ∧
    Number.isLiteral arabic.text.toList = true ∧
    integer .integer [least] = .ok (-2147483648, []) ∧
    (∃ r, integer .integer [below] = .error r ∧
      ∀ finish, r.located finish = ⟨.badInteger below.text, ⟨4, 7⟩⟩) ∧
    (∃ r, integer .integer [arabic] = .error r ∧
      ∀ finish, r.located finish = ⟨.badInteger arabic.text, ⟨2, 3⟩⟩) ∧
    Writes (2147483647 : Int32).toInt "0x7fffFFFF".toList ∧
    Tokens.scan "0x7fffFFFF" = .ok ⟨[⟨"0x7fffFFFF", .start⟩], .past "0x7fffFFFF".toList⟩ := by
  intro least below arabic
  have hleast : Number.isLiteral least.text.toList = true := by decide +kernel
  have hbelow : Number.isLiteral below.text.toList = true := by decide +kernel
  have harabic : Number.isLiteral arabic.text.toList = true := by decide +kernel
  have hwrites : Writes (2147483647 : Int32).toInt "0x7fffFFFF".toList := by
    have hform := Writes.hexadecimal (i := (2147483647 : Int32).toInt) (.inl rfl)
      (show "7fffFFFF".toList.map Char.toLower = Nat.toDigits 16 _ by decide +kernel)
    exact hform
  refine ⟨hleast, hbelow, harabic, ?_, ?_, ?_, hwrites, ?_⟩
  · exact ((integer_exact.1 .integer least [] hleast).1 _).mpr
      ⟨by decide +kernel, by decide +kernel, by decide +kernel, by decide +kernel⟩
  · refine (integer_exact.1 .integer below [] hbelow).2 fun n hn => ?_
    have hrange := (((integer_exact.1 .integer below [] hbelow).1 n).mp hn).2.2.1
    exact absurd hrange (by decide +kernel)
  · refine (integer_exact.1 .integer arabic [] harabic).2 fun n hn => ?_
    have hascii := (((integer_exact.1 .integer arabic [] harabic).1 n).mp hn).1
    exact absurd (hascii (Char.ofNat 0x661) (by decide +kernel)) (by decide +kernel)
  · exact (integer_exact.2 _ _ hwrites).1

end EnvConfig
