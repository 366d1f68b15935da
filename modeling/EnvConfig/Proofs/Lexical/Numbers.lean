import EnvConfig.Proofs.Lexical.Shapes

/-!
# The shapes of numbers

A number is hexadecimal, or decimal with a fraction and a power of ten that may be missing; a minus
sign may stand in front.  The scanner of numbers cuts off the longest start with this shape.

* `IsHexNumber`, `IsDecimalNumber`, `IsNumber`: the shapes;
* `power_sound`, `power_reaches`: powers of ten, which may be nothing;
* `longest_decimalNumber`, `longest_hexNumber`, `longest_number`: the scanners.
-/

namespace EnvConfig.Lexeme

open Text

/-! ### shapes -/

def IsHexNumber (piece : List Char) : Prop :=
  ∃ x ds, piece = '0' :: x :: ds ∧ (x = 'x' ∨ x = 'X') ∧ IsRun isHexDigit ds

/-- nothing, or a point and digits or none -/
def IsFraction (piece : List Char) : Prop :=
  piece = [] ∨ ∃ ds, piece = '.' :: ds ∧ ∀ d ∈ ds, isDecimalDigit d = true

/-- nothing, or a power of ten -/
def IsPower (piece : List Char) : Prop :=
  piece = [] ∨ ∃ e sign ds, piece = e :: (sign ++ ds) ∧ (e = 'e' ∨ e = 'E') ∧
    (sign = [] ∨ sign = ['+'] ∨ sign = ['-']) ∧ IsRun isDecimalDigit ds

def IsDecimalNumber (piece : List Char) : Prop :=
  ∃ whole fraction power, piece = whole ++ (fraction ++ power) ∧ IsRun isDecimalDigit whole ∧
    IsFraction fraction ∧ IsPower power

def IsUnsigned (piece : List Char) : Prop := IsHexNumber piece ∨ IsDecimalNumber piece

def IsNumber (piece : List Char) : Prop :=
  IsUnsigned piece ∨ ∃ magnitude, piece = '-' :: magnitude ∧ IsUnsigned magnitude

/-! ### powers of ten -/

theorem power_sound (cs : List Char) : IsPower (power cs).1 := by
  have hpower : ∀ {e : Char} {ds piece rest : List Char} (sign : List Char),
      (e == 'e' || e == 'E') = true → sign = [] ∨ sign = ['+'] ∨ sign = ['-'] →
        run isDecimalDigit ds = some (piece, rest) → IsPower (e :: (sign ++ piece)) :=
    fun sign he hsign hrun =>
      .inr ⟨_, sign, _, rfl, by simpa using he, hsign, (longest_run _).sound hrun⟩
  unfold power
  dsimp only
  split
  · split
    · split
      · exact hpower ['+'] (by assumption) (.inr (.inl rfl)) (by assumption)
      · exact .inl rfl
    · exact .inl rfl
  · split
    · split
      · exact hpower ['-'] (by assumption) (.inr (.inr rfl)) (by assumption)
      · exact .inl rfl
    · exact .inl rfl
  · split
    · split
      · exact hpower [] (by assumption) (.inl rfl) (by assumption)
      · exact .inl rfl
    · exact .inl rfl
  · exact .inl rfl

/-- no sign is a digit -/
theorem not_sign_of_isRun {ds : List Char} (h : IsRun isDecimalDigit ds) (rest : List Char) :
    ∃ d more, ds ++ rest = d :: more ∧ d ≠ '+' ∧ d ≠ '-' := by
  obtain ⟨d, more, rfl⟩ := List.exists_cons_of_ne_nil h.1
  have hd := h.2 d List.mem_cons_self
  refine ⟨d, more ++ rest, rfl, ?_, ?_⟩
  · rintro rfl
    exact absurd hd (by decide +kernel)
  · rintro rfl
    exact absurd hd (by decide +kernel)

theorem power_reaches {piece : List Char} (h : IsPower piece) (rest : List Char) :
    ∃ more rest', power (piece ++ rest) = (piece ++ more, rest') := by
  rcases h with rfl | ⟨e, sign, ds, rfl, he, hsign, hds⟩
  · exact ⟨(power rest).1, (power rest).2, rfl⟩
  · refine ⟨rest.takeWhile isDecimalDigit, rest.dropWhile isDecimalDigit, ?_⟩
    have hrun := run_reaches hds rest
    have he : (e == 'e' || e == 'E') = true := by simpa using he
    rcases hsign with rfl | rfl | rfl
    · obtain ⟨d, more, hcons, hplus, hminus⟩ := not_sign_of_isRun hds rest
      rw [List.nil_append, List.cons_append]
      unfold power
      split
      · rename_i heq
        exact absurd (List.cons.inj (hcons.symm.trans (List.cons.inj heq).2)).1 hplus
      · rename_i heq
        exact absurd (List.cons.inj (hcons.symm.trans (List.cons.inj heq).2)).1 hminus
      · rename_i heq
        cases heq
        rw [if_pos he]
        dsimp only
        rw [hrun]
        rfl
      · rename_i heq
        cases heq
    · simp only [List.cons_append, List.nil_append, power, he, if_true]
      rw [hrun]
    · simp only [List.cons_append, List.nil_append, power, he, if_true]
      rw [hrun]

/-! ### decimal numbers -/

theorem decimalNumber_of_point {cs whole more : List Char}
    (h : run isDecimalDigit cs = some (whole, '.' :: more)) :
    decimalNumber cs = some
      (whole ++ '.' :: more.takeWhile isDecimalDigit ++ (power (more.dropWhile isDecimalDigit)).1,
        (power (more.dropWhile isDecimalDigit)).2) := by
  rw [decimalNumber, h]
  rfl

theorem decimalNumber_of_ne {cs whole rest : List Char}
    (h : run isDecimalDigit cs = some (whole, rest)) (hpoint : rest.head? ≠ some '.') :
    decimalNumber cs = some (whole ++ (power rest).1, (power rest).2) := by
  rw [decimalNumber, h, Option.map_some]
  dsimp only
  split
  · exact absurd rfl hpoint
  · rfl

theorem head?_of_isPower {piece : List Char} (h : IsPower piece) (rest : List Char) :
    piece = [] ∨ ∃ e ∈ ['e', 'E'], (piece ++ rest).head? = some e := by
  rcases h with rfl | ⟨e, sign, ds, rfl, he, -⟩
  · exact .inl rfl
  · exact .inr ⟨e, by simpa using he, rfl⟩

theorem exponent_facts : ∀ e ∈ ['e', 'E'], isDecimalDigit e = false ∧ e ≠ '.' := by
  refine List.forall_iff_forall_mem.mp ?_
  decide +kernel

theorem decimalNumber_reaches_power {whole exponent : List Char}
    (hwhole : IsRun isDecimalDigit whole) (hexponent : IsPower exponent) (rest : List Char) :
    ∃ more rest', decimalNumber (whole ++ (exponent ++ rest)) =
      some (whole ++ (exponent ++ more), rest') := by
  rcases head?_of_isPower hexponent rest with rfl | ⟨e, he, hhead⟩
  · have hrun := run_reaches hwhole rest
    rw [List.nil_append]
    by_cases hpoint : (rest.dropWhile isDecimalDigit).head? = some '.'
    · obtain ⟨tail, htail⟩ := List.head?_eq_some_iff.mp hpoint
      rw [htail] at hrun
      rw [decimalNumber_of_point hrun, List.append_assoc, List.append_assoc]
      exact ⟨_, _, rfl⟩
    · rw [decimalNumber_of_ne hrun hpoint, List.append_assoc]
      exact ⟨_, _, rfl⟩
  · obtain ⟨more, rest', hpower⟩ := power_reaches hexponent rest
    have hrun : run isDecimalDigit (whole ++ (exponent ++ rest)) =
        some (whole, exponent ++ rest) :=
      run_append hwhole.1 hwhole.2 (by rw [hhead]; rintro _ ⟨⟩; exact (exponent_facts e he).1)
    have hpoint : (exponent ++ rest).head? ≠ some '.' := by
      rw [hhead]
      exact fun h => (exponent_facts e he).2 (Option.some.inj h)
    exact ⟨more, rest', by rw [decimalNumber_of_ne hrun hpoint, hpower]⟩

theorem decimalNumber_reaches_fraction {whole ds exponent : List Char}
    (hwhole : IsRun isDecimalDigit whole) (hds : ∀ d ∈ ds, isDecimalDigit d = true)
    (hexponent : IsPower exponent) (rest : List Char) :
    ∃ more rest', decimalNumber (whole ++ '.' :: (ds ++ (exponent ++ rest))) =
      some (whole ++ '.' :: (ds ++ (exponent ++ more)), rest') := by
  have hrun : run isDecimalDigit (whole ++ '.' :: (ds ++ (exponent ++ rest))) =
      some (whole, '.' :: (ds ++ (exponent ++ rest))) :=
    run_append hwhole.1 hwhole.2 (by rintro _ ⟨⟩; decide +kernel)
  rw [decimalNumber_of_point hrun]
  rcases head?_of_isPower hexponent rest with rfl | ⟨e, he, hhead⟩
  · refine ⟨rest.takeWhile isDecimalDigit ++ (power (rest.dropWhile isDecimalDigit)).1,
      (power (rest.dropWhile isDecimalDigit)).2, ?_⟩
    rw [List.nil_append, List.takeWhile_append_of_pos hds, List.dropWhile_append_of_pos hds]
    simp
  · obtain ⟨more, rest', hpower⟩ := power_reaches hexponent rest
    have hstop : ∀ c ∈ (exponent ++ rest).head?, isDecimalDigit c = false := by
      rw [hhead]
      rintro _ ⟨⟩
      exact (exponent_facts e he).1
    obtain ⟨htake, hdrop⟩ := takeWhile_append hds hstop
    refine ⟨more, rest', ?_⟩
    rw [htake, hdrop, hpower]
    simp

theorem longest_decimalNumber : Scanner.Longest decimalNumber IsDecimalNumber where
  sound {cs piece rest} h := by
    cases hrun : run isDecimalDigit cs with
    | none =>
      rw [decimalNumber, hrun] at h
      cases h
    | some found =>
      obtain ⟨whole, tail⟩ := found
      have hwhole := (longest_run isDecimalDigit).sound hrun
      by_cases hpoint : tail.head? = some '.'
      · obtain ⟨more, rfl⟩ := List.head?_eq_some_iff.mp hpoint
        rw [decimalNumber_of_point hrun] at h
        cases h
        refine ⟨whole, '.' :: more.takeWhile isDecimalDigit, _, List.append_assoc .., hwhole,
          .inr ⟨_, rfl, fun d hd => List.all_eq_true.mp List.all_takeWhile d hd⟩, power_sound _⟩
      · rw [decimalNumber_of_ne hrun hpoint] at h
        cases h
        exact ⟨whole, [], _, rfl, hwhole, .inl rfl, power_sound _⟩
  reaches {piece} rest h := by
    obtain ⟨whole, fraction, exponent, rfl, hwhole, hfraction, hexponent⟩ := h
    rcases hfraction with rfl | ⟨ds, rfl, hds⟩
    · obtain ⟨more, rest', hreach⟩ := decimalNumber_reaches_power hwhole hexponent rest
      exact ⟨more, rest', by simpa using hreach⟩
    · obtain ⟨more, rest', hreach⟩ := decimalNumber_reaches_fraction hwhole hds hexponent rest
      exact ⟨more, rest', by simpa using hreach⟩

/-! ### all numbers -/

theorem longest_hexNumber : Scanner.Longest hexNumber IsHexNumber where
  sound {cs piece rest} h := by
    unfold hexNumber at h
    split at h
    · split at h
      · rename_i hx
        simp only [Option.map_eq_some_iff, Prod.exists, Prod.mk.injEq] at h
        obtain ⟨p, r, hp, rfl, rfl⟩ := h
        exact ⟨_, p, rfl, by simpa using hx, (longest_run _).sound hp⟩
      · cases h
    · cases h
  reaches {piece} rest h := by
    obtain ⟨x, ds, rfl, hx, hds⟩ := h
    have hx : (x == 'x' || x == 'X') = true := by simpa using hx
    refine ⟨rest.takeWhile isHexDigit, rest.dropWhile isHexDigit, ?_⟩
    rw [List.cons_append, List.cons_append, hexNumber, if_pos hx, run_reaches hds]
    rfl

/-- what a decimal number is made of -/
theorem mem_decimalNumber {piece : List Char} (h : IsDecimalNumber piece) :
    ∀ c ∈ piece, isDecimalDigit c = true ∨ c ∈ ['.', 'e', 'E', '+', '-'] := by
  obtain ⟨whole, fraction, exponent, rfl, hwhole, hfraction, hexponent⟩ := h
  simp only [List.forall_mem_append]
  refine ⟨fun c hc => .inl (hwhole.2 c hc), ?_, ?_⟩
  · rcases hfraction with rfl | ⟨ds, rfl, hds⟩
    · exact List.forall_mem_nil _
    · exact List.forall_mem_cons.mpr ⟨.inr (by decide), fun d hd => .inl (hds d hd)⟩
  · rcases hexponent with rfl | ⟨e, sign, ds, rfl, he, hsign, hds⟩
    · exact List.forall_mem_nil _
    · simp only [List.forall_mem_cons, List.forall_mem_append]
      refine ⟨.inr (by rcases he with rfl | rfl <;> decide), ?_, fun d hd => .inl (hds.2 d hd)⟩
      rcases hsign with rfl | rfl | rfl <;> simp

/-- the start of a hexadecimal number that is decimal is the zero in front -/
theorem eq_zero_of_hexNumber {piece rest p r : List Char} (h : IsDecimalNumber piece)
    (hhex : hexNumber (piece ++ rest) = some (p, r)) : piece = ['0'] := by
  obtain ⟨x, ds, rfl, hx, -⟩ := longest_hexNumber.sound hhex
  have htext : '0' :: x :: (ds ++ r) = piece ++ rest := (cuts_hexNumber _ _ _ hhex).1
  have hne : piece ≠ [] := by
    obtain ⟨whole, fraction, exponent, rfl, hwhole, -⟩ := h
    simp [hwhole.1]
  obtain ⟨c, piece, rfl⟩ := List.exists_cons_of_ne_nil hne
  cases piece with
  | nil => rw [(List.cons.inj htext).1]
  | cons d piece =>
    have hd : x = d := (List.cons.inj (List.cons.inj htext).2).1
    have hmem := mem_decimalNumber h x (by rw [hd]; simp)
    rcases hx with rfl | rfl <;> exact absurd hmem (by decide +kernel)

theorem exists_digit_of_isUnsigned {piece : List Char} (h : IsUnsigned piece) :
    ∃ c cs, piece = c :: cs ∧ isDecimalDigit c = true := by
  rcases h with ⟨x, ds, rfl, -⟩ | ⟨whole, fraction, exponent, rfl, hwhole, -⟩
  · exact ⟨'0', _, rfl, by decide +kernel⟩
  · obtain ⟨c, cs, rfl⟩ := List.exists_cons_of_ne_nil hwhole.1
    exact ⟨c, _, rfl, hwhole.2 c List.mem_cons_self⟩

theorem longest_unsigned : Scanner.Longest unsigned IsUnsigned where
  sound {cs piece rest} h := by
    rcases Option.or_eq_some_iff.mp h with h | ⟨-, h⟩
    · exact .inl (longest_hexNumber.sound h)
    · exact .inr (longest_decimalNumber.sound h)
  reaches {piece} rest h := by
    rcases h with h | h
    · obtain ⟨more, rest', hhex⟩ := longest_hexNumber.reaches rest h
      exact ⟨more, rest', by rw [unsigned, hhex, Option.some_or]⟩
    · cases hhex : hexNumber (piece ++ rest) with
      | none =>
        obtain ⟨more, rest', hdecimal⟩ := longest_decimalNumber.reaches rest h
        exact ⟨more, rest', by rw [unsigned, hhex, Option.none_or, hdecimal]⟩
      | some found =>
        obtain ⟨p, r⟩ := found
        obtain ⟨x, ds, rfl, -⟩ := longest_hexNumber.sound hhex
        exact ⟨x :: ds, r, by rw [unsigned, hhex, eq_zero_of_hexNumber h hhex]; rfl⟩

theorem longest_number : Scanner.Longest number IsNumber where
  sound {cs piece rest} h := by
    unfold number at h
    split at h
    · simp only [Option.map_eq_some_iff, Prod.exists, Prod.mk.injEq] at h
      obtain ⟨p, r, hp, rfl, rfl⟩ := h
      exact .inr ⟨p, rfl, longest_unsigned.sound hp⟩
    · exact .inl (longest_unsigned.sound h)
  reaches {piece} rest h := by
    rcases h with h | ⟨magnitude, rfl, h⟩
    · obtain ⟨more, rest', hunsigned⟩ := longest_unsigned.reaches rest h
      refine ⟨more, rest', ?_⟩
      obtain ⟨c, cs, rfl, hc⟩ := exists_digit_of_isUnsigned h
      unfold number
      split
      · rename_i heq
        rw [(List.cons.inj heq).1] at hc
        exact absurd hc (by decide +kernel)
      · exact hunsigned
    · obtain ⟨more, rest', hunsigned⟩ := longest_unsigned.reaches rest h
      refine ⟨more, rest', ?_⟩
      rw [List.cons_append, number, hunsigned]
      rfl

end EnvConfig.Lexeme
