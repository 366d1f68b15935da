import EnvConfig.Proofs.Printing.Reading
import EnvConfig.Proofs.Printing.Scanning

/-!
# Reading printed phrases

* `reads_literal_spelled`, `reads_integer`: strings and numbers are read as they were;
* `Spelled`: options with the words of their values, which can be any literals;
* `reads_optionName`, `reads_setting_spelled`, `reads_settings`: options are read as they were;
* `reads_field`: so are fields, up to their positions.
-/

namespace EnvConfig.Grammar

open Reader Text

variable {next : String}

/-! ### names -/

theorem isTypeName_of_isIdentifier {cs : List Char} (h : isIdentifier cs = true) :
    isTypeName cs = true := isTypeName_of_isDotted (isDotted_of_isIdentifier h)

theorem dropWhile_dot_of_isDotted {cs : List Char} (h : isDotted cs = true) :
    cs.dropWhile (· == '.') = cs := by
  cases cs with
  | nil => rfl
  | cons c cs =>
    obtain ⟨-, -, -, -, hdot, -⟩ := nameStart_facts (Lexeme.isNameStart_of_isDotted h)
    exact List.dropWhile_cons_of_neg (by simpa using hdot)

theorem isTypeName_of_isDotSuffix {cs : List Char} (h : isDotSuffix cs = true) :
    isTypeName cs = true := by
  unfold isDotSuffix at h
  split at h
  · exact h
  · cases h

/-! ### literals -/

theorem unescape_flatMap (cs : List Char) : unescape (cs.flatMap escape) = cs := by
  induction cs with
  | nil => rfl
  | cons c cs ih =>
    rw [List.flatMap_cons]
    rcases escape_cases c with ⟨d, hd, hescaped, -⟩ | ⟨hc, hback, -⟩
    · rw [hd]
      show unescape ('\\' :: d :: cs.flatMap escape) = c :: cs
      rw [unescape, ih, hescaped]
    · rw [hc]
      show unescape (c :: cs.flatMap escape) = c :: cs
      rw [unescape, ih]
      intro d ds h _
      exact hback h

theorem literalText_literalWord (s : String) : literalText (literalWord s) = s := by
  rw [literalText, literalWord, String.toList_ofList, List.drop_one, List.tail_cons,
    List.dropLast_concat, unescape_flatMap, String.ofList_toList]

theorem isBetween_concat {quote : Char} {p : Char → Bool} {cs : List Char}
    (h : ∀ c ∈ cs, p c = true) : isBetween quote p (quote :: (cs ++ [quote])) = true := by
  obtain ⟨d, ds, hcons⟩ := List.exists_cons_of_ne_nil (show cs ++ [quote] ≠ [] by simp)
  rw [hcons, isBetween, ← hcons, List.getLast?_concat, List.dropLast_concat]
  simpa using h

theorem isLiteral_literalWord (s : String) : isLiteral (literalWord s).toList = true := by
  rw [literalWord, String.toList_ofList, isLiteral, Bool.or_eq_true]
  exact .inl (isBetween_concat fun _ _ => rfl)

theorem isConstant_literalWord (s : String) : isConstant (literalWord s).toList = true := by
  have hfeed : ∀ c ∈ s.toList.flatMap escape, isNotLineFeed c = true := by
    intro c hc
    obtain ⟨e, -, hc⟩ := List.mem_flatMap.mp hc
    rcases escape_cases e with ⟨d, hd, -, hne⟩ | ⟨he, -, -, hne⟩
    · rw [hd] at hc
      rcases List.mem_cons.mp hc with rfl | hc
      · decide
      · rw [List.mem_singleton.mp hc]
        simpa [isNotLineFeed] using hne
    · rw [he] at hc
      rw [List.mem_singleton.mp hc]
      simpa [isNotLineFeed] using hne
  rw [literalWord, String.toList_ofList, isConstant, Bool.or_eq_true, Bool.or_eq_true,
    Bool.or_eq_true]
  exact .inl (.inl (.inr (isBetween_concat hfeed)))

theorem ne_of_isLiteral {w v : String} (h : isLiteral w.toList = true)
    (hv : isLiteral v.toList = false) : w ≠ v := by
  rintro rfl
  rw [h] at hv
  cases hv

theorem reads_literal_spelled (what : Expectation) {w : String} (h : isLiteral w.toList = true) :
    Reads next (literal what) [w] (· = literalText w) := by
  unfold literal
  exact Reads.bind_cons (reads_token h) fun t ht => reads_pure (by rw [ht])

/-! ### numbers -/

theorem digitsValue_toDigits (n : Nat) : digitsValue 10 (Nat.toDigits 10 n) = n := by
  have hfold : ∀ (ds : List Char) (init : Nat), (∀ d ∈ ds, d.isDigit = true) →
      ds.foldl (fun n d => n * 10 + digitValue d) init = Nat.ofDigitChars 10 ds init := by
    intro ds
    induction ds with
    | nil => intro init _; rw [Nat.ofDigitChars_nil]; rfl
    | cons d ds ih =>
      intro init h
      have hd : digitValue d = d.toNat - '0'.toNat := if_pos (h d List.mem_cons_self)
      rw [List.foldl_cons, ih _ fun e he => h e (List.mem_cons_of_mem _ he),
        Nat.ofDigitChars_cons, hd, Nat.mul_comm]
  rw [digitsValue, hfold _ _ fun d hd => Nat.isDigit_of_mem_toDigits (by decide) (by decide) hd,
    Nat.ofDigitChars_ten_toDigits]

theorem isDigit_of_mem_toDigits {n : Nat} {d : Char} (h : d ∈ Nat.toDigits 10 n) :
    d.isDigit = true :=
  Nat.isDigit_of_mem_toDigits (by decide) (by decide) h

theorem isHexMagnitude_toDigits (n : Nat) :
    Number.isHexMagnitude (Nat.toDigits 10 n) = false := by
  unfold Number.isHexMagnitude
  split
  · rename_i x ds heq
    have hx : x.isDigit = true := isDigit_of_mem_toDigits (n := n) (by rw [heq]; simp)
    have hne : ∀ c : Char, c.isDigit = false → (x == c) = false := by
      intro c hc
      rw [beq_eq_false_iff_ne]
      rintro rfl
      rw [hx] at hc
      cases hc
    rw [hne 'x' (by decide), hne 'X' (by decide)]
    rfl
  · rfl

theorem all_isDigit_toDigits (n : Nat) :
    (!(Nat.toDigits 10 n).isEmpty && (Nat.toDigits 10 n).all Char.isDigit) = true := by
  rw [Bool.and_eq_true, List.all_eq_true]
  exact ⟨by simp [Nat.toDigits_ne_nil], fun _ => isDigit_of_mem_toDigits⟩

theorem magnitude?_toDigits (n : Nat) : Number.magnitude? (Nat.toDigits 10 n) = some n := by
  rw [Number.magnitude?, isHexMagnitude_toDigits, if_neg Bool.false_ne_true, Number.decimal?,
    if_pos (all_isDigit_toDigits n), digitsValue_toDigits]

theorem isMagnitude_toDigits (n : Nat) : Number.isMagnitude (Nat.toDigits 10 n) = true := by
  have hall := all_isDigit_toDigits n
  rw [Bool.and_eq_true, List.all_eq_true] at hall
  rw [Number.isMagnitude, Number.isDecimalMagnitude, Bool.or_eq_true, Bool.and_eq_true,
    List.all_eq_true]
  exact .inr ⟨hall.1, fun d hd => isDecimalDigit_of_isDigit (hall.2 d hd)⟩

/-- digits do not begin with a minus -/
theorem toDigits_ne_minus {n : Nat} {cs : List Char} : Nat.toDigits 10 n ≠ '-' :: cs := by
  intro h
  have hminus := isDigit_of_mem_toDigits (n := n) (d := '-') (by rw [h]; exact List.mem_cons_self)
  exact absurd hminus (by decide)

theorem literal?_decimalText (i : Int) : Number.literal? (Number.decimalText i) = some i := by
  cases i with
  | ofNat n =>
    rw [Number.decimalText, Number.literal?]
    · rw [magnitude?_toDigits]
      rfl
    · exact fun cs => toDigits_ne_minus
  | negSucc n =>
    rw [Number.decimalText, Number.literal?, magnitude?_toDigits]
    rfl

theorem isLiteral_decimalText (i : Int) : Number.isLiteral (Number.decimalText i) = true := by
  cases i with
  | ofNat n =>
    rw [Number.decimalText, Number.isLiteral]
    · exact isMagnitude_toDigits n
    · exact fun cs => toDigits_ne_minus
  | negSucc n => exact isMagnitude_toDigits (n + 1)

theorem toInt32?_toInt (n : Int32) : Number.toInt32? n.toInt = some n := by
  have hlow := n.le_toInt
  have hhigh := n.toInt_le
  rw [Number.toInt32?, if_pos ⟨hlow, hhigh⟩, Int32.ofInt_toInt]

theorem reads_integer (what : Expectation) (n : Int32) :
    Reads next (integer what) [numberWord n] (· = n) := by
  unfold integer
  refine Reads.bind_cons (reads_token ?_) fun t ht => ?_
  · rw [numberWord, String.toList_ofList, isLiteral_decimalText]
  · rw [ht, numberWord, String.toList_ofList, literal?_decimalText, Option.bind_some,
      toInt32?_toInt]
    exact reads_pure rfl

/-! ### options -/

theorem ne_of_isTypeName {name w : String} (h : isTypeName name.toList = true)
    (hw : isTypeName w.toList = false) : name ≠ w := by
  rintro rfl
  rw [h] at hw
  cases hw

theorem mem_join {sep c : Char} {parts : List (List Char)} (h : c ∈ join sep parts) :
    c = sep ∨ ∃ part ∈ parts, c ∈ part := by
  induction parts with
  | nil => cases h
  | cons part parts ih =>
    cases parts with
    | nil => exact .inr ⟨part, List.mem_cons_self, h⟩
    | cons part' parts =>
      rcases List.mem_append.mp h with h | h
      · exact .inr ⟨part, List.mem_cons_self, h⟩
      · rcases List.mem_cons.mp h with h | h
        · exact .inl h
        · rcases ih h with h | ⟨p, hp, hc⟩
          · exact .inl h
          · exact .inr ⟨p, List.mem_cons_of_mem _ hp, hc⟩

theorem mem_join_of_mem {sep c : Char} {part : List Char} {parts : List (List Char)}
    (h : part ∈ parts) (hc : c ∈ part) : c ∈ join sep parts := by
  induction parts with
  | nil => cases h
  | cons part' parts ih =>
    cases parts with
    | nil =>
      obtain rfl := List.mem_singleton.mp h
      exact hc
    | cons next parts =>
      rw [join, List.mem_append, List.mem_cons]
      obtain rfl | h := List.mem_cons.mp h
      · exact .inl hc
      · exact .inr (.inr (ih h))

/-- a name is made of name characters and dots -/
theorem isNameChar_of_mem {c : Char} {cs : List Char} (h : isTypeName cs = true) (hc : c ∈ cs) :
    c = '.' ∨ isNameChar c = true := by
  have hdotted : ∀ {ds : List Char}, isDotted ds = true → c ∈ ds →
      c = '.' ∨ isNameChar c = true := by
    intro ds hds hc
    rw [← join_segments '.' ds] at hc
    rcases mem_join hc with hc | ⟨part, hpart, hc⟩
    · exact .inl hc
    have hid := List.all_eq_true.mp hds part hpart
    cases part with
    | nil => cases hc
    | cons d part =>
      rw [isIdentifier, Bool.and_eq_true, List.all_eq_true] at hid
      rcases List.mem_cons.mp hc with rfl | hc
      · exact .inr (isNameChar_of_isNameStart hid.1)
      · exact .inr (hid.2 c hc)
  unfold isTypeName at h
  split at h
  · rcases List.mem_cons.mp hc with rfl | hc
    · exact .inl rfl
    · exact hdotted h hc
  · exact hdotted h hc

theorem optionNameWords_of_isTypeName {name : String} (h : isTypeName name.toList = true) :
    optionNameWords name = [name] := by
  unfold optionNameWords
  split
  · rename_i cs heq
    rw [heq] at h
    rcases Lexeme.head_of_isTypeName h with h | h
    · exact absurd h (by decide)
    · exact absurd h (by decide)
  · rfl

theorem optionNameWords_of_parts {inner more : List Char} (h : isTypeName inner = true) :
    optionNameWords (String.ofList ('(' :: (inner ++ ')' :: more))) =
      "(" :: String.ofList inner :: ")" :: if more.isEmpty then [] else [String.ofList more] := by
  have hinner : ∀ c ∈ inner, (c != ')') = true := by
    intro c hc
    rw [bne_iff_ne]
    rintro rfl
    rcases isNameChar_of_mem h hc with h | h
    · exact absurd h (by decide)
    · exact absurd h (by decide)
  have hclose : ∀ c ∈ (')' :: more).head?, (c != ')') = false := by
    rintro _ ⟨⟩
    rfl
  obtain ⟨htake, hdrop⟩ := Lexeme.takeWhile_append hinner hclose
  rw [optionNameWords, String.toList_ofList]
  simp only [htake, hdrop, List.drop_one, List.tail_cons]

theorem reads_suffix {more : List Char} (h : more = [] ∨ isDotSuffix more = true) :
    Reads "=" suffix (if more.isEmpty then [] else [String.ofList more])
      (· = String.ofList more) := by
  intro ts rest hts hrest
  rcases h with rfl | h
  · rw [List.isEmpty_nil, if_pos rfl, List.map_eq_nil_iff] at hts
    subst hts
    refine ⟨"", ?_, rfl⟩
    cases rest with
    | nil => rfl
    | cons t rest =>
      have ht : t.text = "=" := hrest
      show Except.ok (if isDotSuffix t.text.toList then (t.text, rest) else ("", t :: rest)) = _
      rw [ht]
      rfl
  · have hne : ¬ more.isEmpty = true := by
      rw [List.isEmpty_iff]
      rintro rfl
      cases h
    rw [if_neg hne] at hts
    obtain ⟨t, ts, rfl, ht, hnil⟩ := List.map_eq_cons_iff.mp hts
    rw [List.map_eq_nil_iff] at hnil
    subst hnil
    refine ⟨t.text, ?_, ht⟩
    show Except.ok (if isDotSuffix t.text.toList then (t.text, rest) else ("", t :: rest)) = _
    rw [ht, String.toList_ofList, if_pos h]

theorem reads_optionName {name : String} (h : IsOptionName name) :
    Reads "=" optionName (optionNameWords name) (· = name) := by
  unfold optionName
  rcases h with h | ⟨inner, more, hinner, hmore, rfl⟩
  · rw [optionNameWords_of_isTypeName h]
    refine Reads.bind_nil (reads_skips_of_ne (ne_of_isTypeName h (by decide))) fun b hb => ?_
    rw [hb]
    exact Reads.bind_cons (reads_token h) fun t ht => reads_pure ht
  · rw [optionNameWords_of_parts hinner]
    refine Reads.bind_cons (reads_skips "(") fun b hb => ?_
    rw [hb]
    refine Reads.bind_cons (reads_token (by rwa [String.toList_ofList])) fun t ht => ?_
    refine Reads.bind_cons (reads_mark ")") fun _ _ => ?_
    rw [← List.append_nil (if more.isEmpty then [] else [String.ofList more])]
    refine Reads.bind (reads_suffix hmore) fun more' hmore' => reads_pure ?_
    rw [ht, hmore', ← String.toList_inj]
    simp

/-- an option as it is spelled, with the word of its value -/
structure Spelled where
  name : String
  word : String

namespace Spelled

def words (p : Spelled) : List String := optionNameWords p.name ++ ["=", p.word]

/-- the words of the options of a field -/
def fieldWords : List Spelled → List String
  | [] => []
  | p :: ps => "[" :: (words p ++ (ps.flatMap (fun p => "," :: words p) ++ ["]"]))

/-- what the words mean if the value is a literal -/
def setting (p : Spelled) : Setting := ⟨p.name, literalText p.word⟩

/-- the name fits, and the value is a literal that can be the value of an option -/
structure Fits (p : Spelled) : Prop where
  isOptionName : IsOptionName p.name
  isLiteral : isLiteral p.word.toList = true
  isConstant : isConstant p.word.toList = true

/-- an option as it is printed -/
def ofSetting (s : Setting) : Spelled := ⟨s.name, literalWord s.value⟩

theorem setting_ofSetting (s : Setting) : setting (ofSetting s) = s := by
  rw [setting, ofSetting, literalText_literalWord]

theorem fits_ofSetting {s : Setting} (h : IsOptionName s.name) : Fits (ofSetting s) :=
  ⟨h, isLiteral_literalWord s.value, isConstant_literalWord s.value⟩

theorem fieldWords_map (ss : List Setting) :
    fieldWords (ss.map ofSetting) = settingsWords ss := by
  cases ss with
  | nil => rfl
  | cons s ss =>
    rw [List.map_cons, fieldWords, settingsWords, List.flatMap_map]
    rfl

end Spelled

theorem reads_optionValue {w : String} (h : isLiteral w.toList = true)
    (hconstant : isConstant w.toList = true) :
    Reads next optionValue [w] (· = literalText w) := by
  unfold optionValue
  refine Reads.bind_nil reads_peek fun v hv => ?_
  rw [hv, List.headD_cons, if_neg (by simpa using ne_of_isLiteral h (by decide))]
  refine Reads.bind_cons (reads_token hconstant) fun t ht => reads_pure ?_
  rw [ht, if_pos h]

theorem reads_setting_spelled {p : Spelled} (h : p.Fits) :
    Reads next setting p.words (· = p.setting) := by
  refine Reads.bind (reads_optionName h.isOptionName) fun name hname => ?_
  refine Reads.bind_cons (reads_mark "=") fun _ _ => ?_
  refine Reads.bind_cons (reads_optionValue h.isLiteral h.isConstant) fun value hvalue =>
    reads_pure ?_
  rw [hname, hvalue]
  rfl

theorem reads_optionStatement_spelled {p : Spelled} (h : p.Fits) :
    Reads next optionStatement (p.words ++ [";"]) (· = p.setting) := by
  refine Reads.bind (reads_setting_spelled h) fun s' hs' => ?_
  refine Reads.bind_cons (reads_mark ";") fun _ _ => reads_pure hs'

theorem reads_nextSetting {p : Spelled} (h : p.Fits) (before : List Setting) :
    Reads next (nextSetting before) ("," :: p.words) (· = before ++ [p.setting]) := by
  refine Reads.bind_cons (reads_mark ",") fun _ _ => ?_
  rw [← List.append_nil p.words]
  refine Reads.bind (reads_setting_spelled h) fun s' hs' => reads_pure ?_
  rw [hs']

theorem reads_settings_spelled {ps : List Spelled} (h : ∀ p ∈ ps, p.Fits) :
    Reads ";" settings (Spelled.fieldWords ps) (· = ps.map Spelled.setting) := by
  unfold settings
  cases ps with
  | nil =>
    refine Reads.bind_nil (reads_skips_of_ne (by decide)) fun b hb => ?_
    rw [hb]
    exact reads_pure rfl
  | cons p ps =>
    refine Reads.bind_cons (reads_skips "[") fun b hb => ?_
    rw [hb]
    refine Reads.bind (reads_setting_spelled (h p List.mem_cons_self)) fun s hs => ?_
    have hnext : ∀ q ∈ ps, ∀ done before next,
        before = p.setting :: done.map Spelled.setting →
        Reads next (nextSetting before) ("," :: q.words)
          (· = p.setting :: (done ++ [q]).map Spelled.setting) := by
      rintro q hq done _ next rfl
      refine (reads_nextSetting (h q (List.mem_cons_of_mem _ hq)) _).mono fun ss hss => ?_
      rw [hss, List.map_append]
      rfl
    refine (steps_foldUntil ";" (· = p.setting :: ps.map Spelled.setting)).items
      (fun done before => before = p.setting :: done.map Spelled.setting)
      (fun q _ => ⟨",", q.words, rfl, by decide⟩) hnext (by rw [hs]; rfl) fun ss hss =>
        reads_foldUntil_close hss

theorem reads_settings {ss : List Setting} (h : ∀ s ∈ ss, IsOptionName s.name) :
    Reads ";" settings (settingsWords ss) (· = ss) := by
  rw [← Spelled.fieldWords_map]
  refine (reads_settings_spelled fun p hp => ?_).mono fun ss' hss => ?_
  · obtain ⟨s, hs, rfl⟩ := List.mem_map.mp hp
    exact Spelled.fits_ofSetting (h s hs)
  · rw [hss, List.map_map]
    exact List.map_id'' Spelled.setting_ofSetting ss

/-! ### fields -/

theorem reads_mapOpening : Reads next mapOpening ["map", "<"] (· = true) := by
  intro ts rest hts _
  obtain ⟨t, ts, rfl, ht, hts⟩ := List.map_eq_cons_iff.mp hts
  obtain ⟨u, ts, rfl, hu, hnil⟩ := List.map_eq_cons_iff.mp hts
  rw [List.map_eq_nil_iff] at hnil
  subst hnil
  refine ⟨true, ?_, rfl⟩
  show Except.ok (if t.text == "map" && u.text == "<" then (true, rest) else _) = _
  rw [ht, hu]
  rfl

/-- a name is not read as the beginning of a map when no `<` comes after it -/
theorem reads_mapOpening_then {α : Type} {P : α → Prop} {f : Bool → Reader α} {w : String}
    (hnext : next ≠ "<") (h : Reads next (f false) [w] P) :
    Reads next (mapOpening >>= f) [w] P := by
  intro ts rest hts hrest
  obtain ⟨a, ha, hP⟩ := h ts rest hts hrest
  refine ⟨a, bind_eq_ok.mpr ⟨false, _, ?_, ha⟩, hP⟩
  obtain ⟨t, ts, rfl, -, hnil⟩ := List.map_eq_cons_iff.mp hts
  rw [List.map_eq_nil_iff] at hnil
  subst hnil
  cases rest with
  | nil => rfl
  | cons u rest =>
    have hu : ¬ u.text = "<" := fun he => hnext (hrest ▸ he)
    show Except.ok (if t.text == "map" && u.text == "<" then _ else _) = _
    rw [if_neg (by simp [hu])]
    rfl

theorem reads_fieldType {type : FieldType} (h : type.Printable) (hnext : next ≠ "<") :
    Reads next fieldType type.words (· = type) := by
  unfold fieldType
  cases type with
  | named name =>
    refine reads_mapOpening_then hnext ?_
    exact Reads.bind_cons (reads_token h) fun t ht => reads_pure (by rw [ht])
  | map key value =>
    obtain ⟨hkey, hvalue⟩ := h
    refine Reads.bind reads_mapOpening fun b hb => ?_
    rw [hb]
    refine Reads.bind_cons (reads_token hkey) fun k hk => ?_
    refine Reads.bind_cons (reads_mark ",") fun _ _ => ?_
    refine Reads.bind_cons (reads_token hvalue) fun v hv => ?_
    refine Reads.bind_cons (reads_mark ">") fun _ _ => reads_pure ?_
    rw [hk, hv]

theorem reads_labelled {f : Field} (h : f.Printable) :
    Reads next (labelled f.label) f.labelledWords (·.unplaced = f.unplaced) := by
  have hname : f.name ≠ "<" := ne_of_isTypeName (isTypeName_of_isIdentifier h.name) (by decide)
  unfold labelled
  refine Reads.bind (reads_fieldType h.type hname) fun type htype => ?_
  refine Reads.bind_cons (reads_token h.name) fun name hname => ?_
  refine Reads.bind_cons (reads_mark "=") fun _ _ => ?_
  refine Reads.bind_cons (reads_integer _ f.number) fun number hnumber => ?_
  refine Reads.bind (reads_settings h.options) fun options hoptions => ?_
  refine Reads.bind_cons (reads_mark ";") fun _ _ => reads_pure ?_
  rw [Field.unplaced, Field.unplaced, htype, hname, hnumber, hoptions, h.targets]

theorem reads_label_repeated : Reads next label ["repeated"] (· = .repeated) := by
  unfold label
  refine Reads.bind_cons (reads_skips "repeated") fun b hb => ?_
  rw [hb]
  exact reads_pure rfl

theorem reads_label_optional : Reads next label ["optional"] (· = .optional) := by
  unfold label
  refine Reads.bind_nil (reads_skips_of_ne (show "optional" ≠ "repeated" by decide)) fun b hb => ?_
  rw [hb]
  refine Reads.bind_cons (reads_skips "optional") fun b hb => ?_
  rw [hb]
  exact reads_pure rfl

theorem reads_label_required : Reads next label ["required"] (· = .plain) := by
  unfold label
  refine Reads.bind_nil (reads_skips_of_ne (show "required" ≠ "repeated" by decide)) fun b hb => ?_
  rw [hb]
  refine Reads.bind_nil (reads_skips_of_ne (show "required" ≠ "optional" by decide)) fun b hb => ?_
  rw [hb]
  exact Reads.bind_cons (reads_skips "required") fun _ _ => reads_pure rfl

/-- a field that is none of a group of alternatives is read with its label -/
theorem reads_field {f : Field} (h : f.Printable) (hlabel : ∀ group, f.label ≠ .oneof group) :
    Reads next field f.words (·.unplaced = f.unplaced) := by
  have hrest := @reads_labelled next f h
  unfold field Field.words
  cases hl : f.label with
  | plain => exact Reads.bind_cons reads_label_required fun l hl' => by rw [hl', ← hl]; exact hrest
  | optional =>
    exact Reads.bind_cons reads_label_optional fun l hl' => by rw [hl', ← hl]; exact hrest
  | repeated =>
    exact Reads.bind_cons reads_label_repeated fun l hl' => by rw [hl', ← hl]; exact hrest
  | oneof group => exact absurd hl (hlabel group)

end EnvConfig.Grammar
