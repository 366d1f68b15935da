import EnvConfig.Text.Basic

/-!
# Segments and names

A text is cut at every occurrence of a character; `join` is the way back.  There is always at
least one segment.  A dotted name is a text whose segments at the dots are identifiers.

* `segments_ne_nil`: no text is without segments;
* `segments_append_cons`: the segments of two texts with the character between them;
* `join_segments`, `segments_join`: joining the segments gives the text back, and parts without the
  character are the segments of what they are joined to;
* `segmentsWhere_join`: the segments of parts that are joined;
* `join_append`, `join_of_isPrefix`: the text of some segments and of more after them;
* `after?_append`, `append_of_after?`: what comes after a beginning;
* `isIdentifier`, `isDotted`, `isTypeName`: the names in a schema, which are ASCII.
-/

namespace EnvConfig.Text

/-- the parts of `cs` between the characters with `sep` -/
def segmentsWhere (sep : Char → Bool) : List Char → List (List Char)
  | [] => [[]]
  | c :: cs =>
    if sep c then [] :: segmentsWhere sep cs
    else match segmentsWhere sep cs with
      | [] => [[c]]
      | s :: rest => (c :: s) :: rest

/-- the parts of `cs` between the occurrences of `sep` -/
def segments (sep : Char) (cs : List Char) : List (List Char) := segmentsWhere (· == sep) cs

theorem segmentsWhere_ne_nil (sep : Char → Bool) (cs : List Char) : segmentsWhere sep cs ≠ [] := by
  induction cs with
  | nil => simp [segmentsWhere]
  | cons c cs ih =>
    unfold segmentsWhere
    split
    · simp
    · split <;> simp

theorem segments_ne_nil (sep : Char) (cs : List Char) : segments sep cs ≠ [] :=
  segmentsWhere_ne_nil _ cs

theorem segmentsWhere_append_cons {sep : Char → Bool} {c : Char} (hc : sep c = true)
    (cs ds : List Char) :
    segmentsWhere sep (cs ++ c :: ds) = segmentsWhere sep cs ++ segmentsWhere sep ds := by
  induction cs with
  | nil => simp [segmentsWhere, hc]
  | cons a cs ih =>
    rw [List.cons_append, segmentsWhere, segmentsWhere, ih]
    by_cases ha : sep a = true
    · rw [if_pos ha, if_pos ha, List.cons_append]
    · rw [if_neg ha, if_neg ha]
      have hne := segmentsWhere_ne_nil sep cs
      cases hparts : segmentsWhere sep cs with
      | nil => exact absurd hparts hne
      | cons s rest => rfl

theorem segments_append_cons (sep : Char) (cs ds : List Char) :
    segments sep (cs ++ sep :: ds) = segments sep cs ++ segments sep ds := by
  unfold segments
  rw [segmentsWhere_append_cons (by simp)]

theorem segmentsWhere_of_forall {sep : Char → Bool} {cs : List Char}
    (h : ∀ c ∈ cs, sep c = false) : segmentsWhere sep cs = [cs] := by
  induction cs with
  | nil => rfl
  | cons c cs ih =>
    have hc : ¬ sep c = true := by
      rw [h c List.mem_cons_self]
      exact Bool.false_ne_true
    rw [segmentsWhere, if_neg hc, ih fun d hd => h d (List.mem_cons_of_mem _ hd)]

theorem segments_of_not_mem {sep : Char} {cs : List Char} (h : sep ∉ cs) :
    segments sep cs = [cs] := by
  refine segmentsWhere_of_forall fun c hc => ?_
  have hne : c ≠ sep := fun he => h (he ▸ hc)
  simpa using hne

/-- a beginning without separators becomes part of the first segment -/
theorem exists_segmentsWhere_append {sep : Char → Bool} {lead : List Char}
    (h : ∀ c ∈ lead, sep c = false) (cs : List Char) : ∃ s rest,
      segmentsWhere sep cs = s :: rest ∧ segmentsWhere sep (lead ++ cs) = (lead ++ s) :: rest := by
  induction lead with
  | nil =>
    obtain ⟨s, rest, hcs⟩ := List.exists_cons_of_ne_nil (segmentsWhere_ne_nil sep cs)
    exact ⟨s, rest, hcs, hcs⟩
  | cons c lead ih =>
    have hc : ¬ sep c = true := by
      rw [h c List.mem_cons_self]
      exact Bool.false_ne_true
    obtain ⟨s, rest, hcs, hlead⟩ := ih fun d hd => h d (List.mem_cons_of_mem _ hd)
    refine ⟨s, rest, hcs, ?_⟩
    rw [List.cons_append, segmentsWhere, if_neg hc, hlead]
    rfl

theorem sep_of_mem_segmentsWhere {sep : Char → Bool} {cs s : List Char}
    (hs : s ∈ segmentsWhere sep cs) {c : Char} (hc : c ∈ s) : sep c = false := by
  induction cs generalizing s with
  | nil =>
    obtain rfl : s = [] := by simpa [segmentsWhere] using hs
    exact absurd hc List.not_mem_nil
  | cons d cs ih =>
    rw [segmentsWhere] at hs
    by_cases hd : sep d = true
    · rw [if_pos hd] at hs
      rcases List.mem_cons.mp hs with rfl | hs
      · exact absurd hc List.not_mem_nil
      · exact ih hs hc
    · rw [if_neg hd] at hs
      cases hparts : segmentsWhere sep cs with
      | nil => exact absurd hparts (segmentsWhere_ne_nil sep cs)
      | cons t rest =>
        rw [hparts] at hs ih
        rcases List.mem_cons.mp hs with rfl | hs
        · rcases List.mem_cons.mp hc with rfl | hc
          · simpa using hd
          · exact ih List.mem_cons_self hc
        · exact ih (List.mem_cons_of_mem _ hs) hc

/-- the parts with `sep` between neighbours -/
def join (sep : Char) : List (List Char) → List Char
  | [] => []
  | [s] => s
  | s :: t :: rest => s ++ sep :: join sep (t :: rest)

theorem join_segments (sep : Char) (cs : List Char) : join sep (segments sep cs) = cs := by
  induction cs with
  | nil => rfl
  | cons c cs ih =>
    have hne := segments_ne_nil sep cs
    unfold segments segmentsWhere
    by_cases h : c = sep
    · subst h
      unfold segments at ih hne
      generalize segmentsWhere (· == c) cs = parts at ih hne
      cases parts with
      | nil => exact absurd rfl hne
      | cons p ps => simp [join, ih]
    · unfold segments at ih hne
      generalize segmentsWhere (· == sep) cs = parts at ih hne
      cases parts with
      | nil => exact absurd rfl hne
      | cons p ps => cases ps <;> simp_all [join]

/-- what is joined with one of the separators is cut part by part -/
theorem segmentsWhere_join {sep : Char → Bool} {c : Char} (hc : sep c = true)
    {parts : List (List Char)} (hne : parts ≠ []) :
    segmentsWhere sep (join c parts) = parts.flatMap (segmentsWhere sep) := by
  induction parts with
  | nil => exact absurd rfl hne
  | cons part parts ih =>
    cases parts with
    | nil => rw [join, List.flatMap_cons, List.flatMap_nil, List.append_nil]
    | cons next rest =>
      rw [join, segmentsWhere_append_cons hc, ih (List.cons_ne_nil _ _)]
      rfl

theorem flatMap_segments {sep : Char} {parts : List (List Char)} (h : ∀ part ∈ parts, sep ∉ part) :
    parts.flatMap (segments sep) = parts := by
  induction parts with
  | nil => rfl
  | cons part parts ih =>
    rw [List.flatMap_cons, segments_of_not_mem (h part List.mem_cons_self),
      ih fun part hpart => h part (List.mem_cons_of_mem _ hpart), List.singleton_append]

theorem segments_join {sep : Char} {parts : List (List Char)} (hne : parts ≠ [])
    (h : ∀ part ∈ parts, sep ∉ part) : segments sep (join sep parts) = parts := by
  rw [segments, segmentsWhere_join (by simp) hne]
  exact flatMap_segments h

theorem toList_intercalate_eq_join (sep : Char) (parts : List String) :
    ((String.singleton sep).intercalate parts).toList = join sep (parts.map String.toList) := by
  induction parts with
  | nil => rfl
  | cons part parts ih =>
    cases parts with
    | nil => rw [String.intercalate_singleton]; rfl
    | cons next rest =>
      rw [String.intercalate_cons_cons, String.toList_append, String.toList_append, ih,
        String.toList_singleton, List.append_assoc]
      rfl

theorem toList_lines (ls : List String) :
    ("\n".intercalate ls).toList = join '\n' (ls.map String.toList) :=
  toList_intercalate_eq_join '\n' ls

theorem join_append (sep : Char) {as bs : List (List Char)} (ha : as ≠ []) (hb : bs ≠ []) :
    join sep (as ++ bs) = join sep as ++ sep :: join sep bs := by
  induction as with
  | nil => exact absurd rfl ha
  | cons a as ih =>
    cases as with
    | nil =>
      cases bs with
      | nil => exact absurd rfl hb
      | cons b bs => rfl
    | cons a' as =>
      have hrest := ih (List.cons_ne_nil a' as)
      rw [List.cons_append, List.cons_append, join, ← List.cons_append, hrest, join,
        List.append_assoc, List.cons_append]

/-- a beginning of the parts gives a beginning of the text -/
theorem join_of_isPrefix (sep : Char) {as bs : List (List Char)} (h : as <+: bs) :
    join sep as <+: join sep bs := by
  obtain ⟨cs, rfl⟩ := h
  by_cases ha : as = []
  · subst ha
    exact List.nil_prefix
  · by_cases hc : cs = []
    · subst hc
      simp
    · rw [join_append sep ha hc]
      exact List.prefix_append _ _

/-- the last segment -/
def lastSegment (sep : Char → Bool) (cs : List Char) : List Char :=
  (segmentsWhere sep cs).getLast?.getD []

theorem lastSegment_mem (sep : Char → Bool) (cs : List Char) :
    lastSegment sep cs ∈ segmentsWhere sep cs := by
  have hne := segmentsWhere_ne_nil sep cs
  rw [lastSegment, List.getLast?_eq_some_getLast hne, Option.getD_some]
  exact List.getLast_mem hne

/-- `cs` without the given end, if it has that end -/
def withoutEnd? (ending cs : List Char) : Option (List Char) := List.isSuffixOf? ending cs

/-- what comes in `cs` after `lead`, if it begins with that -/
def after? : List Char → List Char → Option (List Char)
  | [], cs => some cs
  | _ :: _, [] => none
  | l :: lead, c :: cs => if l = c then after? lead cs else none

theorem after?_nil (cs : List Char) : after? [] cs = some cs := by cases cs <;> rfl

theorem after?_cons_nil (l : Char) (lead : List Char) : after? (l :: lead) [] = none := rfl

theorem after?_cons_cons (l c : Char) (lead cs : List Char) :
    after? (l :: lead) (c :: cs) = if l = c then after? lead cs else none := rfl

theorem after?_append (lead cs : List Char) : after? lead (lead ++ cs) = some cs := by
  induction lead with
  | nil => exact after?_nil cs
  | cons l lead ih => rw [List.cons_append, after?_cons_cons, if_pos rfl, ih]

theorem append_of_after? {lead cs rest : List Char} (h : after? lead cs = some rest) :
    lead ++ rest = cs := by
  induction lead generalizing cs with
  | nil =>
    rw [after?_nil] at h
    exact (Option.some.inj h).symm
  | cons l lead ih =>
    cases cs with
    | nil => cases h
    | cons c cs =>
      rw [after?_cons_cons] at h
      split at h
      · rename_i hc
        rw [List.cons_append, ih h, hc]
      · cases h

/-- two texts without `sep` that differ are told apart by the `sep` behind them -/
theorem after?_of_ne {sep : Char} {ks os : List Char} (rest : List Char) (hk : sep ∉ ks)
    (ho : sep ∉ os) (h : os ≠ ks) : after? (ks ++ [sep]) (os ++ sep :: rest) = none := by
  induction ks generalizing os with
  | nil =>
    cases os with
    | nil => exact absurd rfl h
    | cons o os =>
      have hne : sep ≠ o := fun he => ho (he ▸ List.mem_cons_self)
      exact if_neg hne
  | cons k ks ih =>
    have hne : k ≠ sep := fun he => hk (he ▸ List.mem_cons_self)
    cases os with
    | nil => exact if_neg hne
    | cons o os =>
      rw [List.cons_append, List.cons_append, after?_cons_cons]
      by_cases hko : k = o
      · subst hko
        rw [if_pos rfl, ih (fun hm => hk (List.mem_cons_of_mem _ hm))
          (fun hm => ho (List.mem_cons_of_mem _ hm)) fun he => h (by rw [he])]
      · exact if_neg hko

/-- the part of a text after its last `sep`, without the ending if it has it -/
def stem (sep : Char → Bool) (ending : String) (s : String) : String :=
  let base := lastSegment sep s.toList
  String.ofList ((withoutEnd? ending.toList base).getD base)

/-! ### identifiers and dotted names

An identifier is a letter or underscore and then letters, digits and underscores; a dotted name is
identifiers with dots between them. -/

/-- a character that an identifier may begin with -/
def isNameStart (c : Char) : Bool := c.isAlpha || c == '_'

/-- a character that an identifier may go on with -/
def isNameChar (c : Char) : Bool := c.isAlphanum || c == '_'

def isIdentifier : List Char → Bool
  | [] => false
  | c :: cs => isNameStart c && cs.all isNameChar

/-- identifiers with single dots between them -/
def isDotted (cs : List Char) : Bool := (segments '.' cs).all isIdentifier

/-- a dotted name, possibly after one leading dot -/
def isTypeName : List Char → Bool
  | '.' :: cs => isDotted cs
  | cs => isDotted cs

/-- a dot and a dotted name -/
def isDotSuffix : List Char → Bool
  | '.' :: cs => isDotted cs
  | _ => false

/-- what holds of the characters below 128 holds of those that names are made of -/
theorem forall_nameChar {p : Char → Bool} (h : ∀ n < 128, p (Char.ofNat n) = true) {c : Char}
    (hc : isNameChar c = true) : p c = true := by
  have hle : c.val ≤ 'z'.val := by
    simp only [isNameChar, Char.isAlphanum, Bool.or_eq_true, beq_iff_eq] at hc
    rcases hc with (hc | hdigit) | rfl
    · rcases Bool.or_eq_true_iff.mp hc with hupper | hlower
      · exact UInt32.le_trans (of_decide_eq_true hupper).2 (by decide)
      · exact of_decide_eq_true (Bool.and_eq_true_iff.mp hlower).2
    · exact UInt32.le_trans (of_decide_eq_true (Bool.and_eq_true_iff.mp hdigit).2) (by decide)
    · decide
  have hlt : c.toNat < 128 := Nat.lt_of_le_of_lt (UInt32.le_iff_toNat_le.mp hle) (by decide)
  rw [← Char.ofNat_toNat c]
  exact h c.toNat hlt

theorem isBlank_of_isNameChar {c : Char} (h : isNameChar c = true) : isBlank c = false := by
  have hall := forall_nameChar (p := fun c => !isNameChar c || !isBlank c) (by decide +kernel) h
  simpa [h] using hall

theorem isNameChar_of_isNameStart {c : Char} (h : isNameStart c = true) : isNameChar c = true := by
  simp only [isNameStart, isNameChar, Char.isAlphanum, Bool.or_eq_true] at h ⊢
  rcases h with h | h
  · exact .inl (.inl h)
  · exact .inr h

theorem isNameChar_of_isIdentifier {cs : List Char} (h : isIdentifier cs = true) :
    ∀ c ∈ cs, isNameChar c = true := by
  cases cs with
  | nil => cases h
  | cons c cs =>
    rw [isIdentifier, Bool.and_eq_true, List.all_eq_true] at h
    exact List.forall_mem_cons.mpr ⟨isNameChar_of_isNameStart h.1, h.2⟩

theorem dot_not_mem_of_isIdentifier {cs : List Char} (h : isIdentifier cs = true) : '.' ∉ cs :=
  fun hmem => absurd (isNameChar_of_isIdentifier h _ hmem) (by decide)

theorem isDotted_of_isIdentifier {cs : List Char} (h : isIdentifier cs = true) :
    isDotted cs = true := by
  rw [isDotted, segments_of_not_mem (dot_not_mem_of_isIdentifier h), List.all_cons, h]
  rfl

theorem isDotted_append {cs ds : List Char} (h : isIdentifier cs = true) :
    isDotted (cs ++ '.' :: ds) = isDotted ds := by
  rw [isDotted, segments_append_cons, segments_of_not_mem (dot_not_mem_of_isIdentifier h),
    List.singleton_append, List.all_cons, h, Bool.true_and]
  rfl

theorem isTypeName_of_isDotted {cs : List Char} (h : isDotted cs = true) :
    isTypeName cs = true := by
  unfold isTypeName
  split
  · simp [isDotted, segments, segmentsWhere, isIdentifier] at h
  · exact h

end EnvConfig.Text
