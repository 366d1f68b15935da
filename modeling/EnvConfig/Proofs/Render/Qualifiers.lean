import EnvConfig.Text.Segment

/-!
# Qualified names in code

In `fmt.Errorf` the word before the dot qualifies the name after it.  Code is put together from
texts, and a word can go on from one of them to the next, so that words are followed through a text
from what stands before it.

* `Code.qualifiers`: the words before the dots of a text;
* `Code.RefersTo`: a qualified name stands in a text;
* `Code.Tame`: a text with which a certain word never becomes a qualifier, whatever it is put
  behind;
* `Code.tame_of_isTame`: how to see this of a text that is known, and `Code.tame_of_word` of a word.
-/

namespace EnvConfig.Code

open Text

/-- the word at the end of a text, after `c` has been put behind `word` -/
def extend (word : List Char) (c : Char) : List Char := if isNameChar c then word ++ [c] else []

/-- the word at the end of a text that is put behind `word` -/
def wordAfter (word cs : List Char) : List Char := cs.foldl extend word

/-- the words before the dots of a text that is put behind `word` -/
def qualifiersFrom (word : List Char) : List Char → List (List Char)
  | [] => []
  | c :: cs => (if c = '.' then [word] else []) ++ qualifiersFrom (extend word c) cs

/-- the words before the dots of a text; an empty one where no word is before a dot -/
def qualifiers (text : String) : List String := (qualifiersFrom [] text.toList).map String.ofList

/-- The text has `qualifier.member` in it, and neither of the two is the end or the beginning of
something longer. -/
def RefersTo (text qualifier member : String) : Prop :=
  ∃ before after, text = before ++ qualifier ++ "." ++ member ++ after ∧
    before.toList.getLast?.all (fun c => !isNameChar c && c != '.') = true ∧
    after.toList.head?.all (fun c => !isNameChar c) = true

/-- Behind any word but `w`, the text does not have `w` before a dot, and does not end in `w`; and
it has no line feed. -/
structure Tame (w cs : List Char) : Prop where
  qualifiers : ∀ word ≠ w, w ∉ qualifiersFrom word cs
  word : ∀ word ≠ w, wordAfter word cs ≠ w
  oneLine : '\n' ∉ cs

variable {w word cs ds : List Char} {c : Char}

/-! ### words through a text -/

theorem extend_of_isNameChar (h : isNameChar c = true) (word : List Char) :
    extend word c = word ++ [c] := if_pos h

theorem extend_of_mark (h : isNameChar c = false) (word : List Char) : extend word c = [] :=
  if_neg (by simp [h])

theorem wordAfter_cons (word : List Char) (c : Char) (cs : List Char) :
    wordAfter word (c :: cs) = wordAfter (extend word c) cs := rfl

theorem wordAfter_append (word cs ds : List Char) :
    wordAfter word (cs ++ ds) = wordAfter (wordAfter word cs) ds := List.foldl_append

theorem qualifiersFrom_append (word cs ds : List Char) : qualifiersFrom word (cs ++ ds) =
    qualifiersFrom word cs ++ qualifiersFrom (wordAfter word cs) ds := by
  induction cs generalizing word with
  | nil => rfl
  | cons c cs ih =>
    rw [List.cons_append, qualifiersFrom, qualifiersFrom, ih, wordAfter_cons, List.append_assoc]

theorem wordAfter_of_isNameChar (h : ∀ c ∈ cs, isNameChar c = true) (word : List Char) :
    wordAfter word cs = word ++ cs := by
  induction cs generalizing word with
  | nil => exact (List.append_nil word).symm
  | cons c cs ih =>
    rw [List.forall_mem_cons] at h
    rw [wordAfter_cons, extend_of_isNameChar h.1, ih h.2, List.append_assoc]
    rfl

theorem qualifiersFrom_of_isNameChar (h : ∀ c ∈ cs, isNameChar c = true) (word : List Char) :
    qualifiersFrom word cs = [] := by
  induction cs generalizing word with
  | nil => rfl
  | cons c cs ih =>
    rw [List.forall_mem_cons] at h
    have hdot : c ≠ '.' := by
      rintro rfl
      exact absurd h.1 (by decide)
    rw [qualifiersFrom, if_neg hdot, ih h.2, List.nil_append]

/-- no word goes on behind a mark -/
theorem wordAfter_of_getLast? (h : cs.getLast?.all (fun c => !isNameChar c) = true) :
    wordAfter [] cs = [] := by
  obtain rfl | ⟨before, c, rfl⟩ := List.eq_nil_or_concat cs
  · rfl
  · have hc : isNameChar c = false := by simpa using h
    rw [List.concat_eq_append, wordAfter_append]
    exact extend_of_mark hc _

theorem mem_qualifiers {text name : String} :
    name ∈ qualifiers text ↔ name.toList ∈ qualifiersFrom [] text.toList := by
  rw [qualifiers, List.mem_map]
  constructor
  · rintro ⟨q, hq, rfl⟩
    rwa [String.toList_ofList]
  · exact fun h => ⟨_, h, String.ofList_toList⟩

/-- a reference behind a mark -/
theorem refersTo_append (front mark qualifier member back : String)
    (hmark : mark.toList.getLast?.any (fun c => !isNameChar c && c != '.') = true)
    (hback : back.toList.head?.all (fun c => !isNameChar c) = true) :
    RefersTo (front ++ mark ++ qualifier ++ "." ++ member ++ back) qualifier member := by
  refine ⟨_, _, rfl, ?_, hback⟩
  rw [String.toList_append, List.getLast?_append]
  cases hlast : mark.toList.getLast? with
  | none =>
    rw [hlast] at hmark
    cases hmark
  | some c =>
    rw [hlast] at hmark
    exact hmark

/-- a reference has its qualifier before a dot -/
theorem RefersTo.mem_qualifiers {text qualifier member : String}
    (h : RefersTo text qualifier member) (hname : ∀ c ∈ qualifier.toList, isNameChar c = true) :
    qualifier ∈ qualifiers text := by
  obtain ⟨before, after, rfl, hbefore, -⟩ := h
  have hmark : before.toList.getLast?.all (fun c => !isNameChar c) = true := by
    cases hlast : before.toList.getLast? with
    | none => rfl
    | some c =>
      rw [hlast, Option.all_some, Bool.and_eq_true] at hbefore
      exact hbefore.1
  have hdot : ".".toList = ['.'] := rfl
  rw [Code.mem_qualifiers, String.toList_append, String.toList_append, String.toList_append,
    String.toList_append, hdot, List.append_assoc, List.append_assoc, qualifiersFrom_append,
    qualifiersFrom_append, wordAfter_append, wordAfter_of_getLast? hmark,
    wordAfter_of_isNameChar hname]
  exact List.mem_append_right _ List.mem_cons_self

/-! ### tame texts -/

theorem tame_nil : Tame w [] :=
  ⟨fun _ _ => List.not_mem_nil, fun _ hword => hword, List.not_mem_nil⟩

theorem Tame.append (h : Tame w cs) (h' : Tame w ds) : Tame w (cs ++ ds) := by
  refine ⟨fun word hword => ?_, fun word hword => ?_, ?_⟩
  · rw [qualifiersFrom_append, List.mem_append]
    exact not_or.mpr ⟨h.qualifiers word hword, h'.qualifiers _ (h.word word hword)⟩
  · rw [wordAfter_append]
    exact h'.word _ (h.word word hword)
  · rw [List.mem_append]
    exact not_or.mpr ⟨h.oneLine, h'.oneLine⟩

theorem Tame.append_text {a b : String} (ha : Tame w a.toList) (hb : Tame w b.toList) :
    Tame w (a ++ b).toList := by
  rw [String.toList_append]
  exact ha.append hb

/-- with no word before it, a tame text does not have `name` for a qualifier -/
theorem Tame.not_mem_qualifiers {text name : String} (h : Tame name.toList text.toList)
    (hne : name ≠ "") : name ∉ Code.qualifiers text := by
  rw [mem_qualifiers]
  exact h.qualifiers [] fun hnil => hne (by simpa using hnil.symm)

/-- a word is tame that `w` does not end in -/
theorem tame_of_word (hname : ∀ c ∈ cs, isNameChar c = true)
    (hend : ∀ word ≠ w, word ++ cs ≠ w) : Tame w cs := by
  refine ⟨fun word _ => ?_, fun word hword => ?_, fun hfeed => ?_⟩
  · rw [qualifiersFrom_of_isNameChar hname]
    exact List.not_mem_nil
  · rw [wordAfter_of_isNameChar hname]
    exact hend word hword
  · exact absurd (hname _ hfeed) (by decide)

/-- behind a mark it does not matter what word was before it -/
theorem tame_cons_of_mark (hc : isNameChar c = false) (hfeed : c ≠ '\n')
    (h : w ∉ qualifiersFrom [] cs ∧ wordAfter [] cs ≠ w ∧ '\n' ∉ cs) : Tame w (c :: cs) := by
  obtain ⟨hqualifiers, hword, hline⟩ := h
  refine ⟨fun word hout => ?_, fun word _ => ?_, ?_⟩
  · rw [qualifiersFrom, extend_of_mark hc, List.mem_append]
    refine not_or.mpr ⟨?_, hqualifiers⟩
    split
    · exact fun hmem => hout (List.mem_singleton.mp hmem).symm
    · exact List.not_mem_nil
  · rwa [wordAfter_cons, extend_of_mark hc]
  · exact List.not_mem_cons_of_ne_of_not_mem (Ne.symm hfeed) hline

/-! ### checking a text -/

/-- put behind `word` and nothing else, the text is tame -/
def isTameFrom (w word : List Char) : List Char → Bool
  | [] => word != w
  | c :: cs => (c != '.' || word != w) && c != '\n' && isTameFrom w (extend word c) cs

/-- The text is tame, since `w` does not end in the word at its front, if there is one, and the rest
is put behind a mark. -/
def isTame (w cs : List Char) : Bool :=
  let front := cs.takeWhile isNameChar
  (front.isEmpty || !front.isSuffixOf w) &&
    match cs.dropWhile isNameChar with
    | [] => true
    | c :: rest => c != '\n' && isTameFrom w [] rest

theorem of_isTameFrom (h : isTameFrom w word cs = true) :
    w ∉ qualifiersFrom word cs ∧ wordAfter word cs ≠ w ∧ '\n' ∉ cs := by
  induction cs generalizing word with
  | nil => exact ⟨List.not_mem_nil, bne_iff_ne.mp h, List.not_mem_nil⟩
  | cons c cs ih =>
    simp only [isTameFrom, Bool.and_eq_true, Bool.or_eq_true, bne_iff_ne] at h
    obtain ⟨⟨hdot, hfeed⟩, hrest⟩ := h
    obtain ⟨hqualifiers, hword, hline⟩ := ih hrest
    refine ⟨?_, hword, List.not_mem_cons_of_ne_of_not_mem (Ne.symm hfeed) hline⟩
    rw [qualifiersFrom, List.mem_append]
    refine not_or.mpr ⟨?_, hqualifiers⟩
    split
    · rename_i hc
      exact fun hmem => hdot.resolve_left (fun hne => hne hc) (List.mem_singleton.mp hmem).symm
    · exact List.not_mem_nil

theorem tame_of_isTame (h : isTame w cs = true) : Tame w cs := by
  rw [isTame, Bool.and_eq_true] at h
  obtain ⟨hfront, hback⟩ := h
  have hword : ∀ c ∈ cs.takeWhile isNameChar, isNameChar c = true :=
    List.all_eq_true.mp List.all_takeWhile
  rw [← List.takeWhile_append_dropWhile (p := isNameChar) (l := cs)]
  refine Tame.append (tame_of_word hword fun word hout heq => ?_) ?_
  · obtain hempty | hends := Bool.or_eq_true_iff.mp hfront
    · rw [List.isEmpty_iff.mp hempty, List.append_nil] at heq
      exact hout heq
    · have hsuffix := List.isSuffixOf_iff_suffix.mpr
        (List.suffix_append word (cs.takeWhile isNameChar))
      rw [heq] at hsuffix
      rw [hsuffix] at hends
      cases hends
  · have hmark := List.head?_dropWhile_not isNameChar cs
    cases hdrop : cs.dropWhile isNameChar with
    | nil => exact tame_nil
    | cons c rest =>
      rw [hdrop] at hmark hback
      rw [Bool.and_eq_true, bne_iff_ne] at hback
      exact tame_cons_of_mark (by simpa using hmark) hback.1 (of_isTameFrom hback.2)

end EnvConfig.Code
