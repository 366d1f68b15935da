import EnvConfig.Render.Code
import EnvConfig.Text.Segment
import Mathlib.Data.List.Infix

/-!
# Lines of code

Every line of rendered code is made of one text of its pieces, behind tabs, with nothing but
brackets around it; or it is empty, or closes blocks.  What holds of the texts of the pieces and is
kept by putting texts together therefore holds of the lines.

* `Code.IsLine`, `Code.isLine_of_mem_allLines`: what the lines of code are made of;
* `Code.forall_mem_allLines`: so what holds of the texts holds of the lines;
* `Code.allLines_isInfix`: the lines of a part of the code stand together among its lines;
* `Code.segments_text`, `Code.isInfix_segments_text`: the lines are what stands between the line
  feeds of the text.
-/

namespace EnvConfig.Code

open Text

/-- A line with tabs in front, and one of `texts` in it: on its own, or as the head of a block.  An
empty line has no tabs. -/
inductive IsLine (tab : String) (texts : List String) : String → Prop
  | empty : IsLine tab texts ""
  | text {text : String} (n : Nat) (h : text ∈ texts) : IsLine tab texts (indentation tab n ++ text)
  | head {text lead opening : String} (n : Nat) (h : text ∈ texts)
      (hlead : lead ∈ ["", "\x7d "]) (hopening : opening ∈ [" \x7b", " ("]) :
      IsLine tab texts (indentation tab n ++ lead ++ text ++ opening)
  | close {closing : String} (n : Nat) (hclosing : closing ∈ ["\x7d", ")"]) :
      IsLine tab texts (indentation tab n ++ closing)

variable {tab : String} {n : Nat} {ts us : List String} {l : String}

theorem IsLine.mono (h : IsLine tab ts l) (hts : ts ⊆ us) : IsLine tab us l := by
  cases h with
  | empty => exact .empty
  | text n ht => exact .text n (hts ht)
  | head n ht hlead hopening => exact .head n (hts ht) hlead hopening
  | close n hclosing => exact .close n hclosing

mutual

theorem isLine_of_mem_lines : ∀ (c : Code) (n : Nat), ∀ l ∈ lines tab n c, IsLine tab (texts c) l
  | line text, n, l, h => by
    obtain rfl := List.mem_singleton.mp h
    exact .text n List.mem_cons_self
  | empty, n, l, h => by
    obtain rfl := List.mem_singleton.mp h
    exact .empty
  | blocks parts, n, l, h => isLine_of_mem_partLines parts n "" (by decide) l h
  | group head body, n, l, h => by
    rw [lines, List.mem_cons, List.mem_append, List.mem_singleton] at h
    obtain rfl | h | rfl := h
    · have hhead : IsLine tab (texts (group head body)) (indentation tab n ++ "" ++ head ++ " (") :=
        .head n List.mem_cons_self (by decide) (by decide)
      rwa [String.append_empty] at hhead
    · exact (isLine_of_mem_allLines body (n + 1) l h).mono (List.subset_cons_self _ _)
    · exact .close n (by decide)

theorem isLine_of_mem_partLines : ∀ (parts : List (String × List Code)) (n : Nat) (lead : String),
    lead ∈ ["", "\x7d "] → ∀ l ∈ partLines tab n lead parts, IsLine tab (partTexts parts) l
  | [], n, lead, hlead, l, h => by
    obtain rfl := List.mem_singleton.mp h
    exact .close n (by decide)
  | (head, body) :: parts, n, lead, hlead, l, h => by
    rw [partLines, List.mem_cons, List.mem_append] at h
    rw [partTexts]
    obtain rfl | h | h := h
    · exact .head n List.mem_cons_self hlead (by decide)
    · exact (isLine_of_mem_allLines body (n + 1) l h).mono fun t ht =>
        List.mem_cons_of_mem _ (List.mem_append_left _ ht)
    · exact (isLine_of_mem_partLines parts n "\x7d " (by decide) l h).mono fun t ht =>
        List.mem_cons_of_mem _ (List.mem_append_right _ ht)

/-- what the lines of code are made of -/
theorem isLine_of_mem_allLines : ∀ (code : List Code) (n : Nat), ∀ l ∈ allLines tab n code,
    IsLine tab (allTexts code) l
  | [], n, l, h => absurd h List.not_mem_nil
  | c :: cs, n, l, h => by
    rw [allLines, List.mem_append] at h
    rw [allTexts]
    obtain h | h := h
    · exact (isLine_of_mem_lines c n l h).mono (List.subset_append_left _ _)
    · exact (isLine_of_mem_allLines cs n l h).mono (List.subset_append_right _ _)

end

/-- what holds of the texts of code, of tabs and of brackets, and is kept by putting texts together,
holds of the lines -/
theorem forall_mem_allLines {P : String → Prop} (hempty : P "")
    (happend : ∀ a b, P a → P b → P (a ++ b)) (htab : P tab)
    (hbrackets : ∀ text ∈ [" \x7b", " (", "\x7d ", "\x7d", ")"], P text) {code : List Code}
    (h : ∀ text ∈ allTexts code, P text) : ∀ l ∈ allLines tab n code, P l := by
  have htabs : ∀ k, P (indentation tab k) := by
    intro k
    induction k with
    | zero => exact hempty
    | succ k ih =>
      have hsucc : indentation tab (k + 1) = tab ++ indentation tab k := String.join_cons
      rw [hsucc]
      exact happend _ _ htab ih
  simp only [List.forall_mem_cons] at hbrackets
  obtain ⟨hbrace, hparenthesis, hnext, hclose, hclose', -⟩ := hbrackets
  intro l hl
  cases isLine_of_mem_allLines code n l hl with
  | empty => exact hempty
  | text _ ht => exact happend _ _ (htabs _) (h _ ht)
  | head _ ht hlead hopening =>
    simp only [List.mem_cons, List.not_mem_nil, or_false] at hlead hopening
    refine happend _ _ (happend _ _ (happend _ _ (htabs _) ?_) (h _ ht)) ?_
    · obtain rfl | rfl := hlead
      · exact hempty
      · exact hnext
    · obtain rfl | rfl := hopening
      · exact hbrace
      · exact hparenthesis
  | close _ hclosing =>
    simp only [List.mem_cons, List.not_mem_nil, or_false] at hclosing
    refine happend _ _ (htabs _) ?_
    obtain rfl | rfl := hclosing
    · exact hclose
    · exact hclose'

/-- the lines of a part of the code stand together -/
theorem allLines_isInfix {part code : List Code} (h : part <:+: code) :
    allLines tab n part <:+: allLines tab n code := by
  obtain ⟨before, after, rfl⟩ := h
  rw [allLines_append, allLines_append]
  exact List.infix_append _ _ _

/-- the lines of the body of a block in the code stand together -/
theorem body_isInfix {head : String} {body code : List Code} (h : block head body ∈ code) :
    allLines tab (n + 1) body <:+: allLines tab n code := by
  have hbody : allLines tab (n + 1) body <:+: lines tab n (block head body) := ⟨[_], [_], rfl⟩
  obtain ⟨before, after, rfl⟩ := List.append_of_mem h
  rw [allLines_append, allLines, ← List.append_assoc]
  exact hbody.trans (List.infix_append _ _ _)

theorem isInfix_separated {piece : List Code} {pieces : List (List Code)} (h : piece ∈ pieces) :
    piece <:+: separated pieces := by
  induction pieces with
  | nil => exact absurd h List.not_mem_nil
  | cons first pieces ih =>
    cases pieces with
    | nil =>
      obtain rfl := List.mem_singleton.mp h
      exact List.infix_refl _
    | cons next pieces =>
      rw [separated]
      obtain rfl | h := List.mem_cons.mp h
      · exact (List.prefix_append _ _).isInfix
      · exact (ih h).trans ((List.suffix_cons _ _).trans (List.suffix_append _ _)).isInfix

theorem toList_text (tab : String) (code : List Code) : (text tab code).toList =
    join '\n' ((allLines tab 0 code).map String.toList) ++ ['\n'] := by
  rw [← toList_lines]
  exact String.toList_append

/-- what stands between the line feeds of a text is in its lines -/
theorem segments_text_eq_flatMap {code : List Code} (hne : allLines tab 0 code ≠ []) :
    segments '\n' (text tab code).toList =
      (allLines tab 0 code).flatMap (segments '\n' ·.toList) ++ [[]] := by
  have hparts : (allLines tab 0 code).map String.toList ≠ [] :=
    fun h => hne (List.map_eq_nil_iff.mp h)
  rw [toList_text, segments_append_cons, segments, segmentsWhere_join (by simp) hparts,
    List.flatMap_map]
  rfl

theorem flatMap_segments_lines {ls : List String} (h : ∀ l ∈ ls, '\n' ∉ l.toList) :
    ls.flatMap (segments '\n' ·.toList) = ls.map String.toList := by
  rw [← List.flatMap_map, flatMap_segments (List.forall_mem_map.mpr h)]

/-- without line feeds inside them, the lines of code are the lines of its text -/
theorem segments_text {code : List Code} (hne : allLines tab 0 code ≠ [])
    (h : ∀ l ∈ allLines tab 0 code, '\n' ∉ l.toList) :
    segments '\n' (text tab code).toList = (allLines tab 0 code).map String.toList ++ [[]] := by
  rw [segments_text_eq_flatMap hne, flatMap_segments_lines h]

/-- and those that stand together in the code stand together in the text -/
theorem isInfix_segments_text {code : List Code} {ls : List String}
    (hne : allLines tab 0 code ≠ []) (hls : ls <:+: allLines tab 0 code)
    (h : ∀ l ∈ ls, '\n' ∉ l.toList) :
    ls.map String.toList <:+: segments '\n' (text tab code).toList := by
  rw [segments_text_eq_flatMap hne, ← flatMap_segments_lines h]
  obtain ⟨before, after, hlines⟩ := hls
  rw [← hlines, List.flatMap_append, List.flatMap_append, List.append_assoc]
  exact List.infix_append _ _ _

end EnvConfig.Code
