import EnvConfig.Environment.Setting
import Mathlib.Data.List.DropRight
import Mathlib.Data.List.Forall2

/-!
# Reading settings

* `trim_of_mem_itemsOf`: the items of a list are trimmed already, so a symbol is looked up as it
  stands there;
* `resolveSymbols_eq_ok`: symbols are resolved exactly if each of them is;
* `resolveSymbols_eq_error`: otherwise the first one that is not is refused.
-/

namespace EnvConfig

namespace Text

theorem dropEndWhile_eq_rdropWhile (p : Char → Bool) (cs : List Char) :
    dropEndWhile p cs = cs.rdropWhile p := rfl

/-- what begins like a text without blanks in front has none in front either -/
theorem dropWhile_eq_self_of_isPrefix {p : Char → Bool} {cs ds : List Char}
    (hds : ds.dropWhile p = ds) (h : cs <+: ds) : cs.dropWhile p = cs := by
  cases cs with
  | nil => rfl
  | cons c cs =>
    obtain ⟨rest, rfl⟩ := h
    rw [List.cons_append, List.dropWhile_cons] at hds
    rw [List.dropWhile_cons]
    split at hds
    · have hlen := (List.dropWhile_suffix (l := cs ++ rest) p).length_le
      rw [hds, List.length_cons] at hlen
      omega
    · rename_i hc
      rw [if_neg hc]

theorem trimmed_trimmed (cs : List Char) : trimmed (trimmed cs) = trimmed cs := by
  have hfront : (trimmed cs).dropWhile isBlank = trimmed cs :=
    dropWhile_eq_self_of_isPrefix (List.dropWhile_idempotent isBlank cs)
      (List.rdropWhile_prefix isBlank _)
  calc trimmed (trimmed cs) = (trimmed cs).rdropWhile isBlank := by
        rw [trimmed, hfront, dropEndWhile_eq_rdropWhile]
    _ = trimmed cs := List.rdropWhile_idempotent isBlank _

end Text

open Text

theorem trim_of_mem_itemsOf {raw item : String} (h : item ∈ itemsOf raw) : trim item = item := by
  obtain ⟨cs, hcs, rfl⟩ := List.mem_map.mp h
  obtain ⟨seg, -, rfl⟩ := List.mem_map.mp (List.mem_filter.mp hcs).1
  rw [trim, String.toList_ofList, trimmed_trimmed]

variable {key : String} {numberOf : String → Option Int32}

theorem resolveSymbol_eq_ok {symbol : String} {n : Int32} :
    resolveSymbol key numberOf symbol = .ok n ↔ numberOf (trim symbol) = some n := by
  unfold resolveSymbol
  split
  · rename_i m hm
    simp [hm]
  · rename_i hm
    simp [hm]

theorem resolveSymbols_eq_ok {symbols : List String} {ns : List Int32} :
    resolveSymbols key numberOf symbols = .ok ns ↔
      List.Forall₂ (fun s n => numberOf (trim s) = some n) symbols ns := by
  induction symbols generalizing ns with
  | nil =>
    rw [List.forall₂_nil_left_iff]
    exact ⟨fun h => (by cases h; rfl), fun h => (by rw [h]; rfl)⟩
  | cons s ss ih =>
    rw [List.forall₂_cons_left_iff]
    unfold resolveSymbols
    cases hs : resolveSymbol key numberOf s with
    | error e =>
      refine ⟨fun h => (by cases h), ?_⟩
      rintro ⟨n, ns', hn, -, -⟩
      rw [resolveSymbol_eq_ok.mpr hn] at hs
      cases hs
    | ok n =>
      have hn := resolveSymbol_eq_ok.mp hs
      cases hss : resolveSymbols key numberOf ss with
      | error e =>
        refine ⟨fun h => (by cases h), ?_⟩
        rintro ⟨m, ns', -, hns, -⟩
        rw [ih.mpr hns] at hss
        cases hss
      | ok ns' =>
        constructor
        · intro h
          cases h
          exact ⟨n, ns', hn, ih.mp hss, rfl⟩
        · rintro ⟨m, ms, hm, hms, rfl⟩
          rw [hn] at hm
          rw [ih.mpr hms] at hss
          cases hm
          cases hss
          rfl

theorem resolveSymbol_eq_error {symbol : String} {e : UnknownSymbol} :
    resolveSymbol key numberOf symbol = .error e ↔
      numberOf (trim symbol) = none ∧ e = ⟨key, symbol⟩ := by
  unfold resolveSymbol
  split
  · rename_i n hn
    simp [hn]
  · rename_i hn
    rw [Except.error.injEq, and_iff_right hn]
    exact eq_comm

theorem resolveSymbols_eq_error {symbols : List String} {e : UnknownSymbol} :
    resolveSymbols key numberOf symbols = .error e ↔
      ∃ front symbol back, symbols = front ++ symbol :: back ∧
        (∀ s ∈ front, numberOf (trim s) ≠ none) ∧ numberOf (trim symbol) = none ∧
        e = ⟨key, symbol⟩ := by
  induction symbols with
  | nil =>
    refine ⟨fun h => (by cases h), ?_⟩
    rintro ⟨front, symbol, back, hnil, -⟩
    simp at hnil
  | cons s ss ih =>
    unfold resolveSymbols
    cases hs : resolveSymbol key numberOf s with
    | error e' =>
      obtain ⟨hnone, rfl⟩ := resolveSymbol_eq_error.mp hs
      constructor
      · intro h
        cases h
        exact ⟨[], s, ss, rfl, fun _ hmem => absurd hmem List.not_mem_nil, hnone, rfl⟩
      · rintro ⟨front, symbol, back, hsplit, hfront, -, rfl⟩
        cases front with
        | nil =>
          cases hsplit
          rfl
        | cons first front =>
          cases hsplit
          exact absurd hnone (hfront s List.mem_cons_self)
    | ok n =>
      have hn := resolveSymbol_eq_ok.mp hs
      have hmap : (resolveSymbols key numberOf ss).map (n :: ·) = .error e ↔
          resolveSymbols key numberOf ss = .error e := by
        cases resolveSymbols key numberOf ss <;> simp [Except.map]
      refine hmap.trans (ih.trans ?_)
      constructor
      · rintro ⟨front, symbol, back, rfl, hfront, hnone, rfl⟩
        refine ⟨s :: front, symbol, back, rfl, fun x hx => ?_, hnone, rfl⟩
        rcases List.mem_cons.mp hx with rfl | hx
        · rw [hn]
          exact Option.some_ne_none n
        · exact hfront x hx
      · rintro ⟨front, symbol, back, hsplit, hfront, hnone, rfl⟩
        cases front with
        | nil =>
          cases hsplit
          rw [hn] at hnone
          cases hnone
        | cons first front =>
          cases hsplit
          exact ⟨front, symbol, back, rfl, fun x hx => hfront x (List.mem_cons_of_mem _ hx), hnone,
            rfl⟩

end EnvConfig
