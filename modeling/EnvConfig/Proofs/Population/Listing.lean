import EnvConfig.Proofs.Naming.Fragment
import EnvConfig.Proofs.Population.Filling

/-!
# Lists of symbols

A list of enums is filled from one text with commas in it.  What stands between two commas is an
item, with any blanks around it, or nothing but blanks, and then it does not count.

* `Padded`: items with blanks around them, and blank parts between them;
* `itemsOf_listing`: the items are read back, none lost, merged or moved;
* `itemsOf_intercalate_itemsOf`: the items of a text, joined, are its items again;
* `SymbolTable.listing_round_trip`: a field filled from a list of symbols holds their numbers.
-/

namespace EnvConfig

/-! ### blanks around a text -/

namespace Text

theorem trimmed_of_blanks {gap : List Char} (h : ∀ c ∈ gap, isBlank c = true) :
    trimmed gap = [] := by
  rw [trimmed, List.dropWhile_eq_nil_iff.mpr h, dropEndWhile_nil]

/-- a text that is trimmed has no blank in front and none at its end -/
theorem dropWhile_of_trimmed {cs : List Char} (h : trimmed cs = cs) :
    cs.dropWhile isBlank = cs ∧ dropEndWhile isBlank cs = cs := by
  have hfront : cs.dropWhile isBlank = cs := by
    refine (List.dropWhile_suffix isBlank).eq_of_length_le ?_
    calc cs.length = (trimmed cs).length := by rw [h]
      _ ≤ (cs.dropWhile isBlank).length := (List.rdropWhile_prefix isBlank _).length_le
  refine ⟨hfront, ?_⟩
  rw [trimmed, hfront] at h
  exact h

theorem dropEndWhile_append {p : Char → Bool} {after : List Char} (h : ∀ c ∈ after, p c = true)
    (cs : List Char) : dropEndWhile p (cs ++ after) = dropEndWhile p cs := by
  have hreverse : ∀ c ∈ after.reverse, p c = true := by simpa using h
  rw [dropEndWhile, dropEndWhile, List.reverse_append, List.dropWhile_append_of_pos hreverse]

/-- blanks around a trimmed text are trimmed off -/
theorem trimmed_of_padded {before item after : List Char} (hbefore : ∀ c ∈ before, isBlank c = true)
    (hafter : ∀ c ∈ after, isBlank c = true) (hne : item ≠ []) (hitem : trimmed item = item) :
    trimmed (before ++ item ++ after) = item := by
  obtain ⟨hfront, hback⟩ := dropWhile_of_trimmed hitem
  obtain ⟨c, cs, rfl⟩ := List.exists_cons_of_ne_nil hne
  have hc : ¬ isBlank c = true := List.dropWhile_eq_self_iff.mp hfront (by simp)
  have hkept : ((c :: cs) ++ after).dropWhile isBlank = (c :: cs) ++ after := by
    rw [List.cons_append, List.dropWhile_cons, if_neg hc]
  rw [trimmed, List.append_assoc, List.dropWhile_append_of_pos hbefore, hkept,
    dropEndWhile_append hafter, hback]

/-- a text without blanks is trimmed -/
theorem trimmed_of_not_blank {cs : List Char} (h : ∀ c ∈ cs, isBlank c = false) :
    trimmed cs = cs := by
  have hfront : cs.dropWhile isBlank = cs := by
    refine List.dropWhile_eq_self_iff.mpr fun hpos => ?_
    rw [h _ (List.getElem_mem hpos)]
    exact Bool.false_ne_true
  have hback : cs.rdropWhile isBlank = cs := by
    refine List.rdropWhile_eq_self_iff.mpr fun hne => ?_
    rw [h _ (List.getLast_mem hne)]
    exact Bool.false_ne_true
  rw [trimmed, hfront, dropEndWhile_eq_rdropWhile, hback]

end Text

open Text

/-! ### the items of a list -/

/-- the text can be an item: it is not empty, holds no comma, and has no blank at its ends -/
structure IsItem (item : String) : Prop where
  ne_empty : item ≠ ""
  comma : ',' ∉ item.toList
  trimmed : trim item = item

/-- The parts of a text between its commas: the items in their order, each with any blanks around
it, and between them any number of parts with nothing but blanks. -/
inductive Padded : List String → List (List Char) → Prop
  | nil : Padded [] []
  | blank {items : List String} {parts : List (List Char)} {gap : List Char}
      (hgap : ∀ c ∈ gap, isBlank c = true) (h : Padded items parts) : Padded items (gap :: parts)
  | item {items : List String} {parts : List (List Char)} {item : String}
      {before after : List Char} (hbefore : ∀ c ∈ before, isBlank c = true)
      (hafter : ∀ c ∈ after, isBlank c = true) (h : Padded items parts) :
      Padded (item :: items) ((before ++ item.toList ++ after) :: parts)

/-- the text of the parts with commas between them -/
def listing (parts : List (List Char)) : String := String.ofList (join ',' parts)

/-- the characters that can stand in an identifier are no blanks and no commas -/
theorem isItem_of_isIdentifier {item : String} (h : isIdentifier item.toList = true) :
    IsItem item := by
  have hname := isNameChar_of_isIdentifier h
  have hblank : ∀ c ∈ item.toList, isBlank c = false :=
    fun c hc => isBlank_of_isNameChar (hname c hc)
  refine ⟨?_, fun hcomma => absurd (hname _ hcomma) (by decide), ?_⟩
  · rintro rfl
    cases h
  · rw [trim, trimmed_of_not_blank hblank, String.ofList_toList]

theorem isItem_of_mem_itemsOf {raw item : String} (h : item ∈ itemsOf raw) : IsItem item := by
  have htrim := trim_of_mem_itemsOf h
  obtain ⟨cs, hcs, rfl⟩ := List.mem_map.mp h
  obtain ⟨hmem, hne⟩ := List.mem_filter.mp hcs
  obtain ⟨part, hpart, rfl⟩ := List.mem_map.mp hmem
  refine ⟨?_, ?_, htrim⟩
  · intro hempty
    have hnil : trimmed part = [] := by simpa using congrArg String.toList hempty
    simp [hnil] at hne
  · rw [String.toList_ofList]
    intro hcomma
    have hsub : trimmed part <:+: part :=
      (List.rdropWhile_prefix isBlank _).isInfix.trans (List.dropWhile_suffix isBlank).isInfix
    simpa using sep_of_mem_segmentsWhere hpart (hsub.subset hcomma)

namespace Padded

variable {items : List String} {parts : List (List Char)}

theorem comma_not_mem (h : Padded items parts) (hitems : ∀ item ∈ items, IsItem item) :
    ∀ part ∈ parts, ',' ∉ part := by
  have hgap : ∀ gap : List Char, (∀ c ∈ gap, isBlank c = true) → ',' ∉ gap :=
    fun gap h hcomma => absurd (h _ hcomma) (by decide)
  induction h with
  | nil => exact List.forall_mem_nil _
  | blank hblank _ ih => exact List.forall_mem_cons.mpr ⟨hgap _ hblank, ih hitems⟩
  | item hbefore hafter _ ih =>
    rw [List.forall_mem_cons] at hitems
    refine List.forall_mem_cons.mpr ⟨?_, ih hitems.2⟩
    simp only [List.mem_append, not_or]
    exact ⟨⟨hgap _ hbefore, hitems.1.comma⟩, hgap _ hafter⟩

/-- trimming leaves the items, and nothing of the parts between them -/
theorem filter_trimmed (h : Padded items parts) (hitems : ∀ item ∈ items, IsItem item) :
    (parts.map trimmed).filter (!·.isEmpty) = items.map String.toList := by
  induction h with
  | nil => rfl
  | blank hblank _ ih =>
    rw [List.map_cons, trimmed_of_blanks hblank, List.filter_cons_of_neg (by simp), ih hitems]
  | @item items parts item before after hbefore hafter _ ih =>
    rw [List.forall_mem_cons] at hitems
    have hne : item.toList ≠ [] := fun hnil => hitems.1.ne_empty (by simpa using hnil)
    have hitem : trimmed item.toList = item.toList := by
      rw [← toList_trim, hitems.1.trimmed]
    rw [List.map_cons, trimmed_of_padded hbefore hafter hne hitem,
      List.filter_cons_of_pos (by simpa using hne), ih hitems.2, List.map_cons]

/-- items without blanks around them -/
theorem of_items (items : List String) : Padded items (items.map String.toList) := by
  induction items with
  | nil => exact .nil
  | cons item items ih =>
    have hitem : Padded (item :: items) (([] ++ item.toList ++ []) :: items.map String.toList) :=
      .item (List.forall_mem_nil _) (List.forall_mem_nil _) ih
    rwa [List.nil_append, List.append_nil] at hitem

end Padded

/-- the items are read back from a list, whatever blanks and blank parts are in it -/
theorem itemsOf_listing {items : List String} {parts : List (List Char)} (h : Padded items parts)
    (hitems : ∀ item ∈ items, IsItem item) : itemsOf (listing parts) = items := by
  have hparts : ((segments ',' (join ',' parts)).map trimmed).filter (!·.isEmpty) =
      items.map String.toList := by
    by_cases hne : parts = []
    · subst hne
      cases h
      rfl
    · rw [segments_join hne (h.comma_not_mem hitems), h.filter_trimmed hitems]
  rw [itemsOf, listing, String.toList_ofList, hparts, List.map_map]
  exact List.map_id'' (fun item => String.ofList_toList) items

theorem listing_map_toList (items : List String) :
    listing (items.map String.toList) = ",".intercalate items := by
  have hcomma : String.singleton ',' = "," := rfl
  rw [listing, ← toList_intercalate_eq_join, String.ofList_toList, hcomma]

theorem itemsOf_intercalate_itemsOf (raw : String) :
    itemsOf (",".intercalate (itemsOf raw)) = itemsOf raw := by
  rw [← listing_map_toList]
  exact itemsOf_listing (.of_items _) fun item hitem => isItem_of_mem_itemsOf hitem

/-! ### lists of symbols -/

namespace SymbolTable

variable {table : SymbolTable}

theorem numberOf?_of_mem (hdistinct : (table.symbols.map (·.name)).Nodup) {s : Symbol}
    (hs : s ∈ table.symbols) : table.numberOf? s.name = some s.number := by
  obtain ⟨s', hs'⟩ : ∃ s', table.symbols.find? (·.name == s.name) = some s' := by
    cases hfind : table.symbols.find? (·.name == s.name) with
    | some s' => exact ⟨s', rfl⟩
    | none => simpa using List.find?_eq_none.mp hfind s hs
  have hname : s'.name = s.name := by simpa using List.find?_some hs'
  have hsame : s' = s :=
    List.inj_on_of_nodup_map hdistinct (List.mem_of_find?_eq_some hs') hs hname
  rw [numberOf?, EnvConfig.numberOf?, hs', hsame, Option.map_some]

theorem filled_of_listing (hdistinct : (table.symbols.map (·.name)).Nodup)
    (hidentifiers : ∀ s ∈ table.symbols, isIdentifier s.name.toList = true) {listed : List Symbol}
    (hlisted : ∀ s ∈ listed, s ∈ table.symbols) {parts : List (List Char)}
    (hparts : Padded (listed.map (·.name)) parts) {env : Environment} {key : String}
    (htext : env.text? key = some (listing parts)) (run : Run) (slot : Slot)
    (held default : Option Value) :
    (Statement.enumList slot table).filled run env key held default =
      .ok (.list (listed.map fun s => .int32 s.number)) := by
  have hitem : ∀ s ∈ listed, IsItem s.name := fun s hs =>
    isItem_of_isIdentifier (hidentifiers s (hlisted s hs))
  have hitems : env.items? key = some (listed.map (·.name)) := by
    rw [Environment.items?, htext, Option.map_some,
      itemsOf_listing hparts (List.forall_mem_map.mpr hitem)]
  have hresolved : resolveSymbols key table.numberOf? (listed.map (·.name)) =
      .ok (listed.map (·.number)) := by
    rw [resolveSymbols_eq_ok, List.forall₂_map_left_iff, List.forall₂_map_right_iff,
      List.forall₂_same]
    intro s hs
    rw [(hitem s hs).trimmed]
    exact numberOf?_of_mem hdistinct (hlisted s hs)
  simp only [Statement.filled, hitems, hresolved, List.map_map]
  rfl

/-- A field for a list of enums is filled from the names of symbols with commas between them,
whatever blanks stand around the names and however many parts are blank: it never stops the run, and
at the end of every path it holds the numbers of the symbols in their order, also where there are
none.  Reading a list inverts joining it. -/
theorem listing_round_trip (hdistinct : (table.symbols.map (·.name)).Nodup)
    (hidentifiers : ∀ s ∈ table.symbols, isIdentifier s.name.toList = true) {listed : List Symbol}
    (hlisted : ∀ s ∈ listed, s ∈ table.symbols) {parts : List (List Char)}
    (hparts : Padded (listed.map (·.name)) parts) {env : Environment} {key : String}
    (htext : env.text? key = some (listing parts)) (slot : Slot) :
    (∀ run lead defaults w, lead ++ slot.fragment = key →
      (Statement.enumList slot table).apply run env lead defaults w =
        .ok (w.set slot.name (.list (listed.map fun s => .int32 s.number)))) ∧
    (∀ set t u message slots lead defaults w, LoaderUnit.emit set t = .ok u →
      u.Leads message slots (.enumList slot table) →
      variableOf lead slots (.enumList slot table) = key → u.NestsMessages message w →
      (u.populate env message w lead defaults).error? = none →
      (u.populate env message w lead defaults).value.at? (pathTo slots (.enumList slot table)) =
        some (.list (listed.map fun s => .int32 s.number))) ∧
    (∀ items parts, Padded items parts → (∀ item ∈ items, IsItem item) →
      itemsOf (listing parts) = items) ∧
    ∀ raw, itemsOf (",".intercalate (itemsOf raw)) = itemsOf raw := by
  have hfilled := filled_of_listing hdistinct hidentifiers hlisted hparts htext
  refine ⟨?_, ?_, fun items parts => itemsOf_listing, itemsOf_intercalate_itemsOf⟩
  · rintro run lead defaults w rfl
    exact Statement.apply_of_filled (hfilled run slot _ _)
  · rintro set t u message slots lead defaults w hemit hleads rfl hw herror
    rcases LoaderUnit.at?_populateWithin hemit hw hleads with ⟨depth, v, hv, hafter⟩ | ⟨hstopped, -⟩
    · rw [hfilled] at hv
      cases hv
      exact hafter
    · exact absurd herror hstopped

end SymbolTable

/-! ### a palette -/

def paletteTable : SymbolTable := ⟨"Color", [⟨"RED", 0⟩, ⟨"GREEN", 1⟩, ⟨"BLUE", 2⟩]⟩

/-- a message with a list of colors -/
def paletteSchema : SchemaSet where
  root := { File.empty "palette.proto" with
    messages := [⟨"Palette", .start,
      [⟨"colors", .start, .named "Color", 1, .repeated, [], .all⟩], [], .all⟩]
    enums := [⟨"Color", .start, paletteTable.symbols⟩] }
  imports := []

def paletteUnit : LoaderUnit :=
  ⟨"palette.proto", [⟨"Palette", [.enumList ⟨"colors", "COLORS"⟩ paletteTable]⟩]⟩

/-- green, blue and green again, with blanks around them, a blank part and a comma at the end -/
def paletteParts : List (List Char) :=
  [['\u2003'] ++ "GREEN".toList ++ [' '], [' '], [] ++ "BLUE".toList ++ [],
    [] ++ "GREEN".toList ++ ['\t'], []]

theorem nestsMessages_palette : paletteUnit.NestsMessages "Palette" (.empty "Palette") := by
  have hp : paletteUnit.procedure? "Palette" =
      some ⟨"Palette", [.enumList ⟨"colors", "COLORS"⟩ paletteTable]⟩ := by decide +kernel
  refine ⟨⟨_, _, rfl⟩, fun slots slot inner h => ?_⟩
  cases h with
  | here hp' hs => rw [hp] at hp'; cases hp'; simp at hs
  | inside hp' hslot h => rw [hp] at hp'; cases hp'; simp at hslot

/-- the list overrides what the defaults have -/
theorem listing_round_trip_palette :
    LoaderUnit.emit paletteSchema ⟨"rust"⟩ = .ok paletteUnit ∧
    Padded ["GREEN", "BLUE", "GREEN"] paletteParts ∧
    listing paletteParts = "\u2003GREEN , ,BLUE,GREEN\t," ∧
    (paletteUnit.populate (.table [("X_COLORS", "\u2003GREEN , ,BLUE,GREEN\t,")]) "Palette"
      (.empty "Palette") "X_" (some (.message "Palette" [("colors", .list [.int32 0])]))).value.at?
        ["colors"] = some (.list [.int32 1, .int32 2, .int32 1]) := by
  have hemit : LoaderUnit.emit paletteSchema ⟨"rust"⟩ = .ok paletteUnit := by decide +kernel
  have hblank : ∀ cs : List Char, cs.all isBlank = true → ∀ c ∈ cs, isBlank c = true :=
    fun _ => List.all_eq_true.mp
  have hparts : Padded ["GREEN", "BLUE", "GREEN"] paletteParts :=
    .item (hblank _ rfl) (hblank _ rfl) (.blank (hblank _ rfl) (.item (hblank _ rfl) (hblank _ rfl)
      (.item (hblank _ rfl) (hblank _ rfl) (.blank (hblank _ rfl) .nil))))
  have htext : listing paletteParts = "\u2003GREEN , ,BLUE,GREEN\t," := by decide +kernel
  have hleads : paletteUnit.Leads "Palette" [] (.enumList ⟨"colors", "COLORS"⟩ paletteTable) :=
    .here (p := ⟨"Palette", [.enumList ⟨"colors", "COLORS"⟩ paletteTable]⟩) (by decide +kernel)
      List.mem_cons_self
  have hdistinct : (paletteTable.symbols.map (·.name)).Nodup := by decide +kernel
  have hidentifiers : ∀ s ∈ paletteTable.symbols, isIdentifier s.name.toList = true := by
    decide +kernel
  have hlisted : ∀ s ∈ [⟨"GREEN", 1⟩, ⟨"BLUE", 2⟩, ⟨"GREEN", 1⟩], s ∈ paletteTable.symbols := by
    decide +kernel
  have hvariable : (Environment.table [("X_COLORS", listing paletteParts)]).text? "X_COLORS" =
      some (listing paletteParts) := by decide +kernel
  obtain ⟨-, hruns, -⟩ := SymbolTable.listing_round_trip hdistinct hidentifiers hlisted hparts
    hvariable ⟨"colors", "COLORS"⟩
  refine ⟨hemit, hparts, htext, ?_⟩
  rw [← htext]
  exact hruns _ _ _ _ _ _ _ _ hemit hleads (by decide +kernel) nestsMessages_palette
    (by decide +kernel)

end EnvConfig
