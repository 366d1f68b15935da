import EnvConfig.Proofs.Naming.GoIdentifiers
import EnvConfig.Proofs.Naming.Statements
import EnvConfig.Proofs.Render.Lines
import EnvConfig.Proofs.Render.Qualifiers

/-!
# What the code of Go loaders refers to

The code of a loader refers to three packages at most.  Each kind of statement has its own code, put
together from fixed texts and from names; the names have capitals or digits in them, which no
package has, so that it is enough to look at the fixed texts.

* `GoCode.Package`: the packages, and what the code refers to in them;
* `GoCode.fixedTexts`: the fixed texts that refer to none of them;
* `GoCode.absent_statementCode`: in the code of a statement no other package stands before a dot
  than those that the kind of the statement calls for;
* `GoCode.exists_reference`: and to those it refers.
-/

namespace EnvConfig

open Text

namespace GoCode

open Code Naming

/-! ### packages -/

/-- the packages that the code of a loader may refer to -/
inductive Package where
  | fmt
  | strings
  | wrappers
deriving Repr, DecidableEq

namespace Package

def all : List Package := [fmt, strings, wrappers]

def name : Package → String
  | fmt => "fmt"
  | strings => "strings"
  | wrappers => "wrappers"

/-- what the code refers to in the package -/
def members : Package → List String
  | fmt => ["Errorf"]
  | strings => ["TrimSpace"]
  | wrappers => Storage.all.map Storage.messageName

/-- statements of this kind call for the package -/
def usedBy : Package → Statement → Bool
  | fmt | strings => readsSymbols
  | wrappers => makesWrappers

/-- one of the members of the package stands in the text, with the package before it -/
def ReferredIn (k : Package) (text : String) : Prop :=
  ∃ member ∈ k.members, RefersTo text k.name member

/-- the text has no line feed, and wherever it is put, the package stands before no dot in it -/
def AbsentFrom (k : Package) (text : String) : Prop := Tame k.name.toList text.toList

theorem mem_all (k : Package) : k ∈ all := by cases k <;> decide

theorem isLower_name (k : Package) : k.name ≠ "" ∧ ∀ c ∈ k.name.toList, c.isLower = true := by
  cases k <;> exact ⟨by decide, List.all_eq_true.mp (by decide)⟩

end Package

section
variable {k : Package}

@[grind ←]
theorem Package.AbsentFrom.append {a b : String} (ha : k.AbsentFrom a) (hb : k.AbsentFrom b) :
    k.AbsentFrom (a ++ b) :=
  Tame.append_text ha hb

/-- A text given by its characters is checked on them.  A literal is such a text; to evaluate its
`toList` instead takes long. -/
theorem Package.absentFrom_ofList {cs : List Char} (h : isTame k.name.toList cs = true) :
    k.AbsentFrom (String.ofList cs) := by
  rw [AbsentFrom, String.toList_ofList]
  exact tame_of_isTame h

theorem absent_ofList {cs : List Char}
    (h : (Package.all.all fun k => isTame k.name.toList cs) = true) :
    k.AbsentFrom (String.ofList cs) :=
  Package.absentFrom_ofList (List.all_eq_true.mp h k k.mem_all)

/-- the texts of code, besides names, that refer to no package -/
def fixedTexts : List String :=
  ["\t", " \x7b", " (", "\x7d ", "\x7d", "(", ")", "x.", " = ", " == ", " != ", " && ",
    "if ", "if x.", "else if x.", " == nil", " != nil", " = new(", " *", "default", "[k] = v",
    "if val, ok := ", "); ok", " = val", " = &", "\x7bValue: val\x7d", "\x7bValue: ", ".Value\x7d",
    "// when there is no value to set we still prefer to initialize the variable to avoid",
    "// `nil` checks in the consumers.", " = &val", "var v ", "v = *", " = &v",
    "if val, ok := getStringEnv(", "v, ok := ", "if !ok", ", val)", "(v)", " == 0 && ", " != 0",
    "if vals, ok := getArrayStringEnv(", "items := make([]", ", 0, len(vals))",
    "for _, val := range vals", "items = append(items, ", "(v))", " = items", "else if len(x.",
    ") == 0 && ", "len(", ") > 0", " = append([]", "(nil), ", "...)",
    "var default", "if defaultValues != nil", "if err := x.", ".loadFromEnv(prefix+\"",
    "_\", default", "); err != nil", "return err",
    " = make(map[string]string, len(", "))", "for k, v := range ", "if _, ok := x.", "[k]; !ok",
    "// PutAll", " merges values into ", ", overwriting existing keys.", "func (x *", ") PutAll",
    "(values map[string]string)", " = make(map[string]string, len(values))",
    "for k, v := range values", ") loadFromEnv(prefix string, defaultValues *", ") error"]

theorem absent_fixed : ∀ text ∈ fixedTexts, k.AbsentFrom text := by
  simp only [fixedTexts, List.forall_mem_cons]
  and_intros
  all_goals first | exact absent_ofList rfl | exact List.forall_mem_nil _

theorem absent_shortName (s : Storage) : k.AbsentFrom s.shortName := by
  cases s <;> exact absent_ofList rfl

theorem absent_zeroLiteral (s : Storage) : k.AbsentFrom (zeroLiteral s) := by
  cases s <;> exact absent_ofList rfl

theorem absent_typeOf (s : Storage) : k.AbsentFrom (typeOf s) := by
  cases s <;> exact absent_ofList rfl

/-- no package ends in a word that has more in it than small letters; the empty word does no harm -/
theorem absent_of_mark {word : String} (hcs : ∀ c ∈ word.toList, isNameChar c = true)
    (hmark : word.toList = [] ∨ ∃ c ∈ word.toList, c.isLower = false) : k.AbsentFrom word := by
  refine tame_of_word hcs fun front hfront heq => ?_
  obtain hnil | ⟨c, hc, hlower⟩ := hmark
  · rw [hnil, List.append_nil] at heq
    exact hfront heq
  · have hsmall := k.isLower_name.2 c (heq ▸ List.mem_append_right _ hc)
    rw [hlower] at hsmall
    cases hsmall

theorem absent_fieldName {name : String} (hname : isIdentifier name.toList = true) :
    k.AbsentFrom (fieldName name) :=
  absent_of_mark (isNameChar_fieldName hname) (.inr (exists_head_fieldName hname))

theorem absent_fragment (name : String) : k.AbsentFrom (fragment name) := by
  refine absent_of_mark (fun c hc => (of_mem_fragment hc).1) ?_
  cases htext : (fragment name).toList with
  | nil => exact .inl rfl
  | cons c cs =>
    have hc : c ∈ (fragment name).toList := by
      rw [htext]
      exact List.mem_cons_self
    exact .inr ⟨c, List.mem_cons_self, (of_mem_fragment hc).2⟩

variable {slot : Slot}

theorem absent_getter (s : Storage) : k.AbsentFrom (getter s) :=
  .append (.append (absent_ofList rfl) (absent_shortName s)) (absent_ofList rfl)

theorem absent_messageName (s : Storage) : k.AbsentFrom s.messageName :=
  .append (absent_shortName s) (absent_ofList rfl)

theorem absent_default {name : String} (h : k.AbsentFrom name) : k.AbsentFrom (default name) :=
  .append (absent_ofList rfl) h

@[grind ←]
theorem absent_ifDefaults {condition : String} (h : k.AbsentFrom condition) :
    k.AbsentFrom (ifDefaults condition) :=
  .append (absent_ofList rfl) h

theorem absent_key (h : k.AbsentFrom slot.fragment) : k.AbsentFrom (key slot) :=
  .append (.append (absent_ofList rfl) h) (absent_ofList rfl)

/-! ### the code of statements -/

/-- the refusal of a symbol refers to one package only -/
theorem absent_refusal (h : k = .wrappers) : k.AbsentFrom
    "return fmt.Errorf(\"environment variable %s holds unknown enum symbol %q\", " := by
  subst h
  exact Package.absentFrom_ofList rfl

/-- the look-up of a symbol refers to one package only -/
theorem absent_lookup (h : k = .wrappers) : k.AbsentFrom "_value[strings.TrimSpace(val)]" := by
  subst h
  exact Package.absentFrom_ofList rfl

/-- a wrapper message is in one package only -/
theorem absent_wrappers (h : k ≠ .wrappers) : k.AbsentFrom "wrappers." := by
  cases k with
  | fmt | strings => exact Package.absentFrom_ofList rfl
  | wrappers => exact absurd rfl h

section
variable (hname : k.AbsentFrom (fieldName slot.name)) (hkey : k.AbsentFrom (key slot))
include hname hkey

theorem absent_scalarCode (s : Storage) : ∀ t ∈ allTexts (scalarCode slot s), k.AbsentFrom t := by
  have hdefault := absent_default hname
  have hget := absent_getter (k := k) s
  have hzero := absent_zeroLiteral (k := k) s
  have hfixed := absent_fixed (k := k)
  simp only [scalarCode, allTexts, texts, partTexts, List.append_nil, List.cons_append,
    List.nil_append, fixedTexts, List.forall_mem_cons] at hfixed ⊢
  grind

theorem absent_wellKnownCode (s : Storage) (hk : k ≠ .wrappers) :
    ∀ t ∈ allTexts (wrapperCode slot (.wellKnown s)), k.AbsentFrom t := by
  have hdefault := absent_default hname
  have hget := absent_getter (k := k) (WrapperShape.wellKnown s).scalar.storage
  have hwrappers := absent_wrappers hk
  have hmessage := absent_messageName (k := k) s
  have hfixed := absent_fixed (k := k)
  simp only [wrapperCode, wellKnownParts, block, allTexts, texts, partTexts, List.append_nil,
    List.cons_append, List.nil_append, fixedTexts, List.forall_mem_cons] at hfixed ⊢
  grind

theorem absent_optionalCode (kind : ScalarKind) :
    ∀ t ∈ allTexts (wrapperCode slot (.optional kind)), k.AbsentFrom t := by
  have hdefault := absent_default hname
  have hget := absent_getter (k := k) (WrapperShape.optional kind).scalar.storage
  have htype := absent_typeOf (k := k) kind.storage
  have hfixed := absent_fixed (k := k)
  simp only [wrapperCode, optionalParts, block, allTexts, texts, partTexts, List.append_nil,
    List.cons_append, List.nil_append, fixedTexts, List.forall_mem_cons] at hfixed ⊢
  grind

theorem absent_enumCode {table : SymbolTable} (htype : k.AbsentFrom (fieldName table.name))
    (hk : k = .wrappers) :
    ∀ t ∈ allTexts (enumCode slot table), k.AbsentFrom t := by
  have hdefault := absent_default hname
  have hrefusal := absent_refusal hk
  have hlookup := absent_lookup hk
  have hfixed := absent_fixed (k := k)
  simp only [enumCode, symbolLine, unknownSymbol, block, allTexts, texts, partTexts, fixedTexts,
    List.append_nil, List.cons_append, List.nil_append, List.forall_mem_cons] at hfixed ⊢
  grind

theorem absent_enumListCode {table : SymbolTable} (htype : k.AbsentFrom (fieldName table.name))
    (hk : k = .wrappers) :
    ∀ t ∈ allTexts (enumListCode slot table), k.AbsentFrom t := by
  have hdefault := absent_default hname
  have hrefusal := absent_refusal hk
  have hlookup := absent_lookup hk
  have hfixed := absent_fixed (k := k)
  simp only [enumListCode, symbolLine, unknownSymbol, block, allTexts, texts, partTexts, fixedTexts,
    List.append_nil, List.cons_append, List.nil_append, List.forall_mem_cons] at hfixed ⊢
  grind

omit hkey in
theorem absent_nestedCode {message : String} (hfragment : k.AbsentFrom slot.fragment)
    (htype : k.AbsentFrom (fieldName message)) :
    ∀ t ∈ allTexts (nestedCode slot message), k.AbsentFrom t := by
  have hdefault := absent_default hname
  have hfixed := absent_fixed (k := k)
  simp only [nestedCode, block, allTexts, texts, partTexts, List.append_nil, List.cons_append,
    List.nil_append, fixedTexts, List.forall_mem_cons] at hfixed ⊢
  have hcall : k.AbsentFrom ("if err := x." ++ fieldName slot.name ++ ".loadFromEnv(prefix+\"" ++
      slot.fragment) := by grind
  grind

omit hkey in
theorem absent_mergeMapCode : ∀ t ∈ allTexts (mergeMapCode slot), k.AbsentFrom t := by
  have hdefault := absent_default hname
  have hfixed := absent_fixed (k := k)
  simp only [mergeMapCode, block, allTexts, texts, partTexts, List.append_nil, List.cons_append,
    List.nil_append, fixedTexts, List.forall_mem_cons] at hfixed ⊢
  grind

end

/-- the code of a statement has no package before a dot that its kind does not call for -/
theorem absent_statementCode {s : Statement} (hs : s.WellNamed) (hused : k.usedBy s = false) :
    ∀ t ∈ allTexts (statementCode s), k.AbsentFrom t := by
  have hname : k.AbsentFrom (fieldName s.slot.name) := absent_fieldName hs.field
  have hfragment : k.AbsentFrom s.slot.fragment := by
    rw [hs.fragment]
    exact absent_fragment _
  have hkey := absent_key hfragment
  have hsymbols : readsSymbols s = true → k = .wrappers := by
    intro hreads
    cases k with
    | fmt | strings => exact absurd (hreads.symm.trans hused) (by decide)
    | wrappers => rfl
  have hmessages : makesWrappers s = true → k ≠ .wrappers := by
    rintro hmakes rfl
    exact absurd (hmakes.symm.trans hused) (by decide)
  cases s with
  | scalar slot kind => exact absent_scalarCode hname hkey _
  | wrapper slot shape =>
    cases shape with
    | wellKnown storage => exact absent_wellKnownCode hname hkey storage (hmessages rfl)
    | optional kind => exact absent_optionalCode hname hkey kind
  | enum slot table =>
    exact absent_enumCode hname hkey (absent_fieldName (hs.type _ rfl)) (hsymbols rfl)
  | enumList slot table =>
    exact absent_enumListCode hname hkey (absent_fieldName (hs.type _ rfl)) (hsymbols rfl)
  | nested slot message =>
    exact absent_nestedCode hname hfragment (absent_fieldName (hs.type _ rfl))
  | mergeMap slot => exact absent_mergeMapCode hname

/-! ### lines -/

/-- the lines of the code of a statement, in the body of its loader -/
def statementLines (s : Statement) : List String := allLines "\t" 1 (statementCode s)

/-- what is absent from the texts of code is absent from its lines -/
theorem absent_allLines {code : List Code} {n : Nat} (h : ∀ t ∈ allTexts code, k.AbsentFrom t) :
    ∀ l ∈ allLines "\t" n code, k.AbsentFrom l := by
  have hfixed := absent_fixed (k := k)
  simp only [fixedTexts, List.forall_mem_cons] at hfixed
  exact forall_mem_allLines tame_nil (fun _ _ => .append) hfixed.1 (by simp [hfixed]) h

/-- a package that stands before a dot in the code of a statement is called for by its kind -/
theorem usedBy_of_mem_qualifiers {s : Statement} (hs : s.WellNamed) {l : String}
    (hl : l ∈ statementLines s) (h : k.name ∈ qualifiers l) : k.usedBy s = true := by
  by_contra hused
  rw [Bool.not_eq_true] at hused
  have habsent : k.AbsentFrom l := absent_allLines (absent_statementCode hs hused) l hl
  exact habsent.not_mem_qualifiers k.isLower_name.1 h

/-! ### references -/

theorem fmt_referredIn (tabs : String) (slot : Slot) : Package.fmt.ReferredIn (tabs ++
    ("return fmt.Errorf(\"environment variable %s holds unknown enum symbol %q\", " ++ key slot ++
      ", val)")) := by
  have htext : "return fmt.Errorf(\"environment variable %s holds unknown enum symbol %q\", " =
      "return " ++ ("fmt" ++ ("." ++ ("Errorf" ++
        "(\"environment variable %s holds unknown enum symbol %q\", "))) := rfl
  have hback : ("(\"environment variable %s holds unknown enum symbol %q\", " ++ key slot ++
      ", val)").toList.head?.all (fun c => !isNameChar c) = true := by
    simp only [String.toList_append]
    rfl
  have hrefers := refersTo_append tabs "return " "fmt" "Errorf" _ (by decide) hback
  refine ⟨"Errorf", List.mem_cons_self, ?_⟩
  rw [htext]
  simpa only [Package.name, String.append_assoc] using hrefers

theorem strings_referredIn (tabs type : String) : Package.strings.ReferredIn
    (tabs ++ ("v, ok := " ++ type ++ "_value[strings.TrimSpace(val)]")) := by
  have htext : "_value[strings.TrimSpace(val)]" =
      "_value[" ++ ("strings" ++ ("." ++ ("TrimSpace" ++ "(val)]"))) := rfl
  have hrefers := refersTo_append (tabs ++ "v, ok := " ++ type) "_value[" "strings" "TrimSpace"
    "(val)]" (by decide) (by decide)
  refine ⟨"TrimSpace", List.mem_cons_self, ?_⟩
  rw [htext]
  simpa only [Package.name, String.append_assoc] using hrefers

theorem wrappers_referredIn (tabs name : String) (s : Storage) : Package.wrappers.ReferredIn
    (tabs ++ ("x." ++ name ++ " = new(" ++ ("wrappers." ++ s.messageName) ++ ")")) := by
  have htext : "wrappers." = "wrappers" ++ "." := rfl
  have hrefers := refersTo_append (tabs ++ "x." ++ name) " = new(" "wrappers" s.messageName ")"
    (by decide) (by decide)
  refine ⟨s.messageName, List.mem_map_of_mem s.mem_all, ?_⟩
  rw [htext]
  simpa only [Package.name, String.append_assoc] using hrefers

/-- the code of a statement refers to the packages that its kind calls for -/
theorem exists_reference {s : Statement} (hused : k.usedBy s = true) :
    ∃ l ∈ statementLines s, k.ReferredIn l := by
  cases s with
  | scalar | nested | mergeMap => cases k <;> cases hused
  | wrapper slot shape =>
    cases shape with
    | optional => cases k <;> cases hused
    | wellKnown storage =>
      cases k with
      | fmt | strings => cases hused
      | wrappers =>
        refine ⟨_, ?_, wrappers_referredIn (indentation "\t" 2) (fieldName slot.name) storage⟩
        simp [statementLines, statementCode, wrapperCode, wellKnownParts, allLines, lines,
          partLines]
  | enum slot table =>
    cases k with
    | fmt =>
      refine ⟨_, ?_, fmt_referredIn (indentation "\t" 3) slot⟩
      simp [statementLines, statementCode, enumCode, unknownSymbol, block, allLines, lines,
        partLines]
    | strings =>
      refine ⟨_, ?_, strings_referredIn (indentation "\t" 2) (fieldName table.name)⟩
      simp [statementLines, statementCode, enumCode, symbolLine, allLines, lines, partLines]
    | wrappers => cases hused
  | enumList slot table =>
    cases k with
    | fmt =>
      refine ⟨_, ?_, fmt_referredIn (indentation "\t" 4) slot⟩
      simp [statementLines, statementCode, enumListCode, unknownSymbol, block, allLines, lines,
        partLines]
    | strings =>
      refine ⟨_, ?_, strings_referredIn (indentation "\t" 3) (fieldName table.name)⟩
      simp [statementLines, statementCode, enumListCode, symbolLine, block, allLines, lines,
        partLines]
    | wrappers => cases hused

theorem Package.ReferredIn.mem_qualifiers {l : String} (h : k.ReferredIn l) :
    k.name ∈ qualifiers l := by
  have hname : ∀ c ∈ k.name.toList, isNameChar c = true :=
    List.all_eq_true.mp (by cases k <;> decide)
  obtain ⟨member, -, hrefers⟩ := h
  exact hrefers.mem_qualifiers hname

/-- the code of a statement refers to exactly the packages that its kind calls for -/
theorem exists_reference_iff {s : Statement} (hs : s.WellNamed) :
    (∃ l ∈ statementLines s, k.ReferredIn l) ↔ k.usedBy s = true :=
  ⟨fun ⟨_, hl, h⟩ => usedBy_of_mem_qualifiers hs hl h.mem_qualifiers, exists_reference⟩

end

end GoCode

end EnvConfig
