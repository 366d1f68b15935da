import EnvConfig.Proofs.Naming.GoIdentifiers
import EnvConfig.Proofs.Render.Lines

/-!
# Names in the scope of a Go loader

The receiver and the parameters of a loader are in one scope with the variables that the lines of
its body declare.  For each nested message there is one of these, for its default values: its name
is the name of the field in Go behind a fixed word.  Two such names are the same where the names of
two fields are, and one is the name of a parameter where the field is `values`.

* `GoCode.scopeNames`: the names that a function declares, read off its signature and its body;
* `GoCode.loaderScope_eq`: those of a loader;
* `GoCode.fieldName_eq_values_iff`: the fields whose variable has the name of the parameter;
* `LoaderUnit.go_scope_nodup_iff`: which loaders declare no name twice.
-/

namespace EnvConfig

open Text

/-- the slot of a statement that fills a message -/
def Statement.nestedSlot? : Statement → Option Slot
  | nested slot _ => some slot
  | _ => none

/-- the messages that a procedure fills -/
def Procedure.nestedSlots (p : Procedure) : List Slot :=
  p.statements.filterMap Statement.nestedSlot?

/-- what holds of any two slots of statements holds of any two slots of messages -/
theorem Procedure.pairwise_nestedSlots {p : Procedure} {R : Slot → Slot → Prop}
    (h : p.statements.Pairwise fun s s' => R s.slot s'.slot) : p.nestedSlots.Pairwise R := by
  refine List.pairwise_filterMap.mpr (h.imp fun {s s'} hR slot hslot slot' hslot' => ?_)
  cases s <;> cases hslot
  cases s' <;> cases hslot'
  exact hR

theorem Procedure.exists_of_mem_nestedSlots {p : Procedure} {slot : Slot}
    (h : slot ∈ p.nestedSlots) : ∃ s ∈ p.statements, s.slot = slot := by
  obtain ⟨s, hs, hslot⟩ := List.mem_filterMap.mp h
  cases s <;> cases hslot
  exact ⟨_, hs, rfl⟩

namespace GoCode

open Code Naming

/-! ### reading names off code -/

/-- the first word of a text -/
def firstWord (cs : List Char) : String :=
  String.ofList ((cs.dropWhile isBlank).takeWhile isNameChar)

/-- The names that a piece of code declares where it stands: a line does so by `var`, or on the left
of `:=`.  What stands in a block, or in its head, is in the scope of the block. -/
def declaredNames : Code → List String
  | line text =>
    match after? "var ".toList text.toList with
    | some rest => [firstWord rest]
    | none =>
      match segments ':' text.toList with
      | left :: ('=' :: _) :: _ => (segments ',' left).map firstWord
      | _ => []
  | _ => []

/-- the names that a signature declares: the first word after each bracket and after each comma -/
def signatureNames (head : String) : List String :=
  ((segmentsWhere (fun c => c == '(' || c == ',') head.toList).drop 1).map firstWord

/-- the names in the outermost scope of a function -/
def scopeNames (head : String) (body : List Code) : List String :=
  signatureNames head ++ body.flatMap declaredNames

/-- the signature of the loader of a type -/
def loaderHead (type : String) : String :=
  "func (x *" ++ type ++ ") loadFromEnv(prefix string, defaultValues *" ++ type ++ ") error"

/-- the body of a loader -/
def loaderBody (p : Procedure) : List Code :=
  separated (p.statements.map statementCode) ++ [line "return nil"]

/-- the names in the outermost scope of a loader -/
def loaderScope (p : Procedure) : List String :=
  scopeNames (loaderHead (fieldName p.message)) (loaderBody p)

/-- the variable for the default values of a nested message -/
def localName (slot : Slot) : String := "default" ++ fieldName slot.name

/-- the code of a message is its loader and then the methods for its maps -/
theorem procedureCode_eq (p : Procedure) : ∃ comment, procedureCode p =
    [line comment, block (loaderHead (fieldName p.message)) (loaderBody p)] ++
      p.mapMutators.flatMap fun slot => empty :: mutatorCode (fieldName p.message) slot :=
  ⟨_, rfl⟩

theorem firstWord_append {w : List Char} (hw : ∀ c ∈ w, isNameChar c = true) (hne : w ≠ [])
    (rest : List Char) : firstWord (w ++ ' ' :: rest) = String.ofList w := by
  obtain ⟨c, cs, rfl⟩ := List.exists_cons_of_ne_nil hne
  have hc : isBlank c = false := isBlank_of_isNameChar (hw c List.mem_cons_self)
  have hspace : ¬ isNameChar ' ' = true := by decide
  rw [firstWord, List.cons_append, List.dropWhile_cons_of_neg (by simp [hc]), ← List.cons_append,
    List.takeWhile_append_of_pos hw, List.takeWhile_cons_of_neg hspace, List.append_nil]

theorem signatureNames_loaderHead {type : String} (h : ∀ c ∈ type.toList, isNameChar c = true) :
    signatureNames (loaderHead type) = ["x", "prefix", "defaultValues"] := by
  have hhead : (loaderHead type).toList = "func ".toList ++ '(' ::
      (("x *".toList ++ type.toList ++ ") loadFromEnv".toList) ++ '(' ::
        ("prefix string".toList ++ ',' ::
          (" defaultValues *".toList ++ type.toList ++ ") error".toList))) := by
    simp [loaderHead]
  have htype : ∀ c ∈ type.toList, (c == '(' || c == ',') = false := by
    intro c hc
    refine Bool.eq_false_iff.mpr fun hmark => ?_
    have hcases : c = '(' ∨ c = ',' := by simpa using hmark
    obtain rfl | rfl := hcases <;> exact absurd (h _ hc) (by decide)
  have hfixed : ∀ cs : List Char, cs.any (fun c => c == '(' || c == ',') = false →
      ∀ c ∈ cs, (c == '(' || c == ',') = false :=
    fun _ h c hc => Bool.eq_false_iff.mpr (List.any_eq_false.mp h c hc)
  have hreceiver : ∀ c ∈ "x *".toList ++ type.toList ++ ") loadFromEnv".toList,
      (c == '(' || c == ',') = false := by
    rw [List.forall_mem_append, List.forall_mem_append]
    exact ⟨⟨hfixed _ (by decide), htype⟩, hfixed _ (by decide)⟩
  have hdefaults : ∀ c ∈ " defaultValues *".toList ++ type.toList ++ ") error".toList,
      (c == '(' || c == ',') = false := by
    rw [List.forall_mem_append, List.forall_mem_append]
    exact ⟨⟨hfixed _ (by decide), htype⟩, hfixed _ (by decide)⟩
  rw [signatureNames, hhead, segmentsWhere_append_cons (by decide),
    segmentsWhere_append_cons (by decide), segmentsWhere_append_cons (by decide),
    segmentsWhere_of_forall hreceiver, segmentsWhere_of_forall hdefaults]
  rfl

theorem declaredNames_var {name : String} (h : ∀ c ∈ name.toList, isNameChar c = true)
    (hne : name ≠ "") (type : String) :
    declaredNames (line ("var " ++ name ++ " *" ++ type)) = [name] := by
  have htext : ("var " ++ name ++ " *" ++ type).toList =
      "var ".toList ++ (name.toList ++ ' ' :: ('*' :: type.toList)) := by simp
  have hword : name.toList ≠ [] := by simpa using hne
  rw [declaredNames, htext, after?_append]
  show [firstWord _] = _
  rw [firstWord_append h hword, String.ofList_toList]

theorem declaredNames_block (head : String) (body : List Code) :
    declaredNames (block head body) = [] := rfl

/-- a statement declares a variable in the scope of the loader only for a message -/
theorem flatMap_statementCode {s : Statement} (h : isIdentifier s.slot.name.toList = true) :
    (statementCode s).flatMap declaredNames = (s.nestedSlot?.map localName).toList := by
  cases s with
  | nested slot message =>
    have hname : ∀ c ∈ (localName slot).toList, isNameChar c = true := by
      rw [localName, String.toList_append, List.forall_mem_append]
      exact ⟨List.all_eq_true.mp (by decide), isNameChar_fieldName h⟩
    have hne : localName slot ≠ "" := by simp [localName]
    have htext : "var default" ++ fieldName slot.name = "var " ++ localName slot := by
      rw [localName, ← String.append_assoc]
      rfl
    have hline := declaredNames_var hname hne (fieldName message)
    rw [← htext] at hline
    simp only [statementCode, nestedCode, List.flatMap_cons, List.flatMap_nil, hline,
      declaredNames_block, List.nil_append, List.append_nil]
    rfl
  | scalar | wrapper | enum | enumList | mergeMap => rfl

/-- a loader declares its receiver, its parameters, and a variable for each nested message -/
theorem loaderScope_eq {p : Procedure} (hmessage : isIdentifier p.message.toList = true)
    (hfields : ∀ s ∈ p.statements, isIdentifier s.slot.name.toList = true) :
    loaderScope p = ["x", "prefix", "defaultValues"] ++ p.nestedSlots.map localName := by
  have hbody : (p.statements.map statementCode).flatMap (·.flatMap declaredNames) =
      p.nestedSlots.map localName := by
    rw [Procedure.nestedSlots]
    generalize p.statements = ss at hfields
    induction ss with
    | nil => rfl
    | cons s ss ih =>
      rw [List.forall_mem_cons] at hfields
      rw [List.map_cons, List.flatMap_cons, ih hfields.2, flatMap_statementCode hfields.1]
      cases hslot : s.nestedSlot? <;> simp [hslot]
  have hreturn : declaredNames (line "return nil") = [] := by decide
  rw [loaderScope, scopeNames, loaderBody,
    signatureNames_loaderHead (isNameChar_fieldName hmessage), List.flatMap_append,
    flatMap_separated rfl, hbody]
  simp [hreturn]

/-! ### the variable with the name of a parameter -/

section
variable {cs w : List Char}

/-- small letters in the middle of a word stay as they are, and come from nothing else -/
theorem camelFrom_eq_iff_of_isLower (hcs : ∀ c ∈ cs, isNameChar c = true)
    (hw : ∀ d ∈ w, d.isLower = true) : camelFrom true cs = w ↔ cs = w := by
  induction cs generalizing w with
  | nil => exact Iff.rfl
  | cons c cs ih =>
    cases w with
    | nil => exact iff_of_false (camelFrom_ne_nil (List.cons_ne_nil c cs)) (List.cons_ne_nil c cs)
    | cons d w =>
      rw [List.forall_mem_cons] at hw
      by_cases hlower : c.isLower = true
      · rw [List.forall_mem_cons] at hcs
        rw [camelFrom, if_pos (by simp [hlower]), List.cons.injEq, List.cons.injEq, ih hcs.2 hw.2]
      · -- the one begins with a small letter and the other does not
        refine iff_of_false (fun h => ?_) fun h => ?_
        · have hfront : camelFrom true (c :: cs) = camelFrom false (c :: cs) := by
            simp [camelFrom, hlower]
          have hhead := isLower_head_camelFrom hcs
          rw [← hfront, h] at hhead
          exact absurd (hw.1.symm.trans hhead) (by decide)
        · obtain ⟨rfl, -⟩ := List.cons.inj h
          exact hlower hw.1

end

theorem fieldName_eq_values_iff {name : String} (h : isIdentifier name.toList = true) :
    fieldName name = "Values" ↔ name = "values" ∨ name = "Values" := by
  have hcs := isNameChar_of_isIdentifier h
  rw [← String.toList_inj, ← String.toList_inj, ← String.toList_inj, fieldName,
    String.toList_ofList]
  revert hcs h
  generalize name.toList = cs
  intro h hcs
  unfold camel
  split
  · refine iff_of_false (fun hx => ?_) ?_
    · exact absurd (List.cons.inj hx).1 (by decide)
    · rintro (hx | hx) <;> exact absurd (List.cons.inj hx).1 (by decide)
  · rename_i hfront
    cases cs with
    | nil => cases h
    | cons c cs =>
      rw [List.forall_mem_cons] at hcs
      have halpha : c.isAlpha = true := by
        rw [isIdentifier, Bool.and_eq_true, isNameStart, Bool.or_eq_true, beq_iff_eq] at h
        refine h.1.resolve_right ?_
        rintro rfl
        exact hfront cs rfl
      have hcapital : c.toUpper = 'V' ↔ c = 'v' ∨ c = 'V' := by
        have hall := forall_nameChar
          (p := fun c => (c.toUpper == 'V') == (c == 'v' || c == 'V')) (by decide +kernel) hcs.1
        rwa [beq_iff_eq, Bool.eq_iff_iff, Bool.or_eq_true, beq_iff_eq, beq_iff_eq,
          beq_iff_eq] at hall
      have hlower : ∀ d ∈ "alues".toList, d.isLower = true := List.all_eq_true.mp (by decide)
      have hrest := camelFrom_eq_iff_of_isLower hcs.2 hlower
      have hletter : camelLetter false c = c.toUpper := rfl
      have hwords : "values".toList = 'v' :: "alues".toList ∧
          "Values".toList = 'V' :: "alues".toList := by decide
      rw [camelFrom_of_isAlpha halpha, hletter, hwords.1, hwords.2, List.cons.injEq,
        List.cons.injEq, List.cons.injEq, hcapital, hrest, or_and_right]

/-- a variable for default values has the name of a parameter only for one field -/
theorem localName_mem_iff {slot : Slot} (h : isIdentifier slot.name.toList = true) :
    localName slot ∈ ["x", "prefix", "defaultValues"] ↔ slot.name ∈ ["values", "Values"] := by
  have hhead : (localName slot).toList.head? = some 'd' := by simp [localName]
  have hfront : ∀ other : String, other.toList.head? ≠ some 'd' → localName slot ≠ other := by
    rintro other hother rfl
    exact hother hhead
  have hword : "defaultValues" = "default" ++ "Values" := rfl
  rw [List.mem_cons, List.mem_cons, List.mem_singleton, or_iff_right (hfront "x" (by decide)),
    or_iff_right (hfront "prefix" (by decide)), localName, hword, String.append_right_inj,
    fieldName_eq_values_iff h, List.mem_cons, List.mem_singleton]

end GoCode

/-- A loader declares its receiver, its parameters, and a variable for each nested message.  These
names are different exactly if no nested message is in a field `values`, and no two of them are in
fields with one name in Go.  Emission sees to neither, but two fields with one name in Go have
abbreviations in different places; so fields with plain names, other than `values`, do no harm. -/
theorem LoaderUnit.go_scope_nodup_iff {set : SchemaSet} {t : Target} {u : LoaderUnit}
    {name text : String} {p : Procedure} (hparsed : File.compile name text = .ok set.root)
    (hemit : LoaderUnit.emit set t = .ok u) (hp : p ∈ u.procedures) :
    (∃ comment, GoCode.procedureCode p =
      [.line comment,
        .block (GoCode.loaderHead (GoCode.fieldName p.message)) (GoCode.loaderBody p)] ++
      p.mapMutators.flatMap fun slot =>
        .empty :: GoCode.mutatorCode (GoCode.fieldName p.message) slot) ∧
    GoCode.loaderScope p =
      ["x", "prefix", "defaultValues"] ++ p.nestedSlots.map GoCode.localName ∧
    ((GoCode.loaderScope p).Nodup ↔
      (∀ slot ∈ p.nestedSlots, slot.name ∉ ["values", "Values"]) ∧
      p.nestedSlots.Pairwise fun slot slot' =>
        GoCode.fieldName slot.name ≠ GoCode.fieldName slot'.name) ∧
    (p.nestedSlots.Pairwise fun slot slot' =>
      GoCode.fieldName slot.name = GoCode.fieldName slot'.name →
        ¬ GoCode.SpelledAlike slot.name slot'.name) ∧
    ((∀ slot ∈ p.nestedSlots, GoCode.IsPlain slot.name ∧ slot.name ∉ ["values", "Values"]) →
      (GoCode.loaderScope p).Nodup) := by
  have hname : ∀ s ∈ p.statements, isIdentifier s.slot.name.toList = true :=
    fun s hs => isIdentifier_name hparsed hemit hp hs
  have hslot : ∀ slot ∈ p.nestedSlots, isIdentifier slot.name.toList = true := by
    intro slot hslot
    obtain ⟨s, hs, rfl⟩ := Procedure.exists_of_mem_nestedSlots hslot
    exact hname s hs
  have hscope := GoCode.loaderScope_eq (isIdentifier_procedure hparsed hemit hp) hname
  have hpairs : p.nestedSlots.Pairwise fun slot slot' =>
      GoCode.fieldName slot.name = GoCode.fieldName slot'.name →
        ¬ GoCode.SpelledAlike slot.name slot'.name := by
    have hfragments := Procedure.pairwise_nestedSlots
      (R := fun slot slot' => Naming.fragment slot.name ≠ Naming.fragment slot'.name)
      (pairwise_fragment_ne hemit hp)
    refine hfragments.imp_of_mem fun hs hs' hne heq halike => hne ?_
    exact (GoCode.fragment_eq_iff_of_fieldName_eq (hslot _ hs) (hslot _ hs') heq).mpr halike
  have hnodup : (GoCode.loaderScope p).Nodup ↔
      (∀ slot ∈ p.nestedSlots, slot.name ∉ ["values", "Values"]) ∧
      p.nestedSlots.Pairwise fun slot slot' =>
        GoCode.fieldName slot.name ≠ GoCode.fieldName slot'.name := by
    have hfixed : ["x", "prefix", "defaultValues"].Nodup := by decide
    rw [hscope, List.nodup_append', List.disjoint_comm, and_iff_right hfixed, and_comm]
    refine and_congr ?_ ?_
    · rw [List.disjoint_left, List.forall_mem_map]
      exact forall₂_congr fun slot hmem => not_congr (GoCode.localName_mem_iff (hslot slot hmem))
    · rw [List.Nodup, List.pairwise_map]
      simp only [ne_eq, GoCode.localName, String.append_right_inj]
  refine ⟨GoCode.procedureCode_eq p, hscope, hnodup, hpairs, fun hplain => hnodup.mpr ?_⟩
  refine ⟨fun slot hmem => (hplain slot hmem).2, hpairs.imp_of_mem fun hs hs' h heq => ?_⟩
  exact h heq (GoCode.spelledAlike_of_isPlain (hslot _ hs) (hslot _ hs') (hplain _ hs).1
    (hplain _ hs').1 heq)

/-- a message with two others in it -/
def linksText : String :=
  "message Root { Link up_b = 1; string name = 2; Link down2 = 3; } message Link { string s = 1; }"

def linkMessage (column fieldColumn : Nat) : Message :=
  ⟨"Link", ⟨1, column⟩, [⟨"s", ⟨1, fieldColumn⟩, .named "string", 1, .plain, [], .all⟩], [], .all⟩

def linksSchema : SchemaSet where
  root := { File.empty "root.proto" with
    messages := [⟨"Root", ⟨1, 9⟩,
      [⟨"up_b", ⟨1, 21⟩, .named "Link", 1, .plain, [], .all⟩,
        ⟨"name", ⟨1, 38⟩, .named "string", 2, .plain, [], .all⟩,
        ⟨"down2", ⟨1, 53⟩, .named "Link", 3, .plain, [], .all⟩], [], .all⟩,
      linkMessage 74 88] }
  imports := []

def linkProcedure : Procedure := ⟨"Link", [.scalar ⟨"s", "S"⟩ .string]⟩

def linksProcedure : Procedure :=
  ⟨"Root", [.nested ⟨"up_b", "UP_B"⟩ "Link", .scalar ⟨"name", "NAME"⟩ .string,
    .nested ⟨"down2", "DOWN_2"⟩ "Link"]⟩

theorem go_scope_nodup_links :
    File.compile "root.proto" linksText = .ok linksSchema.root ∧
    LoaderUnit.emit linksSchema ⟨"go"⟩ = .ok ⟨"root.proto", [linksProcedure, linkProcedure]⟩ ∧
    GoCode.loaderScope linksProcedure =
      ["x", "prefix", "defaultValues", "defaultUpB", "defaultDown2"] ∧
    (GoCode.loaderScope linksProcedure).Nodup := by
  have hparsed : File.compile "root.proto" linksText = .ok linksSchema.root :=
    (File.compile_ofList _ _).trans (by decide +kernel)
  have hemit : LoaderUnit.emit linksSchema ⟨"go"⟩ =
      .ok ⟨"root.proto", [linksProcedure, linkProcedure]⟩ := by decide +kernel
  have hplain : ∀ slot ∈ linksProcedure.nestedSlots,
      GoCode.IsPlain slot.name ∧ slot.name ∉ ["values", "Values"] := by decide +kernel
  obtain ⟨-, -, -, -, hnodup⟩ := LoaderUnit.go_scope_nodup_iff hparsed hemit List.mem_cons_self
  exact ⟨hparsed, hemit, by decide +kernel, hnodup hplain⟩

/-- a message in a field whose name in Go ends the name of a parameter -/
def valuesText : String :=
  "message Root { Link values = 1; } message Link { string s = 1; }"

def valuesSchema : SchemaSet where
  root := { File.empty "root.proto" with
    messages := [⟨"Root", ⟨1, 9⟩, [⟨"values", ⟨1, 21⟩, .named "Link", 1, .plain, [], .all⟩], [],
      .all⟩, linkMessage 43 57] }
  imports := []

def valuesProcedure : Procedure := ⟨"Root", [.nested ⟨"values", "VALUES"⟩ "Link"]⟩

/-- The variable for the default values of the field has the name of the parameter. -/
theorem go_scope_redeclared :
    File.compile "root.proto" valuesText = .ok valuesSchema.root ∧
    valuesSchema.verify = .ok () ∧
    LoaderUnit.emit valuesSchema ⟨"go"⟩ = .ok ⟨"root.proto", [valuesProcedure, linkProcedure]⟩ ∧
    GoCode.loaderScope valuesProcedure = ["x", "prefix", "defaultValues", "defaultValues"] ∧
    ¬ (GoCode.loaderScope valuesProcedure).Nodup := by
  refine ⟨(File.compile_ofList _ _).trans (by decide +kernel), ?_, by decide +kernel,
    by decide +kernel, by decide +kernel⟩
  exact SchemaSet.verify_of_rank (fun h => if h.message.name = "Root" then 1 else 0)
    (by decide +kernel) (by decide +kernel) (by decide +kernel) (by decide +kernel)

end EnvConfig
