import EnvConfig.Proofs.Emission
import EnvConfig.Proofs.Grammar.Joined
import EnvConfig.Proofs.Naming.Fragment
import EnvConfig.Proofs.Printing.Printable
import EnvConfig.Render.RustLoader

/-!
# Names of fields in generated code

Emission compares the fragments of fields and nothing else.  That the fields of a loader also have
different names in its code has to follow from that: names that are spelled alike in code must have
one fragment.

* `LoaderUnit.pairwise_fragment_ne`: no two statements of a procedure have a fragment in common;
* `RustCode.fragment_eq_of_fieldName_eq`: names with one spelling in Rust have one fragment;
* `LoaderUnit.rust_names_nodup`: no two fields of a loader in Rust have a name in common, and no two
  methods for its maps.
-/

namespace EnvConfig

open Text

/-! ### the names of fields -/

/-- what a text declares can be printed, before targets are assigned to it -/
theorem File.exists_printable_of_compile {name text : String} {file : File}
    (h : File.compile name text = .ok file) :
    ∃ read : File, read.Printable ∧ file = assigned { read with name := name } := by
  obtain ⟨ts, read, -, hread, rfl⟩ := exists_of_compile h
  exact ⟨read, Reader.of_foldAll Grammar.gives_declaration (printable_empty "") hread, rfl⟩

/-- the messages of a compiled file, and their fields, are named by identifiers -/
theorem File.isIdentifier_message {name text : String} {file : File}
    (h : File.compile name text = .ok file) {m : Message} (hm : m ∈ file.messages) :
    isIdentifier m.name.toList = true ∧ ∀ f ∈ m.fields, isIdentifier f.name.toList = true := by
  obtain ⟨read, hprintable, rfl⟩ := exists_printable_of_compile h
  obtain ⟨m', hm', rfl⟩ := List.mem_map.mp hm
  have hmessage := hprintable.messages m' hm'
  refine ⟨hmessage.name, fun f hf => ?_⟩
  obtain ⟨f', hf', rfl⟩ := List.mem_map.mp hf
  exact (hmessage.fields f' hf').name

/-- the slots of the statements of a procedure are those of their fields -/
theorem Procedure.exists_slot {set : SchemaSet} {t : Target} {m : Message} {p : Procedure}
    (h : Procedure.emit set t m = .ok p) {s : Statement} (hs : s ∈ p.statements) :
    ∃ f ∈ m.fields, s.slot = f.slot :=
  (of_statementsFrom (of_emit h).2).1 s hs

/-- what holds of any two slots of statements holds of any two slots of maps -/
theorem Procedure.pairwise_mapMutators {p : Procedure} {R : Slot → Slot → Prop}
    (h : p.statements.Pairwise fun s s' => R s.slot s'.slot) : p.mapMutators.Pairwise R := by
  refine List.pairwise_filterMap.mpr (h.imp fun {s s'} hR slot hslot slot' hslot' => ?_)
  cases s <;> cases hslot
  cases s' <;> cases hslot'
  exact hR

namespace LoaderUnit

variable {set : SchemaSet} {t : Target} {u : LoaderUnit} {name text : String} {p : Procedure}

theorem isIdentifier_name (hparsed : File.compile name text = .ok set.root)
    (hemit : emit set t = .ok u) (hp : p ∈ u.procedures) {s : Statement} (hs : s ∈ p.statements) :
    isIdentifier s.slot.name.toList = true := by
  obtain ⟨m, hm, -, hemit⟩ := exists_message hemit hp
  obtain ⟨f, hf, hslot⟩ := Procedure.exists_slot hemit hs
  rw [hslot]
  exact (File.isIdentifier_message hparsed hm).2 f hf

/-- the message of a procedure is named by an identifier -/
theorem isIdentifier_procedure (hparsed : File.compile name text = .ok set.root)
    (hemit : emit set t = .ok u) (hp : p ∈ u.procedures) :
    isIdentifier p.message.toList = true := by
  obtain ⟨m, hm, -, hemit⟩ := exists_message hemit hp
  rw [(Procedure.of_emit hemit).1]
  exact (File.isIdentifier_message hparsed hm).1

theorem pairwise_fragment_ne (hemit : emit set t = .ok u) (hp : p ∈ u.procedures) :
    p.statements.Pairwise fun s s' =>
      Naming.fragment s.slot.name ≠ Naming.fragment s'.slot.name := by
  obtain ⟨m, -, -, hm⟩ := exists_message hemit hp
  refine (List.pairwise_map.mp (fragments_nodup hemit hp)).imp_of_mem fun {s s'} hs hs' hne => ?_
  obtain ⟨f, -, hslot⟩ := Procedure.exists_slot hm hs
  obtain ⟨f', -, hslot'⟩ := Procedure.exists_slot hm hs'
  rwa [hslot, hslot'] at hne ⊢

end LoaderUnit

/-! ### names in Rust -/

namespace Naming

theorem isNameChar_of_mem_snakeFrom {prev : Option Char} {cs : List Char}
    (h : ∀ c ∈ cs, isNameChar c = true) : ∀ d ∈ snakeFrom prev cs, isNameChar d = true := by
  induction cs generalizing prev with
  | nil => exact List.forall_mem_nil _
  | cons c cs ih =>
    rw [List.forall_mem_cons] at h
    rw [snakeFrom_cons h.1, List.forall_mem_append, List.forall_mem_cons]
    refine ⟨?_, isNameChar_toLower h.1, ih h.2⟩
    split
    · exact List.forall_mem_singleton.mpr (by decide)
    · exact List.forall_mem_nil _

theorem isNameChar_snakeCase {name : String} (h : isIdentifier name.toList = true) :
    ∀ c ∈ (snakeCase name).toList, isNameChar c = true := by
  rw [snakeCase, String.toList_ofList]
  exact isNameChar_of_mem_snakeFrom (isNameChar_of_isIdentifier h)

theorem hash_not_mem_snakeCase {name : String} (h : isIdentifier name.toList = true) :
    '#' ∉ (snakeCase name).toList := by
  intro hmem
  rw [snakeCase, String.toList_ofList] at hmem
  exact absurd (isNameChar_of_mem_snakeFrom (isNameChar_of_isIdentifier h) _ hmem) (by decide)

end Naming

namespace RustCode

open Naming

variable {a b : String}

theorem fieldName_raw_or (h : isIdentifier a.toList = true) :
    fieldName a = "r#" ++ snakeCase a ∨
      '#' ∉ (fieldName a).toList ∧ fragment (fieldName a) = fragment a := by
  have hhash := hash_not_mem_snakeCase h
  obtain hname | hname | hname := fieldName_cases a
  · exact .inl hname
  · refine .inr ⟨?_, ?_⟩
    · simpa [hname] using hhash
    · rw [hname, fragment_append_underscore, fragment_snakeCase h]
  · refine .inr ⟨?_, ?_⟩
    · rwa [hname]
    · rw [hname, fragment_snakeCase h]

/-- names with one spelling in Rust have one fragment -/
theorem fragment_eq_of_fieldName_eq (ha : isIdentifier a.toList = true)
    (hb : isIdentifier b.toList = true) (h : fieldName a = fieldName b) :
    fragment a = fragment b := by
  obtain hraw | ⟨hhash, hfragment⟩ := fieldName_raw_or ha
  · obtain hraw' | ⟨hhash', -⟩ := fieldName_raw_or hb
    · rw [hraw, hraw', String.append_right_inj] at h
      rw [← fragment_snakeCase ha, h, fragment_snakeCase hb]
    · rw [← h, hraw] at hhash'
      simp at hhash'
  · obtain hraw' | ⟨-, hfragment'⟩ := fieldName_raw_or hb
    · rw [h, hraw'] at hhash
      simp at hhash
    · rw [← hfragment, h, hfragment']

/-- the name of the method that puts values into a map -/
def mutatorName (slot : Slot) : String := "put_all_" ++ snakeCase slot.name

/-- the code for a map declares one method, under this name -/
theorem mutatorCode_eq (slot : Slot) : ∃ comment body, mutatorCode slot =
    [comment, Code.block ("pub fn " ++ mutatorName slot ++
      "(&mut self, values: ::std::collections::HashMap<String, String>)") body] := by
  have hhead : "pub fn put_all_" ++ snakeCase slot.name = "pub fn " ++ mutatorName slot := by
    rw [mutatorName, ← String.append_assoc]
    rfl
  rw [← hhead]
  exact ⟨_, _, rfl⟩

theorem fragment_eq_of_mutatorName_eq {slot slot' : Slot}
    (ha : isIdentifier slot.name.toList = true) (hb : isIdentifier slot'.name.toList = true)
    (h : mutatorName slot = mutatorName slot') : fragment slot.name = fragment slot'.name := by
  rw [mutatorName, mutatorName, String.append_right_inj] at h
  rw [← fragment_snakeCase ha, h, fragment_snakeCase hb]

end RustCode

/-- In the code of every procedure in Rust the fields have names of their own, and so have the
methods for its maps: emission has compared the fragments, and identifiers with one spelling in Rust
have one fragment. -/
theorem LoaderUnit.rust_names_nodup {set : SchemaSet} {t : Target} {u : LoaderUnit}
    {name text : String} {p : Procedure} (hparsed : File.compile name text = .ok set.root)
    (hemit : LoaderUnit.emit set t = .ok u) (hp : p ∈ u.procedures) :
    (p.statements.map fun s => RustCode.fieldName s.slot.name).Nodup ∧
    (p.mapMutators.map RustCode.mutatorName).Nodup ∧
    (∀ slot ∈ p.mapMutators, ∃ comment body, RustCode.mutatorCode slot =
      [comment, Code.block ("pub fn " ++ RustCode.mutatorName slot ++
        "(&mut self, values: ::std::collections::HashMap<String, String>)") body]) ∧
    ∀ a b : String, isIdentifier a.toList = true → isIdentifier b.toList = true →
      RustCode.fieldName a = RustCode.fieldName b → Naming.fragment a = Naming.fragment b := by
  have hpairs := pairwise_fragment_ne hemit hp
  have hname : ∀ s ∈ p.statements, isIdentifier s.slot.name.toList = true :=
    fun s hs => isIdentifier_name hparsed hemit hp hs
  refine ⟨?_, ?_, fun slot _ => RustCode.mutatorCode_eq slot,
    fun a b ha hb => RustCode.fragment_eq_of_fieldName_eq ha hb⟩
  · refine List.pairwise_map.mpr (hpairs.imp_of_mem fun hs hs' hne heq => ?_)
    exact hne (RustCode.fragment_eq_of_fieldName_eq (hname _ hs) (hname _ hs') heq)
  · refine List.pairwise_map.mpr (Procedure.pairwise_mapMutators ?_)
    refine hpairs.imp_of_mem fun hs hs' hne heq => ?_
    exact hne (RustCode.fragment_eq_of_mutatorName_eq (hname _ hs) (hname _ hs') heq)

/-- a message with keywords for names, and with two maps -/
def keywordsText : String :=
  "message M { string type = 1; map<string,string> Self = 2; map<string,string> HTTPTags = 3; }"

def keywordsSchema : SchemaSet where
  root := { File.empty "flags.proto" with
    messages := [⟨"M", ⟨1, 9⟩,
      [⟨"type", ⟨1, 20⟩, .named "string", 1, .plain, [], .all⟩,
        ⟨"Self", ⟨1, 49⟩, .map "string" "string", 2, .plain, [], .all⟩,
        ⟨"HTTPTags", ⟨1, 78⟩, .map "string" "string", 3, .plain, [], .all⟩], [], .all⟩] }
  imports := []

def keywordsProcedure : Procedure :=
  ⟨"M", [.scalar ⟨"type", "TYPE"⟩ .string, .mergeMap ⟨"Self", "SELF"⟩,
    .mergeMap ⟨"HTTPTags", "HTTP_TAGS"⟩]⟩

theorem rust_names_nodup_keywords :
    File.compile "flags.proto" keywordsText = .ok keywordsSchema.root ∧
    LoaderUnit.emit keywordsSchema ⟨"rust"⟩ = .ok ⟨"flags.proto", [keywordsProcedure]⟩ ∧
    (keywordsProcedure.statements.map fun s => RustCode.fieldName s.slot.name) =
      ["r#type", "self_", "http_tags"] ∧
    (keywordsProcedure.statements.map fun s => RustCode.fieldName s.slot.name).Nodup ∧
    (keywordsProcedure.mapMutators.map RustCode.mutatorName).Nodup := by
  have hparsed : File.compile "flags.proto" keywordsText = .ok keywordsSchema.root := by
    decide +kernel
  have hemit : LoaderUnit.emit keywordsSchema ⟨"rust"⟩ =
      .ok ⟨"flags.proto", [keywordsProcedure]⟩ := by decide +kernel
  obtain ⟨hfields, hmutators, -⟩ := LoaderUnit.rust_names_nodup hparsed hemit List.mem_cons_self
  exact ⟨hparsed, hemit, by decide +kernel, hfields, hmutators⟩

end EnvConfig
