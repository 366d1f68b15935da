import EnvConfig.Proofs.Emission.Exact
import EnvConfig.Proofs.Emission.Spelling
import EnvConfig.Proofs.Naming.Identifiers

/-!
# Names in statements

A statement names its field, what the field adds to variables, and in some cases an enum or a
message, which may be defined in any file of the schema.

* `Naming.of_mem_fragment`: the characters of a fragment;
* `Statement.WellNamed`: the names of a statement are identifiers;
* `LoaderUnit.wellNamed`: those of the statements of a loader are.
-/

namespace EnvConfig

open Text

/-! ### fragments -/

/-- a fragment consists of capitals, digits and underscores -/
theorem Naming.of_mem_fragment {name : String} {c : Char} (h : c ∈ (fragment name).toList) :
    isNameChar c = true ∧ c.isLower = false := by
  obtain ⟨words, hfragment, hwords⟩ := isFragment_fragment name
  rw [hfragment, String.toList_ofList] at h
  obtain rfl | ⟨word, hword, hc⟩ := Grammar.mem_join h
  · decide
  · refine ⟨isNameChar_of_isAlphanum ((hwords word hword).isAlphanum hc), ?_⟩
    obtain ⟨-, hupper | hdigit⟩ := hwords word hword
    · exact (isUpper_facts (hupper c hc)).isLower
    · exact (isDigit_facts (hdigit c hc)).isLower

/-! ### statements -/

/-- the enum or the message that a statement names -/
def Statement.type? : Statement → Option String
  | enum _ table | enumList _ table => some table.name
  | nested _ message => some message
  | scalar _ _ | wrapper _ _ | mergeMap _ => none

structure Statement.WellNamed (s : Statement) : Prop where
  field : isIdentifier s.slot.name.toList = true
  fragment : s.slot.fragment = Naming.fragment s.slot.name
  type : ∀ type ∈ s.type?, isIdentifier type.toList = true

theorem Statement.WellNamed.isNameChar_fragment {s : Statement} (h : s.WellNamed) :
    ∀ c ∈ s.slot.fragment.toList, isNameChar c = true := by
  rw [h.fragment]
  exact fun c hc => (Naming.of_mem_fragment hc).1

theorem File.isIdentifier_typeName {name text : String} {file : File}
    (h : File.compile name text = .ok file) {type : String} (htype : type ∈ file.typeNames) :
    isIdentifier type.toList = true := by
  obtain hmessage | henum := List.mem_append.mp htype
  · obtain ⟨m, hm, rfl⟩ := List.mem_map.mp hmessage
    exact (isIdentifier_message h hm).1
  · obtain ⟨e, he, rfl⟩ := List.mem_map.mp henum
    obtain ⟨read, hprintable, rfl⟩ := exists_printable_of_compile h
    exact (hprintable.enums e he).name

/-- the enum or the message that a statement names is defined in a file of the schema -/
theorem Field.FilledBy.exists_file {set : SchemaSet} {f : Field} {s : Statement}
    (h : f.FilledBy set s) {type : String} (htype : type ∈ s.type?) :
    ∃ file ∈ set.files, type ∈ file.typeNames := by
  have hmem : ∀ d, f.definition? set = some d → d.file ∈ set.files ∧ d.name ∈ d.file.typeNames := by
    intro d hd
    obtain ⟨name, -, hresolve⟩ := exists_named_of_definition? hd
    exact SchemaSet.mem_of_resolveFrom hresolve
  cases h with
  | enum _ _ _ _ hd | enumList _ hd | nested _ _ _ _ hd =>
    cases htype
    exact ⟨_, hmem _ hd⟩
  | wellKnown | optional | scalar | stringMap => cases htype

theorem LoaderUnit.wellNamed {set : SchemaSet} {t : Target} {u : LoaderUnit} {p : Procedure}
    (hparsed : ∀ file ∈ set.files, ∃ name text, File.compile name text = .ok file)
    (hemit : LoaderUnit.emit set t = .ok u) (hp : p ∈ u.procedures) {s : Statement}
    (hs : s ∈ p.statements) : s.WellNamed := by
  obtain ⟨m, hm, -, hm'⟩ := exists_message hemit hp
  obtain ⟨f, hf, -, hfilled⟩ := Procedure.exists_field hm' hs
  obtain ⟨name, text, hroot⟩ := hparsed set.root List.mem_cons_self
  have hslot := Field.slot_of_filledBy hfilled
  refine ⟨?_, ?_, fun type htype => ?_⟩
  · rw [hslot]
    exact (File.isIdentifier_message hroot hm).2 f hf
  · rw [hslot]
    rfl
  · obtain ⟨file, hfile, htype⟩ := hfilled.exists_file htype
    obtain ⟨name, text, hcompile⟩ := hparsed file hfile
    exact File.isIdentifier_typeName hcompile htype

end EnvConfig
