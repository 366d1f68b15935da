import EnvConfig.Proofs.Printing.Declarations
import EnvConfig.Proofs.Printing.Printable
import EnvConfig.Schema.MapType

/-!
# From a schema to its text and back

* `File.Printable.isWord`: a printable file is printed as words;
* `File.print_round_trip`: the text of a file that has been read declares it again;
* `File.ofText_type`: the types of its fields are known from their texts.
-/

namespace EnvConfig

open Reader Text

/-! ### words -/

theorem isWord_of_isIdentifier {w : String} (h : isIdentifier w.toList = true) : IsWord w :=
  .name (Grammar.isTypeName_of_isIdentifier h)

theorem IsOptionName.isWord {name : String} (h : IsOptionName name) :
    ∀ w ∈ optionNameWords name, IsWord w := by
  rcases h with h | ⟨inner, more, hinner, hmore, rfl⟩
  · rw [Grammar.optionNameWords_of_isTypeName h, List.forall_mem_singleton]
    exact .name h
  · rw [Grammar.optionNameWords_of_parts hinner]
    simp only [List.forall_mem_cons]
    refine ⟨.mark (by decide), .name (by rwa [String.toList_ofList]), .mark (by decide), ?_⟩
    split
    · exact List.forall_mem_nil _
    · rename_i hne
      rw [List.forall_mem_singleton]
      rcases hmore with rfl | hmore
      · exact absurd rfl hne
      · exact .name (by rw [String.toList_ofList]; exact Grammar.isTypeName_of_isDotSuffix hmore)

theorem Setting.isWord {s : Setting} (h : IsOptionName s.name) : ∀ w ∈ s.words, IsWord w := by
  simp only [words, List.forall_mem_append, List.forall_mem_cons]
  exact ⟨h.isWord, .mark (by decide), .literal _, List.forall_mem_nil _⟩

theorem Setting.isWord_statement {s : Setting} (h : IsOptionName s.name) :
    ∀ w ∈ s.statementWords, IsWord w := by
  simp only [statementWords, List.forall_mem_append, List.forall_mem_cons]
  exact ⟨.name (by decide), isWord h, .mark (by decide), List.forall_mem_nil _⟩

theorem isWord_of_mem_settingsWords {ss : List Setting} (h : ∀ s ∈ ss, IsOptionName s.name) :
    ∀ w ∈ settingsWords ss, IsWord w := by
  cases ss with
  | nil => exact List.forall_mem_nil _
  | cons s ss =>
    simp only [settingsWords, List.forall_mem_append, List.forall_mem_cons,
      List.forall_mem_flatMap] at h ⊢
    refine ⟨.mark (by decide), Setting.isWord h.1, fun s hs => ?_, .mark (by decide),
      List.forall_mem_nil _⟩
    exact ⟨.mark (by decide), Setting.isWord (h.2 s hs)⟩

theorem FieldType.Printable.isWord {type : FieldType} (h : type.Printable) :
    ∀ w ∈ type.words, IsWord w := by
  cases type with
  | named name =>
    rw [words, List.forall_mem_singleton]
    exact .name h
  | map key value =>
    simp only [words, List.forall_mem_cons]
    exact ⟨.name (by decide), .mark (by decide), .name h.1, .mark (by decide), .name h.2,
      .mark (by decide), List.forall_mem_nil _⟩

theorem Field.Printable.isWord_labelled {f : Field} (h : f.Printable) :
    ∀ w ∈ f.labelledWords, IsWord w := by
  simp only [labelledWords, List.forall_mem_append, List.forall_mem_cons]
  exact ⟨h.type.isWord, isWord_of_isIdentifier h.name, .mark (by decide), .number _,
    isWord_of_mem_settingsWords h.options, .mark (by decide), List.forall_mem_nil _⟩

theorem Field.Printable.isWord {f : Field} (h : f.Printable) : ∀ w ∈ f.words, IsWord w := by
  have hlabelled := h.isWord_labelled
  have hlabel := h.label
  unfold words
  cases hl : f.label with
  | plain => exact List.forall_mem_cons.mpr ⟨.name (by decide), hlabelled⟩
  | optional => exact List.forall_mem_cons.mpr ⟨.name (by decide), hlabelled⟩
  | repeated => exact List.forall_mem_cons.mpr ⟨.name (by decide), hlabelled⟩
  | oneof group =>
    rw [hl] at hlabel
    simp only [List.forall_mem_append, List.forall_mem_cons]
    exact ⟨.name (by decide), isWord_of_isIdentifier hlabel.1, .mark (by decide), hlabelled,
      .mark (by decide), List.forall_mem_nil _⟩

theorem Message.Printable.isWord {m : Message} (h : m.Printable) : ∀ w ∈ m.words, IsWord w := by
  simp only [words, List.forall_mem_append, List.forall_mem_cons, List.forall_mem_flatMap]
  exact ⟨.name (by decide), isWord_of_isIdentifier h.name, .mark (by decide),
    fun s hs => Setting.isWord_statement (h.options s hs), fun f hf => (h.fields f hf).isWord,
    .mark (by decide), List.forall_mem_nil _⟩

theorem Symbol.Printable.isWord {s : Symbol} (h : s.Printable) : ∀ w ∈ s.words, IsWord w := by
  simp only [words, List.forall_mem_cons]
  exact ⟨isWord_of_isIdentifier h.name, .mark (by decide), .number _, .mark (by decide),
    List.forall_mem_nil _⟩

theorem Enum.Printable.isWord {e : Enum} (h : e.Printable) : ∀ w ∈ e.words, IsWord w := by
  simp only [words, List.forall_mem_append, List.forall_mem_cons, List.forall_mem_flatMap]
  exact ⟨.name (by decide), isWord_of_isIdentifier h.name, .mark (by decide),
    fun s hs => (h.symbols s hs).isWord, .mark (by decide), List.forall_mem_nil _⟩

theorem Import.isWord (i : Import) : ∀ w ∈ i.words, IsWord w := by
  have hkind : ∀ w ∈ i.kind.words, IsWord w := by
    cases i.kind with
    | ordinary => exact List.forall_mem_nil _
    | reexported => exact List.forall_mem_singleton.mpr (.name (by decide))
    | weak => exact List.forall_mem_singleton.mpr (.name (by decide))
  simp only [words, List.forall_mem_append, List.forall_mem_cons]
  exact ⟨.name (by decide), hkind, .literal _, .mark (by decide), List.forall_mem_nil _⟩

theorem File.Printable.isWord {f : File} (h : f.Printable) : ∀ w ∈ f.words, IsWord w := by
  simp only [words, List.forall_mem_append, List.forall_mem_flatMap]
  refine ⟨fun s _ => ?_, fun p hp => ?_, fun i _ => i.isWord,
    fun s hs => Setting.isWord_statement (h.options s hs), fun m hm => (h.messages m hm).isWord,
    fun e he => (h.enums e he).isWord⟩
  · simp only [dialectWords, List.forall_mem_cons]
    exact ⟨.name (by decide), .mark (by decide), .literal s, .mark (by decide),
      List.forall_mem_nil _⟩
  · have hpackage := isTypeName_of_isDotted (h.package p (Option.mem_toList.mp hp))
    simp only [packageWords, List.forall_mem_cons]
    exact ⟨.name (by decide), .name hpackage, .mark (by decide), List.forall_mem_nil _⟩

/-! ### the round trip -/

/-- the text of a printable file declares it, up to positions -/
theorem File.Printable.scan_print {f : File} (h : f.Printable) :
    ∃ ts g, Tokens.scan f.print = .ok ts ∧ File.ofTokens f.name ts = .ok g ∧
      g.unplaced = f.unplaced := by
  obtain ⟨ts, hscan, hwords⟩ := scans_layout h.isWord .start
  obtain ⟨g, hread, hg⟩ := File.ofTokens_of_words h hwords
  refine ⟨ts, g, ?_, hread, hg⟩
  rw [Tokens.scan, print, String.toList_ofList]
  exact hscan

theorem Field.assigned_unplaced (f : Field) : f.assigned.unplaced = f.unplaced.assigned := rfl

theorem Message.assigned_unplaced (m : Message) :
    m.assigned.unplaced = m.unplaced.assigned := by
  simp [assigned, unplaced, Field.assigned_unplaced]

/-- the targets do not depend on positions -/
theorem File.assigned_unplaced (f : File) : f.assigned.unplaced = f.unplaced.assigned := by
  simp [assigned, unplaced, Message.assigned_unplaced]

theorem File.compile_of_ofTokens {name text : String} {ts : Tokens} {f : File}
    (hscan : Tokens.scan text = .ok ts) (hread : File.ofTokens name ts = .ok f) :
    File.compile name text = .ok f.assigned := by
  rw [compile_of_scan hscan, hread]
  rfl

/-- A file that was read from any text is printed as a text that is read as the same file, and
compiled with the same targets, up to positions. -/
theorem File.print_round_trip {name text : String} {ts : Tokens} {f : File}
    (hscan : Tokens.scan text = .ok ts) (hread : File.ofTokens name ts = .ok f) :
    (∃ us g, Tokens.scan f.print = .ok us ∧ File.ofTokens name us = .ok g ∧
      g.unplaced = f.unplaced) ∧
    ∃ c d, File.compile name text = .ok c ∧ File.compile name f.print = .ok d ∧
      d.unplaced = c.unplaced := by
  obtain ⟨us, g, hus, hg, hsame⟩ := (File.printable_of_ofTokens hread).scan_print
  rw [File.name_of_ofTokens hread] at hg
  refine ⟨⟨us, g, hus, hg, hsame⟩, f.assigned, g.assigned, ?_, ?_, ?_⟩
  · exact File.compile_of_ofTokens hscan hread
  · exact File.compile_of_ofTokens hus hg
  · rw [File.assigned_unplaced, File.assigned_unplaced, hsame]

/-- a text that is printed with another number, another literal and other blanks -/
def alternativeText : String :=
  "message m \x7b oneof g \x7b map <a , .b> c=-0x1 [(d).e = \"\\t\\q\\\\\"]; \x7d \x7d"

theorem File.print_round_trip_alternative : ∃ ts f, Tokens.scan alternativeText = .ok ts ∧
    File.ofTokens "m.proto" ts = .ok f ∧
    f.print = "message m \x7b\noneof g \x7b\n" ++
      "map<a, .b> c = -1 [(d).e = \"\\tq\\\\\"];\n\x7d\n\x7d\n" ∧
    (∃ us g, Tokens.scan f.print = .ok us ∧ File.ofTokens "m.proto" us = .ok g ∧
      g.unplaced = f.unplaced) ∧
    ∃ c d, File.compile "m.proto" alternativeText = .ok c ∧
      File.compile "m.proto" f.print = .ok d ∧ d.unplaced = c.unplaced := by
  have hprint : (((Tokens.scan alternativeText).bind fun ts =>
      File.ofTokens "m.proto" ts).map File.print).toOption =
      some ("message m \x7b\noneof g \x7b\n" ++
        "map<a, .b> c = -1 [(d).e = \"\\tq\\\\\"];\n\x7d\n\x7d\n") := by decide +kernel
  cases hscan : Tokens.scan alternativeText with
  | error e =>
    rw [hscan] at hprint
    cases hprint
  | ok ts =>
    cases hread : File.ofTokens "m.proto" ts with
    | error e =>
      rw [hscan, Except.bind, hread] at hprint
      cases hprint
    | ok f =>
      rw [hscan, Except.bind, hread] at hprint
      exact ⟨ts, f, rfl, hread, Option.some.inj hprint, File.print_round_trip hscan hread⟩

/-! ### types of fields -/

theorem isTypeText_of_isTypeName {name : String} (h : isTypeName name.toList = true) :
    IsTypeText name := by
  refine ⟨fun hnil => ?_, fun c hc => ?_⟩
  · rw [hnil] at h
    cases h
  · obtain rfl | hchar := Grammar.isNameChar_of_mem h hc
    · decide
    · exact Bool.or_eq_true_iff.mpr (.inl hchar)

theorem FieldType.Printable.isTypeText {type : FieldType} (h : type.Printable) :
    ∀ name ∈ type.mentioned, IsTypeText name := by
  cases type with
  | named name => exact List.forall_mem_singleton.mpr (isTypeText_of_isTypeName h)
  | map key value =>
    rw [mentioned, List.forall_mem_cons, List.forall_mem_singleton]
    exact ⟨isTypeText_of_isTypeName h.1, isTypeText_of_isTypeName h.2⟩

/-- The type of a field that was read from any text is the type that its written form spells. -/
theorem File.ofText_type {name text : String} {file : File} (h : compile name text = .ok file) :
    ∀ m ∈ file.messages, ∀ f ∈ m.fields, FieldType.ofText f.type.text = f.type := by
  obtain ⟨ts, read, hread, rfl⟩ :
      ∃ ts read, ofTokens name ts = .ok read ∧ file = assigned read := by
    cases hscan : Tokens.scan text with
    | error e =>
      rw [compile, hscan] at h
      cases h
    | ok ts =>
      rw [compile_of_scan hscan] at h
      cases hread : ofTokens name ts with
      | error e =>
        rw [hread] at h
        cases h
      | ok read =>
        rw [hread] at h
        cases h
        exact ⟨ts, read, hread, rfl⟩
  have hprintable := printable_of_ofTokens hread
  rw [assigned, List.forall_mem_map]
  intro m hm
  rw [Message.assigned, List.forall_mem_map]
  intro f hf
  exact FieldType.ofText_text ((hprintable.messages m hm).fields f hf).type.isTypeText

end EnvConfig
