import EnvConfig.Proofs.Emission.Exact
import EnvConfig.Proofs.Population.ByPath

/-!
# Which procedure fills a nested message

A nested statement names its message without the package, and the procedure is looked up by that
name.  The message that a type means may come from another file.

* `LoaderUnit.procedure?_eq_some`: a name is looked up among the messages of the root file;
* `LoaderUnit.nested_dispatch`: the procedure that is found for a nested statement is the one of
  the message that the field's type means, exactly if that message is declared in the root file or
  no procedure has its name;
* `nested_dispatch_wrong_file`: the procedure of another message is found otherwise.
-/

namespace EnvConfig

/-- `h` is a message of the root file for the target, and `p` is emitted from it -/
structure Home.Emits (set : SchemaSet) (t : Target) (h : Home) (p : Procedure) : Prop where
  root : h ∈ set.rootHomes
  target : h.message.targets.includes t = true
  emit : Procedure.emit set t h.message = .ok p

/-- the type of the field means the message `h`, and the field is filled as a nested message -/
structure Field.Nests (set : SchemaSet) (f : Field) (h : Home) : Prop where
  means : f.definition? set = some (.message h.file h.message)
  filled : f.FilledBy set (.nested f.slot h.message.name)

/-- `h` is declared in the root file, or no message of the root file for the target has its name -/
def Home.Apart (set : SchemaSet) (t : Target) (h : Home) : Prop :=
  h.file = set.root ∨
    ∀ r ∈ set.root.messages, r.targets.includes t = true → r.name ≠ h.message.name

variable {set : SchemaSet} {t : Target} {u : LoaderUnit}

theorem SchemaSet.mem_rootHomes {h : Home} :
    h ∈ set.rootHomes ↔ h.file = set.root ∧ h.message ∈ set.root.messages := by
  obtain ⟨file, m⟩ := h
  simp only [rootHomes, List.mem_map, Home.mk.injEq]
  constructor
  · rintro ⟨m', hm', rfl, rfl⟩
    exact ⟨rfl, hm'⟩
  · rintro ⟨rfl, hm⟩
    exact ⟨m, hm, rfl, rfl⟩

theorem Field.Nests.mem_homes {f : Field} {h : Home} (hf : f.Nests set h) : h ∈ set.homes := by
  have hmeans := hf.means
  unfold Field.definition? FieldType.definition? at hmeans
  split at hmeans
  · exact SchemaSet.mem_homes_of_resolveFrom hmeans rfl
  · cases hmeans

theorem Field.Nests.mem_files {f : Field} {h : Home} (hf : f.Nests set h) : h.file ∈ set.files :=
  (SchemaSet.mem_homes.mp hf.mem_homes).1

theorem Field.Nests.mem_messages {f : Field} {h : Home} (hf : f.Nests set h) :
    h.message ∈ h.file.messages := (SchemaSet.mem_homes.mp hf.mem_homes).2

theorem Field.exists_nests {f : Field} {slot : Slot} {inner : String}
    (h : f.FilledBy set (.nested slot inner)) :
    ∃ g : Home, f.Nests set g ∧ inner = g.message.name := by
  cases h with
  | @nested name file m hlabel htype hname hscalar hdefinition =>
    exact ⟨⟨file, m⟩, ⟨hdefinition, .nested hlabel htype hname hscalar hdefinition⟩, rfl⟩

namespace LoaderUnit

/-- a name is looked up among the messages of the root file for the target -/
theorem procedure?_eq_some (hwell : set.WellFormed) (hemit : emit set t = .ok u) {name : String}
    {p : Procedure} :
    u.procedure? name = some p ↔ ∃ r ∈ set.root.messages, r.targets.includes t = true ∧
      r.name = name ∧ Procedure.emit set t r = .ok p := by
  have hfound : ∀ {q}, u.procedure? name = some q → ∃ r ∈ set.root.messages,
      r.targets.includes t = true ∧ r.name = name ∧ Procedure.emit set t r = .ok q := by
    intro q hq
    obtain ⟨r, hr, ht, hrq⟩ := exists_message hemit (List.mem_of_find?_eq_some hq)
    refine ⟨r, hr, ht, ?_, hrq⟩
    rw [← (Procedure.of_emit hrq).1]
    simpa using List.find?_some hq
  refine ⟨hfound, fun ⟨r, hr, ht, hname, hrp⟩ => ?_⟩
  cases hq : u.procedure? name with
  | none =>
    obtain ⟨q, hmem, hrq⟩ := exists_procedure hemit hr ht
    have hne := List.find?_eq_none.mp hq q hmem
    rw [(Procedure.of_emit hrq).1, hname] at hne
    simp at hne
  | some q =>
    obtain ⟨r', hr', -, hname', hrq⟩ := hfound hq
    obtain rfl := List.inj_on_of_nodup_map hwell.names.of_append_left hr hr'
      (hname.trans hname'.symm)
    rw [hrp] at hrq
    cases hrq
    rfl

theorem procedure?_of_emits (hwell : set.WellFormed) (hemit : emit set t = .ok u) {h : Home}
    {p : Procedure} (hp : h.Emits set t p) : u.procedure? h.message.name = some p :=
  (procedure?_eq_some hwell hemit).mpr
    ⟨h.message, (SchemaSet.mem_rootHomes.mp hp.root).2, hp.target, rfl, hp.emit⟩

theorem emits_of_procedure? (hwell : set.WellFormed) (hemit : emit set t = .ok u) {f : Field}
    {h : Home} (hf : f.Nests set h) (happart : h.Apart set t) {q : Procedure}
    (hq : u.procedure? h.message.name = some q) : h.Emits set t q := by
  obtain ⟨r, hr, ht, hname, hrq⟩ := (procedure?_eq_some hwell hemit).mp hq
  rcases happart with hfile | hnames
  · have hmem : h.message ∈ set.root.messages := hfile ▸ hf.mem_messages
    obtain rfl := List.inj_on_of_nodup_map hwell.names.of_append_left hr hmem hname
    exact ⟨SchemaSet.mem_rootHomes.mpr ⟨hfile, hmem⟩, ht, hrq⟩
  · exact absurd hname (hnames r hr ht)

/-- For a nested statement of a field, in the procedure `p` of a message of the root file: every
procedure that is found is emitted from the very message that the field's type means, exactly if
that message is declared in the root file or no message that has a procedure has its name.  That
none is found always means that the message has none. -/
theorem nested_dispatch (hverify : set.verify = .ok ()) (hemit : emit set t = .ok u)
    {m : Message} (hm : m ∈ set.root.messages) {p : Procedure}
    (hp : u.procedure? m.name = some p) {f : Field} (hf : f ∈ m.fields) {inner : String}
    (hs : .nested f.slot inner ∈ p.statements) :
    ∃ h : Home, f.definition? set = some (.message h.file h.message) ∧
      ((∀ q, u.procedure? inner = some q → h.Emits set t q) ↔ h.Apart set t) ∧
      (u.procedure? inner = none → ∀ q, ¬ h.Emits set t q) := by
  have hwell := SchemaSet.wellFormed_of_verify hverify
  obtain ⟨r, hr, -, hname, hrp⟩ := (procedure?_eq_some hwell hemit).mp hp
  obtain rfl := List.inj_on_of_nodup_map hwell.names.of_append_left hr hm hname
  obtain ⟨g, hg, -, hfilled⟩ := Procedure.exists_field hrp hs
  obtain rfl := List.inj_on_of_nodup_map (hwell.messages r hr).names hg hf
    (congrArg Slot.name (Field.slot_of_filledBy hfilled).symm)
  obtain ⟨h, hnests, rfl⟩ := Field.exists_nests hfilled
  refine ⟨h, hnests.means, ⟨fun hright => ?_, fun happart q hq => ?_⟩, fun hnone q hq => ?_⟩
  · by_cases hfile : h.file = set.root
    · exact .inl hfile
    · refine .inr fun r hr ht hname => ?_
      -- the message of the root file with this name has a procedure, and it is found
      obtain ⟨q, -, hrq⟩ := exists_procedure hemit hr ht
      have hq := (procedure?_eq_some hwell hemit).mpr ⟨r, hr, ht, hname, hrq⟩
      exact hfile (SchemaSet.mem_rootHomes.mp (hright q hq).root).1
  · exact emits_of_procedure? hwell hemit hnests happart hq
  · rw [procedure?_of_emits hwell hemit hq] at hnone
    cases hnone

end LoaderUnit

/-! ### a message of the same name in two files -/

/-- a message that one file declares -/
def importedConf : Message :=
  ⟨"Conf", .start, [⟨"t", .start, .named "string", 1, .plain, [], .all⟩], [], .all⟩

def importedFile : File := ⟨"base.proto", none, some "base", [], [], [importedConf], []⟩

/-- a message of this name that another file declares, in another package -/
def ownConf : Message :=
  ⟨"Conf", .start, [⟨"s", .start, .named "string", 1, .plain, [], .all⟩], [], .all⟩

def importedField : Field := ⟨"c", .start, .named "base.Conf", 1, .plain, [], .all⟩

def ownField : Field := ⟨"d", .start, .named "Conf", 2, .plain, [], .all⟩

/-- a message with a field for each of the two -/
def bothConfs : Message := ⟨"Root", .start, [importedField, ownField], [], .all⟩

def clashSchema : SchemaSet :=
  ⟨⟨"app.proto", none, some "app", [⟨"base.proto", .ordinary⟩], [], [bothConfs, ownConf], []⟩,
    [importedFile]⟩

def confProcedure : Procedure := ⟨"Conf", [.scalar ⟨"s", "S"⟩ .string]⟩

def rootProcedure : Procedure :=
  ⟨"Root", [.nested ⟨"c", "C"⟩ "Conf", .nested ⟨"d", "D"⟩ "Conf"]⟩

def clashUnit : LoaderUnit := ⟨"app.proto", [rootProcedure, confProcedure]⟩

theorem verify_clashSchema : clashSchema.verify = .ok () :=
  SchemaSet.verify_of_checks (by decide +kernel) (by decide +kernel) (by decide +kernel) (by cbv)

theorem emit_clashSchema : LoaderUnit.emit clashSchema ⟨"rust"⟩ = .ok clashUnit := by
  decide +kernel

/-- the field whose type means the message of its own package runs the procedure of that message -/
theorem nested_dispatch_own_package :
    clashSchema.verify = .ok () ∧ LoaderUnit.emit clashSchema ⟨"rust"⟩ = .ok clashUnit ∧
      ∃ h : Home, ownField.definition? clashSchema = some (.message h.file h.message) ∧
        ((∀ q, clashUnit.procedure? "Conf" = some q → h.Emits clashSchema ⟨"rust"⟩ q) ↔
          h.Apart clashSchema ⟨"rust"⟩) ∧
        (clashUnit.procedure? "Conf" = none → ∀ q, ¬ h.Emits clashSchema ⟨"rust"⟩ q) := by
  have hmessage : bothConfs ∈ clashSchema.root.messages := by decide +kernel
  have hprocedure : clashUnit.procedure? bothConfs.name = some rootProcedure := by decide +kernel
  have hfield : ownField ∈ bothConfs.fields := by decide +kernel
  have hnested : .nested ownField.slot "Conf" ∈ rootProcedure.statements := by decide +kernel
  exact ⟨verify_clashSchema, emit_clashSchema, LoaderUnit.nested_dispatch verify_clashSchema
    emit_clashSchema hmessage hprocedure hfield hnested⟩

/-- The field whose type means the imported message runs the procedure of the other message, and
gets a value for a field that the imported message does not have. -/
theorem nested_dispatch_wrong_file :
    clashSchema.verify = .ok () ∧ LoaderUnit.emit clashSchema ⟨"rust"⟩ = .ok clashUnit ∧
      importedField.definition? clashSchema = some (.message importedFile importedConf) ∧
      clashUnit.procedure? "Conf" = some confProcedure ∧
      (⟨clashSchema.root, ownConf⟩ : Home).Emits clashSchema ⟨"rust"⟩ confProcedure ∧
      ¬ (⟨importedFile, importedConf⟩ : Home).Emits clashSchema ⟨"rust"⟩ confProcedure ∧
      (clashUnit.populate (.table [("C_S", "x")]) "Root" (.empty "Root") "" none).value.at?
        ["c", "s"] = some (.string "x") := by
  refine ⟨verify_clashSchema, emit_clashSchema, by decide +kernel, by decide +kernel,
    ⟨by decide +kernel, rfl, by decide +kernel⟩, fun h => ?_, rfl⟩
  exact absurd h.root (by decide +kernel)

end EnvConfig
