import EnvConfig.Loader.Unit
import EnvConfig.Proofs.Import.BreadthFirst

/-!
# The schema of the service

* `serviceSchema`: the text that declares the service;
* `serviceUnit`: its loader procedures;
* `emit_serviceSchema`: the procedures that are emitted for the text are these.
-/

namespace EnvConfig

def serviceSchema : String :=
  "syntax = \"proto3\";\n" ++
  "\n" ++
  "package acme.service;\n" ++
  "\n" ++
  "option go_package = \"github.com/acme/service/config\";\n" ++
  "option rust_package = \"service_config\";\n" ++
  "\n" ++
  "import \"google/protobuf/wrappers.proto\";\n" ++
  "\n" ++
  "// Service is the root configuration of the example service.\n" ++
  "message Service \x7b\n" ++
  "  string name = 1;\n" ++
  "  google.protobuf.Int32Value timeout = 2;\n" ++
  "  repeated Color tags = 3;\n" ++
  "  map<string, string> opts = 4;\n" ++
  "  Reporting reporting = 5;\n" ++
  "  Color accent = 6;\n" ++
  "\x7d\n" ++
  "\n" ++
  "message Reporting \x7b\n" ++
  "  string endpoint = 1;\n" ++
  "  optional uint32 port = 2;\n" ++
  "  bool secure = 3;\n" ++
  "  double sample_ratio = 4;\n" ++
  "\x7d\n" ++
  "\n" ++
  "enum Color \x7b\n" ++
  "  RED = 0;\n" ++
  "  GREEN = 1;\n" ++
  "  BLUE = 2;\n" ++
  "\x7d\n"

/-- the symbols of `Color` -/
def colorTable : SymbolTable := ⟨"Color", [⟨"RED", 0⟩, ⟨"GREEN", 1⟩, ⟨"BLUE", 2⟩]⟩

def serviceProcedure : Procedure where
  message := "Service"
  statements := [
    .scalar ⟨"name", "NAME"⟩ .string,
    .wrapper ⟨"timeout", "TIMEOUT"⟩ (.wellKnown .int32),
    .enumList ⟨"tags", "TAGS"⟩ colorTable,
    .mergeMap ⟨"opts", "OPTS"⟩,
    .nested ⟨"reporting", "REPORTING"⟩ "Reporting",
    .enum ⟨"accent", "ACCENT"⟩ colorTable]

def reportingProcedure : Procedure where
  message := "Reporting"
  statements := [
    .scalar ⟨"endpoint", "ENDPOINT"⟩ .string,
    .wrapper ⟨"port", "PORT"⟩ (.optional .uint32),
    .scalar ⟨"secure", "SECURE"⟩ .bool,
    .scalar ⟨"sample_ratio", "SAMPLE_RATIO"⟩ .double]

def serviceUnit : LoaderUnit := ⟨"service.proto", [serviceProcedure, reportingProcedure]⟩

/-! ### a root with one import -/

/-- the set of a root that imports one module, which imports nothing -/
theorem SchemaSet.load_of_leaf {name text leaf leafText : String} {lib : Library} {root f : File}
    (hroot : File.compile name text = .ok root) (himports : root.importPaths = [leaf])
    (hne : leaf ≠ name) (hfetch : lib.fetch leaf = .ok leafText)
    (hf : File.compile leaf leafText = .ok f) (hleaf : f.importPaths = []) :
    SchemaSet.load name text lib = .ok ⟨root, [f]⟩ := by
  have hread : lib.read leaf = .ok f := Library.read_eq_ok_iff.mpr ⟨leafText, hfetch, hf⟩
  have hunseen : leaf ∉ [name] := by simpa using hne
  obtain ⟨known, hload⟩ := SchemaSet.load_of_compile lib hroot
  generalize root.importPaths = first at known hload himports
  subst himports
  obtain ⟨known', hstep⟩ := Library.loadQueue_of_read known hunseen hread
  rw [hload, hstep]
  simp only [hleaf, List.nil_append, Library.loadQueue]
  rfl

/-! ### the characters of a text -/

section

variable {s t : String} {cs ds : List Char}

theorem append_eq_ofList (hs : s = String.ofList cs) (ht : t = String.ofList ds) :
    s ++ t = String.ofList (cs ++ ds) := by
  rw [hs, ht, String.ofList_append]

theorem join_cons_eq_ofList {f : Storage → String} {k : Storage} {ks : List Storage}
    (hk : f k = String.ofList cs) (hks : String.join (ks.map f) = String.ofList ds) :
    String.join ((k :: ks).map f) = String.ofList (cs ++ ds) := by
  rw [List.map_cons, String.join_cons, append_eq_ofList hk hks]

theorem join_nil_eq_ofList (f : Storage → String) : String.join ([].map f) = String.ofList [] := rfl

/-- the file `name` with the text `cs` -/
def compiled? (name : String) (cs : List Char) : Option File :=
  ((Tokens.scanFrom .start cs).bind fun ts =>
    (File.ofTokens name ts).map File.assigned).toOption

theorem compile_of_compiled? {name : String} {f : File} (hs : s = String.ofList cs)
    (h : compiled? name cs = some f) : File.compile name s = .ok f := by
  unfold compiled? at h
  unfold File.compile Tokens.scan
  rw [hs, String.toList_ofList]
  revert h
  cases (Tokens.scanFrom .start cs).bind fun ts => (File.ofTokens name ts).map File.assigned with
  | error e => intro h; cases h
  | ok g => intro h; cases h; rfl

end

/-! ### the procedures of the service -/

/-- the procedures of a root and its one import, from the characters of their texts -/
def emittedWith? (leaf : String) (cs ds : List Char) : Option LoaderUnit :=
  (compiled? "service.proto" cs).bind fun root =>
    (compiled? leaf ds).bind fun f =>
      if root.importPaths = [leaf] ∧ f.importPaths = [] then
        (LoaderUnit.emit ⟨root, [f]⟩ (.of "rust")).toOption
      else none

set_option maxRecDepth 100000 in
theorem emittedWith?_eq_serviceUnit : ∃ cs, serviceSchema = String.ofList cs ∧
    ∃ ds, Builtin.wrappers = String.ofList ds ∧
      emittedWith? Builtin.wrappersPath cs ds = some serviceUnit := by
  unfold serviceSchema Builtin.wrappers Builtin.heading Storage.all Builtin.wrapper
    Storage.messageName
  -- the characters are found piece by piece: of a long text their list is slow to evaluate
  apply Exists.intro
  apply And.intro
  · repeat' apply append_eq_ofList
    all_goals rfl
  apply Exists.intro
  apply And.intro
  · repeat' first
      | apply append_eq_ofList
      | apply join_cons_eq_ofList
      | exact join_nil_eq_ofList _
    all_goals rfl
  · decide +kernel

/-- the schema can be loaded with the built-in module, and the procedures of `serviceUnit` are
emitted for it -/
theorem emit_serviceSchema : ∃ set,
    SchemaSet.load "service.proto" serviceSchema (.given []) = .ok set ∧
      LoaderUnit.emit set (.of "rust") = .ok serviceUnit := by
  obtain ⟨cs, hcs, ds, hds, h⟩ := emittedWith?_eq_serviceUnit
  obtain ⟨root, hroot, h⟩ := Option.bind_eq_some_iff.mp h
  obtain ⟨f, hf, h⟩ := Option.bind_eq_some_iff.mp h
  split at h
  · rename_i himports
    refine ⟨⟨root, [f]⟩, ?_, ?_⟩
    · exact SchemaSet.load_of_leaf (compile_of_compiled? hcs hroot) himports.1 (by decide) rfl
        (compile_of_compiled? hds hf) himports.2
    · revert h
      cases LoaderUnit.emit ⟨root, [f]⟩ (.of "rust") with
      | error e => intro h; cases h
      | ok u => intro h; cases h; rfl
  · cases h

end EnvConfig
