import EnvConfig.Generation
import EnvConfig.Proofs.Emission.Trimmed
import EnvConfig.Proofs.Verification.Exact

/-!
# The order of the imports

A full name means the first definition that loading has met.  Two imports may define one name, since
only the root file is checked for names that are defined twice; which of the two is meant then
depends on the order of the imports, and so does everything that is said of the schema.  Where no
two imports compete for a name the order makes no difference.

* `SchemaSet.Agrees`: two schema sets with one root file in which every full name means the same;
* `SchemaSet.Agrees.verify`, `SchemaSet.Agrees.emit`: their verification and their procedures are
  the same, refusals included;
* `SchemaSet.ImportsApart`: no two imports compete for a name;
* `SchemaSet.Agrees.of_perm`: imports that are apart may be put into another order;
* `SchemaSet.importsApart_iff`: imports that are not apart may not;
* `SchemaSet.results_of_perm`: the results are those of the old order.
-/

namespace EnvConfig

/-! ### schema sets that give names the same meaning -/

/-- the root file is the same, and every full name means the same -/
structure SchemaSet.Agrees (set other : SchemaSet) : Prop where
  root : other.root = set.root
  findFull : ∀ full, other.findFull full = set.findFull full

namespace SchemaSet.Agrees

variable {set other : SchemaSet}

theorem resolveFrom (h : set.Agrees other) (f : File) (name : String) :
    other.resolveFrom f name = set.resolveFrom f name := by
  unfold SchemaSet.resolveFrom
  cases absolute? name with
  | some full => exact h.findFull full
  | none =>
    have hlook : other.findFull = set.findFull := funext h.findFull
    rw [hlook]

theorem resolve (h : set.Agrees other) (name : String) : other.resolve name = set.resolve name := by
  unfold SchemaSet.resolve
  rw [h.root, h.resolveFrom]

theorem definition? (h : set.Agrees other) (f : File) (type : FieldType) :
    type.definition? other f = type.definition? set f := by
  cases type with
  | named name => exact h.resolveFrom f name
  | map key value => rfl

/-! ### messages inside messages -/

theorem parts (h : set.Agrees other) (home : Home) : home.parts other = home.parts set := by
  unfold Home.parts
  refine congrArg (List.filterMap · _) (funext fun f => ?_)
  unfold Field.held?
  rw [h.definition?]

/-- The walk asks a schema set for nothing but the parts of messages; that it stays among the
messages of the set matters only for its end. -/
theorem check (h : set.Agrees other) (trail done : List String) {hs hs' : List Home}
    (hhs : hs' = hs) (known : ∀ g ∈ hs, g ∈ set.homes) (known' : ∀ g ∈ hs', g ∈ other.homes) :
    Home.check other trail done hs' known' = Home.check set trail done hs known := by
  fun_induction Home.check set trail done hs known generalizing hs' with
  | case1 =>
    subst hhs
    rw [Home.check]
  | case2 trail done g rest _ hrest hdone _ ih =>
    subst hhs
    rw [Home.check, if_pos hdone]
    exact ih rfl _
  | case3 trail done g rest _ hrest hdone htrail =>
    subst hhs
    rw [Home.check, if_neg hdone, dif_pos htrail]
  | case4 trail done g rest _ hrest hdone htrail _ stopped hparts _ ihparts =>
    subst hhs
    rw [Home.check, if_neg hdone, dif_neg htrail]
    simp only [ihparts (h.parts g) _, hparts]
  | case5 trail done g rest _ hrest hdone htrail _ done' hparts _ ihparts ihrest =>
    subst hhs
    rw [Home.check, if_neg hdone, dif_neg htrail]
    simp only [ihparts (h.parts g) _, hparts]
    exact ihrest rfl _

theorem rootHomes (h : set.Agrees other) : other.rootHomes = set.rootHomes := by
  unfold SchemaSet.rootHomes
  rw [h.root]

theorem recursive? (h : set.Agrees other) : other.recursive? = set.recursive? := by
  unfold SchemaSet.recursive?
  rw [h.check [] [] h.rootHomes]

/-! ### verification -/

theorem isKnownType (h : set.Agrees other) (name : String) :
    other.isKnownType name = set.isKnownType name := by
  unfold SchemaSet.isKnownType
  rw [h.resolve]

theorem fieldViolation? (h : set.Agrees other) (message : String) (before : List Field)
    (f : Field) :
    other.fieldViolation? message before f = set.fieldViolation? message before f := by
  have hknown : other.isKnownType = set.isKnownType := funext h.isKnownType
  unfold SchemaSet.fieldViolation?
  rw [hknown]

theorem fieldsViolation? (h : set.Agrees other) (message : String) (before fs : List Field) :
    other.fieldsViolation? message before fs = set.fieldsViolation? message before fs := by
  induction fs generalizing before with
  | nil => rfl
  | cons f fs ih =>
    rw [SchemaSet.fieldsViolation?, SchemaSet.fieldsViolation?, h.fieldViolation?, ih]

theorem violation? (h : set.Agrees other) : other.violation? = set.violation? := by
  have hmessages : other.messageViolation? = set.messageViolation? :=
    funext fun m => h.fieldsViolation? m.name [] m.fields
  unfold SchemaSet.violation?
  rw [h.root, h.recursive?, hmessages]

theorem verify (h : set.Agrees other) : other.verify = set.verify := by
  unfold SchemaSet.verify
  rw [h.violation?]

/-! ### procedures -/

theorem message? (h : set.Agrees other) (f : Field) : f.message? other = f.message? set := by
  unfold Field.message?
  rw [h.root, h.definition?]

theorem enum? (h : set.Agrees other) (f : Field) : f.enum? other = f.enum? set := by
  unfold Field.enum?
  rw [h.root, h.definition?]

theorem skipReason? (h : set.Agrees other) (f : Field) (t : Target) :
    f.skipReason? other t = f.skipReason? set t := by
  unfold Field.skipReason?
  rw [h.message?]

theorem singularClass (h : set.Agrees other) (message : String) (f : Field) :
    f.singularClass other message = f.singularClass set message := by
  unfold Field.singularClass
  rw [h.message?, h.enum?]

theorem classify (h : set.Agrees other) (message : String) (f : Field) (t : Target) :
    f.classify other message t = f.classify set message t := by
  unfold Field.classify
  rw [h.skipReason?, h.enum?, h.singularClass]

theorem statementsFrom (h : set.Agrees other) (message : String) (t : Target)
    (before : List Statement) (fs : List Field) :
    EnvConfig.statementsFrom other message t before fs =
      EnvConfig.statementsFrom set message t before fs := by
  induction fs generalizing before with
  | nil => rfl
  | cons f fs ih =>
    rw [EnvConfig.statementsFrom, EnvConfig.statementsFrom, h.classify]
    simp only [ih]

theorem emit (h : set.Agrees other) (t : Target) :
    LoaderUnit.emit other t = LoaderUnit.emit set t := by
  have hprocedure : Procedure.emit other t = Procedure.emit set t :=
    funext fun m => congrArg (Except.map _) (h.statementsFrom m.name t [] m.fields)
  unfold LoaderUnit.emit
  rw [h.root, hprocedure]

theorem generate (h : set.Agrees other) (l : Language) (t : Target)
    (format : String → Except FormatError String) :
    other.generate l t format = set.generate l t format := by
  unfold SchemaSet.generate
  rw [h.root, h.verify, h.emit]

end SchemaSet.Agrees

/-! ### imports that are apart -/

/-- the full names of the types that a file defines -/
def File.definedNames (f : File) : List String := f.typeNames.map f.fullName

/-- No two imports define one name, unless the root file, which comes first, defines it too. -/
def SchemaSet.ImportsApart (set : SchemaSet) : Prop :=
  ∀ f ∈ set.imports, ∀ g ∈ set.imports, ∀ full ∈ f.definedNames, full ∈ g.definedNames →
    f = g ∨ full ∈ set.root.definedNames

instance (set : SchemaSet) : Decidable set.ImportsApart :=
  inferInstanceAs (Decidable (∀ f ∈ set.imports, ∀ g ∈ set.imports, ∀ full ∈ f.definedNames,
    full ∈ g.definedNames → f = g ∨ full ∈ set.root.definedNames))

theorem File.isSome_definition? {f : File} {full : String} :
    (f.definition? full).isSome = true ↔ full ∈ f.definedNames := by
  unfold definition? definedNames typeNames
  rw [Option.isSome_or, Option.isSome_map, Option.isSome_map, Bool.or_eq_true, List.find?_isSome,
    List.find?_isSome]
  simp

theorem File.file_of_definition? {f : File} {full : String} {d : Definition}
    (h : f.definition? full = some d) : d.file = f := by
  unfold definition? at h
  rcases Option.or_eq_some_iff.mp h with h | ⟨-, h⟩
  · obtain ⟨m, -, rfl⟩ := Option.map_eq_some_iff.mp h
    rfl
  · obtain ⟨e, -, rfl⟩ := Option.map_eq_some_iff.mp h
    rfl

/-- the first find does not depend on the order if all finds are equal -/
theorem findSome?_eq_of_perm {α β : Type} {p : α → Option β} {as bs : List α} (h : as.Perm bs)
    (hunique : ∀ a ∈ as, ∀ b ∈ as, (p a).isSome = true → (p b).isSome = true → p a = p b) :
    as.findSome? p = bs.findSome? p := by
  cases hfound : bs.findSome? p with
  | none =>
    rw [List.findSome?_eq_none_iff] at hfound ⊢
    exact fun a ha => hfound a (h.mem_iff.mp ha)
  | some y =>
    obtain ⟨b, hb, hy⟩ := List.exists_of_findSome?_eq_some hfound
    have hb : b ∈ as := h.mem_iff.mpr hb
    have hsome : (as.findSome? p).isSome = true := by
      rw [List.findSome?_isSome_iff]
      exact ⟨b, hb, by rw [hy]; rfl⟩
    obtain ⟨x, hx⟩ := Option.isSome_iff_exists.mp hsome
    obtain ⟨a, ha, hax⟩ := List.exists_of_findSome?_eq_some hx
    rw [hx, ← hax, ← hy]
    exact hunique a ha b hb (by rw [hax]; rfl) (by rw [hy]; rfl)

namespace SchemaSet

theorem Agrees.of_perm {set : SchemaSet} {imports : List File} (hapart : set.ImportsApart)
    (hperm : set.imports.Perm imports) : set.Agrees { set with imports := imports } where
  root := rfl
  findFull full := by
    rw [findFull_eq_or, findFull_eq_or]
    -- a name that the root file defines is never looked for in an import
    cases hroot : set.root.definition? full with
    | some d => rfl
    | none =>
      refine (findSome?_eq_of_perm hperm fun f hf g hg hfull hfull' => ?_).symm
      rcases hapart f hf g hg full (File.isSome_definition?.mp hfull)
        (File.isSome_definition?.mp hfull') with rfl | hdefined
      · rfl
      · rw [← File.isSome_definition?, hroot] at hdefined
        cases hdefined

theorem findFull_of_cons {set : SchemaSet} {f : File} {rest : List File} {full : String}
    {d : Definition} (hroot : full ∉ set.root.definedNames) (hd : f.definition? full = some d) :
    findFull { set with imports := f :: rest } full = some d := by
  have hnone : set.root.definition? full = none := by
    rw [← Option.not_isSome_iff_eq_none, File.isSome_definition?]
    exact hroot
  rw [findFull_eq_or]
  show (set.root.definition? full).or ((f :: rest).findSome? _) = some d
  rw [hnone, Option.none_or, List.findSome?_cons, hd]

/-- Being apart is just what is needed: of two imports that compete for a name, each gives the name
its meaning when it comes first. -/
theorem importsApart_iff {set : SchemaSet} :
    set.ImportsApart ↔
      ∀ imports, set.imports.Perm imports → set.Agrees { set with imports := imports } := by
  refine ⟨fun hapart imports hperm => .of_perm hapart hperm, ?_⟩
  intro h f hf g hg full hfull hfull'
  by_cases hroot : full ∈ set.root.definedNames
  · exact .inr hroot
  · obtain ⟨d, hd⟩ := Option.isSome_iff_exists.mp (File.isSome_definition?.mpr hfull)
    obtain ⟨e, he⟩ := Option.isSome_iff_exists.mp (File.isSome_definition?.mpr hfull')
    have hfirst := (h _ (List.perm_cons_erase hf)).findFull full
    have hsecond := (h _ (List.perm_cons_erase hg)).findFull full
    rw [findFull_of_cons hroot hd] at hfirst
    rw [findFull_of_cons hroot he, ← hfirst, Option.some.injEq] at hsecond
    left
    rw [← File.file_of_definition? hd, ← File.file_of_definition? he, hsecond]

/-- Imports of which no two compete for a name may be put into any order: the schema set is verified
with the same result, emits the same procedures for every target and has the same generated file in
every language, whatever formats it; where one order is refused the other is, for the same
reason. -/
theorem results_of_perm (set : SchemaSet) (imports : List File) (hapart : set.ImportsApart)
    (hperm : set.imports.Perm imports) :
    { set with imports := imports }.verify = set.verify ∧
      (∀ t, LoaderUnit.emit { set with imports := imports } t = LoaderUnit.emit set t) ∧
      ∀ l t format,
        { set with imports := imports }.generate l t format = set.generate l t format :=
  have hagrees := Agrees.of_perm hapart hperm
  ⟨hagrees.verify, hagrees.emit, hagrees.generate⟩

/-! ### examples -/

/-- two imports of which one defines a message and the other an enum -/
def apartImports : SchemaSet :=
  ⟨⟨"root.proto", none, none, [⟨"tls.proto", .ordinary⟩, ⟨"mode.proto", .ordinary⟩], [],
    [⟨"Root", .start, [⟨"tls", .start, .named "Tls", 1, .plain, [], .all⟩,
      ⟨"mode", .start, .named "Mode", 2, .plain, [], .all⟩], [], .all⟩], []⟩,
   [⟨"tls.proto", none, none, [], [],
      [⟨"Tls", .start, [⟨"key", .start, .named "string", 1, .plain, [], .all⟩], [], .all⟩], []⟩,
    ⟨"mode.proto", none, none, [], [], [], [⟨"Mode", .start, [⟨"OFF", 0⟩]⟩]⟩]⟩

theorem results_of_perm_apartImports :
    apartImports.verify = .ok () ∧ apartImports.ImportsApart ∧
      apartImports.imports.Perm apartImports.imports.reverse ∧
      { apartImports with imports := apartImports.imports.reverse }.verify = .ok () :=
  have hverify : apartImports.verify = .ok () :=
    verify_of_checks (by decide +kernel) (by decide +kernel) (by decide +kernel) (by cbv)
  have hapart : apartImports.ImportsApart := by decide +kernel
  have hperm := (List.reverse_perm apartImports.imports).symm
  ⟨hverify, hapart, hperm, (results_of_perm _ _ hapart hperm).1.trans hverify⟩

/-- two imports that compete for a name, which a field of the root file has as its type: as an enum
and as a message that holds itself -/
def competingImports : SchemaSet :=
  ⟨⟨"root.proto", none, none, [⟨"a.proto", .ordinary⟩, ⟨"b.proto", .ordinary⟩], [],
    [⟨"Root", .start, [⟨"x", .start, .named "X", 1, .plain, [], .all⟩], [], .all⟩], []⟩,
   [⟨"a.proto", none, none, [], [], [], [⟨"X", .start, [⟨"ZERO", 0⟩]⟩]⟩,
    ⟨"b.proto", none, none, [], [],
      [⟨"X", .start, [⟨"s", .start, .named "string", 1, .plain, [], .all⟩,
        ⟨"x", .start, .named "X", 2, .plain, [], .all⟩], [], .all⟩], []⟩]⟩

/-- without the condition verification can refuse another order of the imports -/
theorem results_of_perm_needs_apart :
    ¬ ∀ (set : SchemaSet) (imports : List File), set.verify = .ok () →
      set.imports.Perm imports →
        { set with imports := imports }.verify = .ok () ∧
          (∀ t, LoaderUnit.emit { set with imports := imports } t = LoaderUnit.emit set t) ∧
          ∀ l t, { set with imports := imports }.generate l t .ok = set.generate l t .ok := by
  intro hclaim
  have hverify : competingImports.verify = .ok () :=
    verify_of_checks (by decide +kernel) (by decide +kernel) (by decide +kernel) (by cbv)
  have haccepted := (hclaim competingImports competingImports.imports.reverse hverify
    (List.reverse_perm _).symm).1
  have hstopped : (recursive? { competingImports with
      imports := competingImports.imports.reverse }).isSome = true := by cbv
  rw [recursive?_of_verify haccepted] at hstopped
  cases hstopped

end SchemaSet

end EnvConfig
