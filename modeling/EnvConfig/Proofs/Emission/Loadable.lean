import EnvConfig.Loader.Unit
import EnvConfig.Proofs.Verification.Exact

/-!
# Which fields are loaded, and how

A field is classified by rules that are tried in a fixed order.  Here the outcome is said without
that order.

* `Storage.SpelledBy`: the names of a wrapper message;
* `Field.Loadable`: the fields that are not left alone;
* `Field.Supported`: the types that a loader can fill;
* `Field.FilledBy`: the statement for a field;
* `Field.classify_cases`: a field is left alone, has the statement that fills it, or is refused.
-/

namespace EnvConfig

/-- `name` spells the wrapper message of `s` in full, with a leading dot or without; a type name has
one such dot at most -/
def Storage.SpelledBy (s : Storage) (name : String) : Prop :=
  name = s.wrapperType ∨ name = "." ++ s.wrapperType

theorem withoutDots_of_ne {name : String} (h : ∀ rest, name ≠ "." ++ rest) :
    withoutDots name = name.toList := by
  unfold withoutDots
  cases hname : name.toList with
  | nil => rfl
  | cons c cs =>
    refine List.dropWhile_cons_of_neg fun hc => h (String.ofList cs) ?_
    rw [← String.toList_inj, hname, eq_of_beq hc]
    simp

theorem withoutDots_cons (rest : String) : withoutDots ("." ++ rest) = withoutDots rest := by
  simp [withoutDots]

theorem Storage.wrapperType_ne (s : Storage) (rest : String) : s.wrapperType ≠ "." ++ rest := by
  intro h
  have hchars := congrArg (·.toList.head?) h
  cases s <;> simp [wrapperType, wrapperPackage] at hchars

namespace Field

/-- the definition that the type of the field means in the root file -/
def definition? (set : SchemaSet) (f : Field) : Option Definition := f.type.definition? set set.root

/-- The field is loaded for the target `t`: it is not one of several alternatives, it is for `t`,
the message that its type means is for `t`, and only a field of enums is repeated. -/
structure Loadable (set : SchemaSet) (t : Target) (f : Field) : Prop where
  alone : ∀ group, f.label ≠ .oneof group
  target : f.targets.includes t = true
  inner : ∀ file m, f.definition? set = some (.message file m) → m.targets.includes t = true
  list : f.label = .repeated → ∃ file e, f.definition? set = some (.enum file e)

/-- A loader can fill a single value of the field's type: a wrapper message, or outside their
package a scalar, a message, or an enum that is always present; or a map from texts to texts. -/
def Supported (set : SchemaSet) (f : Field) : Prop :=
  match f.type with
  | .map key value => key = "string" ∧ value = "string"
  | .named name =>
    (∃ s : Storage, s.SpelledBy name) ∨
      inWrapperPackage name = false ∧
        ((∃ k : ScalarKind, k.declared = name) ∨
          (∃ file m, f.definition? set = some (.message file m)) ∨
          f.label ≠ .optional ∧ ∃ file e, f.definition? set = some (.enum file e))

/-- the refusal of a field of `message` for its type -/
def unsupported (message : String) (f : Field) : EmitError :=
  match f.type with
  | .map key value => .unsupportedMap message f.name key value
  | .named name => .unsupportedType message f.name name

/-- The statement for a field.  At most one constructor applies to a field. -/
inductive FilledBy (set : SchemaSet) (f : Field) : Statement → Prop
  | wellKnown {name : String} {s : Storage} (hlabel : f.label ≠ .repeated)
      (htype : f.type = .named name) (hname : s.SpelledBy name) :
      FilledBy set f (.wrapper f.slot (.wellKnown s))
  | optional {k : ScalarKind} (hlabel : f.label = .optional) (htype : f.type = .named k.declared) :
      FilledBy set f (.wrapper f.slot (.optional k))
  | enum {name : String} {file : File} {e : Enum} (hlabel : f.label ≠ .repeated)
      (hoptional : f.label ≠ .optional) (htype : f.type = .named name)
      (hname : inWrapperPackage name = false)
      (hdefinition : f.definition? set = some (.enum file e)) :
      FilledBy set f (.enum f.slot e.table)
  | enumList {file : File} {e : Enum} (hlabel : f.label = .repeated)
      (hdefinition : f.definition? set = some (.enum file e)) :
      FilledBy set f (.enumList f.slot e.table)
  | nested {name : String} {file : File} {m : Message} (hlabel : f.label ≠ .repeated)
      (htype : f.type = .named name) (hname : inWrapperPackage name = false)
      (hscalar : f.label = .optional → ∀ k : ScalarKind, k.declared ≠ name)
      (hdefinition : f.definition? set = some (.message file m)) :
      FilledBy set f (.nested f.slot m.name)
  | scalar {k : ScalarKind} (hlabel : f.label ≠ .repeated) (hoptional : f.label ≠ .optional)
      (htype : f.type = .named k.declared) (hdefinition : f.definition? set = none) :
      FilledBy set f (.scalar f.slot k)
  | stringMap (hlabel : f.label ≠ .repeated) (htype : f.type = .map "string" "string") :
      FilledBy set f (.mergeMap f.slot)

/-! ### fields that are left alone -/

theorem message?_eq_some {set : SchemaSet} {f : Field} {m : Message} :
    f.message? set = some m ↔ ∃ file, f.definition? set = some (.message file m) := by
  show (f.definition? set).bind Definition.message? = some m ↔ _
  cases hd : f.definition? set with
  | none => simp
  | some d => cases d <;> simp [Definition.message?]

theorem enum?_eq_some {set : SchemaSet} {f : Field} {e : Enum} :
    f.enum? set = some e ↔ ∃ file, f.definition? set = some (.enum file e) := by
  show (f.definition? set).bind Definition.enum? = some e ↔ _
  cases hd : f.definition? set with
  | none => simp
  | some d => cases d <;> simp [Definition.enum?]

theorem skipReason?_eq_none {set : SchemaSet} {t : Target} {f : Field} :
    f.skipReason? set t = none ↔ (∀ group, f.label ≠ .oneof group) ∧ f.targets.includes t = true ∧
      ∀ file m, f.definition? set = some (.message file m) → m.targets.includes t = true := by
  have hinner : (f.message? set).any (!·.targets.includes t) = true ↔
      ∃ file m, f.definition? set = some (.message file m) ∧ m.targets.includes t = false := by
    simp only [Option.any_eq_true, message?_eq_some, Bool.not_eq_true']
    exact ⟨fun ⟨m, ⟨file, hd⟩, hm⟩ => ⟨file, m, hd, hm⟩,
      fun ⟨file, m, hd, hm⟩ => ⟨m, ⟨file, hd⟩, hm⟩⟩
  unfold skipReason?
  split
  · rename_i group hlabel
    simp [hlabel]
  · rename_i hlabel
    by_cases ht : f.targets.includes t = true
    · rw [ht, Bool.not_true, if_neg Bool.false_ne_true]
      by_cases hm : (f.message? set).any (!·.targets.includes t) = true
      · rw [if_pos hm]
        obtain ⟨file, m, hd, hm⟩ := hinner.mp hm
        refine ⟨fun h => (by cases h), fun ⟨_, _, h⟩ => ?_⟩
        rw [h file m hd] at hm
        cases hm
      · rw [if_neg hm]
        refine ⟨fun _ => ⟨hlabel, rfl, fun file m hd => ?_⟩, fun _ => rfl⟩
        exact Bool.not_eq_false _ |>.mp fun h => hm (hinner.mpr ⟨file, m, hd, h⟩)
    · simp [ht]

theorem loadable_iff {set : SchemaSet} {t : Target} {f : Field} :
    f.Loadable set t ↔
      f.skipReason? set t = none ∧ (f.label = .repeated → (f.enum? set).isSome = true) := by
  simp only [skipReason?_eq_none, Option.isSome_iff_exists, enum?_eq_some]
  constructor
  · intro h
    refine ⟨⟨h.alone, h.target, h.inner⟩, fun hlabel => ?_⟩
    obtain ⟨file, e, hd⟩ := h.list hlabel
    exact ⟨e, file, hd⟩
  · rintro ⟨⟨halone, htarget, hinner⟩, hlist⟩
    refine ⟨halone, htarget, hinner, fun hlabel => ?_⟩
    obtain ⟨e, file, hd⟩ := hlist hlabel
    exact ⟨file, e, hd⟩

instance (set : SchemaSet) (t : Target) : DecidablePred (Loadable set t) := fun _ =>
  decidable_of_iff _ loadable_iff.symm

/-! ### fields that are loaded -/

theorem slot_of_filledBy {set : SchemaSet} {f : Field} {s : Statement} (h : f.FilledBy set s) :
    s.slot = f.slot := by
  cases h <;> rfl

theorem spelledBy_of_ofWrapperType? {name : String} {s : Storage}
    (h : Storage.ofWrapperType? name = some s) : s.SpelledBy name := by
  simpa [Storage.SpelledBy] using List.find?_some h

/-- a name that no rule before the definitions takes is loaded as what it means -/
theorem singularClass_of_definition {set : SchemaSet} {f : Field} {name : String} (message : String)
    (htype : f.type = .named name) (hwrapper : Storage.ofWrapperType? name = none)
    (hpackage : inWrapperPackage name = false)
    (hscalar : f.label = .optional → ∀ k : ScalarKind, k.declared ≠ name) :
    f.singularClass set message =
      match f.definition? set with
      | some (.enum _ e) =>
        if f.label = .optional then .error (f.unsupported message) else .ok (.enum e)
      | some (.message _ m) => .ok (.nested m)
      | none =>
        match ScalarKind.ofDeclared? name with
        | some k => .ok (.scalar k)
        | none => .error (f.unsupported message) := by
  unfold singularClass unsupported
  simp only [htype, hwrapper, hpackage, Bool.false_eq_true, if_false]
  split
  · rename_i k hlabel hk
    exact absurd (ScalarKind.declared_of_ofDeclared? hk) (hscalar hlabel k)
  · have henum : f.enum? set = (f.definition? set).bind Definition.enum? := rfl
    have hmessage : f.message? set = (f.definition? set).bind Definition.message? := rfl
    rw [henum, hmessage]
    cases f.definition? set with
    | none =>
      cases ScalarKind.ofDeclared? name <;> rfl
    | some d => cases d <;> rfl

/-- a single value of the field is filled by a statement, or the type of the field is refused -/
theorem singularClass_cases (set : SchemaSet) (message : String) (f : Field)
    (hlabel : f.label ≠ .repeated) :
    (f.Supported set ∧ ∃ c s, f.singularClass set message = .ok c ∧
        c.statement? f.slot = some s ∧ f.FilledBy set s) ∨
      ¬ f.Supported set ∧ f.singularClass set message = .error (f.unsupported message) := by
  cases htype : f.type with
  | map key value =>
    unfold singularClass Supported unsupported
    simp only [htype]
    by_cases hstring : key = "string" ∧ value = "string"
    · obtain ⟨rfl, rfl⟩ := hstring
      exact .inl ⟨⟨rfl, rfl⟩, .stringMap, _, rfl, rfl, .stringMap hlabel htype⟩
    · exact .inr ⟨hstring, if_neg hstring⟩
  | named name =>
    have hsupported : f.Supported set ↔ (∃ s : Storage, s.SpelledBy name) ∨
        inWrapperPackage name = false ∧ ((∃ k : ScalarKind, k.declared = name) ∨
          (∃ file m, f.definition? set = some (.message file m)) ∨
          f.label ≠ .optional ∧ ∃ file e, f.definition? set = some (.enum file e)) := by
      unfold Supported
      rw [htype]
    rw [hsupported]
    cases hwrapper : Storage.ofWrapperType? name with
    | some s =>
      have hname := spelledBy_of_ofWrapperType? hwrapper
      refine .inl ⟨.inl ⟨s, hname⟩, .wrapper (.wellKnown s), _, ?_, rfl,
        .wellKnown hlabel htype hname⟩
      simp only [singularClass, htype, hwrapper]
    | none =>
      have hspelled : ¬ ∃ s : Storage, s.SpelledBy name := fun h => by
        simpa [hwrapper] using Storage.isSome_ofWrapperType?.mpr h
      rw [or_iff_right hspelled]
      by_cases hpackage : inWrapperPackage name = true
      · refine .inr ⟨by simp [hpackage], ?_⟩
        simp only [singularClass, unsupported, htype, hwrapper, hpackage, if_true]
      rw [Bool.not_eq_true] at hpackage
      rw [and_iff_right hpackage]
      by_cases hoptional : f.label = .optional ∧ ∃ k : ScalarKind, k.declared = name
      · obtain ⟨hoptional, k, rfl⟩ := hoptional
        refine .inl ⟨.inl ⟨k, rfl⟩, .wrapper (.optional k), _, ?_, rfl, .optional hoptional htype⟩
        simp [singularClass, htype, hwrapper, hpackage, hoptional, ScalarKind.ofDeclared?_declared]
      have hscalar : f.label = .optional → ∀ k : ScalarKind, k.declared ≠ name :=
        fun h k hk => hoptional ⟨h, k, hk⟩
      rw [singularClass_of_definition message htype hwrapper hpackage hscalar]
      cases hd : f.definition? set with
      | none =>
        cases hk : ScalarKind.ofDeclared? name with
        | none =>
          refine .inr ⟨?_, rfl⟩
          simp [← ScalarKind.isSome_ofDeclared?, hk]
        | some k =>
          obtain rfl := ScalarKind.declared_of_ofDeclared? hk
          exact .inl ⟨.inl ⟨k, rfl⟩, .scalar k, _, rfl, rfl,
            .scalar hlabel (fun h => hscalar h k rfl) htype hd⟩
      | some d =>
        cases d with
        | message file m =>
          exact .inl ⟨.inr (.inl ⟨file, m, rfl⟩), .nested m, _, rfl, rfl,
            .nested hlabel htype hpackage hscalar hd⟩
        | enum file e =>
          by_cases hopt : f.label = .optional
          · refine .inr ⟨?_, if_pos hopt⟩
            simpa [hopt] using hscalar hopt
          · exact .inl ⟨.inr (.inr ⟨hopt, file, e, rfl⟩), .enum e, _, if_neg hopt, rfl,
              .enum hlabel hopt htype hpackage hd⟩

/-- a field is left alone, has the statement that fills it, or is refused for its type -/
theorem classify_cases (set : SchemaSet) (message : String) (f : Field) (t : Target) :
    (¬ f.Loadable set t ∧ ∃ c, f.classify set message t = .ok c ∧ c.statement? f.slot = none) ∨
      (f.Loadable set t ∧ (f.label ≠ .repeated → f.Supported set) ∧
        ∃ c s, f.classify set message t = .ok c ∧ c.statement? f.slot = some s ∧
          f.FilledBy set s) ∨
      (f.Loadable set t ∧ f.label ≠ .repeated ∧ ¬ f.Supported set ∧
        f.classify set message t = .error (f.unsupported message)) := by
  unfold classify
  rw [loadable_iff]
  cases hskip : f.skipReason? set t with
  | some reason => exact .inl ⟨fun h => (by cases h.1), .skipped reason, rfl, rfl⟩
  | none =>
    by_cases hlabel : f.label = .repeated
    · simp only [if_pos hlabel]
      cases he : f.enum? set with
      | none => exact .inl ⟨fun h => (by cases h.2 hlabel), .repeatedOther, rfl, rfl⟩
      | some e =>
        obtain ⟨file, hd⟩ := enum?_eq_some.mp he
        exact .inr (.inl ⟨⟨trivial, fun _ => rfl⟩, fun h => absurd hlabel h, .repeatedEnum e, _,
          rfl, rfl, .enumList hlabel hd⟩)
    · simp only [if_neg hlabel]
      rcases singularClass_cases set message f hlabel with ⟨hs, hclass⟩ | ⟨hs, hclass⟩
      · exact .inr (.inl ⟨⟨trivial, fun h => absurd h hlabel⟩, fun _ => hs, hclass⟩)
      · exact .inr (.inr ⟨⟨trivial, fun h => absurd h hlabel⟩, hlabel, hs, hclass⟩)

end Field

end EnvConfig
