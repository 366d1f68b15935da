import EnvConfig.Proofs.Emission.Loadable

/-!
# What is left alone makes no difference

A schema may hold messages that are for other targets, and fields that are left alone.  Without them
names of types may mean something else; but a name whose meaning has changed is the name of a type
of a field that is gone too.

* `SchemaSet.trimmed`: the schema without what is left alone for a target;
* `Definition.face`: what a definition shows to the fields that mean it;
* `SchemaSet.face_findFull_trimmed`: a name means the same as long as it does not mean a message for
  other targets;
* `Field.statementFor_trimmed`: a field that is not left alone has the same statement or refusal;
* `LoaderUnit.emit_trimmed`: so has the whole schema.
-/

namespace EnvConfig

/-- the field is left alone for the target `t` -/
def Field.isLeftAlone (set : SchemaSet) (message : String) (t : Target) (f : Field) : Bool :=
  match f.classify set message t with
  | .ok (.skipped _) | .ok .repeatedOther => true
  | _ => false

/-- the message without the fields that are left alone -/
def Message.trimmed (set : SchemaSet) (t : Target) (m : Message) : Message :=
  { m with fields := m.fields.filter (!·.isLeftAlone set m.name t) }

/-- the schema whose root file is without the messages for other targets, and without the fields
that are left alone -/
def SchemaSet.trimmed (set : SchemaSet) (t : Target) : SchemaSet :=
  { set with root := { set.root with
      messages := (set.root.messages.filter (·.targets.includes t)).map (·.trimmed set t) } }

/-- what a definition shows to a field that means it: of a message its name and targets -/
def Definition.face : Definition → (String × Targets) ⊕ Enum
  | message _ m => .inl (m.name, m.targets)
  | enum _ e => .inr e

/-- the definition is not a message for other targets -/
def Definition.For (t : Target) (d : Definition) : Prop :=
  ∀ file m, d = .message file m → m.targets.includes t = true

/-! ### names -/

section

variable {set : SchemaSet} {t : Target}

theorem find?_filter_of_found {α : Type} {p q : α → Bool} {as : List α}
    (h : ∀ a, as.find? p = some a → q a = true) : (as.filter q).find? p = as.find? p := by
  induction as with
  | nil => rfl
  | cons a as ih =>
    rw [List.find?_cons] at h ⊢
    cases hp : p a with
    | true =>
      rw [hp] at h
      rw [List.filter_cons_of_pos (h a rfl), List.find?_cons_of_pos hp]
    | false =>
      rw [hp] at h
      rw [List.filter_cons]
      split
      · rw [List.find?_cons_of_neg (by simp [hp])]
        exact ih h
      · exact ih h

namespace SchemaSet

theorem face_definition?_trimmed {full : String}
    (h : ∀ d, set.root.definition? full = some d → d.For t) :
    ((set.trimmed t).root.definition? full).map Definition.face =
      (set.root.definition? full).map Definition.face := by
  have hfind : (set.trimmed t).root.messages.find?
      (fun m => (set.trimmed t).root.fullName m.name == full) =
        (set.root.messages.find? fun m => set.root.fullName m.name == full).map
          (·.trimmed set t) := by
    show ((set.root.messages.filter _).map _).find? _ = _
    rw [List.find?_map]
    refine congrArg _ (find?_filter_of_found fun m hm => h (.message set.root m) ?_ _ m rfl)
    have hm : (set.root.messages.find? fun m => set.root.fullName m.name == full) = some m := hm
    rw [File.definition?, hm]
    rfl
  unfold File.definition?
  rw [hfind]
  show ((_ : Option Definition).or
    ((set.root.enums.find? fun e => set.root.fullName e.name == full).map
      (.enum (set.trimmed t).root))).map Definition.face = _
  cases set.root.messages.find? (fun m => set.root.fullName m.name == full) with
  | some m => rfl
  | none =>
    cases set.root.enums.find? (fun e => set.root.fullName e.name == full) with
    | some e => rfl
    | none => rfl

/-- the root comes before the imports -/
theorem findFull_eq_or (set : SchemaSet) (full : String) :
    set.findFull full =
      (set.root.definition? full).or (set.imports.findSome? (·.definition? full)) := by
  show (set.root :: set.imports).findSome? _ = _
  rw [List.findSome?_cons]
  cases set.root.definition? full <;> rfl

theorem face_findFull_trimmed {full : String} (h : ∀ d, set.findFull full = some d → d.For t) :
    ((set.trimmed t).findFull full).map Definition.face =
      (set.findFull full).map Definition.face := by
  have hroot : ∀ d, set.root.definition? full = some d → d.For t := fun d hd =>
    h d (by rw [findFull_eq_or, hd, Option.some_or])
  rw [findFull_eq_or, findFull_eq_or, Option.map_or, Option.map_or, face_definition?_trimmed hroot]
  rfl

/-- names that are tried in order: those before the one that is found are not found either -/
theorem face_findSome?_trimmed {names : List String}
    (h : ∀ d, names.findSome? set.findFull = some d → d.For t) :
    (names.findSome? (set.trimmed t).findFull).map Definition.face =
      (names.findSome? set.findFull).map Definition.face := by
  induction names with
  | nil => rfl
  | cons full names ih =>
    rw [List.findSome?_cons] at h ⊢
    rw [List.findSome?_cons]
    cases hfound : set.findFull full with
    | some d =>
      rw [hfound] at h
      have hface : ((set.trimmed t).findFull full).map Definition.face =
          (set.findFull full).map Definition.face :=
        face_findFull_trimmed fun d' hd' => h d' (by rw [← hd', hfound])
      rw [hfound] at hface
      obtain ⟨d', hd', hface⟩ := Option.map_eq_some_iff.mp hface
      rw [hd']
      exact congrArg some hface
    | none =>
      rw [hfound] at h
      have hnone : (set.trimmed t).findFull full = none := by
        have hface : ((set.trimmed t).findFull full).map Definition.face =
            (set.findFull full).map Definition.face :=
          face_findFull_trimmed fun d' hd' => (by rw [hfound] at hd'; cases hd')
        rw [hfound] at hface
        exact Option.map_eq_none_iff.mp hface
      rw [hnone]
      exact ih h

theorem face_resolve_trimmed {name : String} (h : ∀ d, set.resolve name = some d → d.For t) :
    ((set.trimmed t).resolve name).map Definition.face =
      (set.resolve name).map Definition.face := by
  have hresolve : ∀ set' : SchemaSet, set'.resolve name =
      ((absolute? name).elim ((scopes (set'.root.package.getD "")).map (qualified · name))
        ([·])).findSome? set'.findFull := by
    intro set'
    unfold resolve resolveFrom
    cases absolute? name with
    | some full => exact (List.findSome?_singleton ..).symm
    | none =>
      show _ = (List.map _ _).findSome? _
      rw [List.findSome?_map]
      rfl
  rw [hresolve] at h
  rw [hresolve, hresolve]
  exact face_findSome?_trimmed h

end SchemaSet

/-! ### fields -/

namespace Field

theorem face_definition?_trimmed {f : Field}
    (h : ∀ file m, f.definition? set = some (.message file m) → m.targets.includes t = true) :
    (f.definition? (set.trimmed t)).map Definition.face =
      (f.definition? set).map Definition.face := by
  unfold definition? FieldType.definition? at *
  cases htype : f.type with
  | named name =>
    rw [htype] at h
    exact SchemaSet.face_resolve_trimmed fun d hd file m he => h file m (he ▸ hd)
  | map key value => rfl

theorem enum?_eq_face (set : SchemaSet) (f : Field) :
    f.enum? set = ((f.definition? set).map Definition.face).bind Sum.getRight? := by
  show (f.definition? set).bind Definition.enum? = _
  cases f.definition? set with
  | none => rfl
  | some d => cases d <;> rfl

/-- the statement for a field, if it is loaded -/
def statementFor (set : SchemaSet) (message : String) (t : Target) (f : Field) :
    Except EmitError (Option Statement) :=
  (f.classify set message t).map (·.statement? f.slot)

theorem statementFor_of_isLeftAlone {message : String} {f : Field}
    (h : f.isLeftAlone set message t = true) : f.statementFor set message t = .ok none := by
  unfold isLeftAlone at h
  unfold statementFor
  split at h
  · rename_i hclass
    rw [hclass]
    rfl
  · rename_i hclass
    rw [hclass]
    rfl
  · cases h

theorem loadable_of_isLeftAlone {message : String} {f : Field}
    (h : f.isLeftAlone set message t = false) : f.Loadable set t := by
  by_contra hloadable
  rcases f.classify_cases set message t with ⟨-, c, hclass, hnone⟩ | ⟨hf, -⟩ | ⟨hf, -⟩
  · unfold isLeftAlone at h
    rw [hclass] at h
    cases c <;> cases hnone <;> cases h
  · exact hloadable hf
  · exact hloadable hf

/-- a single value of a field is classified by what the definition of its type shows -/
theorem singularClass_congr {set' : SchemaSet} {f : Field} (message : String)
    (hface : (f.definition? set').map Definition.face = (f.definition? set).map Definition.face) :
    (f.singularClass set' message).map (·.statement? f.slot) =
      (f.singularClass set message).map (·.statement? f.slot) := by
  cases htype : f.type with
  | map key value => simp only [singularClass, htype]
  | named name =>
    cases hwrapper : Storage.ofWrapperType? name with
    | some s => simp only [singularClass, htype, hwrapper]
    | none =>
      by_cases hpackage : inWrapperPackage name = true
      · simp only [singularClass, htype, hwrapper, hpackage, if_true]
      rw [Bool.not_eq_true] at hpackage
      by_cases hoptional : f.label = .optional ∧ ∃ k : ScalarKind, k.declared = name
      · obtain ⟨hoptional, k, rfl⟩ := hoptional
        simp [singularClass, htype, hwrapper, hpackage, hoptional, ScalarKind.ofDeclared?_declared]
      -- the definition decides, and of a nested message only the name counts
      have hscalar : f.label = .optional → ∀ k : ScalarKind, k.declared ≠ name :=
        fun h k hk => hoptional ⟨h, k, hk⟩
      rw [singularClass_of_definition message htype hwrapper hpackage hscalar,
        singularClass_of_definition message htype hwrapper hpackage hscalar]
      cases hd : f.definition? set with
      | none =>
        rw [hd] at hface
        rw [Option.map_eq_none_iff.mp hface]
      | some d =>
        rw [hd] at hface
        obtain ⟨d', hd', hface⟩ := Option.map_eq_some_iff.mp hface
        rw [hd']
        cases d with
        | message file m =>
          cases d' with
          | message file' m' =>
            have hname : m'.name = m.name := congrArg Prod.fst (Sum.inl.inj hface)
            simp only [Except.map, FieldClass.statement?, hname]
          | enum file' e' => cases hface
        | enum file e =>
          cases d' with
          | message file' m' => cases hface
          | enum file' e' =>
            obtain rfl : e' = e := Sum.inr.inj hface
            rfl

/-- a field that is not left alone has the same statement, or is refused for the same reason -/
theorem statementFor_trimmed {message : String} {f : Field}
    (h : f.isLeftAlone set message t = false) :
    f.statementFor (set.trimmed t) message t = f.statementFor set message t := by
  have hloadable := loadable_of_isLeftAlone h
  have hface := face_definition?_trimmed hloadable.inner
  have hskip : f.skipReason? set t = none := (loadable_iff.mp hloadable).1
  have hskip' : f.skipReason? (set.trimmed t) t = none := by
    refine skipReason?_eq_none.mpr ⟨hloadable.alone, hloadable.target, fun file m hd => ?_⟩
    rw [hd] at hface
    obtain ⟨d, hd, hface⟩ := Option.map_eq_some_iff.mp hface.symm
    cases d with
    | enum file' e => cases hface
    | message file' m' =>
      have htargets : m'.targets = m.targets := congrArg Prod.snd (Sum.inl.inj hface)
      rw [← htargets]
      exact hloadable.inner file' m' hd
  unfold statementFor classify
  rw [hskip, hskip']
  by_cases hlabel : f.label = .repeated
  · simp only [if_pos hlabel]
    rw [enum?_eq_face, enum?_eq_face set, hface]
  · simp only [if_neg hlabel]
    exact singularClass_congr message hface

end Field

/-! ### schemas -/

/-- the statement for the first field, if there is one, and then those for the others -/
theorem statementsFrom_cons (set : SchemaSet) (message : String) (t : Target)
    (before : List Statement) (f : Field) (fs : List Field) :
    statementsFrom set message t before (f :: fs) =
      (f.statementFor set message t).bind fun s? =>
        s?.elim (statementsFrom set message t before fs) fun s =>
          (before.find? (·.slot.fragment == s.slot.fragment)).elim
            ((statementsFrom set message t (s :: before) fs).map (s :: ·))
            fun first => .error (.sameVariable message s.slot.fragment first.slot.name f.name) := by
  unfold Field.statementFor
  rw [statementsFrom]
  cases f.classify set message t with
  | error e => rfl
  | ok c =>
    simp only [Except.map, Except.bind]
    cases c.statement? f.slot with
    | none => rfl
    | some s =>
      simp only [Option.elim_some]
      cases before.find? (·.slot.fragment == s.slot.fragment) <;> rfl

theorem statementsFrom_trimmed (message : String) (before : List Statement) (fs : List Field) :
    statementsFrom (set.trimmed t) message t before
        (fs.filter (!·.isLeftAlone set message t)) =
      statementsFrom set message t before fs := by
  induction fs generalizing before with
  | nil => rfl
  | cons f fs ih =>
    rw [statementsFrom_cons set]
    cases halone : f.isLeftAlone set message t with
    | true =>
      rw [List.filter_cons_of_neg (by simp [halone]), Field.statementFor_of_isLeftAlone halone]
      exact ih before
    | false =>
      rw [List.filter_cons_of_pos (by simp [halone]), statementsFrom_cons,
        Field.statementFor_trimmed halone]
      simp only [ih]

theorem Procedure.emit_of_trimmed (m : Message) :
    emit (set.trimmed t) t (m.trimmed set t) = emit set t m :=
  congrArg (Except.map _) (statementsFrom_trimmed m.name [] m.fields)

end

/-- Messages for other targets, and fields that are left alone, make no difference: without them the
schema has the same loader for the target, or is refused for the same reason. -/
theorem LoaderUnit.emit_trimmed (set : SchemaSet) (t : Target) :
    emit (set.trimmed t) t = emit set t := by
  have hmessages : (set.trimmed t).root.messages.filter (·.targets.includes t) =
      (set.root.messages.filter (·.targets.includes t)).map (·.trimmed set t) := by
    show ((set.root.messages.filter _).map _).filter _ = _
    rw [List.filter_map, List.filter_filter]
    refine congrArg _ (List.filter_congr fun m _ => ?_)
    exact Bool.and_self _
  have hprocedures : Procedure.emit (set.trimmed t) t ∘ (·.trimmed set t) = Procedure.emit set t :=
    funext Procedure.emit_of_trimmed
  unfold emit
  rw [hmessages, List.mapM_map, hprocedures]
  rfl

/-- `Config` has a field whose type is for another target, and a repeated one -/
def agentSchema : SchemaSet :=
  ⟨⟨"agent.proto", none, none, [], [],
    [⟨"Config", .start, [⟨"name", .start, .named "string", 1, .plain, [], .all⟩,
      ⟨"agent", .start, .named "JavaAgent", 2, .plain, [], .all⟩,
      ⟨"hosts", .start, .named "string", 3, .repeated, [], .all⟩], [], .all⟩,
     ⟨"JavaAgent", .start, [⟨"jar", .start, .named "string", 1, .plain, [], .all⟩], [],
      .only [⟨"java"⟩]⟩], []⟩, []⟩

example : (agentSchema.trimmed ⟨"go"⟩).root.messages.map
    (fun m => (m.name, m.fields.map (·.name))) = [("Config", ["name"])] := by
  decide +kernel

end EnvConfig
