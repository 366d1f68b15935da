import EnvConfig.Proofs.Emission
import EnvConfig.Proofs.Emission.Loadable

/-!
# Emission is exact

A schema has a loader for a target exactly if every message that is for the target can be loaded.
The loader has one statement for each field that is loaded; a refusal is about the first field that
stands in the way.

* `Loads`: when a loader can fill fields, each from a variable of its own;
* `Field.Refused`: what is wrong with a field after others that can be loaded;
* `Procedure.Implements`: the procedure of a message;
* `statementsFrom_cases`: the statements of the fields after others, or the first refusal;
* `LoaderUnit.emit_exact`: when there is a loader, what it is, and why there is none.
-/

namespace EnvConfig

variable {set : SchemaSet} {t : Target}

/-- the fields that are loaded, in order -/
def loaded (set : SchemaSet) (t : Target) (fs : List Field) : List Field :=
  fs.filter (Field.Loadable set t)

/-- Every field that is loaded has a type that a loader can fill, unless it is repeated, and no two
of these fields have one variable. -/
structure Loads (set : SchemaSet) (t : Target) (fs : List Field) : Prop where
  supported : ∀ f ∈ fs, f.Loadable set t → f.label ≠ .repeated → f.Supported set
  apart : ((loaded set t fs).map (·.slot.fragment)).Nodup

/-- why a loader cannot fill the field `f` of `message`, when it can fill the fields `before` -/
inductive Field.Refused (set : SchemaSet) (t : Target) (message : String) (before : List Field)
    (f : Field) : EmitError → Prop
  | type (hloadable : f.Loadable set t) (hlabel : f.label ≠ .repeated)
      (hsupported : ¬ f.Supported set) : Refused set t message before f (f.unsupported message)
  | sameVariable {first : Field} (hloadable : f.Loadable set t)
      (hsupported : f.label ≠ .repeated → f.Supported set) (hfirst : first ∈ loaded set t before)
      (hfragment : first.slot.fragment = f.slot.fragment) :
      Refused set t message before f
        (.sameVariable message f.slot.fragment first.name f.name)

/-- `p` fills the fields of `m` that are loaded, in order, and lets values be put into the maps
among them -/
structure Procedure.Implements (set : SchemaSet) (t : Target) (m : Message) (p : Procedure) :
    Prop where
  message : p.message = m.name
  statements : List.Forall₂ (Field.FilledBy set) (loaded set t m.fields) p.statements
  mutators : p.mapMutators =
    ((loaded set t m.fields).filter (·.type = .map "string" "string")).map Field.slot

/-! ### fields -/

theorem mem_loaded {fs : List Field} {f : Field} :
    f ∈ loaded set t fs ↔ f ∈ fs ∧ f.Loadable set t := by simp [loaded]

theorem loaded_append (fs gs : List Field) :
    loaded set t (fs ++ gs) = loaded set t fs ++ loaded set t gs := List.filter_append ..

theorem loaded_cons_of_loadable {f : Field} (fs : List Field) (h : f.Loadable set t) :
    loaded set t (f :: fs) = f :: loaded set t fs := List.filter_cons_of_pos (by simpa using h)

theorem loaded_cons_of_not_loadable {f : Field} (fs : List Field) (h : ¬ f.Loadable set t) :
    loaded set t (f :: fs) = loaded set t fs := List.filter_cons_of_neg (by simpa using h)

theorem Loads.nil : Loads set t [] := ⟨fun _ h => absurd h List.not_mem_nil, List.nodup_nil⟩

theorem Loads.append_skipped {fs : List Field} {f : Field} (h : Loads set t fs)
    (hf : ¬ f.Loadable set t) : Loads set t (fs ++ [f]) := by
  refine ⟨fun g hg hgl => ?_, ?_⟩
  · rcases List.mem_append.mp hg with hg | hg
    · exact h.supported g hg hgl
    · exact absurd (List.mem_singleton.mp hg ▸ hgl) hf
  · rw [loaded_append, loaded_cons_of_not_loadable [] hf]
    simpa [loaded] using h.apart

theorem Loads.append_loadable {fs : List Field} {f : Field} (h : Loads set t fs)
    (hf : f.Loadable set t) (hsupported : f.label ≠ .repeated → f.Supported set)
    (hfragment : ∀ g ∈ loaded set t fs, g.slot.fragment ≠ f.slot.fragment) :
    Loads set t (fs ++ [f]) := by
  refine ⟨fun g hg hgl => ?_, ?_⟩
  · rcases List.mem_append.mp hg with hg | hg
    · exact h.supported g hg hgl
    · rw [List.mem_singleton.mp hg]
      exact hsupported
  · rw [loaded_append, loaded_cons_of_loadable [] hf, List.map_append]
    refine List.nodup_append.mpr ⟨h.apart, List.nodup_singleton _, fun n hn n' hn' => ?_⟩
    obtain ⟨g, hg, rfl⟩ := List.mem_map.mp hn
    rw [List.mem_singleton.mp hn']
    exact hfragment g hg

theorem Field.Refused.not_loads {message : String} {before after : List Field} {f : Field}
    {e : EmitError} (h : f.Refused set t message before e) :
    ¬ Loads set t (before ++ f :: after) := by
  intro hloads
  cases h with
  | type hloadable hlabel hsupported =>
    exact hsupported (hloads.supported f (List.mem_append_right _ List.mem_cons_self) hloadable
      hlabel)
  | sameVariable hloadable _ hfirst hfragment =>
    have hnodup := hloads.apart
    rw [loaded_append, loaded_cons_of_loadable after hloadable, List.map_append] at hnodup
    exact (List.nodup_append.mp hnodup).2.2 _ (List.mem_map_of_mem hfirst) _ List.mem_cons_self
      hfragment

/-! ### statements -/

/-- The statements of fields that come after the fields `earlier`, whose statements are `before`;
or the first of the fields that is refused. -/
theorem statementsFrom_cases (message : String) {earlier fs : List Field} {before : List Statement}
    (hbefore : before.map (·.slot) = ((loaded set t earlier).map Field.slot).reverse)
    (hearlier : Loads set t earlier) :
    (Loads set t (earlier ++ fs) ∧ ∃ ss, statementsFrom set message t before fs = .ok ss ∧
        List.Forall₂ (Field.FilledBy set) (loaded set t fs) ss) ∨
      ∃ fs₁ f fs₂ e, fs = fs₁ ++ f :: fs₂ ∧ Loads set t (earlier ++ fs₁) ∧
        f.Refused set t message (earlier ++ fs₁) e ∧
        statementsFrom set message t before fs = .error e := by
  -- field by field: a field that can be loaded joins the earlier ones
  induction fs generalizing earlier before with
  | nil => exact .inl ⟨by rwa [List.append_nil], [], rfl, .nil⟩
  | cons f fs ih =>
    have hassoc : ∀ gs, earlier ++ [f] ++ gs = earlier ++ f :: gs := fun gs => by simp
    unfold statementsFrom
    rcases f.classify_cases set message t with ⟨hloadable, c, hclass, hs⟩ |
      ⟨hloadable, hsupported, c, s, hclass, hs, hfilled⟩ | ⟨hloadable, hlabel, hsupported, hclass⟩
    · -- left alone
      simp only [hclass, hs]
      rw [loaded_cons_of_not_loadable fs hloadable]
      have hbefore' : before.map (·.slot) =
          ((loaded set t (earlier ++ [f])).map Field.slot).reverse := by
        rw [loaded_append, loaded_cons_of_not_loadable [] hloadable, hbefore]
        simp [loaded]
      rcases ih hbefore' (hearlier.append_skipped hloadable) with
        ⟨hloads, hss⟩ | ⟨fs₁, g, fs₂, e, rfl, hloads, hrefused, herror⟩
      · rw [hassoc] at hloads
        exact .inl ⟨hloads, hss⟩
      · rw [hassoc] at hloads hrefused
        exact .inr ⟨f :: fs₁, g, fs₂, e, rfl, hloads, hrefused, herror⟩
    · simp only [hclass, hs]
      have hslot := slot_of_statement? hs
      cases hfind : before.find? (·.slot.fragment == s.slot.fragment) with
      | some b =>
        -- the statement in the way is that of an earlier field
        obtain ⟨first, hfirst, hfirstslot⟩ : ∃ g ∈ loaded set t earlier, g.slot = b.slot := by
          have hb := List.mem_map_of_mem (f := (·.slot)) (List.mem_of_find?_eq_some hfind)
          rw [hbefore, List.mem_reverse] at hb
          exact List.mem_map.mp hb
        have hfragment : b.slot.fragment = s.slot.fragment := by
          simpa using List.find?_some hfind
        refine .inr ⟨[], f, fs, _, rfl, by rwa [List.append_nil], ?_, rfl⟩
        rw [List.append_nil, ← hfirstslot, hslot]
        exact .sameVariable hloadable hsupported hfirst (by rw [hfirstslot, hfragment, hslot])
      | none =>
        have hnew : ∀ g ∈ loaded set t earlier, g.slot.fragment ≠ f.slot.fragment := by
          intro g hg
          have hmem : g.slot ∈ before.map (·.slot) := by
            rw [hbefore, List.mem_reverse]
            exact List.mem_map_of_mem hg
          obtain ⟨b, hb, hbslot⟩ := List.mem_map.mp hmem
          have hne := List.find?_eq_none.mp hfind b hb
          rwa [hbslot, hslot, beq_iff_eq] at hne
        have hbefore' : (s :: before).map (·.slot) =
            ((loaded set t (earlier ++ [f])).map Field.slot).reverse := by
          rw [loaded_append, loaded_cons_of_loadable [] hloadable, List.map_cons, hbefore, hslot]
          simp [loaded]
        rw [loaded_cons_of_loadable fs hloadable]
        rcases ih hbefore' (hearlier.append_loadable hloadable hsupported hnew) with
          ⟨hloads, ss, hss, hfills⟩ | ⟨fs₁, g, fs₂, e, rfl, hloads, hrefused, herror⟩
        · rw [hassoc] at hloads
          exact .inl ⟨hloads, s :: ss, by rw [hss]; rfl, .cons hfilled hfills⟩
        · rw [hassoc] at hloads hrefused
          exact .inr ⟨f :: fs₁, g, fs₂, e, rfl, hloads, hrefused, by rw [herror]; rfl⟩
    · -- refused for its type
      refine .inr ⟨[], f, fs, f.unsupported message, rfl, by rwa [List.append_nil], ?_, ?_⟩
      · exact .type hloadable hlabel hsupported
      · simp only [hclass]

/-! ### procedures -/

/-- the maps of a procedure are those among the fields that it fills -/
theorem filterMap_mapSlot? {fs : List Field} {ss : List Statement}
    (h : List.Forall₂ (Field.FilledBy set) fs ss) :
    ss.filterMap Statement.mapSlot? =
      (fs.filter (·.type = .map "string" "string")).map Field.slot := by
  induction h with
  | nil => rfl
  | @cons f s fs ss hs _ ih =>
    rw [List.filterMap_cons, ih, List.filter_cons]
    cases hs with
    | stringMap _ htype => simp [htype, Statement.mapSlot?]
    | wellKnown _ htype _ => simp [htype, Statement.mapSlot?]
    | optional _ htype => simp [htype, Statement.mapSlot?]
    | «enum» _ _ htype _ _ => simp [htype, Statement.mapSlot?]
    | enumList _ hdefinition =>
      have htype : f.type ≠ .map "string" "string" := fun h => by
        simp [Field.definition?, h, FieldType.definition?] at hdefinition
      simp [htype, Statement.mapSlot?]
    | nested _ htype _ _ _ => simp [htype, Statement.mapSlot?]
    | scalar _ _ htype _ => simp [htype, Statement.mapSlot?]

theorem Procedure.emit_cases (set : SchemaSet) (t : Target) (m : Message) :
    (Loads set t m.fields ∧ ∃ p, emit set t m = .ok p ∧ p.Implements set t m) ∨
      ∃ fs f fs' e, m.fields = fs ++ f :: fs' ∧ Loads set t fs ∧ f.Refused set t m.name fs e ∧
        emit set t m = .error e := by
  rcases @statementsFrom_cases set t m.name [] m.fields [] rfl .nil with
    ⟨hloads, ss, hss, hfills⟩ | ⟨fs, f, fs', e, hfs, hloads, hrefused, herror⟩
  · exact .inl ⟨hloads, ⟨m.name, ss⟩, by rw [emit, hss]; rfl, rfl, hfills,
      filterMap_mapSlot? hfills⟩
  · exact .inr ⟨fs, f, fs', e, hfs, hloads, hrefused, by rw [emit, herror]; rfl⟩

theorem Procedure.loads_iff {m : Message} :
    Loads set t m.fields ↔ ∃ p, emit set t m = .ok p := by
  rcases emit_cases set t m with ⟨hloads, p, hp, -⟩ | ⟨fs, f, fs', e, hfs, -, hrefused, herror⟩
  · exact ⟨fun _ => ⟨p, hp⟩, fun _ => hloads⟩
  · rw [hfs, herror]
    exact ⟨fun h => absurd h hrefused.not_loads, fun ⟨p, hp⟩ => (by cases hp)⟩

theorem Procedure.implements_of_emit {m : Message} {p : Procedure} (h : emit set t m = .ok p) :
    p.Implements set t m := by
  rcases emit_cases set t m with ⟨-, p', hp', himplements⟩ | ⟨_, _, _, e, -, -, -, herror⟩
  · rw [hp'] at h
    cases h
    exact himplements
  · rw [herror] at h
    cases h

theorem Procedure.exists_field {m : Message} {p : Procedure} (h : emit set t m = .ok p)
    {s : Statement} (hs : s ∈ p.statements) :
    ∃ f ∈ m.fields, f.Loadable set t ∧ f.FilledBy set s := by
  obtain ⟨f, hf, hfilled⟩ := exists_left_of_forall₂ (implements_of_emit h).statements hs
  obtain ⟨hf, hloadable⟩ := mem_loaded.mp hf
  exact ⟨f, hf, hloadable, hfilled⟩

namespace LoaderUnit

/-- a refusal is about the first field that cannot be loaded after those before it -/
theorem refused_of_emit {e : EmitError} (h : emit set t = .error e) :
    ∃ ms m ms' fs f fs', set.root.messages.filter (·.targets.includes t) = ms ++ m :: ms' ∧
      (∀ b ∈ ms, Loads set t b.fields) ∧
      m.fields = fs ++ f :: fs' ∧ Loads set t fs ∧ f.Refused set t m.name fs e := by
  unfold emit at h
  cases hps : (set.root.messages.filter (·.targets.includes t)).mapM (Procedure.emit set t) with
  | ok ps => rw [hps] at h; cases h
  | error e' =>
    rw [hps] at h
    cases h
    obtain ⟨ms, m, ms', hms, hbefore, hm⟩ := exists_of_mapM_eq_error hps
    rcases Procedure.emit_cases set t m with
      ⟨-, p, hp, -⟩ | ⟨fs, f, fs', e', hfs, hloads, hrefused, herror⟩
    · rw [hp] at hm
      cases hm
    · rw [herror] at hm
      cases hm
      exact ⟨ms, m, ms', fs, f, fs', hms, fun b hb => Procedure.loads_iff.mpr (hbefore b hb), hfs,
        hloads, hrefused⟩

/-- There is a loader exactly if the fields of every message for the target can be loaded.  It has
the procedures of these messages, in order.  Otherwise the refusal is about the first field, of
the first message, that cannot be loaded with those before it. -/
theorem emit_exact (set : SchemaSet) (t : Target) :
    ((∃ u, emit set t = .ok u) ↔
      ∀ m ∈ set.root.messages, m.targets.includes t = true → Loads set t m.fields) ∧
    (∀ u, emit set t = .ok u → u.source = set.root.name ∧
      List.Forall₂ (fun m p => p.Implements set t m)
        (set.root.messages.filter (·.targets.includes t)) u.procedures) ∧
    ∀ e, emit set t = .error e → ∃ ms m ms' fs f fs',
      set.root.messages.filter (·.targets.includes t) = ms ++ m :: ms' ∧
      (∀ b ∈ ms, Loads set t b.fields) ∧
      m.fields = fs ++ f :: fs' ∧ Loads set t fs ∧ f.Refused set t m.name fs e := by
  refine ⟨⟨fun ⟨u, hu⟩ m hm ht => ?_, fun hall => ?_⟩, fun u hu => ⟨?_, ?_⟩, fun e h =>
    refused_of_emit h⟩
  · obtain ⟨p, -, hp⟩ := exists_procedure hu hm ht
    exact Procedure.loads_iff.mpr ⟨p, hp⟩
  · cases hu : emit set t with
    | ok u => exact ⟨u, rfl⟩
    | error e =>
      obtain ⟨ms, m, ms', fs, f, fs', hms, -, hfs, -, hrefused⟩ := refused_of_emit hu
      have hm := List.mem_filter.mp (hms ▸ List.mem_append_right ms List.mem_cons_self :
        m ∈ set.root.messages.filter (·.targets.includes t))
      have hloads := hall m hm.1 hm.2
      rw [hfs] at hloads
      exact absurd hloads hrefused.not_loads
  · exact source_of_emit hu
  · exact (of_emit hu).imp fun m p hp => Procedure.implements_of_emit hp

end LoaderUnit

end EnvConfig
