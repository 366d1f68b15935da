import EnvConfig.Proofs.Population.Dispatch
import Mathlib.Data.List.Perm.Subperm

/-!
# Population ends

A run of a procedure runs other procedures inside it.  In a verified schema no message holds itself,
so no procedure runs inside itself, as long as each nested statement runs the procedure of the
message that its field holds.

* `LoaderUnit.Calls`: one procedure runs directly inside another;
* `LoaderUnit.populateWithin_of_trail`: without a cycle of calls, what a run does is settled by as
  many levels as there are procedures;
* `LoaderUnit.Calls.holds`: a call follows a message that is held;
* `LoaderUnit.populate_ends`: population of a verified schema ends;
* `populate_endless`: a procedure that runs inside itself, for a message of the same name.
-/

namespace EnvConfig

open Relation

/-- a nested statement of `p` names `q` -/
def LoaderUnit.Calls (u : LoaderUnit) (p q : Procedure) : Prop :=
  p ∈ u.procedures ∧ ∃ slot inner, .nested slot inner ∈ p.statements ∧ u.procedure? inner = some q

/-- no nested field of the root file that is loaded means an imported message with the name of a
message of the root file -/
def SchemaSet.NamesApart (set : SchemaSet) (t : Target) : Prop :=
  ∀ m ∈ set.root.messages, m.targets.includes t = true →
    ∀ f ∈ m.fields, f.Loadable set t → ∀ h, f.Nests set h → h.Apart set t

/-! ### runs inside runs -/

section

variable {run run' : Run} {env : Environment} {lead : String} {defaults : Option Value} {w : Value}

/-- only a nested statement has no end -/
theorem Statement.of_apply_endless {s : Statement}
    (h : s.apply run env lead defaults w = .error .endless) :
    ∃ slot inner, s = .nested slot inner ∧
      ∃ lead' w' defaults', (run inner w' lead' defaults').error? = some .endless := by
  cases s with
  | nested slot inner =>
    simp only [apply, Statement.slot] at h
    split at h
    · cases h
    · rename_i e he
      cases h
      exact ⟨slot, inner, rfl, _, _, _, he⟩
  | scalar slot kind => rw [apply_scalar] at h; cases h
  | wrapper slot shape => rw [apply_wrapper] at h; cases h
  | enum slot table =>
    simp only [apply] at h
    split at h
    · split at h <;> cases h
    · cases h
  | enumList slot table =>
    simp only [apply] at h
    split at h
    · split at h <;> cases h
    · cases h
  | mergeMap slot => cases h

theorem of_applyAll_endless {ss : List Statement}
    (h : (applyAll run env lead defaults w ss).error? = some .endless) :
    ∃ slot inner, .nested slot inner ∈ ss ∧
      ∃ lead' w' defaults', (run inner w' lead' defaults').error? = some .endless := by
  induction ss generalizing w with
  | nil => cases h
  | cons s ss ih =>
    unfold applyAll at h
    split at h
    · obtain ⟨slot, inner, hmem, hrun⟩ := ih h
      exact ⟨slot, inner, List.mem_cons_of_mem s hmem, hrun⟩
    · rename_i e he
      cases h
      obtain ⟨slot, inner, rfl, hrun⟩ := Statement.of_apply_endless he
      exact ⟨slot, inner, List.mem_cons_self, hrun⟩

theorem applyAll_congr {ss : List Statement}
    (h : ∀ slot inner, .nested slot inner ∈ ss → run inner = run' inner) :
    applyAll run env lead defaults w ss = applyAll run' env lead defaults w ss := by
  induction ss generalizing w with
  | nil => rfl
  | cons s ss ih =>
    have hs : s.apply run env lead defaults w = s.apply run' env lead defaults w := by
      cases s with
      | nested slot inner => simp only [Statement.apply, h slot inner List.mem_cons_self]
      | scalar | wrapper | «enum» | enumList | mergeMap => rfl
    unfold applyAll
    rw [hs]
    split
    · exact ih fun slot inner hmem => h slot inner (List.mem_cons_of_mem s hmem)
    · rfl

end

namespace LoaderUnit

variable {set : SchemaSet} {t : Target} {u : LoaderUnit}

/-- A trail of procedures, each of which runs the next one inside it, has no procedure twice.  What
is left of the procedures bounds the levels below the trail, so a run with more levels than that
never meets the bound. -/
theorem populateWithin_of_trail (hacyclic : ∀ p, ¬ TransGen u.Calls p p) {env : Environment}
    {trail : List Procedure} (hnodup : trail.Nodup) (hsub : trail ⊆ u.procedures)
    {message : String}
    (hcalls : ∀ q ∈ trail, ∀ p, u.procedure? message = some p → TransGen u.Calls q p)
    {depth depth' : Nat} (hdepth : u.procedures.length < trail.length + depth)
    (hdepth' : u.procedures.length < trail.length + depth') :
    u.populateWithin env depth message = u.populateWithin env depth' message ∧
      ∀ w lead defaults,
        (u.populateWithin env depth message w lead defaults).error? ≠ some .endless := by
  have hlength : trail.length ≤ u.procedures.length := (hnodup.subperm hsub).length_le
  -- on the number of levels: each level puts its procedure on the trail
  induction depth generalizing trail message depth' with
  | zero => omega
  | succ depth ih =>
    cases depth' with
    | zero => omega
    | succ depth' =>
      cases hp : u.procedure? message with
      | none =>
        refine ⟨funext fun w => funext fun lead => funext fun defaults => ?_, fun w lead d => ?_⟩
        · simp only [populateWithin, hp]
        · simp [populateWithin, hp]
      | some p =>
        have hmem : p ∈ u.procedures := mem_of_procedure? hp
        have hnew : p ∉ trail := fun h => hacyclic p (hcalls p h p hp)
        have hsub' : p :: trail ⊆ u.procedures := List.cons_subset.mpr ⟨hmem, hsub⟩
        have hnodup' : (p :: trail).Nodup := List.nodup_cons.mpr ⟨hnew, hnodup⟩
        have hinner : ∀ slot inner, .nested slot inner ∈ p.statements →
            u.populateWithin env depth inner = u.populateWithin env depth' inner ∧
              ∀ w lead defaults,
                (u.populateWithin env depth inner w lead defaults).error? ≠ some .endless := by
          intro slot inner hs
          refine ih hnodup' hsub' (fun q hq p' hp' => ?_) (by simp; omega) (by simp; omega)
            (hnodup'.subperm hsub').length_le
          have hcall : u.Calls p p' := ⟨hmem, slot, inner, hs, hp'⟩
          rcases List.mem_cons.mp hq with rfl | hq
          · exact .single hcall
          · exact (hcalls q hq p hp).tail hcall
        refine ⟨funext fun w => funext fun lead => funext fun defaults => ?_, fun w lead d h => ?_⟩
        · simp only [populateWithin, hp]
          exact applyAll_congr fun slot inner hs => (hinner slot inner hs).1
        · simp only [populateWithin, hp] at h
          obtain ⟨slot, inner, hs, lead', w', d', hrun⟩ := of_applyAll_endless h
          exact (hinner slot inner hs).2 w' lead' d' hrun

/-! ### no procedure runs inside itself -/

theorem eq_of_emits (hwell : set.WellFormed) {g h : Home} {p : Procedure}
    (hg : g.Emits set t p) (hh : h.Emits set t p) : g = h := by
  obtain ⟨hgfile, hgmem⟩ := SchemaSet.mem_rootHomes.mp hg.root
  obtain ⟨hhfile, hhmem⟩ := SchemaSet.mem_rootHomes.mp hh.root
  have hname : g.message.name = h.message.name :=
    (Procedure.of_emit hg.emit).1.symm.trans (Procedure.of_emit hh.emit).1
  have hmessage := List.inj_on_of_nodup_map hwell.names.of_append_left hgmem hhmem hname
  obtain ⟨gfile, gm⟩ := g
  obtain ⟨hfile, hm⟩ := h
  simp only at hgfile hhfile hmessage
  rw [hgfile, hhfile, hmessage]

/-- it is enough that no import declares a message with the name of a message of the root file -/
theorem namesApart_of_names
    (h : ∀ file ∈ set.imports, ∀ n ∈ file.messages, ∀ r ∈ set.root.messages, r.name ≠ n.name) :
    set.NamesApart t := by
  intro m _ _ f _ _ b hb
  rcases List.mem_cons.mp hb.mem_files with hfile | hfile
  · exact .inl hfile
  · exact .inr fun r hr _ => h b.file hfile b.message hb.mem_messages r hr

/-- a call follows a message that is held -/
theorem Calls.holds (hwell : set.WellFormed) (hemit : emit set t = .ok u)
    (happart : set.NamesApart t) {p q : Procedure} (h : u.Calls p q) :
    ∃ a b : Home, a.Emits set t p ∧ b.Emits set t q ∧ a.Holds set b := by
  obtain ⟨hp, slot, inner, hs, hq⟩ := h
  obtain ⟨m, hm, ht, hmp⟩ := exists_message hemit hp
  obtain ⟨f, hf, hloadable, hfilled⟩ := Procedure.exists_field hmp hs
  obtain ⟨b, hb, rfl⟩ := Field.exists_nests hfilled
  have hbq := emits_of_procedure? hwell hemit hb (happart m hm ht f hf hloadable b hb) hq
  refine ⟨⟨set.root, m⟩, b, ⟨SchemaSet.mem_rootHomes.mpr ⟨rfl, hm⟩, ht, hmp⟩, hbq, f, hf, ?_,
    hloadable.alone, hb.means⟩
  intro hlabel
  obtain ⟨file, e, he⟩ := hloadable.list hlabel
  rw [hb.means] at he
  cases he

theorem holds_of_calls (hwell : set.WellFormed) (hemit : emit set t = .ok u)
    (happart : set.NamesApart t) {p q : Procedure} (h : TransGen u.Calls p q) :
    ∃ a b : Home, a.Emits set t p ∧ b.Emits set t q ∧ TransGen (Home.Holds set) a b := by
  induction h with
  | single h =>
    obtain ⟨a, b, ha, hb, hholds⟩ := h.holds hwell hemit happart
    exact ⟨a, b, ha, hb, .single hholds⟩
  | tail _ h ih =>
    obtain ⟨a, b, ha, hb, hholds⟩ := ih
    obtain ⟨b', c, hb', hc, hlast⟩ := h.holds hwell hemit happart
    obtain rfl := eq_of_emits hwell hb hb'
    exact ⟨a, c, ha, hc, hholds.tail hlast⟩

theorem acyclic_calls (hwell : set.WellFormed) (hemit : emit set t = .ok u)
    (happart : set.NamesApart t) (p : Procedure) : ¬ TransGen u.Calls p p := by
  intro h
  obtain ⟨a, b, ha, hb, hholds⟩ := holds_of_calls hwell hemit happart h
  obtain rfl := eq_of_emits hwell ha hb
  exact hwell.acyclic a ⟨a, ha.root, .refl⟩ hholds

/-- Procedures of a verified schema do not run inside themselves, and population ends: it needs no
more levels below the outermost run than there are procedures, whatever it starts with.  This is as
long as no nested field of the root file means an imported message with the name of a message of the
root file. -/
theorem populate_ends (hverify : set.verify = .ok ()) (hemit : emit set t = .ok u)
    (happart : set.NamesApart t) :
    (∀ p, ¬ TransGen u.Calls p p) ∧
      ∀ (env : Environment) (message : String) (w : Value) (lead : String)
        (defaults : Option Value),
        (u.populate env message w lead defaults).error? ≠ some .endless ∧
          ∀ depth, u.procedures.length < depth →
            u.populateWithin env depth message w lead defaults =
              u.populate env message w lead defaults := by
  have hacyclic := acyclic_calls (SchemaSet.wellFormed_of_verify hverify) hemit happart
  refine ⟨hacyclic, fun env message w lead defaults => ?_⟩
  have hbound : u.procedures.length < u.depthBound env := by
    unfold depthBound
    omega
  have hrun : ∀ depth, u.procedures.length < depth →
      u.populateWithin env depth message = u.populateWithin env (u.depthBound env) message ∧
        ∀ w lead defaults,
          (u.populateWithin env depth message w lead defaults).error? ≠ some .endless := by
    intro depth hdepth
    exact populateWithin_of_trail hacyclic List.nodup_nil (List.nil_subset _)
      (fun q hq => absurd hq List.not_mem_nil) (by simpa using hdepth) (by simpa using hbound)
  refine ⟨(hrun _ hbound).2 w lead defaults, fun depth hdepth => ?_⟩
  rw [(hrun depth hdepth).1]
  rfl

end LoaderUnit

/-! ### with and without a clash of names -/

/-- `Root` nests a message of its own file, and one of an imported file -/
def importingSchema : SchemaSet :=
  ⟨⟨"app.proto", none, some "app", [⟨"base.proto", .ordinary⟩], [],
    [⟨"Root", .start, [ownField, ⟨"c", .start, .named "base.Other", 1, .plain, [], .all⟩], [],
      .all⟩, ownConf], []⟩,
    [⟨"base.proto", none, some "base", [], [],
      [⟨"Other", .start, [⟨"t", .start, .named "string", 1, .plain, [], .all⟩], [], .all⟩], []⟩]⟩

def importingProcedure : Procedure :=
  ⟨"Root", [.nested ⟨"d", "D"⟩ "Conf", .nested ⟨"c", "C"⟩ "Other"]⟩

def importingUnit : LoaderUnit := ⟨"app.proto", [importingProcedure, confProcedure]⟩

/-- With two procedures, three levels settle a run: it fills the message of its own file, and stops
at that of the import, for which there is no procedure. -/
theorem populate_ends_importing :
    importingSchema.verify = .ok () ∧
      LoaderUnit.emit importingSchema ⟨"rust"⟩ = .ok importingUnit ∧
      importingSchema.NamesApart ⟨"rust"⟩ ∧
      importingUnit.Calls importingProcedure confProcedure ∧
      ¬ TransGen importingUnit.Calls confProcedure importingProcedure ∧
      importingUnit.populate (.table [("D_S", "x")]) "Root" (.empty "Root") "" none =
        ⟨.message "Root" [("d", .message "Conf" [("s", .string "x")])],
          some (.noProcedure "Other")⟩ := by
  have hverify : importingSchema.verify = .ok () := SchemaSet.verify_of_checks (by decide +kernel)
    (by decide +kernel) (by decide +kernel) (by cbv)
  have hemit : LoaderUnit.emit importingSchema ⟨"rust"⟩ = .ok importingUnit := by decide +kernel
  have happart : importingSchema.NamesApart ⟨"rust"⟩ :=
    LoaderUnit.namesApart_of_names (by decide +kernel)
  have hcall : importingUnit.Calls importingProcedure confProcedure :=
    ⟨List.mem_cons_self, ⟨"d", "D"⟩, "Conf", List.mem_cons_self, by decide +kernel⟩
  obtain ⟨hacyclic, hends⟩ := LoaderUnit.populate_ends hverify hemit happart
  refine ⟨hverify, hemit, happart, hcall, fun h => hacyclic _ (.head hcall h), ?_⟩
  rw [← (hends _ _ _ _ _).2 3 (by decide)]
  rfl

/-- `Root` holds a message of another package that is called `Root` too -/
def loopSchema : SchemaSet :=
  ⟨⟨"app.proto", none, some "app", [⟨"base.proto", .ordinary⟩], [],
    [⟨"Root", .start, [⟨"mode", .start, .named "Mode", 1, .plain, [], .all⟩,
      ⟨"inner", .start, .named "base.Root", 2, .plain, [], .all⟩], [], .all⟩],
    [⟨"Mode", .start, [⟨"OFF", 0⟩, ⟨"ON", 1⟩]⟩]⟩,
    [⟨"base.proto", none, some "base", [], [],
      [⟨"Root", .start, [⟨"text", .start, .named "string", 1, .plain, [], .all⟩], [], .all⟩], []⟩]⟩

def loopProcedure : Procedure :=
  ⟨"Root", [.enum ⟨"mode", "MODE"⟩ ⟨"Mode", [⟨"OFF", 0⟩, ⟨"ON", 1⟩]⟩,
    .nested ⟨"inner", "INNER"⟩ "Root"]⟩

def loopUnit : LoaderUnit := ⟨"app.proto", [loopProcedure]⟩

/-- The schema passes verification, for the two messages are different.  The procedure runs inside
itself, and with no variable set it does so at every depth. -/
theorem populate_endless :
    loopSchema.verify = .ok () ∧ LoaderUnit.emit loopSchema ⟨"rust"⟩ = .ok loopUnit ∧
      loopUnit.Calls loopProcedure loopProcedure ∧
      ∀ (depth : Nat) (w : Value) (lead : String),
        (loopUnit.populateWithin (.table []) depth "Root" w lead none).error? = some .endless := by
  have hfound : loopUnit.procedure? "Root" = some loopProcedure := by decide +kernel
  have hverify : loopSchema.verify = .ok () := SchemaSet.verify_of_checks (by decide +kernel)
    (by decide +kernel) (by decide +kernel) (by cbv)
  refine ⟨hverify, by decide +kernel, ⟨List.mem_cons_self, ⟨"inner", "INNER"⟩, "Root",
    by decide +kernel, hfound⟩, fun depth => ?_⟩
  induction depth with
  | zero => exact fun _ _ => rfl
  | succ depth ih =>
    intro w lead
    simp only [LoaderUnit.populateWithin, hfound, loopProcedure, applyAll]
    rw [Statement.apply_enum_of_unset rfl]
    simp only [Statement.apply, Statement.slot, default?, Option.bind_none, ih]

end EnvConfig
