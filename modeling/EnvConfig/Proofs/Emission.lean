import EnvConfig.Loader.Unit
import EnvConfig.Proofs.Traversal
import Mathlib.Data.List.Nodup

/-!
# What is true of every emitted unit

A procedure of an emitted unit belongs to a message of the root file, and each of its statements to
a field of that message.

* `LoaderUnit.names_nodup`, `LoaderUnit.fragments_nodup`: no two statements of a procedure have a
  field in common, and none have a variable in common.
-/

namespace EnvConfig

theorem slot_of_statement? {slot : Slot} {c : FieldClass} {s : Statement}
    (h : c.statement? slot = some s) : s.slot = slot := by
  cases c <;> simp only [FieldClass.statement?, Option.some.injEq, reduceCtorEq] at h <;>
    subst h <;> rfl

/-- the statements are for fields of the list, and their fragments differ from each other and from
those before -/
theorem of_statementsFrom {set : SchemaSet} {message : String} {t : Target} {fs : List Field}
    {before ss : List Statement} (h : statementsFrom set message t before fs = .ok ss) :
    (∀ s ∈ ss, ∃ f ∈ fs, s.slot = f.slot) ∧ (ss.map (·.slot.fragment)).Nodup ∧
      ∀ s ∈ ss, ∀ b ∈ before, b.slot.fragment ≠ s.slot.fragment := by
  induction fs generalizing before ss with
  | nil =>
    cases h
    simp
  | cons f fs ih =>
    unfold statementsFrom at h
    split at h
    · cases h
    · rename_i c _
      split at h
      · obtain ⟨hfields, hrest⟩ := ih h
        refine ⟨fun s hs => ?_, hrest⟩
        obtain ⟨g, hg, hslot⟩ := hfields s hs
        exact ⟨g, List.mem_cons_of_mem f hg, hslot⟩
      · rename_i s hs
        split at h
        · cases h
        · rename_i hfirst
          cases htail : statementsFrom set message t (s :: before) fs with
          | error e => rw [htail] at h; cases h
          | ok tail =>
            rw [htail] at h
            cases h
            obtain ⟨hfields, hnodup, hbefore⟩ := ih htail
            have hnew : ∀ b ∈ before, b.slot.fragment ≠ s.slot.fragment := fun b hb => by
              simpa using List.find?_eq_none.mp hfirst b hb
            refine ⟨fun s' hs' => ?_, List.nodup_cons.mpr ⟨fun hmem => ?_, hnodup⟩,
              fun s' hs' b hb => ?_⟩
            · rcases List.mem_cons.mp hs' with rfl | hs'
              · exact ⟨f, List.mem_cons_self, slot_of_statement? hs⟩
              · obtain ⟨g, hg, hslot⟩ := hfields s' hs'
                exact ⟨g, List.mem_cons_of_mem f hg, hslot⟩
            · obtain ⟨s', hs', heq⟩ := List.mem_map.mp hmem
              exact hbefore s' hs' s List.mem_cons_self heq.symm
            · rcases List.mem_cons.mp hs' with rfl | hs'
              · exact hnew b hb
              · exact hbefore s' hs' b (List.mem_cons_of_mem s hb)

theorem Procedure.of_emit {set : SchemaSet} {t : Target} {m : Message} {p : Procedure}
    (h : Procedure.emit set t m = .ok p) :
    p.message = m.name ∧ statementsFrom set m.name t [] m.fields = .ok p.statements := by
  unfold Procedure.emit at h
  cases hs : statementsFrom set m.name t [] m.fields with
  | error e => rw [hs] at h; cases h
  | ok ss =>
    rw [hs] at h
    cases h
    exact ⟨rfl, rfl⟩

/-- a field is told by its name alone, so different fragments mean different names -/
theorem Procedure.names_nodup {set : SchemaSet} {t : Target} {m : Message} {p : Procedure}
    (h : Procedure.emit set t m = .ok p) : (p.statements.map (·.slot.name)).Nodup := by
  obtain ⟨hfields, hnodup, -⟩ := of_statementsFrom (of_emit h).2
  refine List.Nodup.of_map Naming.fragment ?_
  rw [List.map_map]
  rw [List.map_congr_left (g := fun s => s.slot.fragment)]
  · exact hnodup
  · intro s hs
    obtain ⟨f, -, hslot⟩ := hfields s hs
    simp only [Function.comp_apply, hslot, Field.slot]

namespace LoaderUnit

variable {set : SchemaSet} {t : Target} {u : LoaderUnit}

/-- the procedures are those of the messages for the target, one by one -/
theorem of_emit (h : emit set t = .ok u) :
    List.Forall₂ (fun m p => Procedure.emit set t m = .ok p)
      (set.root.messages.filter (·.targets.includes t)) u.procedures := by
  unfold emit at h
  cases hps : (set.root.messages.filter (·.targets.includes t)).mapM (Procedure.emit set t) with
  | error e => rw [hps] at h; cases h
  | ok ps =>
    rw [hps] at h
    cases h
    exact Forall₂_of_mapM hps

theorem source_of_emit (h : emit set t = .ok u) : u.source = set.root.name := by
  unfold emit at h
  cases hps : (set.root.messages.filter (·.targets.includes t)).mapM (Procedure.emit set t) with
  | error e => rw [hps] at h; cases h
  | ok ps =>
    rw [hps] at h
    cases h
    rfl

theorem exists_procedure (h : emit set t = .ok u) {m : Message} (hm : m ∈ set.root.messages)
    (ht : m.targets.includes t = true) : ∃ p ∈ u.procedures, Procedure.emit set t m = .ok p :=
  exists_right_of_forall₂ (of_emit h) (List.mem_filter.mpr ⟨hm, ht⟩)

theorem exists_message (h : emit set t = .ok u) {p : Procedure} (hp : p ∈ u.procedures) :
    ∃ m ∈ set.root.messages, m.targets.includes t = true ∧ Procedure.emit set t m = .ok p := by
  obtain ⟨m, hm, hemit⟩ := exists_left_of_forall₂ (of_emit h) hp
  exact ⟨m, (List.mem_filter.mp hm).1, (List.mem_filter.mp hm).2, hemit⟩

theorem names_nodup (h : emit set t = .ok u) {p : Procedure} (hp : p ∈ u.procedures) :
    (p.statements.map (·.slot.name)).Nodup := by
  obtain ⟨m, -, -, hemit⟩ := exists_message h hp
  exact Procedure.names_nodup hemit

theorem fragments_nodup (h : emit set t = .ok u) {p : Procedure} (hp : p ∈ u.procedures) :
    (p.statements.map (·.slot.fragment)).Nodup := by
  obtain ⟨m, -, -, hemit⟩ := exists_message h hp
  exact (of_statementsFrom (Procedure.of_emit hemit).2).2.1

end LoaderUnit

end EnvConfig
