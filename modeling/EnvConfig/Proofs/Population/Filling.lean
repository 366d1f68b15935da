import EnvConfig.Proofs.Population.ByPath

/-!
# What a run puts into fields

A statement reads its variable, what its field holds and the default, and nothing else of a value.
So a run that stops has filled some fields as a run that goes on does, and left the others alone.

* `Statement.filled`: what a statement puts into its field, or why it stops the run;
* `Statement.apply_eq`: this is all that a statement does;
* `LoaderUnit.error?_populateWithin`: why a run stops has nothing to do with the value and the
  defaults;
* `LoaderUnit.at?_populateWithin`: what any run leaves at the end of a path.
-/

namespace EnvConfig

/-! ### one statement -/

/-- what a statement puts into its field, when its variable is `key`, the field holds `held` and the
default is `default` -/
def Statement.filled (run : Run) (env : Environment) (key : String) (held default : Option Value) :
    Statement → Except PopulationError Value
  | scalar _ kind =>
    .ok ((((env.scalar? key kind.storage).or (nonZero held)).or (nonZero default)).getD
      (.zero kind.storage))
  | wrapper _ shape =>
    .ok ((((env.scalar? key shape.scalar.storage).or held).or default).getD
      (.zero shape.scalar.storage))
  | enum _ table =>
    match env.text? key with
    | some symbol =>
      match resolveSymbol key table.numberOf? symbol with
      | .ok n => .ok (.int32 n)
      | .error e => .error (.unknownSymbol e)
    | none => .ok (((nonZero held).or (nonZero default)).getD (.int32 0))
  | enumList _ table =>
    match env.items? key with
    | some symbols =>
      match resolveSymbols key table.numberOf? symbols with
      | .ok ns => .ok (.list (ns.map .int32))
      | .error e => .error (.unknownSymbol e)
    | none => .ok (((nonZero held).or (nonZero default)).getD (.list []))
  | nested _ message =>
    let p := run message (held.getD (.empty message)) (key ++ "_") default
    match p.error? with
    | none => .ok p.value
    | some e => .error e
  | mergeMap _ => .ok (.map ((mapEntries held).insertAbsent (mapEntries default)))

namespace Statement

variable {run : Run} {env : Environment} {lead : String} {defaults : Option Value} {w w' : Value}

/-- a statement sets its field and does nothing else -/
theorem apply_eq (s : Statement) :
    s.apply run env lead defaults w =
      (s.filled run env (lead ++ s.slot.fragment) (w.get? s.slot.name)
        (default? defaults s.slot.name)).map (w.set s.slot.name) := by
  cases s with
  | scalar slot kind => exact apply_scalar slot kind
  | wrapper slot shape => exact apply_wrapper slot shape
  | enum slot table =>
    cases henv : env.text? (lead ++ slot.fragment) with
    | some text =>
      simp only [apply, filled, Statement.slot, henv]
      cases resolveSymbol (lead ++ slot.fragment) table.numberOf? text <;> rfl
    | none =>
      rw [apply_enum_of_unset henv]
      simp only [filled, Statement.slot, henv]
      rfl
  | enumList slot table =>
    cases henv : env.items? (lead ++ slot.fragment) with
    | some symbols =>
      simp only [apply, filled, Statement.slot, henv]
      cases resolveSymbols (lead ++ slot.fragment) table.numberOf? symbols <;> rfl
    | none =>
      rw [apply_enumList_of_unset henv]
      simp only [filled, Statement.slot, henv]
      rfl
  | nested slot message =>
    simp only [apply, filled, Statement.slot]
    cases (run message ((w.get? slot.name).getD (.empty message)) (lead ++ slot.fragment ++ "_")
      (default? defaults slot.name)).error? <;> rfl
  | mergeMap slot => rfl

theorem apply_of_filled {s : Statement} {v : Value}
    (h : s.filled run env (lead ++ s.slot.fragment) (w.get? s.slot.name)
      (default? defaults s.slot.name) = .ok v) :
    s.apply run env lead defaults w = .ok (w.set s.slot.name v) := by
  rw [apply_eq, h]
  rfl

theorem filled_of_apply {s : Statement} (h : s.apply run env lead defaults w = .ok w') :
    ∃ v, s.filled run env (lead ++ s.slot.fragment) (w.get? s.slot.name)
        (default? defaults s.slot.name) = .ok v ∧ w' = w.set s.slot.name v := by
  rw [apply_eq] at h
  cases hv : s.filled run env (lead ++ s.slot.fragment) (w.get? s.slot.name)
      (default? defaults s.slot.name) with
  | error e => rw [hv] at h; cases h
  | ok v =>
    rw [hv] at h
    cases h
    exact ⟨v, rfl, rfl⟩

/-- a nested message is filled only by a run that does not stop -/
theorem of_filled_nested {slot : Slot} {message key : String} {held default : Option Value}
    {v : Value} (h : (nested slot message).filled run env key held default = .ok v) :
    run message (held.getD (.empty message)) (key ++ "_") default = ⟨v, none⟩ := by
  simp only [filled] at h
  split at h
  · rename_i herror
    cases h
    rw [← herror]
  · cases h

end Statement

/-! ### why a run stops -/

/-- what stops a run has nothing to do with the value and the defaults -/
def Run.Steady (run : Run) : Prop :=
  ∀ message lead w w' defaults defaults',
    (run message w lead defaults).error? = (run message w' lead defaults').error?

namespace Run.Steady

variable {run : Run} {env : Environment} {lead : String}

theorem filled_eq_error (hrun : run.Steady) {s : Statement} {key : String}
    {held default : Option Value} {e : PopulationError} (held' default' : Option Value)
    (h : s.filled run env key held default = .error e) :
    s.filled run env key held' default' = .error e := by
  cases s with
  | scalar slot kind => cases h
  | wrapper slot shape => cases h
  | enum slot table =>
    cases henv : env.text? key with
    | some symbol =>
      simp only [Statement.filled, henv] at h ⊢
      exact h
    | none =>
      simp only [Statement.filled, henv] at h
      cases h
  | enumList slot table =>
    cases henv : env.items? key with
    | some symbols =>
      simp only [Statement.filled, henv] at h ⊢
      exact h
    | none =>
      simp only [Statement.filled, henv] at h
      cases h
  | nested slot message =>
    simp only [Statement.filled] at h ⊢
    split at h
    · cases h
    · rename_i herror
      rw [hrun message (key ++ "_") _ (held'.getD (.empty message)) default default'] at herror
      simp only [herror]
      exact h
  | mergeMap slot => cases h

theorem exists_filled (hrun : run.Steady) {s : Statement} {key : String}
    {held default : Option Value} {v : Value} (held' default' : Option Value)
    (h : s.filled run env key held default = .ok v) :
    ∃ v', s.filled run env key held' default' = .ok v' := by
  cases h' : s.filled run env key held' default' with
  | ok v' => exact ⟨v', rfl⟩
  | error e =>
    rw [hrun.filled_eq_error held default h'] at h
    cases h

theorem error?_applyAll (hrun : run.Steady) (w w' : Value) (defaults defaults' : Option Value)
    (ss : List Statement) :
    (applyAll run env lead defaults w ss).error? =
      (applyAll run env lead defaults' w' ss).error? := by
  induction ss generalizing w w' with
  | nil => rfl
  | cons s ss ih =>
    unfold applyAll
    rw [s.apply_eq, s.apply_eq]
    cases hv : s.filled run env (lead ++ s.slot.fragment) (w.get? s.slot.name)
        (default? defaults s.slot.name) with
    | ok v =>
      obtain ⟨v', hv'⟩ := hrun.exists_filled (w'.get? s.slot.name)
        (default? defaults' s.slot.name) hv
      rw [hv']
      exact ih _ _
    | error e => rw [hrun.filled_eq_error _ _ hv]; rfl

end Run.Steady

namespace LoaderUnit

variable {set : SchemaSet} {t : Target} {u : LoaderUnit} {env : Environment}

theorem error?_populateWithin (u : LoaderUnit) (env : Environment) (depth : Nat) :
    Run.Steady (u.populateWithin env depth) := by
  induction depth with
  | zero => exact fun _ _ _ _ _ _ => rfl
  | succ depth ih =>
    intro message lead w w' defaults defaults'
    unfold populateWithin
    cases u.procedure? message with
    | none => rfl
    | some p => exact Run.Steady.error?_applyAll ih w w' defaults defaults' p.statements

end LoaderUnit

/-! ### statements in a row -/

/-- statements that change nothing one by one change nothing together -/
theorem applyAll_of_fixed {run : Run} {env : Environment} {lead : String} {defaults : Option Value}
    {w : Value} {ss : List Statement} (h : ∀ s ∈ ss, s.apply run env lead defaults w = .ok w) :
    applyAll run env lead defaults w ss = ⟨w, none⟩ := by
  induction ss with
  | nil => rfl
  | cons s ss ih =>
    unfold applyAll
    rw [h s List.mem_cons_self]
    exact ih fun s hs => h s (List.mem_cons_of_mem _ hs)

/-- statements for different fields leave a field alone or fill it from what it held; they leave it
alone only if they stop -/
theorem get?_applyAll {run : Run} {env : Environment} {lead : String} {defaults : Option Value}
    {w : Value} {ss : List Statement} (hw : w.IsMessage) (hnodup : (ss.map (·.slot.name)).Nodup)
    {s : Statement} (hs : s ∈ ss) :
    (∃ v, s.filled run env (lead ++ s.slot.fragment) (w.get? s.slot.name)
        (default? defaults s.slot.name) = .ok v ∧
      (applyAll run env lead defaults w ss).value.get? s.slot.name = some v) ∨
    (applyAll run env lead defaults w ss).error? ≠ none ∧
      (applyAll run env lead defaults w ss).value.get? s.slot.name = w.get? s.slot.name := by
  induction ss generalizing w with
  | nil => cases hs
  | cons first ss ih =>
    rw [List.map_cons, List.nodup_cons] at hnodup
    unfold applyAll
    cases hfirst : first.apply run env lead defaults w with
    | error e => exact .inr ⟨fun h => (by cases h), rfl⟩
    | ok w' =>
      obtain ⟨v, hv, rfl⟩ := Statement.filled_of_apply hfirst
      rcases List.mem_cons.mp hs with rfl | hs
      · refine .inl ⟨v, hv, ?_⟩
        show (applyAll run env lead defaults _ ss).value.get? s.slot.name = some v
        rw [get?_applyAll_of_not_mem hnodup.1]
        exact hw.get?_set _ v
      · have hne : s.slot.name ≠ first.slot.name := fun he =>
          hnodup.1 (he ▸ List.mem_map_of_mem (f := (·.slot.name)) hs)
        have := ih (hw.set first.slot.name v) hnodup.2 hs
        rwa [Value.get?_set_of_ne v w hne] at this

/-! ### runs -/

namespace LoaderUnit

variable {set : SchemaSet} {t : Target} {u : LoaderUnit} {env : Environment}

/-- Any run leaves at the end of a path what the last statement of the path puts there; or it has
stopped, and what was there is still there. -/
theorem at?_populateWithin (hu : emit set t = .ok u) {depth : Nat} {message lead : String}
    {w : Value} {defaults : Option Value} (hw : u.NestsMessages message w) {slots : List Slot}
    {s : Statement} (hs : u.Leads message slots s) :
    (∃ depth' v, s.filled (u.populateWithin env depth') env (variableOf lead slots s)
        (w.at? (pathTo slots s)) (defaults.bind (Value.at? (pathTo slots s))) = .ok v ∧
      (u.populateWithin env depth message w lead defaults).value.at? (pathTo slots s) = some v) ∨
    (u.populateWithin env depth message w lead defaults).error? ≠ none ∧
      (u.populateWithin env depth message w lead defaults).value.at? (pathTo slots s) =
        w.at? (pathTo slots s) := by
  -- along the path: what is filled inside a message shows only if the run inside it went on
  induction hs generalizing depth lead w defaults with
  | @here message p s hp hs =>
    cases depth with
    | zero => exact .inr ⟨fun h => (by cases h), rfl⟩
    | succ depth =>
      simp only [populateWithin, hp, variableOf_nil, Value.at?_pathTo_nil]
      rcases get?_applyAll hw.1 (names_nodup hu (mem_of_procedure? hp)) hs with
        ⟨v, hv, hafter⟩ | hstopped
      · exact .inl ⟨depth, v, hv, hafter⟩
      · exact .inr hstopped
  | @inside message inner p slot slots s hp hslot hs ih =>
    cases depth with
    | zero => exact .inr ⟨fun h => (by cases h), rfl⟩
    | succ depth =>
      simp only [populateWithin, hp, pathTo_cons, Value.at?_cons]
      rcases get?_applyAll hw.1 (names_nodup hu (mem_of_procedure? hp)) hslot with
        ⟨v, hv, hafter⟩ | ⟨hstopped, hafter⟩
      · have hrun : u.populateWithin env depth inner ((w.get? slot.name).getD (.empty inner))
            (lead ++ slot.fragment ++ "_") (default? defaults slot.name) = ⟨v, none⟩ :=
          Statement.of_filled_nested hv
        simp only [Statement.slot] at hafter
        refine .inl ?_
        rcases @ih depth (lead ++ slot.fragment ++ "_") _ (default? defaults slot.name)
          (hw.inner hp hslot) with ⟨depth', v', hv', hinner⟩ | ⟨hstopped, -⟩
        · rw [hrun] at hinner
          rw [at?_inner] at hv'
          refine ⟨depth', v', ?_, by rw [hafter]; exact hinner⟩
          rw [variableOf_cons]
          have hdefault : defaults.bind (fun d => (d.get? slot.name).bind
              (Value.at? (pathTo slots s))) =
                (default? defaults slot.name).bind (Value.at? (pathTo slots s)) :=
            (Option.bind_assoc ..).symm
          exact hdefault ▸ hv'
        · rw [hrun] at hstopped
          exact absurd rfl hstopped
      · simp only [Statement.slot] at hafter
        exact .inr ⟨hstopped, by rw [hafter]⟩

end LoaderUnit

end EnvConfig
