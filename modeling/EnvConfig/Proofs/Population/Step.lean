import EnvConfig.Loader.Population
import EnvConfig.Proofs.Settings

/-!
# One statement, and statements in a row

* `Statement.Leaves`: the value that a statement leaves in its field, from four sources: its
  variable, what the field held, the default, and zero;
* `Statement.apply_scalar`, `Statement.apply_wrapper`: these never fail, and set that value;
* `Statement.of_apply`, `Statement.of_apply_nested`: all that a statement can do.  It sets its own
  field and nothing else;
* `of_applyAll`: when statements for different fields have run, each has left in its field what it
  leaves when it runs alone.
-/

namespace EnvConfig

open Text

/-! ### maps -/

theorem Entries.get?_insertAbsent {α : Type} (k : String) (es news : Entries α) :
    (es.insertAbsent news).get? k = (es.get? k).or (news.get? k) := by
  induction news generalizing es with
  | nil =>
    show es.get? k = (es.get? k).or none
    rw [Option.or_none]
  | cons e news ih =>
    obtain ⟨j, v⟩ := e
    show (insertAbsent (if (es.get? j).isSome then es else es.insert j v) news).get? k = _
    rw [ih, get?_cons]
    by_cases hj : (es.get? j).isSome
    · rw [if_pos hj]
      split
      · rename_i hjk
        subst hjk
        obtain ⟨w, hw⟩ := Option.isSome_iff_exists.mp hj
        rw [hw, Option.some_or, Option.some_or]
      · rfl
    · rw [if_neg hj]
      split
      · rename_i hjk
        subst hjk
        rw [get?_insert_self, Option.not_isSome_iff_eq_none.mp hj]
        rfl
      · rename_i hjk
        rw [get?_insert_of_ne v es fun h => hjk h.symm]

theorem Entries.get?_insertAll {α : Type} (k : String) (es news : Entries α) :
    (es.insertAll news).get? k = ((ofList news).get? k).or (es.get? k) := by
  induction news generalizing es with
  | nil => rfl
  | cons e news ih =>
    have hlist : (ofList (e :: news)).get? k =
        ((ofList news).get? k).or ((insert e.1 e.2 []).get? k) := ih _
    show (insertAll (es.insert e.1 e.2) news).get? k = _
    rw [ih, hlist, Option.or_assoc]
    congr 1
    by_cases hk : k = e.1
    · rw [hk, get?_insert_self, get?_insert_self, Option.some_or]
    · rw [get?_insert_of_ne _ _ hk, get?_insert_of_ne _ _ hk, get?_nil, Option.none_or]

/-! ### values that are messages -/

/-- the value is a message -/
def Value.IsMessage (w : Value) : Prop := ∃ name fields, w = .message name fields

theorem Value.isMessage_empty (name : String) : (Value.empty name).IsMessage := ⟨name, [], rfl⟩

theorem Value.IsMessage.set {w : Value} (h : w.IsMessage) (field : String) (v : Value) :
    (w.set field v).IsMessage := by
  obtain ⟨name, fields, rfl⟩ := h
  exact ⟨name, _, rfl⟩

theorem Value.IsMessage.get?_set {w : Value} (h : w.IsMessage) (field : String) (v : Value) :
    (w.set field v).get? field = some v := by
  obtain ⟨name, fields, rfl⟩ := h
  exact get?_set_self name field fields v

/-! ### one statement -/

/-- a value, unless it is zero -/
def nonZero (v : Option Value) : Option Value := v.filter (!·.isZero)

/-- What a statement leaves in its field: `v`, when its variable is `key`, the field held `held`
and the default is `default`.  A nested statement leaves a message. -/
def Statement.Leaves (env : Environment) (key : String) (held default : Option Value) (v : Value) :
    Statement → Prop
  | scalar _ kind =>
    v = (((env.scalar? key kind.storage).or (nonZero held)).or (nonZero default)).getD
      (.zero kind.storage)
  | wrapper _ shape =>
    v = (((env.scalar? key shape.scalar.storage).or held).or default).getD
      (.zero shape.scalar.storage)
  | enum _ table =>
    match env.text? key with
    | some text => ∃ n, table.numberOf? (trim text) = some n ∧ v = .int32 n
    | none => v = ((nonZero held).or (nonZero default)).getD (.int32 0)
  | enumList _ table =>
    match env.text? key with
    | some text =>
      ∃ ns, List.Forall₂ (fun item n => table.numberOf? item = some n) (itemsOf text) ns ∧
        v = .list (ns.map .int32)
    | none => v = ((nonZero held).or (nonZero default)).getD (.list [])
  | mergeMap _ =>
    ∃ es, v = .map es ∧
      ∀ k, es.get? k = ((mapEntries held).get? k).or ((mapEntries default).get? k)
  | nested _ _ => v.IsMessage

/-- falling back sets the field, to what it held if that counts -/
theorem fallBack_eq_set (w : Value) (field : String) (defaults : Option Value) {zero : Value}
    (hzero : zero.isZero = true) :
    fallBack w field defaults zero = w.set field
      (((nonZero (w.get? field)).or (nonZero (default? defaults field))).getD zero) := by
  unfold fallBack nonZero
  cases hw : w.get? field with
  | none => simp [hzero]
  | some held =>
    by_cases hheld : held.isZero = true
    · simp [hheld, Option.filter_some]
    · simp only [Option.getD_some, hheld, Option.filter_some]
      exact (Value.set_of_get? hw).symm

namespace Statement

variable {run : Run} {env : Environment} {lead : String} {defaults : Option Value} {w w' : Value}

theorem apply_scalar (slot : Slot) (kind : ScalarKind) :
    (scalar slot kind).apply run env lead defaults w = .ok (w.set slot.name
      ((((env.scalar? (lead ++ slot.fragment) kind.storage).or (nonZero (w.get? slot.name))).or
        (nonZero (default? defaults slot.name))).getD (.zero kind.storage))) := by
  simp only [apply, Statement.slot]
  cases env.scalar? (lead ++ slot.fragment) kind.storage with
  | some v => rfl
  | none => exact congrArg Except.ok (fallBack_eq_set w slot.name defaults (Value.isZero_zero _))

theorem apply_wrapper (slot : Slot) (shape : WrapperShape) :
    (wrapper slot shape).apply run env lead defaults w = .ok (w.set slot.name
      ((((env.scalar? (lead ++ slot.fragment) shape.scalar.storage).or (w.get? slot.name)).or
        (default? defaults slot.name)).getD (.zero shape.scalar.storage))) := by
  simp only [apply, Statement.slot]
  cases env.scalar? (lead ++ slot.fragment) shape.scalar.storage with
  | some v => rfl
  | none =>
    cases hheld : w.get? slot.name with
    | some v => exact congrArg Except.ok (Value.set_of_get? hheld).symm
    | none => rfl

/-- an enum with no variable falls back as a scalar does -/
theorem apply_enum_of_unset {slot : Slot} {table : SymbolTable}
    (h : env.text? (lead ++ slot.fragment) = none) :
    (enum slot table).apply run env lead defaults w = .ok (w.set slot.name
      (((nonZero (w.get? slot.name)).or (nonZero (default? defaults slot.name))).getD
        (.int32 0))) := by
  simp only [apply, Statement.slot, h]
  exact congrArg Except.ok (fallBack_eq_set w slot.name defaults rfl)

theorem apply_enumList_of_unset {slot : Slot} {table : SymbolTable}
    (h : env.items? (lead ++ slot.fragment) = none) :
    (enumList slot table).apply run env lead defaults w = .ok (w.set slot.name
      (((nonZero (w.get? slot.name)).or (nonZero (default? defaults slot.name))).getD
        (.list []))) := by
  simp only [apply, Statement.slot, h]
  exact congrArg Except.ok (fallBack_eq_set w slot.name defaults rfl)

theorem apply_nested_of_ok {slot : Slot} {message : String}
    (h : (run message ((w.get? slot.name).getD (.empty message)) (lead ++ slot.fragment ++ "_")
      (default? defaults slot.name)).error? = none) :
    (nested slot message).apply run env lead defaults w = .ok (w.set slot.name
      (run message ((w.get? slot.name).getD (.empty message)) (lead ++ slot.fragment ++ "_")
        (default? defaults slot.name)).value) := by
  simp only [apply, Statement.slot, h]

theorem of_apply_nested {slot : Slot} {message : String}
    (h : (nested slot message).apply run env lead defaults w = .ok w') :
    (run message ((w.get? slot.name).getD (.empty message)) (lead ++ slot.fragment ++ "_")
        (default? defaults slot.name)).error? = none ∧
      w' = w.set slot.name (run message ((w.get? slot.name).getD (.empty message))
        (lead ++ slot.fragment ++ "_") (default? defaults slot.name)).value := by
  simp only [apply, Statement.slot] at h
  split at h
  · rename_i herror
    cases h
    exact ⟨herror, rfl⟩
  · cases h

theorem of_apply {s : Statement} (hs : ∀ slot message, s ≠ .nested slot message)
    (h : s.apply run env lead defaults w = .ok w') :
    ∃ v, w' = w.set s.slot.name v ∧ s.Leaves env (lead ++ s.slot.fragment) (w.get? s.slot.name)
      (default? defaults s.slot.name) v := by
  cases s with
  | nested slot message => exact absurd rfl (hs slot message)
  | scalar slot kind =>
    rw [apply_scalar] at h
    cases h
    exact ⟨_, rfl, rfl⟩
  | wrapper slot shape =>
    rw [apply_wrapper] at h
    cases h
    exact ⟨_, rfl, rfl⟩
  | enum slot table =>
    cases henv : env.text? (lead ++ slot.fragment) with
    | some text =>
      simp only [apply, Statement.slot, Leaves, henv] at h ⊢
      split at h
      · rename_i n hn
        cases h
        exact ⟨_, rfl, n, resolveSymbol_eq_ok.mp hn, rfl⟩
      · cases h
    | none =>
      rw [apply_enum_of_unset henv] at h
      cases h
      simp only [Statement.slot, Leaves, henv]
      exact ⟨_, rfl, rfl⟩
  | enumList slot table =>
    cases henv : env.text? (lead ++ slot.fragment) with
    | some text =>
      simp only [apply, Statement.slot, Leaves, Environment.items?, henv, Option.map_some] at h ⊢
      split at h
      · rename_i ns hns
        cases h
        have hitems := resolveSymbols_eq_ok.mp hns
        refine ⟨_, rfl, ns, ?_, rfl⟩
        rw [List.forall₂_iff_zip] at hitems ⊢
        refine ⟨hitems.1, fun {item n} hmem => ?_⟩
        rw [← trim_of_mem_itemsOf (List.of_mem_zip hmem).1]
        exact hitems.2 hmem
      · cases h
    | none =>
      rw [apply_enumList_of_unset (by rw [Environment.items?, henv, Option.map_none])] at h
      cases h
      simp only [Statement.slot, Leaves, henv]
      exact ⟨_, rfl, rfl⟩
  | mergeMap slot =>
    cases h
    exact ⟨_, rfl, _, rfl, fun k => Entries.get?_insertAbsent k _ _⟩

/-- a statement sets its field -/
theorem exists_eq_set {s : Statement} (h : s.apply run env lead defaults w = .ok w') :
    ∃ v, w' = w.set s.slot.name v := by
  by_cases hs : ∃ slot message, s = .nested slot message
  · obtain ⟨slot, message, rfl⟩ := hs
    exact ⟨_, (of_apply_nested h).2⟩
  · push Not at hs
    obtain ⟨v, hv, -⟩ := of_apply hs h
    exact ⟨v, hv⟩

end Statement

/-! ### statements in a row -/

section

variable {run : Run} {env : Environment} {lead : String} {defaults : Option Value} {w : Value}
  {ss : List Statement}

/-- fields without a statement keep what they hold, also when the run stops -/
theorem get?_applyAll_of_not_mem {field : String} (h : field ∉ ss.map (·.slot.name)) :
    (applyAll run env lead defaults w ss).value.get? field = w.get? field := by
  induction ss generalizing w with
  | nil => rfl
  | cons s ss ih =>
    rw [List.map_cons, List.mem_cons, not_or] at h
    unfold applyAll
    split
    · rename_i w' hw'
      obtain ⟨v, rfl⟩ := Statement.exists_eq_set hw'
      rw [ih h.2, Value.get?_set_of_ne v w h.1]
    · rfl

theorem isMessage_applyAll (h : w.IsMessage) :
    (applyAll run env lead defaults w ss).value.IsMessage := by
  induction ss generalizing w with
  | nil => exact h
  | cons s ss ih =>
    unfold applyAll
    split
    · rename_i w' hw'
      obtain ⟨v, rfl⟩ := Statement.exists_eq_set hw'
      exact ih (h.set _ v)
    · exact h

/-- a statement runs on a value that holds in its field what the first value holds there, and what
it leaves there stays -/
theorem of_applyAll (hnodup : (ss.map (·.slot.name)).Nodup)
    (h : (applyAll run env lead defaults w ss).error? = none) {s : Statement} (hs : s ∈ ss) :
    ∃ before after, s.apply run env lead defaults before = .ok after ∧
      before.get? s.slot.name = w.get? s.slot.name ∧ (w.IsMessage → before.IsMessage) ∧
      (applyAll run env lead defaults w ss).value.get? s.slot.name = after.get? s.slot.name := by
  induction ss generalizing w with
  | nil => cases hs
  | cons first ss ih =>
    rw [List.map_cons, List.nodup_cons] at hnodup
    unfold applyAll at h ⊢
    split at h
    · rename_i w' hw'
      rcases List.mem_cons.mp hs with rfl | hs
      · exact ⟨w, w', hw', rfl, id, get?_applyAll_of_not_mem hnodup.1⟩
      · obtain ⟨before, after, happly, hheld, hmessage, hafter⟩ := ih hnodup.2 h hs
        obtain ⟨v, rfl⟩ := Statement.exists_eq_set hw'
        have hne : s.slot.name ≠ first.slot.name := fun he =>
          hnodup.1 (he ▸ List.mem_map_of_mem (f := (·.slot.name)) hs)
        refine ⟨before, after, happly, ?_, fun hw => hmessage (hw.set _ v), hafter⟩
        rw [hheld, Value.get?_set_of_ne v w hne]
    · cases h

end

end EnvConfig
