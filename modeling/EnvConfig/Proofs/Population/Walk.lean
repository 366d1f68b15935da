import EnvConfig.Proofs.Population.Filling

/-!
# The walk of a run

A run walks through the statements of a procedure in their order, and at a nested statement through
those of the procedure that it names, with a longer lead.  What the walk meets settles whether the
run stops and why: at the first statement whose variable has an unknown symbol, or the first nested
statement whose procedure does not exist.  Values, defaults and all other variables have no part in
it.

* `Statement.Refuses`: a text that stops a statement for an enum or a list of enums;
* `LoaderUnit.Passes`, `LoaderUnit.Meets`: the walk gets through statements, and comes to one;
* `LoaderUnit.Stops`: a statement that the walk does not get past;
* `LoaderUnit.error?_eq_none_iff`, `LoaderUnit.error?_eq_some_iff`: when a run stops, and why.
-/

namespace EnvConfig

open Text

/-! ### unknown symbols -/

def SymbolTable.Has (t : SymbolTable) (name : String) : Prop := ∃ s ∈ t.symbols, s.name = name

/-- The text of the variable `key` stops the statement with `symbol`: a text that is no symbol of
the enum when trimmed, or the first item of a list that is none. -/
def Statement.Refuses (env : Environment) (key symbol : String) : Statement → Prop
  | enum _ table => env.text? key = some symbol ∧ ¬ table.Has (trim symbol)
  | enumList _ table => ∃ text front back, env.text? key = some text ∧
      itemsOf text = front ++ symbol :: back ∧ (∀ item ∈ front, table.Has item) ∧
      ¬ table.Has symbol
  | _ => False

theorem SymbolTable.numberOf?_eq_none_iff {t : SymbolTable} {name : String} :
    t.numberOf? name = none ↔ ¬ t.Has name := by
  unfold numberOf? EnvConfig.numberOf? Has
  rw [Option.map_eq_none_iff, List.find?_eq_none]
  simp

namespace Statement

variable {run : Run} {env : Environment} {key : String} {held default : Option Value}

theorem nested_or (s : Statement) :
    (∃ slot inner, s = .nested slot inner) ∨ ∀ slot inner, s ≠ .nested slot inner := by
  cases s with
  | nested slot inner => exact .inl ⟨slot, inner, rfl⟩
  | scalar | wrapper | mergeMap | enum | enumList => exact .inr fun _ _ => nofun

/-- a list is refused with an item, which is trimmed -/
theorem resolveItems_eq_error {table : SymbolTable} {text : String} {e : UnknownSymbol} :
    resolveSymbols key table.numberOf? (itemsOf text) = .error e ↔
      ∃ front symbol back, itemsOf text = front ++ symbol :: back ∧
        (∀ item ∈ front, table.Has item) ∧ ¬ table.Has symbol ∧ e = ⟨key, symbol⟩ := by
  rw [resolveSymbols_eq_error]
  refine exists_congr fun front => exists_congr fun symbol => exists_congr fun back =>
    and_congr_right fun hitems => ?_
  have htrim : ∀ item ∈ front ++ symbol :: back, trim item = item := fun item hitem =>
    trim_of_mem_itemsOf (hitems ▸ hitem)
  have hsymbol : trim symbol = symbol :=
    htrim symbol (List.mem_append_right _ List.mem_cons_self)
  rw [hsymbol, SymbolTable.numberOf?_eq_none_iff]
  refine and_congr_left fun _ => forall_congr' fun item => imp_congr_right fun hitem => ?_
  rw [htrim item (List.mem_append_left _ hitem), ne_eq, SymbolTable.numberOf?_eq_none_iff, not_not]

/-- only an unknown symbol stops a statement that is not nested -/
theorem filled_eq_error_iff {s : Statement} (hs : ∀ slot inner, s ≠ .nested slot inner)
    {e : PopulationError} :
    s.filled run env key held default = .error e ↔
      ∃ symbol, s.Refuses env key symbol ∧ e = .unknownSymbol ⟨key, symbol⟩ := by
  cases s with
  | nested slot inner => exact absurd rfl (hs slot inner)
  | scalar slot kind => simp [filled, Refuses]
  | wrapper slot shape => simp [filled, Refuses]
  | mergeMap slot => simp [filled, Refuses]
  | enum slot table =>
    cases henv : env.text? key with
    | none => simp [filled, Refuses, henv]
    | some text =>
      simp only [filled, Refuses, henv]
      cases hsymbol : resolveSymbol key table.numberOf? text with
      | ok n =>
        have hn := resolveSymbol_eq_ok.mp hsymbol
        have hhas : table.Has (trim text) := by
          by_contra hnone
          rw [SymbolTable.numberOf?_eq_none_iff.mpr hnone] at hn
          cases hn
        refine ⟨fun h => (by cases h), ?_⟩
        rintro ⟨symbol, ⟨htext, hnot⟩, -⟩
        cases htext
        exact absurd hhas hnot
      | error e' =>
        obtain ⟨hnone, rfl⟩ := resolveSymbol_eq_error.mp hsymbol
        constructor
        · intro h
          cases h
          exact ⟨text, ⟨rfl, SymbolTable.numberOf?_eq_none_iff.mp hnone⟩, rfl⟩
        · rintro ⟨symbol, ⟨htext, -⟩, rfl⟩
          cases htext
          rfl
  | enumList slot table =>
    cases henv : env.text? key with
    | none => simp [filled, Refuses, Environment.items?, henv]
    | some text =>
      simp only [filled, Refuses, Environment.items?, henv, Option.map_some]
      cases hsymbols : resolveSymbols key table.numberOf? (itemsOf text) with
      | ok ns =>
        refine ⟨fun h => (by cases h), ?_⟩
        rintro ⟨symbol, ⟨_, front, back, htext, hitems, hfront, hnot⟩, -⟩
        cases htext
        rw [resolveItems_eq_error.mpr ⟨front, symbol, back, hitems, hfront, hnot, rfl⟩] at hsymbols
        cases hsymbols
      | error e' =>
        constructor
        · intro h
          cases h
          obtain ⟨front, symbol, back, hitems, hfront, hnot, rfl⟩ :=
            resolveItems_eq_error.mp hsymbols
          exact ⟨symbol, ⟨text, front, back, rfl, hitems, hfront, hnot⟩, rfl⟩
        · rintro ⟨symbol, ⟨_, front, back, htext, hitems, hfront, hnot⟩, rfl⟩
          cases htext
          rw [resolveItems_eq_error.mpr ⟨front, symbol, back, hitems, hfront, hnot, rfl⟩]
            at hsymbols
          cases hsymbols
          rfl

end Statement

/-! ### statements in a row -/

section

variable {run : Run} {env : Environment} {lead : String} {defaults : Option Value} {w : Value}

theorem applyAll_cons_of_ok {s : Statement} {ss : List Statement} {v : Value}
    (h : s.filled run env (lead ++ s.slot.fragment) (w.get? s.slot.name)
      (default? defaults s.slot.name) = .ok v) :
    applyAll run env lead defaults w (s :: ss) =
      applyAll run env lead defaults (w.set s.slot.name v) ss := by
  rw [applyAll, Statement.apply_of_filled h]

theorem applyAll_cons_of_error {s : Statement} {ss : List Statement} {e : PopulationError}
    (h : s.filled run env (lead ++ s.slot.fragment) (w.get? s.slot.name)
      (default? defaults s.slot.name) = .error e) :
    applyAll run env lead defaults w (s :: ss) = ⟨w, some e⟩ := by
  rw [applyAll, Statement.apply_eq, h]
  rfl

theorem applyAll_append {before after : List Statement}
    (h : (applyAll run env lead defaults w before).error? = none) :
    applyAll run env lead defaults w (before ++ after) =
      applyAll run env lead defaults (applyAll run env lead defaults w before).value after := by
  induction before generalizing w with
  | nil => rfl
  | cons s before ih =>
    rw [List.cons_append]
    cases hs : s.filled run env (lead ++ s.slot.fragment) (w.get? s.slot.name)
        (default? defaults s.slot.name) with
    | ok v =>
      rw [applyAll_cons_of_ok hs] at h ⊢
      rw [applyAll_cons_of_ok hs, ih h]
    | error e =>
      rw [applyAll_cons_of_error hs] at h
      cases h

theorem applyAll_append_of_error {before after : List Statement}
    (h : (applyAll run env lead defaults w before).error? ≠ none) :
    applyAll run env lead defaults w (before ++ after) =
      applyAll run env lead defaults w before := by
  induction before generalizing w with
  | nil => exact absurd rfl h
  | cons s before ih =>
    rw [List.cons_append]
    cases hs : s.filled run env (lead ++ s.slot.fragment) (w.get? s.slot.name)
        (default? defaults s.slot.name) with
    | ok v =>
      rw [applyAll_cons_of_ok hs] at h ⊢
      rw [applyAll_cons_of_ok hs, ih h]
    | error e => rw [applyAll_cons_of_error hs, applyAll_cons_of_error hs]

/-- a run that stops has gone through the statements before the one that stops it -/
theorem exists_stopped {ss : List Statement} {e : PopulationError}
    (h : (applyAll run env lead defaults w ss).error? = some e) :
    ∃ before s after v, ss = before ++ s :: after ∧
      applyAll run env lead defaults w before = ⟨v, none⟩ ∧
      s.filled run env (lead ++ s.slot.fragment) (v.get? s.slot.name)
        (default? defaults s.slot.name) = .error e ∧
      (applyAll run env lead defaults w ss).value = v := by
  induction ss generalizing w with
  | nil => cases h
  | cons s ss ih =>
    cases hs : s.filled run env (lead ++ s.slot.fragment) (w.get? s.slot.name)
        (default? defaults s.slot.name) with
    | ok v =>
      rw [applyAll_cons_of_ok hs] at h
      obtain ⟨before, stopped, after, v', rfl, hbefore, hstopped, hvalue⟩ := ih h
      refine ⟨s :: before, stopped, after, v', rfl, ?_, hstopped, ?_⟩
      · rw [applyAll_cons_of_ok hs, hbefore]
      · rw [applyAll_cons_of_ok hs, hvalue]
    | error e' =>
      rw [applyAll_cons_of_error hs] at h
      cases h
      exact ⟨[], s, ss, w, rfl, rfl, hs, by rw [applyAll_cons_of_error hs]⟩

end

/-! ### the walk -/

namespace LoaderUnit

/-- The walk with this lead gets through the statements: no variable on the way has an unknown
symbol, and every nested statement names a procedure that the walk gets through. -/
inductive Passes (u : LoaderUnit) (env : Environment) : String → List Statement → Prop
  | nil {lead : String} : Passes u env lead []
  | leaf {lead : String} {s : Statement} {ss : List Statement}
      (hs : ∀ slot inner, s ≠ .nested slot inner)
      (hsymbol : ∀ symbol, ¬ s.Refuses env (lead ++ s.slot.fragment) symbol)
      (h : Passes u env lead ss) : Passes u env lead (s :: ss)
  | nested {lead inner : String} {slot : Slot} {p : Procedure} {ss : List Statement}
      (hp : u.procedure? inner = some p)
      (hinner : Passes u env (lead ++ slot.fragment ++ "_") p.statements)
      (h : Passes u env lead ss) : Passes u env lead (.nested slot inner :: ss)

/-- The walk comes to the statement `s`, whose variable is `key`, after it has got through all that
is in front of it. -/
inductive Meets (u : LoaderUnit) (env : Environment) (key : String) (s : Statement) :
    String → List Statement → Prop
  | here {lead : String} {before after : List Statement} (hbefore : Passes u env lead before)
      (hkey : key = lead ++ s.slot.fragment) : Meets u env key s lead (before ++ s :: after)
  | inside {lead inner : String} {slot : Slot} {p : Procedure} {before after : List Statement}
      (hbefore : Passes u env lead before) (hp : u.procedure? inner = some p)
      (h : Meets u env key s (lead ++ slot.fragment ++ "_") p.statements) :
      Meets u env key s lead (before ++ .nested slot inner :: after)

/-- The walk does not get past the statement, whose variable is `key`. -/
inductive Stops (u : LoaderUnit) (env : Environment) (key : String) :
    Statement → PopulationError → Prop
  | refused {s : Statement} {symbol : String} (h : s.Refuses env key symbol) :
      Stops u env key s (.unknownSymbol ⟨key, symbol⟩)
  | missing {slot : Slot} {inner : String} (h : u.procedure? inner = none) :
      Stops u env key (.nested slot inner) (.noProcedure inner)

variable {u : LoaderUnit} {env : Environment} {lead : String} {ss : List Statement}

/-! ### nested statements -/

section

variable {slot : Slot} {inner key : String} {held default : Option Value}

theorem filled_nested_zero :
    (Statement.nested slot inner).filled (u.populateWithin env 0) env key held default =
      .error .endless := rfl

theorem filled_nested_of_none (hp : u.procedure? inner = none) (depth : Nat) :
    (Statement.nested slot inner).filled (u.populateWithin env (depth + 1)) env key held default =
      .error (.noProcedure inner) := by
  simp only [Statement.filled, populateWithin, hp]

theorem filled_nested_eq_ok_iff {p : Procedure} (hp : u.procedure? inner = some p) {depth : Nat}
    {v : Value} :
    (Statement.nested slot inner).filled (u.populateWithin env (depth + 1)) env key held default =
      .ok v ↔ applyAll (u.populateWithin env depth) env (key ++ "_") default
        (held.getD (.empty inner)) p.statements = ⟨v, none⟩ := by
  simp only [Statement.filled, populateWithin, hp]
  rcases applyAll (u.populateWithin env depth) env (key ++ "_") default
    (held.getD (.empty inner)) p.statements with ⟨v', _ | e⟩ <;> simp

theorem filled_nested_eq_error_iff {p : Procedure} (hp : u.procedure? inner = some p) {depth : Nat}
    {e : PopulationError} :
    (Statement.nested slot inner).filled (u.populateWithin env (depth + 1)) env key held default =
      .error e ↔ (applyAll (u.populateWithin env depth) env (key ++ "_") default
        (held.getD (.empty inner)) p.statements).error? = some e := by
  simp only [Statement.filled, populateWithin, hp]
  rcases applyAll (u.populateWithin env depth) env (key ++ "_") default
    (held.getD (.empty inner)) p.statements with ⟨v', _ | e'⟩ <;> simp

/-- what stops the procedure of a nested statement stops the statements in its row -/
theorem error?_applyAll_nested {p : Procedure} (hp : u.procedure? inner = some p) {depth : Nat}
    {w : Value} {defaults : Option Value} {e : PopulationError} (ss : List Statement)
    (h : (applyAll (u.populateWithin env depth) env (lead ++ slot.fragment ++ "_")
      (default? defaults slot.name) ((w.get? slot.name).getD (.empty inner)) p.statements).error? =
        some e) :
    (applyAll (u.populateWithin env (depth + 1)) env lead defaults w
      (.nested slot inner :: ss)).error? = some e := by
  have hfilled : (Statement.nested slot inner).filled (u.populateWithin env (depth + 1)) env
      (lead ++ slot.fragment) (w.get? slot.name) (default? defaults slot.name) = .error e :=
    (filled_nested_eq_error_iff hp).mpr h
  rw [applyAll_cons_of_error hfilled]

end

/-! ### what the walk says of a run -/

/-- A run goes through statements that the walk gets through, unless it has too few levels. -/
theorem Passes.error? (h : u.Passes env lead ss) (depth : Nat) (w : Value)
    (defaults : Option Value) :
    (applyAll (u.populateWithin env depth) env lead defaults w ss).error? = none ∨
      (applyAll (u.populateWithin env depth) env lead defaults w ss).error? = some .endless := by
  induction h generalizing depth w defaults with
  | nil => exact .inl rfl
  | @leaf lead s ss hs hsymbol h ih =>
    cases hfilled : s.filled (u.populateWithin env depth) env (lead ++ s.slot.fragment)
        (w.get? s.slot.name) (default? defaults s.slot.name) with
    | ok v =>
      rw [applyAll_cons_of_ok hfilled]
      exact ih depth _ defaults
    | error e =>
      obtain ⟨symbol, hrefuses, -⟩ := (Statement.filled_eq_error_iff hs).mp hfilled
      exact absurd hrefuses (hsymbol symbol)
  | @nested lead inner slot p ss hp hinner h ihinner ih =>
    cases depth with
    | zero => exact .inr (by rw [applyAll_cons_of_error filled_nested_zero])
    | succ depth =>
      cases hfilled : (Statement.nested slot inner).filled (u.populateWithin env (depth + 1)) env
          (lead ++ slot.fragment) (w.get? slot.name) (default? defaults slot.name) with
      | ok v =>
        rw [applyAll_cons_of_ok hfilled]
        exact ih (depth + 1) _ defaults
      | error e =>
        have hrun := (filled_nested_eq_error_iff hp).mp hfilled
        rcases ihinner depth _ _ with hnone | hendless
        · rw [hnone] at hrun
          cases hrun
        · rw [hendless] at hrun
          cases hrun
          exact .inr (by rw [applyAll_cons_of_error hfilled])

/-- what holds of the nested statements that are filled decides whether the walk gets through -/
theorem passes_of_nested {depth : Nat} (hnested : ∀ slot inner key held default v,
      (Statement.nested slot inner).filled (u.populateWithin env depth) env key held default =
        .ok v →
      ∃ p, u.procedure? inner = some p ∧ u.Passes env (key ++ "_") p.statements)
    {w : Value} {defaults : Option Value}
    (h : (applyAll (u.populateWithin env depth) env lead defaults w ss).error? = none) :
    u.Passes env lead ss := by
  induction ss generalizing w with
  | nil => exact .nil
  | cons s ss ih =>
    cases hfilled : s.filled (u.populateWithin env depth) env (lead ++ s.slot.fragment)
        (w.get? s.slot.name) (default? defaults s.slot.name) with
    | error e =>
      rw [applyAll_cons_of_error hfilled] at h
      cases h
    | ok v =>
      rw [applyAll_cons_of_ok hfilled] at h
      have hrest := ih h
      rcases s.nested_or with ⟨slot, inner, rfl⟩ | hs
      · obtain ⟨p, hp, hinner⟩ := hnested _ _ _ _ _ _ hfilled
        exact .nested hp hinner hrest
      · refine .leaf hs (fun symbol hrefuses => ?_) hrest
        rw [(Statement.filled_eq_error_iff hs).mpr ⟨symbol, hrefuses, rfl⟩] at hfilled
        cases hfilled

/-- The walk gets through all statements of a run that does not stop. -/
theorem passes_of_error? {depth : Nat} {w : Value} {defaults : Option Value}
    (h : (applyAll (u.populateWithin env depth) env lead defaults w ss).error? = none) :
    u.Passes env lead ss := by
  induction depth generalizing lead ss w defaults with
  | zero =>
    refine passes_of_nested (fun slot inner key held default v hfilled => ?_) h
    rw [filled_nested_zero] at hfilled
    cases hfilled
  | succ depth ih =>
    refine passes_of_nested (fun slot inner key held default v hfilled => ?_) h
    cases hp : u.procedure? inner with
    | none =>
      rw [filled_nested_of_none hp] at hfilled
      cases hfilled
    | some p =>
      have hrun := (filled_nested_eq_ok_iff hp).mp hfilled
      exact ⟨p, rfl, ih (congrArg Population.error? hrun)⟩

/-- what stops the nested statements that stop a run decides where the walk stops -/
theorem meets_of_nested {depth : Nat} {e : PopulationError}
    (hnested : ∀ slot inner key held default,
      (Statement.nested slot inner).filled (u.populateWithin env depth) env key held default =
        .error e →
      u.Stops env key (.nested slot inner) e ∨ ∃ p, u.procedure? inner = some p ∧
        ∃ key' s, u.Meets env key' s (key ++ "_") p.statements ∧ u.Stops env key' s e)
    {w : Value} {defaults : Option Value}
    (h : (applyAll (u.populateWithin env depth) env lead defaults w ss).error? = some e) :
    ∃ key s, u.Meets env key s lead ss ∧ u.Stops env key s e := by
  obtain ⟨before, s, after, v, rfl, hbefore, hstopped, -⟩ := exists_stopped h
  have hpasses : u.Passes env lead before := passes_of_error? (by rw [hbefore])
  rcases s.nested_or with ⟨slot, inner, rfl⟩ | hs
  · rcases hnested _ _ _ _ _ hstopped with hstops | ⟨p, hp, key, s, hmeets, hstops⟩
    · exact ⟨_, _, .here hpasses rfl, hstops⟩
    · exact ⟨key, s, .inside hpasses hp hmeets, hstops⟩
  · obtain ⟨symbol, hrefuses, rfl⟩ := (Statement.filled_eq_error_iff hs).mp hstopped
    exact ⟨_, s, .here hpasses rfl, .refused hrefuses⟩

/-- A run that stops, but not for want of levels, stops where the walk does. -/
theorem meets_of_error? {depth : Nat} {w : Value} {defaults : Option Value}
    {e : PopulationError} (he : e ≠ .endless)
    (h : (applyAll (u.populateWithin env depth) env lead defaults w ss).error? = some e) :
    ∃ key s, u.Meets env key s lead ss ∧ u.Stops env key s e := by
  induction depth generalizing lead ss w defaults with
  | zero =>
    refine meets_of_nested (fun slot inner key held default hfilled => ?_) h
    rw [filled_nested_zero] at hfilled
    cases hfilled
    exact absurd rfl he
  | succ depth ih =>
    refine meets_of_nested (fun slot inner key held default hfilled => ?_) h
    cases hp : u.procedure? inner with
    | none =>
      rw [filled_nested_of_none hp] at hfilled
      cases hfilled
      exact .inl (.missing hp)
    | some p => exact .inr ⟨p, rfl, ih ((filled_nested_eq_error_iff hp).mp hfilled)⟩

theorem Stops.filled {key : String} {s : Statement} {e : PopulationError}
    (h : u.Stops env key s e) (depth : Nat) (held default : Option Value) :
    s.filled (u.populateWithin env depth) env key held default = .error e ∨
      s.filled (u.populateWithin env depth) env key held default = .error .endless := by
  cases h with
  | @refused s symbol h =>
    left
    refine (Statement.filled_eq_error_iff ?_).mpr ⟨symbol, h, rfl⟩
    rintro slot inner rfl
    exact h
  | missing h =>
    cases depth with
    | zero => exact .inr filled_nested_zero
    | succ depth => exact .inl (filled_nested_of_none h depth)

/-- Where the walk stops a run stops, unless it has too few levels. -/
theorem Meets.error? {key : String} {s : Statement} (h : u.Meets env key s lead ss)
    {e : PopulationError} (hs : u.Stops env key s e) (depth : Nat) (w : Value)
    (defaults : Option Value) :
    (applyAll (u.populateWithin env depth) env lead defaults w ss).error? = some e ∨
      (applyAll (u.populateWithin env depth) env lead defaults w ss).error? = some .endless := by
  induction h generalizing depth w defaults with
  | @here lead before after hbefore hkey =>
    rcases hbefore.error? depth w defaults with hnone | hendless
    · rw [applyAll_append hnone]
      subst hkey
      rcases hs.filled depth _ _ with hfilled | hfilled
      · exact .inl (by rw [applyAll_cons_of_error hfilled])
      · exact .inr (by rw [applyAll_cons_of_error hfilled])
    · rw [applyAll_append_of_error (by rw [hendless]; exact Option.some_ne_none _)]
      exact .inr hendless
  | @inside lead inner slot p before after hbefore hp h ih =>
    rcases hbefore.error? depth w defaults with hnone | hendless
    · rw [applyAll_append hnone]
      cases depth with
      | zero => exact .inr (by rw [applyAll_cons_of_error filled_nested_zero])
      | succ depth =>
        exact (ih depth _ _).imp (error?_applyAll_nested hp after) (error?_applyAll_nested hp after)
    · rw [applyAll_append_of_error (by rw [hendless]; exact Option.some_ne_none _)]
      exact .inr hendless

section

variable {depth : Nat} {w : Value} {defaults : Option Value}

/-- A run that has enough levels goes to its end exactly if the walk does. -/
theorem error?_eq_none_iff
    (hend : (applyAll (u.populateWithin env depth) env lead defaults w ss).error? ≠
      some .endless) :
    (applyAll (u.populateWithin env depth) env lead defaults w ss).error? = none ↔
      u.Passes env lead ss :=
  ⟨passes_of_error?, fun h => (h.error? depth w defaults).resolve_right hend⟩

/-- A run that has enough levels stops exactly where the walk does, and for the same reason. -/
theorem error?_eq_some_iff
    (hend : (applyAll (u.populateWithin env depth) env lead defaults w ss).error? ≠
      some .endless) {e : PopulationError} :
    (applyAll (u.populateWithin env depth) env lead defaults w ss).error? = some e ↔
      ∃ key s, u.Meets env key s lead ss ∧ u.Stops env key s e := by
  constructor
  · intro h
    refine meets_of_error? ?_ h
    rintro rfl
    exact hend h
  · rintro ⟨key, s, hmeets, hstops⟩
    exact (hmeets.error? hstops depth w defaults).resolve_right hend

end

end LoaderUnit

end EnvConfig
