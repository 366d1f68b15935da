import EnvConfig.Proofs.Population.Filling

/-!
# Populating twice

A field that a run has filled is filled with the same value by a second run.  This is so with the
same defaults, and with what the first run left as the defaults: what counts as loaded differs from
statement to statement, but each statement takes what it has put there itself for loaded, or for a
zero that it puts there again.

* `Run.Settles`: a second run changes nothing;
* `Statement.filled_again`: one statement;
* `LoaderUnit.populate_again`: a whole run.
-/

namespace EnvConfig

open Number

/-- a run that goes to its end changes nothing when it is made again, with the same defaults or with
what it left as the defaults -/
structure Run.Settles (run : Run) : Prop where
  again : ∀ {message lead : String} {w v : Value} {defaults defaults' : Option Value},
    run message w lead defaults = ⟨v, none⟩ → defaults' = defaults ∨ defaults' = some v →
      run message v lead defaults' = ⟨v, none⟩

/-! ### what a field falls back to -/

theorem nonZero_eq_some {o : Option Value} {v : Value} :
    nonZero o = some v ↔ o = some v ∧ v.isZero = false := by
  simp [nonZero, Option.filter_eq_some_iff]

theorem nonZero_of_isZero {v : Value} (h : v.isZero = true) : nonZero (some v) = none := by
  simp [nonZero, Option.filter_some, h]

/-- what a field has fallen back to it falls back to again -/
theorem fallBack_again {held default default' : Option Value} {zero v : Value}
    (hv : ((nonZero held).or (nonZero default)).getD zero = v)
    (hd : default' = default ∨ default' = some v) :
    ((nonZero (some v)).or (nonZero default')).getD zero = v := by
  by_cases hzero : v.isZero = true
  · -- a zero stands there only because neither of the two counted
    have hnone : (nonZero held).or (nonZero default) = none := by
      cases hor : (nonZero held).or (nonZero default) with
      | none => rfl
      | some x =>
        rw [hor, Option.getD_some] at hv
        subst hv
        have hx : x.isZero = false := by
          rcases Option.or_eq_some_iff.mp hor with h | ⟨-, h⟩ <;> exact (nonZero_eq_some.mp h).2
        rw [hx] at hzero
        cases hzero
    rw [hnone, Option.getD_none] at hv
    subst hv
    have hdefault : nonZero default' = none := by
      rcases hd with rfl | rfl
      · exact (Option.or_eq_none_iff.mp hnone).2
      · exact nonZero_of_isZero hzero
    rw [nonZero_of_isZero hzero, hdefault]
    rfl
  · rw [nonZero_eq_some.mpr ⟨rfl, by simpa using hzero⟩]
    rfl

/-! ### maps -/

theorem Entries.insertAbsent_of_isSome {α : Type} {es news : Entries α}
    (h : ∀ e ∈ news, (es.get? e.1).isSome) : es.insertAbsent news = es := by
  induction news with
  | nil => rfl
  | cons e news ih =>
    show insertAbsent (if (es.get? e.1).isSome then es else es.insert e.1 e.2) news = es
    rw [if_pos (h e List.mem_cons_self)]
    exact ih fun e he => h e (List.mem_cons_of_mem _ he)

theorem Entries.isSome_get?_of_mem {α : Type} {es : Entries α} {e : String × α} (h : e ∈ es) :
    (es.get? e.1).isSome := by
  induction es with
  | nil => cases h
  | cons first es ih =>
    rw [get?_cons]
    split
    · rfl
    · rename_i hne
      rcases List.mem_cons.mp h with rfl | h
      · exact absurd rfl hne
      · exact ih h

/-- the entries of a map, after those of the default have been added, miss none of the default -/
theorem Entries.insertAbsent_again {α : Type} (es news : Entries α) :
    (es.insertAbsent news).insertAbsent news = es.insertAbsent news := by
  refine insertAbsent_of_isSome fun e he => ?_
  rw [get?_insertAbsent, Option.isSome_or, isSome_get?_of_mem he, Bool.or_true]

theorem Entries.insertAbsent_self {α : Type} (es : Entries α) : es.insertAbsent es = es :=
  insertAbsent_of_isSome fun _ he => isSome_get?_of_mem he

/-! ### one statement -/

theorem Statement.filled_again {run : Run} (hrun : run.Settles) {env : Environment} {s : Statement}
    {key : String} {held default default' : Option Value} {v : Value}
    (h : s.filled run env key held default = .ok v)
    (hd : default' = default ∨ default' = some v) :
    s.filled run env key (some v) default' = .ok v := by
  cases s with
  | scalar slot kind =>
    simp only [filled, Except.ok.injEq] at h ⊢
    cases henv : env.scalar? key kind.storage with
    | some x =>
      rw [henv] at h
      exact h
    | none =>
      rw [henv, Option.none_or] at h
      rw [Option.none_or]
      exact fallBack_again h hd
  | wrapper slot shape =>
    simp only [filled, Except.ok.injEq] at h ⊢
    cases henv : env.scalar? key shape.scalar.storage with
    | some x =>
      rw [henv] at h
      exact h
    | none => rfl
  | enum slot table =>
    cases henv : env.text? key with
    | some symbol =>
      simp only [filled, henv] at h ⊢
      exact h
    | none =>
      simp only [filled, henv, Except.ok.injEq] at h ⊢
      exact fallBack_again h hd
  | enumList slot table =>
    cases henv : env.items? key with
    | some symbols =>
      simp only [filled, henv] at h ⊢
      exact h
    | none =>
      simp only [filled, henv, Except.ok.injEq] at h ⊢
      exact fallBack_again h hd
  | nested slot message =>
    have hagain := hrun.again (of_filled_nested h) hd
    simp only [filled, Option.getD_some, hagain]
  | mergeMap slot =>
    cases h
    have hheld : mapEntries (some (.map ((mapEntries held).insertAbsent (mapEntries default)))) =
        (mapEntries held).insertAbsent (mapEntries default) := rfl
    simp only [filled, hheld, Except.ok.injEq, Value.map.injEq]
    rcases hd with rfl | rfl
    · exact Entries.insertAbsent_again _ _
    · exact Entries.insertAbsent_self _

/-! ### a value that is no message -/

theorem Value.set_of_not_isMessage {w : Value} (h : ¬ w.IsMessage) (field : String) (v : Value) :
    w.set field v = w := by
  cases w with
  | message name fields => exact absurd ⟨name, fields, rfl⟩ h
  | _ => rfl

theorem applyAll_of_not_isMessage {run : Run} {env : Environment} {lead : String}
    {defaults : Option Value} {w : Value} (h : ¬ w.IsMessage) (ss : List Statement) :
    (applyAll run env lead defaults w ss).value = w := by
  induction ss with
  | nil => rfl
  | cons s ss ih =>
    unfold applyAll
    split
    · rename_i w' hw'
      obtain ⟨v, rfl⟩ := Statement.exists_eq_set hw'
      rw [Value.set_of_not_isMessage h]
      exact ih
    · rfl

/-! ### a whole run -/

namespace LoaderUnit

variable {set : SchemaSet} {t : Target} {u : LoaderUnit}

theorem settles_populateWithin (hu : emit set t = .ok u) (env : Environment) (depth : Nat) :
    Run.Settles (u.populateWithin env depth) := by
  induction depth with
  | zero => exact ⟨fun h _ => (by cases h)⟩
  | succ depth ih =>
    constructor
    intro message lead w v defaults defaults' h hd
    unfold populateWithin at h ⊢
    split at h
    · cases h
    · rename_i p hp
      have hnodup := names_nodup hu (mem_of_procedure? hp)
      have hvalue := congrArg Population.value h
      have herror := congrArg Population.error? h
      refine applyAll_of_fixed fun s hs => ?_
      by_cases hw : w.IsMessage
      · -- the field holds what the statement has put there
        rcases get?_applyAll hw hnodup hs with ⟨x, hx, hget⟩ | ⟨hstopped, -⟩
        · rw [hvalue] at hget
          have hdefault : default? defaults' s.slot.name = default? defaults s.slot.name ∨
              default? defaults' s.slot.name = some x := by
            rcases hd with rfl | rfl
            · exact .inl rfl
            · exact .inr hget
          have hagain := Statement.filled_again ih hx hdefault
          rw [← hget] at hagain
          rw [Statement.apply_of_filled hagain, Value.set_of_get? hget]
        · exact absurd herror hstopped
      · -- nothing is set, and the statement does not stop, as it has not before
        obtain ⟨before, after, happly, -⟩ := of_applyAll hnodup herror hs
        obtain ⟨x, hx, -⟩ := Statement.filled_of_apply happly
        obtain ⟨x', hx'⟩ := (error?_populateWithin u env depth).exists_filled
          (v.get? s.slot.name) (default? defaults' s.slot.name) hx
        rw [applyAll_of_not_isMessage hw] at hvalue
        subst hvalue
        rw [Statement.apply_of_filled hx', Value.set_of_not_isMessage hw]

/-- When a run has gone to its end, the same run on what it left changes nothing, whether it has
the same defaults or what it left as its defaults.  Values are the same here only if their
floating-point numbers have the same bits. -/
theorem populate_again (hu : emit set t = .ok u) {env : Environment} {message lead : String}
    {w v : Value} {defaults : Option Value}
    (h : u.populate env message w lead defaults = ⟨v, none⟩) :
    u.populate env message v lead defaults = ⟨v, none⟩ ∧
      u.populate env message v lead (some v) = ⟨v, none⟩ :=
  ⟨(settles_populateWithin hu env _).again h (.inl rfl),
    (settles_populateWithin hu env _).again h (.inr rfl)⟩

end LoaderUnit

/-! ### a negative zero -/

/-- `Meter` has a number, an enum, a map, an optional number and a nested message -/
def meterSchema : SchemaSet :=
  ⟨⟨"meter.proto", none, none, [], [],
    [⟨"Meter", .start, [⟨"level", .start, .named "double", 1, .plain, [], .all⟩,
      ⟨"mode", .start, .named "Mode", 2, .plain, [], .all⟩,
      ⟨"labels", .start, .map "string" "string", 3, .plain, [], .all⟩,
      ⟨"limit", .start, .named "int32", 4, .optional, [], .all⟩,
      ⟨"panel", .start, .named "Panel", 5, .plain, [], .all⟩], [], .all⟩,
     ⟨"Panel", .start, [⟨"title", .start, .named "string", 1, .plain, [], .all⟩], [], .all⟩],
    [⟨"Mode", .start, [⟨"OFF", 0⟩, ⟨"ON", 1⟩]⟩]⟩, []⟩

def meterProcedure : Procedure :=
  ⟨"Meter", [.scalar ⟨"level", "LEVEL"⟩ .double,
    .enum ⟨"mode", "MODE"⟩ ⟨"Mode", [⟨"OFF", 0⟩, ⟨"ON", 1⟩]⟩, .mergeMap ⟨"labels", "LABELS"⟩,
    .wrapper ⟨"limit", "LIMIT"⟩ (.optional .int32), .nested ⟨"panel", "PANEL"⟩ "Panel"]⟩

def panelProcedure : Procedure := ⟨"Panel", [.scalar ⟨"title", "TITLE"⟩ .string]⟩

def meterUnit : LoaderUnit := ⟨"meter.proto", [meterProcedure, panelProcedure]⟩

theorem emit_meterSchema : LoaderUnit.emit meterSchema ⟨"rust"⟩ = .ok meterUnit := by
  decide +kernel

/-- a `Meter` with all its fields -/
def meterOf (level : Double) (mode : Int32) (labels : Entries String) (limit : Int32)
    (title : String) : Value :=
  .message "Meter" [("labels", .map labels), ("level", .double level), ("limit", .int32 limit),
    ("mode", .int32 mode), ("panel", .message "Panel" [("title", .string title)])]

/-- the negative zero is replaced by the zero of the field, which then stays -/
theorem populate_again_negative_zero :
    LoaderUnit.emit meterSchema ⟨"rust"⟩ = .ok meterUnit ∧
      ∃ env w d v, env = Environment.table [("MODE", " ON ")] ∧
        w = Value.message "Meter" [("labels", .map [("a", "1")]),
          ("level", .double ⟨0x8000000000000000⟩)] ∧
        d = meterOf .zero 0 [("a", "2"), ("b", "3")] 7 "north" ∧
        v = meterOf .zero 1 [("a", "1"), ("b", "3")] 7 "north" ∧
        meterUnit.populate env "Meter" w "" (some d) = ⟨v, none⟩ ∧
        meterUnit.populate env "Meter" v "" (some d) = ⟨v, none⟩ ∧
        meterUnit.populate env "Meter" v "" (some v) = ⟨v, none⟩ := by
  have hrun : meterUnit.populate (.table [("MODE", " ON ")]) "Meter"
      (.message "Meter" [("labels", .map [("a", "1")]), ("level", .double ⟨0x8000000000000000⟩)]) ""
      (some (meterOf .zero 0 [("a", "2"), ("b", "3")] 7 "north")) =
        ⟨meterOf .zero 1 [("a", "1"), ("b", "3")] 7 "north", none⟩ := by rfl
  exact ⟨emit_meterSchema, _, _, _, _, rfl, rfl, rfl, rfl, hrun,
    LoaderUnit.populate_again emit_meterSchema hrun⟩

end EnvConfig
