import EnvConfig.Proofs.Population.Again
import EnvConfig.Proofs.Population.Walk

/-!
# What a run that stops leaves

A run that stops has filled the fields of the statements before the one that stopped it, each as a
run that goes on fills it.  It has touched nothing else: also not the field of the statement that
stopped it, even if that is a nested message that was filled in part.

* `LoaderUnit.Asks`: the variables that a run through statements can ask for;
* `LoaderUnit.Passes.applyAll_eq`: two runs that go on do the same if these variables agree;
* `LoaderUnit.LeftAfter`: what a run that stops leaves;
* `LoaderUnit.populate_stops`: when a run stops, why, and what it leaves.
-/

namespace EnvConfig

/-! ### the variables of a run -/

namespace LoaderUnit

/-- `key` is the variable of a statement among `ss`, or of one in the procedures that they name -/
inductive Asks (u : LoaderUnit) (key : String) : String → List Statement → Prop
  | here {lead : String} {s : Statement} {ss : List Statement} (hs : s ∈ ss)
      (hkey : key = lead ++ s.slot.fragment) : Asks u key lead ss
  | inside {lead inner : String} {slot : Slot} {p : Procedure} {ss : List Statement}
      (hs : .nested slot inner ∈ ss) (hp : u.procedure? inner = some p)
      (h : Asks u key (lead ++ slot.fragment ++ "_") p.statements) : Asks u key lead ss

theorem Asks.cons {u : LoaderUnit} {key lead : String} {ss : List Statement}
    (h : u.Asks key lead ss) (s : Statement) : u.Asks key lead (s :: ss) := by
  cases h with
  | here hs hkey => exact .here (List.mem_cons_of_mem s hs) hkey
  | inside hs hp h => exact .inside (List.mem_cons_of_mem s hs) hp h

end LoaderUnit

theorem Environment.scalar?_congr {env env' : Environment} {key : String}
    (h : env'.text? key = env.text? key) (kind : Storage) :
    env'.scalar? key kind = env.scalar? key kind := by
  cases kind <;>
    simp only [scalar?, double?, single?, int32?, int64?, uint32?, uint64?, flag?, h]

/-- a statement that is not nested asks for its variable only -/
theorem Statement.filled_congr {run run' : Run} {env env' : Environment} {key : String}
    {held default : Option Value} {s : Statement} (hs : ∀ slot inner, s ≠ .nested slot inner)
    (h : env'.text? key = env.text? key) :
    s.filled run' env' key held default = s.filled run env key held default := by
  cases s with
  | nested slot inner => exact absurd rfl (hs slot inner)
  | scalar slot kind => simp only [filled, Environment.scalar?_congr h]
  | wrapper slot shape => simp only [filled, Environment.scalar?_congr h]
  | enum slot table => simp only [filled, h]
  | enumList slot table => simp only [filled, Environment.items?, h]
  | mergeMap slot => rfl

namespace LoaderUnit

variable {set : SchemaSet} {t : Target} {u : LoaderUnit} {env env' : Environment} {lead : String}
  {ss : List Statement}

/-- a run that goes on behind a nested statement has run its procedure to the end -/
theorem exists_inner_run {inner : String} {slot : Slot} {p : Procedure}
    (hp : u.procedure? inner = some p) {depth : Nat} {w : Value} {defaults : Option Value}
    (h : (applyAll (u.populateWithin env depth) env lead defaults w
      (.nested slot inner :: ss)).error? = none) :
    ∃ level v, applyAll (u.populateWithin env level) env (lead ++ slot.fragment ++ "_")
        (default? defaults slot.name) ((w.get? slot.name).getD (.empty inner)) p.statements =
          ⟨v, none⟩ ∧
      applyAll (u.populateWithin env depth) env lead defaults w (.nested slot inner :: ss) =
        applyAll (u.populateWithin env depth) env lead defaults (w.set slot.name v) ss := by
  cases depth with
  | zero =>
    rw [applyAll_cons_of_error filled_nested_zero] at h
    cases h
  | succ level =>
    cases hfilled : (Statement.nested slot inner).filled (u.populateWithin env (level + 1)) env
        (lead ++ slot.fragment) (w.get? slot.name) (default? defaults slot.name) with
    | error e =>
      rw [applyAll_cons_of_error hfilled] at h
      cases h
    | ok v => exact ⟨level, v, (filled_nested_eq_ok_iff hp).mp hfilled, applyAll_cons_of_ok hfilled⟩

/-- Two runs through statements do the same if neither stops and the variables that they can ask for
have the same texts. -/
theorem Passes.applyAll_eq (h : u.Passes env lead ss)
    (hagree : ∀ key, u.Asks key lead ss → env'.text? key = env.text? key) {depth depth' : Nat}
    {w : Value} {defaults : Option Value}
    (hrun : (applyAll (u.populateWithin env depth) env lead defaults w ss).error? = none)
    (hrun' : (applyAll (u.populateWithin env' depth') env' lead defaults w ss).error? = none) :
    applyAll (u.populateWithin env' depth') env' lead defaults w ss =
      applyAll (u.populateWithin env depth) env lead defaults w ss := by
  induction h generalizing depth depth' w defaults with
  | nil => rfl
  | @leaf lead s ss hs hsymbol h ih =>
    have hsame : s.filled (u.populateWithin env' depth') env' (lead ++ s.slot.fragment)
        (w.get? s.slot.name) (default? defaults s.slot.name) =
          s.filled (u.populateWithin env depth) env (lead ++ s.slot.fragment)
            (w.get? s.slot.name) (default? defaults s.slot.name) :=
      Statement.filled_congr hs (hagree _ (.here List.mem_cons_self rfl))
    cases hfilled : s.filled (u.populateWithin env depth) env (lead ++ s.slot.fragment)
        (w.get? s.slot.name) (default? defaults s.slot.name) with
    | error e =>
      rw [applyAll_cons_of_error hfilled] at hrun
      cases hrun
    | ok v =>
      rw [hfilled] at hsame
      rw [applyAll_cons_of_ok hfilled] at hrun ⊢
      rw [applyAll_cons_of_ok hsame] at hrun' ⊢
      exact ih (fun key hkey => hagree key (hkey.cons s)) hrun hrun'
  | @nested lead inner slot p ss hp hinner h ihinner ih =>
    obtain ⟨level, v, hinnerRun, hrest⟩ := exists_inner_run hp hrun
    obtain ⟨level', v', hinnerRun', hrest'⟩ := exists_inner_run hp hrun'
    have hsame := ihinner (fun key hkey => hagree key (.inside List.mem_cons_self hp hkey))
      (congrArg Population.error? hinnerRun) (congrArg Population.error? hinnerRun')
    rw [hinnerRun, hinnerRun'] at hsame
    cases hsame
    rw [hrest] at hrun ⊢
    rw [hrest'] at hrun' ⊢
    exact ih (fun key hkey => hagree key (hkey.cons _)) hrun hrun'

/-! ### what is left -/

/-- What a run leaves that got through the statements `before` and stopped at the next one. -/
structure LeftAfter (u : LoaderUnit) (env : Environment) (message lead : String) (w : Value)
    (defaults : Option Value) (before : List Statement) (after : Value) : Prop where
  /-- each of the statements has filled its field from its variable, what the field held and the
  default -/
  filled : ∀ s ∈ before, ∃ depth v,
    s.filled (u.populateWithin env depth) env (lead ++ s.slot.fragment) (w.get? s.slot.name)
      (default? defaults s.slot.name) = .ok v ∧ after.get? s.slot.name = some v
  /-- the field holds what it holds after any run that goes to its end and finds the same texts in
  the variables that `before` asks for -/
  successful : ∀ env', (∀ key, u.Asks key lead before → env'.text? key = env.text? key) →
    (u.populate env' message w lead defaults).error? = none →
    ∀ s ∈ before, after.get? s.slot.name =
      (u.populate env' message w lead defaults).value.get? s.slot.name
  /-- every other field is as it was -/
  others : ∀ field, field ∉ before.map (·.slot.name) → after.get? field = w.get? field

theorem populate_of_procedure? {message : String} {p : Procedure}
    (hp : u.procedure? message = some p) (env : Environment) (w : Value) (lead : String)
    (defaults : Option Value) :
    u.populate env message w lead defaults =
      applyAll (u.populateWithin env (env.longestKey + u.procedures.length + 1)) env lead defaults w
        p.statements := by
  show u.populateWithin env (env.longestKey + u.procedures.length + 1 + 1) message w lead defaults =
    _
  simp only [populateWithin, hp]

/-- a run that got through the statements before the one that stopped it -/
theorem leftAfter_of_stopped (hu : emit set t = .ok u) {message : String} {p : Procedure}
    (hp : u.procedure? message = some p) {w : Value} (hw : w.IsMessage) {defaults : Option Value}
    {depth : Nat} {before rest : List Statement} (hstatements : p.statements = before ++ rest)
    (h : (applyAll (u.populateWithin env depth) env lead defaults w before).error? = none) :
    u.LeftAfter env message lead w defaults before
      (applyAll (u.populateWithin env depth) env lead defaults w before).value := by
  have hnodup := names_nodup hu (mem_of_procedure? hp)
  rw [hstatements, List.map_append] at hnodup
  have hbefore := (List.nodup_append.mp hnodup).1
  refine ⟨fun s hs => ?_, fun env' hagree hend s hs => ?_, fun field hfield =>
    get?_applyAll_of_not_mem hfield⟩
  · rcases get?_applyAll hw hbefore hs with ⟨v, hv, hafter⟩ | ⟨hstopped, -⟩
    · exact ⟨depth, v, hv, hafter⟩
    · exact absurd h hstopped
  · rw [populate_of_procedure? hp, hstatements] at hend ⊢
    have hgone : (applyAll (u.populateWithin env' (env'.longestKey + u.procedures.length + 1)) env'
        lead defaults w before).error? = none := by
      by_contra hstopped
      rw [applyAll_append_of_error hstopped] at hend
      exact hstopped hend
    have hlater : s.slot.name ∉ rest.map (·.slot.name) := fun hmem =>
      List.disjoint_of_nodup_append hnodup (List.mem_map_of_mem (f := (·.slot.name)) hs) hmem
    rw [applyAll_append hgone, get?_applyAll_of_not_mem hlater,
      (passes_of_error? h).applyAll_eq hagree h hgone]

/-- A run that has an end stops exactly where the walk does: at the first variable with an unknown
symbol, or the first nested statement without a procedure.  Then the fields of the statements before
the one that stopped it are filled as a run that goes on fills them, and nothing else has changed,
also not the nested message that it stopped in. -/
theorem populate_stops (hu : emit set t = .ok u) {message : String} {p : Procedure}
    (hp : u.procedure? message = some p) {env : Environment} {lead : String} {w : Value}
    {defaults : Option Value} (hw : w.IsMessage)
    (hend : (u.populate env message w lead defaults).error? ≠ some .endless) :
    (∀ key symbol, (u.populate env message w lead defaults).error? =
        some (.unknownSymbol ⟨key, symbol⟩) ↔
      ∃ s, u.Meets env key s lead p.statements ∧ s.Refuses env key symbol) ∧
    (∀ inner, (u.populate env message w lead defaults).error? = some (.noProcedure inner) ↔
      ∃ key slot, u.Meets env key (.nested slot inner) lead p.statements ∧
        u.procedure? inner = none) ∧
    ((u.populate env message w lead defaults).error? = none ↔ u.Passes env lead p.statements) ∧
    ((u.populate env message w lead defaults).error? ≠ none →
      ∃ before s after, p.statements = before ++ s :: after ∧
        u.Passes env lead before ∧ ¬ u.Passes env lead [s] ∧
        u.LeftAfter env message lead w defaults before
          (u.populate env message w lead defaults).value ∧
        (u.populate env message w lead defaults).value.get? s.slot.name = w.get? s.slot.name) := by
  rw [populate_of_procedure? hp] at hend ⊢
  refine ⟨fun key symbol => ?_, fun inner => ?_, error?_eq_none_iff hend, fun hstopped => ?_⟩
  · rw [error?_eq_some_iff hend]
    constructor
    · rintro ⟨key', s, hmeets, hstops⟩
      cases hstops with
      | refused hrefuses => exact ⟨s, hmeets, hrefuses⟩
    · rintro ⟨s, hmeets, hrefuses⟩
      exact ⟨key, s, hmeets, .refused hrefuses⟩
  · rw [error?_eq_some_iff hend]
    constructor
    · rintro ⟨key, s, hmeets, hstops⟩
      cases hstops with
      | missing hnone => exact ⟨key, _, hmeets, hnone⟩
    · rintro ⟨key, slot, hmeets, hnone⟩
      exact ⟨key, _, hmeets, .missing hnone⟩
  · obtain ⟨e, he⟩ := Option.ne_none_iff_exists'.mp hstopped
    obtain ⟨before, s, after, v, hstatements, hbefore, hfilled, hvalue⟩ := exists_stopped he
    have hgone := congrArg Population.error? hbefore
    have hleft := leftAfter_of_stopped hu hp hw hstatements hgone
    rw [hbefore] at hleft
    rw [hvalue]
    have hnodup := names_nodup hu (mem_of_procedure? hp)
    rw [hstatements, List.map_append, List.map_cons] at hnodup
    have hnew : s.slot.name ∉ before.map (·.slot.name) := fun hmem =>
      List.disjoint_of_nodup_append hnodup hmem List.mem_cons_self
    refine ⟨before, s, after, hstatements, passes_of_error? hgone, fun hpasses => ?_, hleft,
      hleft.others _ hnew⟩
    have hsingle := hpasses.error? (env.longestKey + u.procedures.length + 1) v defaults
    rw [applyAll_cons_of_error hfilled] at hsingle
    rcases hsingle with hnone | hendless
    · cases hnone
    · cases hendless
      exact hend he

/-! ### a run that stops inside a nested message -/

/-- `Outer` has a name, an `Inner` and a count; `Inner` has a level and a mode -/
def haltingSchema : SchemaSet :=
  ⟨⟨"halting.proto", none, none, [], [],
    [⟨"Outer", .start, [⟨"name", .start, .named "string", 1, .plain, [], .all⟩,
      ⟨"inner", .start, .named "Inner", 2, .plain, [], .all⟩,
      ⟨"count", .start, .named "int32", 3, .plain, [], .all⟩], [], .all⟩,
     ⟨"Inner", .start, [⟨"level", .start, .named "int32", 1, .plain, [], .all⟩,
      ⟨"modes", .start, .named "Mode", 2, .repeated, [], .all⟩], [], .all⟩],
    [⟨"Mode", .start, [⟨"OFF", 0⟩, ⟨"ON", 1⟩]⟩]⟩, []⟩

def haltingOuter : Procedure :=
  ⟨"Outer", [.scalar ⟨"name", "NAME"⟩ .string, .nested ⟨"inner", "INNER"⟩ "Inner",
    .scalar ⟨"count", "COUNT"⟩ .int32]⟩

def haltingInner : Procedure :=
  ⟨"Inner", [.scalar ⟨"level", "LEVEL"⟩ .int32,
    .enumList ⟨"modes", "MODES"⟩ ⟨"Mode", [⟨"OFF", 0⟩, ⟨"ON", 1⟩]⟩]⟩

def haltingUnit : LoaderUnit := ⟨"halting.proto", [haltingOuter, haltingInner]⟩

/-- the level is set, but the list behind it has an unknown item -/
def haltingEnvironment : Environment :=
  .table [("X_NAME", "north"), ("X_INNER_LEVEL", "4"), ("X_INNER_MODES", "ON, dim ,bright"),
    ("X_COUNT", "9")]

/-- The run stops at the first unknown item.  The name is there, but neither the level, which was
filled before, nor the count. -/
theorem populate_stops_halting :
    LoaderUnit.emit haltingSchema ⟨"rust"⟩ = .ok haltingUnit ∧
      (haltingUnit.populate haltingEnvironment "Outer" (.empty "Outer") "X_" none).error? =
        some (.unknownSymbol ⟨"X_INNER_MODES", "dim"⟩) ∧
      (∃ s, haltingUnit.Meets haltingEnvironment "X_INNER_MODES" s "X_" haltingOuter.statements ∧
        s.Refuses haltingEnvironment "X_INNER_MODES" "dim") ∧
      (haltingUnit.populate haltingEnvironment "Outer" (.empty "Outer") "X_" none).value =
        .message "Outer" [("name", .string "north")] := by
  have hemit : LoaderUnit.emit haltingSchema ⟨"rust"⟩ = .ok haltingUnit := by decide +kernel
  have hp : haltingUnit.procedure? "Outer" = some haltingOuter := by decide +kernel
  have herror :
      (haltingUnit.populate haltingEnvironment "Outer" (.empty "Outer") "X_" none).error? =
        some (.unknownSymbol ⟨"X_INNER_MODES", "dim"⟩) := by decide +kernel
  have hstops := populate_stops hemit hp (Value.isMessage_empty "Outer") (by
    rw [herror]
    decide)
  exact ⟨hemit, herror, (hstops.1 _ _).mp herror, rfl⟩

end LoaderUnit

end EnvConfig
