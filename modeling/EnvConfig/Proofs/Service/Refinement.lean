import EnvConfig.Proofs.Service.Matching
import EnvConfig.Proofs.Service.Schema

/-!
# Loading a service and filling its value

* `Reporting.populate_matches`, `Service.populate_agrees`: the procedures of the service fill a
  matching value as `load` fills the record, and stop for the same reason;
* `Service.step_agrees`, `Service.outcomes_agree`: the same for one step of a run, and for a run.
-/

namespace EnvConfig

open Number

section

variable {run : Run} {env : Environment} {lead : String} {defaults : Option Value} {w w' : Value}
  {s : Statement} {ss : List Statement}

theorem applyAll_of_ok (h : s.apply run env lead defaults w = .ok w') :
    applyAll run env lead defaults w (s :: ss) = applyAll run env lead defaults w' ss := by
  rw [applyAll, h]

theorem applyAll_of_error {e : PopulationError} (h : s.apply run env lead defaults w = .error e) :
    applyAll run env lead defaults w (s :: ss) = ⟨w, some e⟩ := by
  rw [applyAll, h]

end

theorem rel_map_eq {α : Type} (f : α → Value) (o : Option α) :
    Option.Rel (fun a v => v = f a) o (o.map f) := by
  cases o with
  | none => exact .none
  | some a => exact .some rfl

theorem rel_map_double (o : Option Double) : Option.Rel Double.Reads o (o.map .double) := by
  cases o with
  | none => exact .none
  | some x => exact .some ⟨x, rfl, .refl x⟩

/-- the first that is set of a variable, a field and a default, else zero -/
theorem getD_or_or {α : Type} (f : α → Value) (a b c : Option α) (zero : α) :
    some ((((a.map f).or (b.map f)).or (c.map f)).getD (f zero)) =
      (a.or (b.or (some (c.getD zero)))).map f := by
  cases a <;> cases b <;> cases c <;> rfl

/-! ### one statement on a message known by its fields -/

namespace Value.HoldsAll

variable {K α : Type} {field : K → String} {holds holds' : K → Option Value → Prop} {w : Value}
  {run : Run} {env : Environment} {lead fragment : String} {defaults' : Option Value}
  (hfield : Function.Injective field) (h : w.HoldsAll field holds) (k : K)

include hfield h

theorem scalar_step {isZero : α → Bool} {R : α → Value → Prop} {kind : ScalarKind} {a : α}
    {set? default? : Option α} (hR : RespectsZero isZero R (.zero kind.storage))
    (hset : Option.Rel R set? (env.scalar? (lead ++ fragment) kind.storage))
    (hheld : R a ((w.get? (field k)).getD (.zero kind.storage)))
    (hdefault : DefaultReads R (.zero kind.storage) default?
      (EnvConfig.default? defaults' (field k)))
    (hnew : ∀ v, R (set?.getD (keptOr isZero a default?)) v → holds' k (some v))
    (hsame : ∀ j, j ≠ k → holds' j = holds j := by
      rintro (_ | _) hj <;> first | rfl | exact absurd rfl hj) :
    ∃ w', (Statement.scalar ⟨field k, fragment⟩ kind).apply run env lead defaults' w = .ok w' ∧
      w'.HoldsAll field holds' :=
  ⟨_, Statement.apply_scalar _ _,
    h.set hfield k (hnew _ (hR.getD_keptOr hset hheld hdefault)) hsame⟩

theorem wrapper_step {shape : WrapperShape} {set? held? default? : Option α} (f : α → Value)
    (zero : α)
    (hzero : Value.zero shape.scalar.storage = f zero)
    (hset : env.scalar? (lead ++ fragment) shape.scalar.storage = set?.map f)
    (hheld : w.get? (field k) = held?.map f)
    (hdefault : EnvConfig.default? defaults' (field k) = default?.map f)
    (hnew : ∀ v, some v = (set?.or (held?.or (some (default?.getD zero)))).map f →
      holds' k (some v))
    (hsame : ∀ j, j ≠ k → holds' j = holds j := by
      rintro (_ | _) hj <;> first | rfl | exact absurd rfl hj) :
    ∃ w', (Statement.wrapper ⟨field k, fragment⟩ shape).apply run env lead defaults' w = .ok w' ∧
      w'.HoldsAll field holds' := by
  refine ⟨_, Statement.apply_wrapper _ _, h.set hfield k (hnew _ ?_) hsame⟩
  rw [hset, hheld, hdefault, hzero]
  exact getD_or_or f _ _ _ zero

end Value.HoldsAll

section

variable (depth : Nat) (run : Run) (env : Environment) (lead : String)

namespace Reporting

variable {r : Reporting} {w : Value} {defaults : Option Reporting} {defaults' : Option Value}

theorem populate_matches (h : r.Matches w) (hd : Option.Rel Matches defaults defaults') :
    (serviceUnit.populateWithin env (depth + 1) "Reporting" w lead defaults').error? = none ∧
      (r.load env lead defaults).Matches
        (serviceUnit.populateWithin env (depth + 1) "Reporting" w lead defaults').value := by
  let run := serviceUnit.populateWithin env depth
  let l := r.load env lead defaults
  obtain ⟨w1, hrun1, h1⟩ : ∃ w1,
      (Statement.scalar ⟨"endpoint", "ENDPOINT"⟩ .string).apply run env lead defaults' w = .ok w1 ∧
        Matches { r with endpoint := l.endpoint } w1 :=
    h.scalar_step Key.field_injective .endpoint
      respectsZero_string (rel_map_eq .string _) (h.holds .endpoint)
      (defaultReads hd fun _ _ hb => hb.holds .endpoint) fun v hv => hv
  obtain ⟨w2, hrun2, h2⟩ : ∃ w2,
      (Statement.wrapper ⟨"port", "PORT"⟩ (.optional .uint32)).apply run env lead defaults' w1 =
          .ok w2 ∧
        Matches { r with endpoint := l.endpoint, port := l.port } w2 :=
    h1.wrapper_step Key.field_injective .port
      .uint32 0 rfl rfl (h1.holds .port) (default?_eq_map hd fun _ _ hb => hb.holds .port)
      fun v hv => hv
  obtain ⟨w3, hrun3, h3⟩ : ∃ w3,
      (Statement.scalar ⟨"secure", "SECURE"⟩ .bool).apply run env lead defaults' w2 = .ok w3 ∧
        Matches { l with sampleRatio := r.sampleRatio } w3 :=
    h2.scalar_step Key.field_injective .secure
      respectsZero_bool (rel_map_eq .bool _) (h2.holds .secure)
      (defaultReads hd fun _ _ hb => hb.holds .secure) fun v hv => hv
  obtain ⟨w4, hrun4, h4⟩ : ∃ w4,
      (Statement.scalar ⟨"sample_ratio", "SAMPLE_RATIO"⟩ .double).apply run env lead defaults' w3 =
          .ok w4 ∧
        l.Matches w4 :=
    h3.scalar_step Key.field_injective .sampleRatio
      respectsZero_double (rel_map_double _) (h3.holds .sampleRatio)
      (defaultReads hd fun _ _ hb => hb.holds .sampleRatio) fun v hv => hv
  have hprocedure : serviceUnit.procedure? "Reporting" = some reportingProcedure := by decide
  have hall : applyAll run env lead defaults' w reportingProcedure.statements = ⟨w4, none⟩ := by
    unfold reportingProcedure
    rw [applyAll_of_ok hrun1, applyAll_of_ok hrun2, applyAll_of_ok hrun3, applyAll_of_ok hrun4,
      applyAll]
  rw [LoaderUnit.populateWithin, hprocedure]
  show (applyAll run env lead defaults' w reportingProcedure.statements).error? = none ∧
    Matches l (applyAll run env lead defaults' w reportingProcedure.statements).value
  rw [hall]
  exact ⟨rfl, h4⟩

end Reporting

/-! ### the service -/

theorem colorTable_numberOf? : colorTable.numberOf? = Color.numberOf? := by
  funext symbol
  have hsymbols : colorTable.symbols = Color.all.map fun c => ⟨c.symbol, c.number⟩ := rfl
  rw [SymbolTable.numberOf?, EnvConfig.numberOf?, hsymbols, List.find?_map, Option.map_map]
  rfl

theorem rel_getD {α β : Type} {R : α → β → Prop} {a? : Option α} {b? : Option β} {a : α} {b : β}
    (h : Option.Rel R a? b?) (hab : R a b) : R (a?.getD a) (b?.getD b) := by
  cases h with
  | none => exact hab
  | some h => exact h

theorem get?_mapEntries {opts : Entries String} {v? : Option Value}
    (h : ∃ es, v?.getD (.map []) = .map es ∧ ∀ k, es.get? k = opts.get? k) (k : String) :
    (mapEntries v?).get? k = opts.get? k := by
  obtain ⟨es, hes, hget⟩ := h
  cases v? with
  | none =>
    cases hes
    exact hget k
  | some v =>
    cases hes
    exact hget k

/-- the same service and the same reason to stop -/
structure Loaded.Agrees (l : Loaded) (p : Population) : Prop where
  service : l.service.Matches p.value
  error? : p.error? = l.error?.map .unknownSymbol

namespace Service

variable {s : Service} {w : Value} {defaults : Option Service} {defaults' : Option Value}

theorem name_step (h : s.Matches w) (hd : Option.Rel Matches defaults defaults') :
    ∃ w', (Statement.scalar ⟨"name", "NAME"⟩ .string).apply run env lead defaults' w = .ok w' ∧
      Matches { s with name := (s.loadHead env lead defaults).name } w' :=
  h.scalar_step Key.field_injective .name
    respectsZero_string (rel_map_eq .string _) (h.holds .name)
    (defaultReads hd fun _ _ hb => hb.holds .name) fun _ hv => hv

theorem timeout_step (h : s.Matches w) (hd : Option.Rel Matches defaults defaults') :
    ∃ w', (Statement.wrapper ⟨"timeout", "TIMEOUT"⟩ (.wellKnown .int32)).apply run env lead
        defaults' w = .ok w' ∧
      Matches { s with timeout := (s.loadHead env lead defaults).timeout } w' :=
  h.wrapper_step Key.field_injective .timeout
    .int32 0 rfl rfl (h.holds .timeout) (default?_eq_map hd fun _ _ hb => hb.holds .timeout)
    fun _ hv => hv

theorem tags_step (h : s.Matches w) (hd : Option.Rel Matches defaults defaults') :
    (∃ e, s.loadTags env lead defaults = .error e ∧
      (Statement.enumList ⟨"tags", "TAGS"⟩ colorTable).apply run env lead defaults' w =
        .error (.unknownSymbol e)) ∨
    ∃ ns w', s.loadTags env lead defaults = .ok ns ∧
      (Statement.enumList ⟨"tags", "TAGS"⟩ colorTable).apply run env lead defaults' w = .ok w' ∧
        Matches { s with tags := ns } w' := by
  have hset : ∀ {ns : List Int32} {v}, v = .list (ns.map .int32) →
      Matches { s with tags := ns } (w.set "tags" v) := fun hv =>
    h.set Key.field_injective .tags hv
  unfold loadTags
  cases hitems : env.items? (lead ++ "TAGS") with
  | none =>
    exact .inr ⟨_, _, rfl, Statement.apply_enumList_of_unset hitems,
      hset (respectsZero_list.getD_keptOr .none (h.holds .tags)
        (defaultReads hd fun _ _ hb => hb.holds .tags))⟩
  | some symbols =>
    simp only [Statement.apply, Statement.slot, hitems, colorTable_numberOf?]
    cases resolveSymbols (lead ++ "TAGS") Color.numberOf? symbols with
    | error e => exact .inl ⟨e, rfl, rfl⟩
    | ok ns => exact .inr ⟨ns, _, rfl, rfl, hset rfl⟩

theorem accent_step (h : s.Matches w) (hd : Option.Rel Matches defaults defaults') :
    (∃ e, s.loadAccent env lead defaults = .error e ∧
      (Statement.enum ⟨"accent", "ACCENT"⟩ colorTable).apply run env lead defaults' w =
        .error (.unknownSymbol e)) ∨
    ∃ n w', s.loadAccent env lead defaults = .ok n ∧
      (Statement.enum ⟨"accent", "ACCENT"⟩ colorTable).apply run env lead defaults' w = .ok w' ∧
        Matches { s with accent := n } w' := by
  have hset : ∀ {n : Int32} {v}, v = .int32 n → Matches { s with accent := n } (w.set "accent" v) :=
    fun hv => h.set Key.field_injective .accent hv
  unfold loadAccent
  cases htext : env.text? (lead ++ "ACCENT") with
  | none =>
    exact .inr ⟨_, _, rfl, Statement.apply_enum_of_unset htext,
      hset (respectsZero_int32.getD_keptOr .none (h.holds .accent)
        (defaultReads hd fun _ _ hb => hb.holds .accent))⟩
  | some symbol =>
    simp only [Statement.apply, Statement.slot, htext, colorTable_numberOf?]
    cases resolveSymbol (lead ++ "ACCENT") Color.numberOf? symbol with
    | error e => exact .inl ⟨e, rfl, rfl⟩
    | ok n => exact .inr ⟨n, _, rfl, rfl, hset rfl⟩

theorem opts_step (h : s.Matches w) (hd : Option.Rel Matches defaults defaults') :
    ∃ w', (Statement.mergeMap ⟨"opts", "OPTS"⟩).apply run env lead defaults' w = .ok w' ∧
      Matches { s with opts := (s.loadBody env lead defaults).opts } w' := by
  refine ⟨_, rfl, h.set Key.field_injective .opts ⟨_, rfl, fun k => ?_⟩⟩
  have hheld := get?_mapEntries (h.holds .opts) k
  rw [Entries.get?_insertAbsent]
  cases hd with
  | none => exact (Option.or_none).trans hheld
  | some hb =>
    refine Eq.trans ?_ (Entries.get?_insertAbsent k s.opts _).symm
    exact congrArg₂ Option.or hheld (get?_mapEntries (hb.holds .opts) k)

theorem reporting_step (h : s.Matches w) (hd : Option.Rel Matches defaults defaults') :
    ∃ w', (Statement.nested ⟨"reporting", "REPORTING"⟩ "Reporting").apply
        (serviceUnit.populateWithin env (depth + 1)) env lead defaults' w = .ok w' ∧
      Matches { s with reporting := (s.loadBody env lead defaults).reporting } w' := by
  have hbody : (s.loadBody env lead defaults).reporting = some ((s.reporting.getD .empty).load env
      (lead ++ "REPORTING" ++ "_") (defaults.bind (·.reporting))) := by
    rw [String.append_assoc]
    rfl
  rw [hbody]
  obtain ⟨herror, hmatches⟩ := Reporting.populate_matches depth env
    (lead ++ "REPORTING" ++ "_") (rel_getD (h.holds .reporting) Reporting.matches_empty)
    (rel_default? hd fun _ _ hb => hb.holds .reporting)
  exact ⟨_, Statement.apply_nested_of_ok herror, h.set Key.field_injective .reporting
    (.some hmatches)⟩

/-- filling a matching value goes as loading the service goes, up to where it stops -/
theorem populate_agrees (h : s.Matches w) (hd : Option.Rel Matches defaults defaults') :
    (s.load env lead defaults).Agrees
      (serviceUnit.populateWithin env (depth + 2) "Service" w lead defaults') := by
  let run := serviceUnit.populateWithin env (depth + 1)
  have hrun : serviceUnit.populateWithin env (depth + 2) "Service" w lead defaults' =
      applyAll run env lead defaults' w serviceProcedure.statements := by
    have hprocedure : serviceUnit.procedure? "Service" = some serviceProcedure := by decide
    rw [LoaderUnit.populateWithin, hprocedure]
  obtain ⟨w1, hrun1, h1⟩ := name_step run env lead h hd
  obtain ⟨w2, hrun2, h2⟩ := timeout_step run env lead h1 hd
  rw [hrun, serviceProcedure, applyAll_of_ok hrun1, applyAll_of_ok hrun2]
  unfold load
  rcases tags_step run env lead h2 hd with ⟨e, htags, hrun3⟩ | ⟨ns, w3, htags, hrun3, h3⟩
  · have htags : (s.loadHead env lead defaults).loadTags env lead defaults = .error e := htags
    simp only [htags]
    rw [applyAll_of_error hrun3]
    exact ⟨h2, rfl⟩
  have htags : (s.loadHead env lead defaults).loadTags env lead defaults = .ok ns := htags
  simp only [htags]
  obtain ⟨w4, hrun4, h4⟩ := opts_step run env lead h3 hd
  obtain ⟨w5, hrun5, h5⟩ := reporting_step depth env lead h4 hd
  rw [applyAll_of_ok hrun3, applyAll_of_ok hrun4, applyAll_of_ok hrun5]
  rcases accent_step run env lead h5 hd with ⟨e, haccent, hrun6⟩ | ⟨n, w6, haccent, hrun6, h6⟩
  · have haccent : ({ s.loadHead env lead defaults with tags := ns }.loadBody env lead
        defaults).loadAccent env lead defaults = .error e := haccent
    simp only [haccent]
    rw [applyAll_of_error hrun6]
    exact ⟨h5, rfl⟩
  · have haccent : ({ s.loadHead env lead defaults with tags := ns }.loadBody env lead
        defaults).loadAccent env lead defaults = .ok n := haccent
    simp only [haccent]
    rw [applyAll_of_ok hrun6, applyAll]
    exact ⟨h6, rfl⟩

end Service

end

/-! ### runs -/

/-- a step of a run whose states and defaults are of type `σ` -/
inductive ServiceStep (σ : Type) where
  | load (env : Environment) (lead : String) (defaults : Option σ)
  | putAllOpts (news : Entries String)

/-- both sides load from the same environment with matching defaults, or put the same map -/
inductive ServiceStep.Matches : ServiceStep Service → ServiceStep Value → Prop where
  | load {env : Environment} {lead : String} {defaults : Option Service}
      {defaults' : Option Value} (h : Option.Rel Service.Matches defaults defaults') :
      Matches (.load env lead defaults) (.load env lead defaults')
  | putAllOpts {news news' : Entries String}
      (h : ∀ k, (Entries.ofList news).get? k = (Entries.ofList news').get? k) :
      Matches (.putAllOpts news) (.putAllOpts news')

namespace Service

def step (s : Service) : ServiceStep Service → Loaded
  | .load env lead defaults => s.load env lead defaults
  | .putAllOpts news => ⟨s.putAllOpts news, none⟩

/-- what comes of each step of a run; a step that stops leaves the service as it has filled it -/
def outcomes (s : Service) : List (ServiceStep Service) → List Loaded
  | [] => []
  | step :: steps => s.step step :: (s.step step).service.outcomes steps

end Service

namespace LoaderUnit

/-- a step on a value, with the procedure of `Service` -/
def serviceStep (u : LoaderUnit) (w : Value) : ServiceStep Value → Population
  | .load env lead defaults => u.populate env "Service" w lead defaults
  | .putAllOpts news => ⟨w.putAll "opts" news, none⟩

def serviceOutcomes (u : LoaderUnit) (w : Value) : List (ServiceStep Value) → List Population
  | [] => []
  | step :: steps =>
    u.serviceStep w step :: u.serviceOutcomes (u.serviceStep w step).value steps

end LoaderUnit

theorem Service.step_agrees {s : Service} {w : Value} {step : ServiceStep Service}
    {step' : ServiceStep Value} (h : s.Matches w) (hstep : step.Matches step') :
    (s.step step).Agrees (serviceUnit.serviceStep w step') := by
  cases hstep with
  | load hd => exact Service.populate_agrees _ _ _ h hd
  | putAllOpts hnews =>
    refine ⟨h.set Key.field_injective .opts
      ⟨_, rfl, fun k => ?_⟩, rfl⟩
    show (Entries.insertAll _ _).get? k = (s.opts.insertAll _).get? k
    rw [Entries.get?_insertAll, Entries.get?_insertAll, hnews]
    exact congrArg _ (get?_mapEntries (h.holds .opts) k)

/-- Over every run of loadings and of maps put into the options, the service and the value that
the emitted procedures fill agree after each step, also after those that stop at an unknown
symbol. -/
theorem Service.outcomes_agree {s : Service} {w : Value} {steps : List (ServiceStep Service)}
    {steps' : List (ServiceStep Value)} (h : s.Matches w)
    (hsteps : List.Forall₂ ServiceStep.Matches steps steps') :
    ∃ set unit, SchemaSet.load "service.proto" serviceSchema (.given []) = .ok set ∧
      LoaderUnit.emit set (.of "rust") = .ok unit ∧
        List.Forall₂ Loaded.Agrees (s.outcomes steps) (unit.serviceOutcomes w steps') := by
  obtain ⟨set, hset, hunit⟩ := emit_serviceSchema
  refine ⟨set, serviceUnit, hset, hunit, ?_⟩
  -- the unit is the same in each step, so only the service and the value change
  clear hset hunit
  induction hsteps generalizing s w with
  | nil => exact .nil
  | cons hstep _ ih =>
    have hagrees := Service.step_agrees h hstep
    exact .cons hagrees (ih hagrees.service)

/-- a loading that stops at `PINK`, a map put into the options, and a loading that ends -/
def pinkSteps {σ : Type} (defaults : σ) : List (ServiceStep σ) :=
  [.load (.table [("TAGS", "RED, PINK")]) "" none, .putAllOpts [("zone", "b")],
    .load (.table [("ACCENT", "BLUE")]) "" (some defaults)]

theorem Service.outcomes_agree_pink :
    ((Service.empty.outcomes (pinkSteps .empty)).map (·.error?) =
      [some ⟨"TAGS", "PINK"⟩, none, none]) ∧
    ∃ set unit, SchemaSet.load "service.proto" serviceSchema (.given []) = .ok set ∧
      LoaderUnit.emit set (.of "rust") = .ok unit ∧
        List.Forall₂ Loaded.Agrees (Service.empty.outcomes (pinkSteps .empty))
          (unit.serviceOutcomes (.empty "Service") (pinkSteps (.empty "Service"))) :=
  ⟨by decide +kernel, outcomes_agree matches_empty
    (.cons (.load .none) (.cons (.putAllOpts fun _ => rfl)
      (.cons (.load (.some matches_empty)) .nil)))⟩

end EnvConfig
