import EnvConfig.Proofs.Population.Again
import EnvConfig.Proofs.Population.Typing

/-!
# A loaded value over its life

After a value has been loaded it may be loaded again, from another environment and with other
defaults, and texts may be put into its maps.  Some of these runs stop half-way.

* `Operation`: what may be done to a value;
* `LoaderUnit.Keeps`: what operations keep of a value;
* `LoaderUnit.keeps_apply`: one operation, `LoaderUnit.keeps_afterAll`: any number of them;
* `LoaderUnit.operations_keep`: the same between two moments of a sequence of operations, and that
  nothing is unset any more after a run that has gone to its end.
-/

namespace EnvConfig

open Number

/-- what may be done to a message -/
inductive Operation where
  | populate (env : Environment) (lead : String) (defaults : Option Value)
  /-- texts are put into the map in a field -/
  | putAll (field : String) (news : Entries String)

namespace Operation

/-- the value after an operation on `w`, also one that stops -/
def apply (u : LoaderUnit) (message : String) (w : Value) : Operation → Value
  | populate env lead defaults => (u.populate env message w lead defaults).value
  | putAll field news => w.putAll field news

/-- defaults are well typed, and texts are put into maps of the message only -/
def Allowed (u : LoaderUnit) (message : String) : Operation → Prop
  | populate _ _ defaults => ∀ d ∈ defaults, u.WellTyped message d
  | putAll field _ =>
    ∃ p, u.procedure? message = some p ∧ ∃ slot ∈ p.mapMutators, slot.name = field

/-- the text that an operation puts at the key `k` of the map at the end of `path` -/
def put? (path : List String) (k : String) : Operation → Option String
  | populate _ _ _ => none
  | putAll field news => if path = [field] then (Entries.ofList news).get? k else none

end Operation

/-- the text at the key `k` of the map at the end of `path`, if there is one -/
def Value.textAt? (path : List String) (k : String) (w : Value) : Option String :=
  (mapEntries (w.at? path)).get? k

namespace LoaderUnit

/-- the value after operations, one after the other -/
def afterAll (u : LoaderUnit) (message : String) (w : Value) (ops : List Operation) : Value :=
  ops.foldl (Operation.apply u message) w

/-- What the operations `ops` keep, when they lead from `w` to `w'`: the message is well typed, no
field with a statement becomes unset, and each key of a map keeps the text that was put there
last. -/
structure Keeps (u : LoaderUnit) (message : String) (ops : List Operation) (w w' : Value) :
    Prop where
  wellTyped : u.WellTyped message w'
  isSet : ∀ slots s, u.Leads message slots s →
    (w.at? (pathTo slots s)).isSome → (w'.at? (pathTo slots s)).isSome
  entries : ∀ slots slot, u.Leads message slots (.mergeMap slot) → ∀ k text,
    (ops.filterMap (·.put? (pathTo slots (.mergeMap slot)) k)).getLast?.or
        (w.textAt? (pathTo slots (.mergeMap slot)) k) = some text →
      w'.textAt? (pathTo slots (.mergeMap slot)) k = some text

theorem afterAll_nil (u : LoaderUnit) (message : String) (w : Value) :
    u.afterAll message w [] = w := rfl

theorem afterAll_cons (u : LoaderUnit) (message : String) (w : Value) (op : Operation)
    (ops : List Operation) :
    u.afterAll message w (op :: ops) = u.afterAll message (op.apply u message w) ops := rfl

theorem afterAll_append (u : LoaderUnit) (message : String) (w : Value)
    (ops ops' : List Operation) :
    u.afterAll message w (ops ++ ops') = u.afterAll message (u.afterAll message w ops) ops' :=
  List.foldl_append ..

variable {set : SchemaSet} {t : Target} {u : LoaderUnit} {message : String} {w : Value}

/-! ### texts put into a map -/

/-- putting texts into a map of the message changes that map and nothing else -/
theorem at?_putAll (hu : emit set t = .ok u) (hw : w.IsMessage) {p : Procedure}
    (hp : u.procedure? message = some p) {slot : Slot} (hslot : slot ∈ p.mapMutators)
    (news : Entries String) {slots : List Slot} {s : Statement} (hs : u.Leads message slots s) :
    (w.putAll slot.name news).at? (pathTo slots s) =
      if pathTo slots s = [slot.name] then
        some (.map ((mapEntries (w.at? (pathTo slots s))).insertAll news))
      else w.at? (pathTo slots s) := by
  have hmap := Procedure.mergeMap_of_mem_mapMutators hslot
  have hnodup := names_nodup hu (mem_of_procedure? hp)
  unfold Value.putAll
  cases hs with
  | @here _ p' _ hp' hmem =>
    obtain rfl : p = p' := Option.some.inj (hp.symm.trans hp')
    rw [Value.at?_pathTo_nil]
    show _ = if [s.slot.name] = [slot.name] then _ else _
    by_cases hname : s.slot.name = slot.name
    · rw [hname, if_pos rfl, hw.get?_set]
    · rw [Value.get?_set_of_ne _ w hname, if_neg (by simpa using hname)]
  | @inside _ inner p' first slots _ hp' hfirst h =>
    obtain rfl : p = p' := Option.some.inj (hp.symm.trans hp')
    -- the first field on the path has another statement
    have hname : first.name ≠ slot.name := fun he => by
      have hsame := List.inj_on_of_nodup_map hnodup hfirst hmap he
      cases hsame
    rw [if_neg (by simp [pathTo_cons, hname]), pathTo_cons, Value.at?_cons, Value.at?_cons,
      Value.get?_set_of_ne _ w hname]

theorem wellTyped_putAll (hu : emit set t = .ok u) (hw : u.WellTyped message w) {p : Procedure}
    (hp : u.procedure? message = some p) {slot : Slot} (hslot : slot ∈ p.mapMutators)
    (news : Entries String) : u.WellTyped message (w.putAll slot.name news) :=
  hw.set_field hu hp (Procedure.mergeMap_of_mem_mapMutators hslot)
    (fits_of_shape ⟨_, rfl⟩ (by simp))

/-! ### one operation -/

theorem keeps_apply (hu : emit set t = .ok u) (hw : u.WellTyped message w) {op : Operation}
    (hop : op.Allowed u message) : u.Keeps message [op] w (op.apply u message w) := by
  cases op with
  | populate env lead defaults =>
    refine ⟨wellTyped_populateWithin hu env _ _ _ _ _ hw hop, fun slots s hs hset => ?_,
      fun slots slot hs k text htext => ?_⟩
    · show ((u.populate env message w lead defaults).value.at? (pathTo slots s)).isSome
      rcases at?_populateWithin hu hw.nestsMessages hs with ⟨_, v, -, hafter⟩ | ⟨-, hafter⟩
      · exact Option.isSome_iff_exists.mpr ⟨v, hafter⟩
      · exact (congrArg Option.isSome hafter).trans hset
    · have hheld : w.textAt? (pathTo slots (.mergeMap slot)) k = some text := by
        simpa [Operation.put?] using htext
      unfold Value.textAt? at hheld ⊢
      show (mapEntries ((u.populate env message w lead defaults).value.at? _)).get? k = some text
      rcases at?_populateWithin hu hw.nestsMessages hs with ⟨_, v, hv, hafter⟩ | ⟨-, hafter⟩
      · cases hv
        rw [populate, hafter]
        show (Entries.insertAbsent _ _).get? k = some text
        rw [Entries.get?_insertAbsent, hheld]
        rfl
      · rw [populate, hafter]
        exact hheld
  | putAll field news =>
    obtain ⟨p, hp, slot, hslot, rfl⟩ := hop
    refine ⟨wellTyped_putAll hu hw hp hslot news, fun slots s hs hset => ?_,
      fun slots slot' hs k text htext => ?_⟩
    · show ((w.putAll slot.name news).at? (pathTo slots s)).isSome
      rw [at?_putAll hu hw.isMessage hp hslot news hs]
      split
      · rfl
      · exact hset
    · show (mapEntries ((w.putAll slot.name news).at? _)).get? k = some text
      rw [at?_putAll hu hw.isMessage hp hslot news hs]
      by_cases hpath : pathTo slots (.mergeMap slot') = [slot.name]
      · rw [if_pos hpath]
        show (Entries.insertAll _ news).get? k = some text
        rw [Entries.get?_insertAll]
        have hput : (Operation.putAll slot.name news).put? (pathTo slots (.mergeMap slot')) k =
            (Entries.ofList news).get? k := if_pos hpath
        rw [List.filterMap_cons, hput] at htext
        cases hnew : (Entries.ofList news).get? k with
        | none =>
          rw [hnew] at htext
          exact htext
        | some text' =>
          rw [hnew] at htext
          exact htext
      · have hput : (Operation.putAll slot.name news).put? (pathTo slots (.mergeMap slot')) k =
            none := if_neg hpath
        rw [List.filterMap_cons, hput] at htext
        rw [if_neg hpath]
        exact htext

/-! ### operations in a row -/

theorem Keeps.trans {ops ops' : List Operation} {w' w'' : Value}
    (h : u.Keeps message ops w w') (h' : u.Keeps message ops' w' w'') :
    u.Keeps message (ops ++ ops') w w'' := by
  refine ⟨h'.wellTyped, fun slots s hs hset => h'.isSet slots s hs (h.isSet slots s hs hset),
    fun slots slot hs k text htext => h'.entries slots slot hs k text ?_⟩
  rw [List.filterMap_append, List.getLast?_append, Option.or_assoc] at htext
  rcases Option.or_eq_some_iff.mp htext with hlast | ⟨hnone, htext⟩
  · rw [hlast, Option.some_or]
  · rw [hnone, Option.none_or]
    exact h.entries slots slot hs k text htext

theorem keeps_afterAll (hu : emit set t = .ok u) (hw : u.WellTyped message w)
    {ops : List Operation} (hops : ∀ op ∈ ops, op.Allowed u message) :
    u.Keeps message ops w (u.afterAll message w ops) := by
  induction ops generalizing w with
  | nil =>
    exact ⟨hw, fun _ _ _ hset => hset, fun _ _ _ _ _ htext => htext⟩
  | cons op ops ih =>
    have hfirst := keeps_apply hu hw (hops op List.mem_cons_self)
    have hrest := ih hfirst.wellTyped fun op hop => hops op (List.mem_cons_of_mem _ hop)
    exact hfirst.trans hrest

/-- Whatever is done to a well-typed message, it stays well typed.  Between any two moments, no
field with a statement becomes unset, at any depth, and each key of a map has the text that was put
there last, or if none was the text that it had.  After the first run that goes to its end, no such
field is unset. -/
theorem operations_keep (hu : emit set t = .ok u) (hw : u.WellTyped message w)
    {before after : List Operation} (hops : ∀ op ∈ before ++ after, op.Allowed u message) :
    u.WellTyped message (u.afterAll message w (before ++ after)) ∧
      (∀ slots s, u.Leads message slots s →
        ((u.afterAll message w before).at? (pathTo slots s)).isSome →
          ((u.afterAll message w (before ++ after)).at? (pathTo slots s)).isSome) ∧
      (∀ slots slot, u.Leads message slots (.mergeMap slot) → ∀ k text,
        (after.filterMap (·.put? (pathTo slots (.mergeMap slot)) k)).getLast?.or
            ((u.afterAll message w before).textAt? (pathTo slots (.mergeMap slot)) k) = some text →
          (u.afterAll message w (before ++ after)).textAt? (pathTo slots (.mergeMap slot)) k =
            some text) ∧
      ∀ earlier env lead defaults later,
        before = earlier ++ .populate env lead defaults :: later →
          (u.populate env message (u.afterAll message w earlier) lead defaults).error? = none →
            ∀ slots s, u.Leads message slots s →
              ((u.afterAll message w (before ++ after)).at? (pathTo slots s)).isSome := by
  have hbefore := keeps_afterAll hu hw fun op hop => hops op (List.mem_append_left _ hop)
  have hafter := keeps_afterAll hu hbefore.wellTyped fun op hop =>
    hops op (List.mem_append_right _ hop)
  rw [afterAll_append]
  refine ⟨hafter.wellTyped, hafter.isSet, hafter.entries, ?_⟩
  rintro earlier env lead defaults later rfl herror slots s hs
  -- nothing is unset right after that run, and the operations that follow keep it so
  have hearlierOps : ∀ op ∈ earlier, op.Allowed u message := fun op hop => hops op (by simp [hop])
  have hlaterOps : ∀ op ∈ later, op.Allowed u message := fun op hop => hops op (by simp [hop])
  have hearlier := keeps_afterAll hu hw hearlierOps
  have hrun := keeps_apply hu hearlier.wellTyped (hops (.populate env lead defaults) (by simp))
  have hlater := keeps_afterAll hu hrun.wellTyped hlaterOps
  refine hafter.isSet slots s hs ?_
  rw [afterAll_append, afterAll_cons]
  refine hlater.isSet slots s hs ?_
  rcases at?_populateWithin hu hearlier.wellTyped.nestsMessages hs with
    ⟨_, v, -, hv⟩ | ⟨hstopped, -⟩
  · exact Option.isSome_iff_exists.mpr ⟨v, hv⟩
  · exact absurd herror hstopped

end LoaderUnit

/-! ### a run that stops, one that does not, and a text put into a map -/

theorem wellTyped_meterOf (level : Double) (mode : Int32) (labels : Entries String) (limit : Int32)
    (title : String) : meterUnit.WellTyped "Meter" (meterOf level mode labels limit title) := by
  have hmeter : meterUnit.procedure? "Meter" = some meterProcedure := by decide +kernel
  have hpanel : meterUnit.procedure? "Panel" = some panelProcedure := by decide +kernel
  have hinner : meterUnit.WellTyped "Panel" (.message "Panel" [("title", .string title)]) := by
    refine LoaderUnit.wellTyped_iff.mpr ⟨⟨_, _, rfl⟩, fun p hp s hs v hv => ?_⟩
    rw [hpanel] at hp
    cases hp
    cases List.mem_singleton.mp hs
    cases hv
    exact LoaderUnit.fits_of_shape rfl (by simp)
  refine LoaderUnit.wellTyped_iff.mpr ⟨⟨_, _, rfl⟩, fun p hp s hs v hv => ?_⟩
  rw [hmeter] at hp
  cases hp
  simp only [meterProcedure, List.mem_cons, List.not_mem_nil, or_false] at hs
  rcases hs with rfl | rfl | rfl | rfl | rfl <;> cases hv
  · exact LoaderUnit.fits_of_shape rfl (by simp)
  · exact LoaderUnit.fits_of_shape ⟨mode, rfl⟩ (by simp)
  · exact LoaderUnit.fits_of_shape ⟨labels, rfl⟩ (by simp)
  · exact LoaderUnit.fits_of_shape rfl (by simp)
  · refine ⟨⟨_, _, rfl⟩, fun slot inner he => ?_⟩
    cases he
    exact hinner

/-- a loading that stops at an unknown symbol, and one that goes to its end -/
def loadings : List Operation :=
  [.populate (.table [("LEVEL", "2.5"), ("MODE", "BROKEN")]) "" none,
    .populate (.table [("LIMIT", "4")]) ""
      (some (meterOf .zero 1 [("a", "1"), ("b", "2")] 7 "north"))]

/-- a text put over another one, and a loading that has other texts as defaults -/
def laterOperations : List Operation :=
  [.putAll "labels" [("a", "9")],
    .populate (.table []) "" (some (meterOf .zero 0 [("a", "3"), ("b", "4")] 0 "south"))]

theorem operations_keep_meter :
    LoaderUnit.emit meterSchema ⟨"rust"⟩ = .ok meterUnit ∧
      meterUnit.WellTyped "Meter" (.empty "Meter") ∧
      (∀ op ∈ loadings ++ laterOperations, op.Allowed meterUnit "Meter") ∧
      ∃ w, meterUnit.afterAll "Meter" (.empty "Meter") (loadings ++ laterOperations) = w ∧
        meterUnit.WellTyped "Meter" w ∧ (w.at? ["limit"]).isSome ∧
        w.textAt? ["labels"] "a" = some "9" ∧ w.textAt? ["labels"] "b" = some "2" ∧
        (w.at? ["panel", "title"]).isSome := by
  have hmeter : meterUnit.procedure? "Meter" = some meterProcedure := by decide +kernel
  have hpanel : meterUnit.procedure? "Panel" = some panelProcedure := by decide +kernel
  have hops : ∀ op ∈ loadings ++ laterOperations, op.Allowed meterUnit "Meter" := by
    simp only [loadings, laterOperations, List.cons_append, List.nil_append, List.mem_cons,
      List.not_mem_nil, or_false]
    rintro op (rfl | rfl | rfl | rfl)
    · exact fun d hd => (by cases hd)
    · rintro d ⟨⟩
      exact wellTyped_meterOf ..
    · exact ⟨meterProcedure, hmeter, ⟨"labels", "LABELS"⟩, by decide +kernel, rfl⟩
    · rintro d ⟨⟩
      exact wellTyped_meterOf ..
  have hlabels : meterUnit.Leads "Meter" [] (.mergeMap ⟨"labels", "LABELS"⟩) :=
    .here hmeter (by decide +kernel)
  have hlimit : meterUnit.Leads "Meter" [] (.wrapper ⟨"limit", "LIMIT"⟩ (.optional .int32)) :=
    .here hmeter (by decide +kernel)
  have htitle : meterUnit.Leads "Meter" [⟨"panel", "PANEL"⟩] (.scalar ⟨"title", "TITLE"⟩ .string) :=
    .inside hmeter (by decide +kernel) (.here hpanel (by decide +kernel))
  have hempty := LoaderUnit.wellTyped_empty meterUnit "Meter" "Meter"
  obtain ⟨htyped, hset, htexts, hloaded⟩ := LoaderUnit.operations_keep emit_meterSchema hempty hops
  exact ⟨emit_meterSchema, hempty, hops, _, rfl, htyped, hset _ _ hlimit rfl,
    htexts _ _ hlabels "a" "9" rfl, htexts _ _ hlabels "b" "2" rfl,
    hloaded [_] _ _ _ [] rfl (by decide +kernel) _ _ htitle⟩

end EnvConfig
