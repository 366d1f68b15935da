import EnvConfig.Proofs.Population.Filling

/-!
# Values of the right shape

A message is well typed for a unit when each field that is set holds a value of the kind that its
statement prescribes, and nested messages are well typed in turn.  Fields without a statement may
hold anything.

* `Statement.Shapes`: the kind of value that a statement prescribes;
* `LoaderUnit.WellTyped`: well-typed messages;
* `LoaderUnit.wellTyped_iff`: one level of a well-typed message, with `LoaderUnit.Fits` for what a
  field may hold;
* `LoaderUnit.wellTyped_populateWithin`: a run keeps a message well typed, wherever it stops.
-/

namespace EnvConfig

/-- the storage kind of a scalar -/
def Value.storage? : Value → Option Storage
  | bool _ => some .bool
  | int32 _ => some .int32
  | int64 _ => some .int64
  | uint32 _ => some .uint32
  | uint64 _ => some .uint64
  | float _ => some .float
  | double _ => some .double
  | string _ => some .string
  | list _ | map _ | message _ _ => none

/-- `v` is of the kind that a statement prescribes for its field -/
def Statement.Shapes (v : Value) : Statement → Prop
  | scalar _ kind => v.storage? = some kind.storage
  | wrapper _ shape => v.storage? = some shape.scalar.storage
  | enum _ _ => ∃ n, v = .int32 n
  | enumList _ _ => ∃ ns : List Int32, v = .list (ns.map .int32)
  | nested _ _ => v.IsMessage
  | mergeMap _ => ∃ es, v = .map es

/-- a message in which every set field with a statement holds what the statement prescribes, at any
depth -/
inductive LoaderUnit.WellTyped (u : LoaderUnit) : String → Value → Prop
  | of_fields {message name : String} {fields : Entries Value}
      (shapes : ∀ p, u.procedure? message = some p → ∀ s ∈ p.statements, ∀ v,
        fields.get? s.slot.name = some v → s.Shapes v)
      (inside : ∀ p, u.procedure? message = some p → ∀ slot inner,
        .nested slot inner ∈ p.statements → ∀ v, fields.get? slot.name = some v →
          WellTyped u inner v) :
      WellTyped u message (.message name fields)

/-- `v` may stand in the field of a statement -/
structure LoaderUnit.Fits (u : LoaderUnit) (s : Statement) (v : Value) : Prop where
  shape : s.Shapes v
  inside : ∀ slot inner, s = .nested slot inner → u.WellTyped inner v

namespace LoaderUnit

variable {set : SchemaSet} {t : Target} {u : LoaderUnit} {message : String} {w : Value}

/-! ### one level of a message -/

theorem wellTyped_iff : u.WellTyped message w ↔ w.IsMessage ∧
    ∀ p, u.procedure? message = some p → ∀ s ∈ p.statements, ∀ v,
      w.get? s.slot.name = some v → u.Fits s v := by
  constructor
  · rintro ⟨hshapes, hinside⟩
    refine ⟨⟨_, _, rfl⟩, fun p hp s hs v hv => ⟨hshapes p hp s hs v hv, ?_⟩⟩
    rintro slot inner rfl
    exact hinside p hp slot inner hs v hv
  · rintro ⟨⟨name, fields, rfl⟩, hfits⟩
    exact .of_fields (fun p hp s hs v hv => (hfits p hp s hs v hv).shape)
      fun p hp slot inner hs v hv => (hfits p hp _ hs v hv).inside slot inner rfl

theorem wellTyped_empty (u : LoaderUnit) (message name : String) :
    u.WellTyped message (.empty name) :=
  .of_fields (fun _ _ _ _ _ hv => (by cases hv)) fun _ _ _ _ _ _ hv => (by cases hv)

theorem WellTyped.isMessage (hw : u.WellTyped message w) : w.IsMessage := (wellTyped_iff.mp hw).1

theorem WellTyped.fits (hw : u.WellTyped message w) {p : Procedure}
    (hp : u.procedure? message = some p) {s : Statement} (hs : s ∈ p.statements) :
    ∀ v ∈ w.get? s.slot.name, u.Fits s v :=
  (wellTyped_iff.mp hw).2 p hp s hs

theorem WellTyped.fits_default {defaults : Option Value}
    (hd : ∀ d ∈ defaults, u.WellTyped message d) {p : Procedure}
    (hp : u.procedure? message = some p) {s : Statement} (hs : s ∈ p.statements) :
    ∀ v ∈ default? defaults s.slot.name, u.Fits s v := by
  intro v hv
  obtain ⟨d, hd', hv⟩ := Option.bind_eq_some_iff.mp hv
  exact (hd d hd').fits hp hs v hv

/-- no other statement has the field -/
theorem WellTyped.set_field (hu : emit set t = .ok u) (hw : u.WellTyped message w) {p : Procedure}
    (hp : u.procedure? message = some p) {s : Statement} (hs : s ∈ p.statements) {v : Value}
    (hv : u.Fits s v) : u.WellTyped message (w.set s.slot.name v) := by
  refine wellTyped_iff.mpr ⟨hw.isMessage.set _ v, fun p' hp' s' hs' v' hv' => ?_⟩
  obtain rfl : p = p' := Option.some.inj (hp.symm.trans hp')
  by_cases hname : s'.slot.name = s.slot.name
  · have hsame : s' = s :=
      List.inj_on_of_nodup_map (names_nodup hu (mem_of_procedure? hp)) hs' hs hname
    rw [hname, hw.isMessage.get?_set] at hv'
    rw [hsame, ← Option.some.inj hv']
    exact hv
  · rw [Value.get?_set_of_ne v w hname] at hv'
    exact hw.fits hp hs' v' hv'

/-! ### paths -/

/-- what stands at the end of a path fits the last statement of the path -/
theorem WellTyped.fits_at? (hw : u.WellTyped message w) {slots : List Slot} {s : Statement}
    (hs : u.Leads message slots s) : ∀ v ∈ w.at? (pathTo slots s), u.Fits s v := by
  induction hs generalizing w with
  | @here message p s hp hs =>
    rw [Value.at?_pathTo_nil]
    exact hw.fits hp hs
  | @inside message inner p slot slots s hp hslot _ ih =>
    intro v hv
    rw [pathTo_cons, Value.at?_cons] at hv
    obtain ⟨x, hx, hv⟩ := Option.bind_eq_some_iff.mp hv
    exact ih ((hw.fits hp hslot x hx).inside slot inner rfl) v hv

theorem WellTyped.nestsMessages (hw : u.WellTyped message w) : u.NestsMessages message w :=
  ⟨hw.isMessage, fun _ _ _ hs v hv => (hw.fits_at? hs v hv).shape⟩

end LoaderUnit

/-! ### one statement -/

theorem forall_mem_or {P : Value → Prop} {a b : Option Value} (ha : ∀ v ∈ a, P v)
    (hb : ∀ v ∈ b, P v) : ∀ v ∈ a.or b, P v := by
  intro v hv
  rcases Option.or_eq_some_iff.mp hv with h | ⟨-, h⟩
  · exact ha v h
  · exact hb v h

theorem of_getD {P : Value → Prop} {o : Option Value} {zero : Value} (ho : ∀ v ∈ o, P v)
    (hzero : P zero) : P (o.getD zero) := by
  cases o with
  | none => exact hzero
  | some v => exact ho v rfl

theorem forall_mem_nonZero {P : Value → Prop} {o : Option Value} (ho : ∀ v ∈ o, P v) :
    ∀ v ∈ nonZero o, P v :=
  fun v hv => ho v (Option.eq_some_of_filter_eq_some hv)

theorem Value.storage?_zero (s : Storage) : (Value.zero s).storage? = some s := by cases s <;> rfl

theorem Environment.storage?_of_mem_scalar? {env : Environment} {key : String} {kind : Storage} :
    ∀ v ∈ env.scalar? key kind, v.storage? = some kind := by
  intro v hv
  cases kind <;>
    (obtain ⟨x, -, rfl⟩ := Option.map_eq_some_iff.mp hv
     rfl)

namespace LoaderUnit

variable {set : SchemaSet} {t : Target} {u : LoaderUnit} {env : Environment}

/-- runs of this kind keep messages well typed -/
def KeepsTypes (u : LoaderUnit) (run : Run) : Prop :=
  ∀ message w lead defaults, u.WellTyped message w → (∀ d ∈ defaults, u.WellTyped message d) →
    u.WellTyped message (run message w lead defaults).value

theorem fits_of_shape {s : Statement} {v : Value} (h : s.Shapes v)
    (hs : ∀ slot inner, s ≠ .nested slot inner) : u.Fits s v :=
  ⟨h, fun slot inner he => absurd he (hs slot inner)⟩

/-- a statement puts in its field what fits there, if it finds only what fits -/
theorem fits_filled {run : Run} (hrun : u.KeepsTypes run) {s : Statement} {key : String}
    {held default : Option Value} {v : Value} (hheld : ∀ x ∈ held, u.Fits s x)
    (hdefault : ∀ x ∈ default, u.Fits s x) (h : s.filled run env key held default = .ok v) :
    u.Fits s v := by
  have hshape : ∀ x ∈ held, s.Shapes x := fun x hx => (hheld x hx).shape
  have hshape' : ∀ x ∈ default, s.Shapes x := fun x hx => (hdefault x hx).shape
  have hfallBack : ∀ {zero : Value}, s.Shapes zero →
      s.Shapes (((nonZero held).or (nonZero default)).getD zero) := fun hzero =>
    of_getD (forall_mem_or (forall_mem_nonZero hshape) (forall_mem_nonZero hshape')) hzero
  cases s with
  | scalar slot kind =>
    cases h
    refine fits_of_shape (of_getD (forall_mem_or (forall_mem_or ?_ (forall_mem_nonZero hshape))
      (forall_mem_nonZero hshape')) (Value.storage?_zero _)) (by simp)
    exact Environment.storage?_of_mem_scalar?
  | wrapper slot shape =>
    cases h
    refine fits_of_shape (of_getD (forall_mem_or (forall_mem_or ?_ hshape) hshape')
      (Value.storage?_zero _)) (by simp)
    exact Environment.storage?_of_mem_scalar?
  | enum slot table =>
    simp only [Statement.filled] at h
    refine fits_of_shape ?_ (by simp)
    split at h
    · split at h
      · cases h
        exact ⟨_, rfl⟩
      · cases h
    · cases h
      exact hfallBack ⟨0, rfl⟩
  | enumList slot table =>
    simp only [Statement.filled] at h
    refine fits_of_shape ?_ (by simp)
    split at h
    · split at h
      · cases h
        exact ⟨_, rfl⟩
      · cases h
    · cases h
      exact hfallBack ⟨[], rfl⟩
  | nested slot inner =>
    have hvalue : (run inner (held.getD (.empty inner)) (key ++ "_") default).value = v :=
      congrArg Population.value (Statement.of_filled_nested h)
    have htyped : u.WellTyped inner v := by
      rw [← hvalue]
      refine hrun inner _ _ _ ?_ fun d hd => (hdefault d hd).inside slot inner rfl
      exact of_getD (fun x hx => (hheld x hx).inside slot inner rfl) (wellTyped_empty u inner inner)
    refine ⟨htyped.isMessage, fun slot' inner' he => ?_⟩
    cases he
    exact htyped
  | mergeMap slot =>
    cases h
    exact fits_of_shape ⟨_, rfl⟩ (by simp)

/-! ### runs -/

theorem wellTyped_applyAll (hu : emit set t = .ok u) {run : Run} (hrun : u.KeepsTypes run)
    {message lead : String} {w : Value} {defaults : Option Value} {p : Procedure}
    (hp : u.procedure? message = some p) {ss : List Statement} (hss : ss ⊆ p.statements)
    (hw : u.WellTyped message w) (hd : ∀ d ∈ defaults, u.WellTyped message d) :
    u.WellTyped message (applyAll run env lead defaults w ss).value := by
  induction ss generalizing w with
  | nil => exact hw
  | cons s ss ih =>
    obtain ⟨hs, hss⟩ := List.cons_subset.mp hss
    unfold applyAll
    split
    · rename_i w' hw'
      obtain ⟨v, hv, rfl⟩ := Statement.filled_of_apply hw'
      exact ih hss (hw.set_field hu hp hs
        (fits_filled hrun (hw.fits hp hs) (WellTyped.fits_default hd hp hs) hv))
    · exact hw

theorem wellTyped_populateWithin (hu : emit set t = .ok u) (env : Environment) (depth : Nat) :
    u.KeepsTypes (u.populateWithin env depth) := by
  induction depth with
  | zero => exact fun _ _ _ _ hw _ => hw
  | succ depth ih =>
    intro message w lead defaults hw hd
    unfold populateWithin
    split
    · exact hw
    · rename_i p hp
      exact wellTyped_applyAll hu ih hp (List.Subset.refl _) hw hd

end LoaderUnit

end EnvConfig
