import EnvConfig.Proofs.Emission
import EnvConfig.Proofs.Population.Step

/-!
# Population, field by field

A run of a procedure is a walk through nested procedures.  Each field at the end of a path is filled
from the one variable that belongs to the path, from what stood there before and from what the
defaults have there; no other statement has a part in it.

* `LoaderUnit.Leads`: the paths through nested statements to a statement;
* `Value.at?`: the value at the end of a path;
* `LoaderUnit.populate_at_path`: what a run leaves there.
-/

namespace EnvConfig

/-- nested statements with the slots `slots`, one inside the other, lead from the procedure of
`message` to the statement `s` -/
inductive LoaderUnit.Leads (u : LoaderUnit) : String → List Slot → Statement → Prop
  | here {message : String} {p : Procedure} {s : Statement} (hp : u.procedure? message = some p)
      (hs : s ∈ p.statements) : Leads u message [] s
  | inside {message inner : String} {p : Procedure} {slot : Slot} {slots : List Slot}
      {s : Statement} (hp : u.procedure? message = some p)
      (hslot : .nested slot inner ∈ p.statements) (h : Leads u inner slots s) :
      Leads u message (slot :: slots) s

/-- the value at the end of a path of fields; none if a field on the path is unset -/
def Value.at? : List String → Value → Option Value
  | [], w => some w
  | field :: fields, w => (w.get? field).bind (at? fields)

theorem Value.at?_cons (field : String) (fields : List String) (w : Value) :
    w.at? (field :: fields) = (w.get? field).bind (at? fields) := rfl

/-- the fields on the way to a statement, its own field last -/
def pathTo (slots : List Slot) (s : Statement) : List String :=
  slots.map (·.name) ++ [s.slot.name]

/-- the variable of a statement that `slots` lead to -/
def variableOf (lead : String) (slots : List Slot) (s : Statement) : String :=
  lead ++ "_".intercalate (slots.map (·.fragment) ++ [s.slot.fragment])

/-- `w` is a message, and so is everything that it has in nested fields -/
def LoaderUnit.NestsMessages (u : LoaderUnit) (message : String) (w : Value) : Prop :=
  w.IsMessage ∧ ∀ slots slot inner, u.Leads message slots (.nested slot inner) →
    ∀ v, w.at? (pathTo slots (.nested slot inner)) = some v → v.IsMessage

theorem variableOf_nil (lead : String) (s : Statement) :
    variableOf lead [] s = lead ++ s.slot.fragment := by
  simp [variableOf]

/-- an inner procedure runs with the fragment of its field and an underscore in its lead -/
theorem variableOf_cons (lead : String) (slot : Slot) (slots : List Slot) (s : Statement) :
    variableOf lead (slot :: slots) s = variableOf (lead ++ slot.fragment ++ "_") slots s := by
  unfold variableOf
  cases slots with
  | nil => simp [String.intercalate_cons_cons, String.append_assoc]
  | cons t ts => simp [String.intercalate_cons_cons, String.append_assoc]

theorem pathTo_cons (slot : Slot) (slots : List Slot) (s : Statement) :
    pathTo (slot :: slots) s = slot.name :: pathTo slots s := rfl

theorem Value.at?_pathTo_nil (s : Statement) :
    Value.at? (pathTo [] s) = Value.get? s.slot.name := by
  funext w
  show (w.get? s.slot.name).bind some = _
  exact Option.bind_fun_some _

/-- nothing is set in a message without fields -/
theorem Value.at?_empty (name : String) (slots : List Slot) (s : Statement) :
    (empty name).at? (pathTo slots s) = none := by
  cases slots <;> rfl

namespace LoaderUnit

variable {set : SchemaSet} {t : Target} {u : LoaderUnit}

theorem mem_of_procedure? {message : String} {p : Procedure} (h : u.procedure? message = some p) :
    p ∈ u.procedures := List.mem_of_find?_eq_some h

/-- what an inner procedure starts with nests messages too -/
theorem NestsMessages.inner {message inner : String} {p : Procedure} {slot : Slot} {w : Value}
    (hw : u.NestsMessages message w) (hp : u.procedure? message = some p)
    (hslot : .nested slot inner ∈ p.statements) :
    u.NestsMessages inner ((w.get? slot.name).getD (.empty inner)) := by
  cases hheld : w.get? slot.name with
  | none =>
    refine ⟨Value.isMessage_empty inner, fun slots slot' inner' _ v hv => ?_⟩
    rw [Option.getD_none, Value.at?_empty] at hv
    cases hv
  | some held =>
    refine ⟨hw.2 [] slot inner (.here hp hslot) held ?_, fun slots slot' inner' h v hv => ?_⟩
    · show (w.get? slot.name).bind (Value.at? []) = some held
      rw [hheld]
      rfl
    · refine hw.2 (slot :: slots) slot' inner' (.inside hp hslot h) v ?_
      rw [pathTo_cons, Value.at?_cons, hheld]
      exact hv

/-- what an inner procedure starts with holds at every path what the outer value holds there -/
theorem at?_inner (w : Value) (field inner : String) (slots : List Slot) (s : Statement) :
    ((w.get? field).getD (.empty inner)).at? (pathTo slots s) =
      (w.get? field).bind (Value.at? (pathTo slots s)) := by
  cases w.get? field with
  | none => exact Value.at?_empty inner slots s
  | some held => rfl

theorem populateWithin_isMessage {env : Environment} {depth : Nat} {message lead : String}
    {w : Value} {defaults : Option Value} (h : w.IsMessage) :
    (u.populateWithin env depth message w lead defaults).value.IsMessage := by
  cases depth with
  | zero => exact h
  | succ depth =>
    unfold populateWithin
    split
    · exact h
    · exact isMessage_applyAll h

/-- A run that does not stop, however many procedures it may have inside each other, has left at the
end of every path what the last statement of the path leaves there. -/
theorem populate_at_path (hu : emit set t = .ok u) {env : Environment} {depth : Nat}
    {message lead : String} {w : Value} {defaults : Option Value}
    (hw : u.NestsMessages message w)
    (h : (u.populateWithin env depth message w lead defaults).error? = none)
    {slots : List Slot} {s : Statement} (hs : u.Leads message slots s) :
    ∃ v, (u.populateWithin env depth message w lead defaults).value.at? (pathTo slots s) = some v ∧
      s.Leaves env (variableOf lead slots s) (w.at? (pathTo slots s))
        (defaults.bind (Value.at? (pathTo slots s))) v := by
  -- along the path: an inner run has a longer lead, and starts with what its field holds
  induction hs generalizing depth lead w defaults with
  | @here message p s hp hs =>
    cases depth with
    | zero => cases h
    | succ depth =>
      simp only [populateWithin, hp] at h ⊢
      obtain ⟨before, after, happly, hheld, hmessage, hafter⟩ :=
        of_applyAll (names_nodup hu (mem_of_procedure? hp)) h hs
      rw [variableOf_nil]
      simp only [Value.at?_pathTo_nil, hafter]
      by_cases hnested : ∃ slot inner, s = .nested slot inner
      · obtain ⟨slot, inner, rfl⟩ := hnested
        obtain ⟨-, rfl⟩ := Statement.of_apply_nested happly
        refine ⟨_, (hmessage hw.1).get?_set _ _, populateWithin_isMessage ?_⟩
        exact ((hheld ▸ hw.inner hp hs) : u.NestsMessages inner _).1
      · push Not at hnested
        obtain ⟨v, rfl, hleaves⟩ := Statement.of_apply hnested happly
        rw [hheld] at hleaves
        exact ⟨v, (hmessage hw.1).get?_set _ _, hleaves⟩
  | @inside message inner p slot slots s hp hslot hs ih =>
    cases depth with
    | zero => cases h
    | succ depth =>
      simp only [populateWithin, hp] at h ⊢
      obtain ⟨before, after, happly, hheld, hmessage, hafter⟩ :=
        of_applyAll (names_nodup hu (mem_of_procedure? hp)) h hslot
      obtain ⟨herror, rfl⟩ := Statement.of_apply_nested happly
      simp only [Statement.slot] at hheld hafter
      rw [(hmessage hw.1).get?_set, hheld] at hafter
      rw [hheld] at herror
      obtain ⟨v, hv, hleaves⟩ := ih (hw.inner hp hslot) herror
      rw [at?_inner] at hleaves
      refine ⟨v, ?_, ?_⟩
      · rw [pathTo_cons, Value.at?_cons, hafter]
        exact hv
      · rw [variableOf_cons, pathTo_cons]
        have hdefault : defaults.bind (Value.at? (slot.name :: pathTo slots s)) =
            (default? defaults slot.name).bind (Value.at? (pathTo slots s)) := by
          unfold default?
          rw [Option.bind_assoc]
          rfl
        rw [hdefault]
        exact hleaves

end LoaderUnit

/-! ### a message inside a message -/

/-- `Outer` holds `Inner`, which holds a number -/
def nestedSchema : SchemaSet :=
  ⟨⟨"nested.proto", none, none, [], [],
    [⟨"Outer", .start, [⟨"inner", .start, .named "Inner", 1, .plain, [], .all⟩], [], .all⟩,
     ⟨"Inner", .start, [⟨"level", .start, .named "int32", 1, .plain, [], .all⟩], [], .all⟩], []⟩,
   []⟩

def nestedUnit : LoaderUnit :=
  ⟨"nested.proto", [⟨"Outer", [.nested ⟨"inner", "INNER"⟩ "Inner"]⟩,
    ⟨"Inner", [.scalar ⟨"level", "LEVEL"⟩ .int32]⟩]⟩

/-- an `Outer` whose number is `n` -/
def outerOf (n : Int32) : Value :=
  .message "Outer" [("inner", .message "Inner" [("level", .int32 n)])]

theorem nestsMessages_outerOf (n : Int32) : nestedUnit.NestsMessages "Outer" (outerOf n) := by
  have houter : nestedUnit.procedure? "Outer" =
      some ⟨"Outer", [.nested ⟨"inner", "INNER"⟩ "Inner"]⟩ := by decide +kernel
  have hinner : nestedUnit.procedure? "Inner" =
      some ⟨"Inner", [.scalar ⟨"level", "LEVEL"⟩ .int32]⟩ := by decide +kernel
  have hleaf : ∀ slots slot inner, ¬ nestedUnit.Leads "Inner" slots (.nested slot inner) := by
    intro slots slot inner h
    cases h with
    | here hp hs => rw [hinner] at hp; cases hp; simp at hs
    | inside hp hslot h => rw [hinner] at hp; cases hp; simp at hslot
  refine ⟨⟨_, _, rfl⟩, fun slots slot inner h v hv => ?_⟩
  cases h with
  | here hp hs =>
    rw [houter] at hp
    cases hp
    simp only [List.mem_singleton, Statement.nested.injEq] at hs
    obtain ⟨rfl, rfl⟩ := hs
    cases hv
    exact ⟨_, _, rfl⟩
  | inside hp hslot h =>
    rw [houter] at hp
    cases hp
    simp only [List.mem_singleton, Statement.nested.injEq] at hslot
    obtain ⟨rfl, rfl⟩ := hslot
    exact absurd h (hleaf _ slot inner)

/-- a variable that is no number counts as unset, and a zero gives way to the default -/
theorem populate_at_path_inner_level :
    LoaderUnit.emit nestedSchema ⟨"rust"⟩ = .ok nestedUnit ∧
      nestedUnit.NestsMessages "Outer" (outerOf 0) ∧
      ∃ v, (nestedUnit.populate (.table [("X_INNER_LEVEL", "high")]) "Outer" (outerOf 0) "X_"
          (some (outerOf 7))).value.at? ["inner", "level"] = some v ∧
        Statement.Leaves (.table [("X_INNER_LEVEL", "high")]) "X_INNER_LEVEL" (some (.int32 0))
          (some (.int32 7)) v (.scalar ⟨"level", "LEVEL"⟩ .int32) := by
  have hemit : LoaderUnit.emit nestedSchema ⟨"rust"⟩ = .ok nestedUnit := by decide +kernel
  have hleads : nestedUnit.Leads "Outer" [⟨"inner", "INNER"⟩] (.scalar ⟨"level", "LEVEL"⟩ .int32) :=
    .inside (p := ⟨"Outer", [.nested ⟨"inner", "INNER"⟩ "Inner"]⟩) (by decide +kernel)
      List.mem_cons_self
      (.here (p := ⟨"Inner", [.scalar ⟨"level", "LEVEL"⟩ .int32]⟩) (by decide +kernel)
        List.mem_cons_self)
  exact ⟨hemit, nestsMessages_outerOf 0,
    LoaderUnit.populate_at_path hemit (nestsMessages_outerOf 0) (by decide +kernel) hleads⟩

end EnvConfig
