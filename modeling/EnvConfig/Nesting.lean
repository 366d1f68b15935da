import EnvConfig.SchemaSet

/-!
# Messages inside messages

A message holds another one directly when a field of it has that message as its type, and is
neither repeated nor one of several alternatives.  A message must not hold itself, at any depth.

`Home.check` walks through what messages hold, depth first.  The names on the way down are the
trail, the names that are finished need no second visit.  A message that is met on its own trail
is what the check refuses.  The walk ends because a trail never repeats a name.
-/

set_option linter.unusedVariables false

namespace EnvConfig

/-- a message with the file that declares it -/
structure Home where
  file : File
  message : Message
deriving Repr, DecidableEq

def Home.fullName (h : Home) : String := h.file.fullName h.message.name

/-- the messages of all files -/
def SchemaSet.homes (set : SchemaSet) : List Home :=
  set.files.flatMap fun f => f.messages.map fun m => ⟨f, m⟩

theorem SchemaSet.mem_homes {set : SchemaSet} {f : File} {m : Message} :
    ⟨f, m⟩ ∈ set.homes ↔ f ∈ set.files ∧ m ∈ f.messages := by
  simp only [homes, List.mem_flatMap, List.mem_map, Home.mk.injEq]
  constructor
  · rintro ⟨g, hg, n, hn, rfl, rfl⟩
    exact ⟨hg, hn⟩
  · rintro ⟨hf, hm⟩
    exact ⟨f, hf, m, hm, rfl, rfl⟩

/-- a field with this label holds its value directly -/
def Label.holds : Label → Bool
  | plain | optional => true
  | repeated | oneof _ => false

def Definition.home? : Definition → Option Home
  | message f m => some ⟨f, m⟩
  | enum _ _ => none

/-- the message that a field of a message of `file` holds directly -/
def Field.held? (set : SchemaSet) (file : File) (f : Field) : Option Home :=
  if f.label.holds then (f.type.definition? set file).bind Definition.home? else none

/-- the messages that a message holds directly, field by field -/
def Home.parts (set : SchemaSet) (h : Home) : List Home :=
  h.message.fields.filterMap (·.held? set h.file)

theorem SchemaSet.mem_homes_of_findFull {set : SchemaSet} {full : String} {d : Definition}
    {h : Home} (hd : set.findFull full = some d) (hh : d.home? = some h) : h ∈ set.homes := by
  obtain ⟨f, hf, hd⟩ := List.exists_of_findSome?_eq_some hd
  unfold File.definition? at hd
  rcases Option.or_eq_some_iff.mp hd with hd | ⟨-, hd⟩
  · obtain ⟨m, hm, rfl⟩ := Option.map_eq_some_iff.mp hd
    cases hh
    exact mem_homes.mpr ⟨hf, List.mem_of_find?_eq_some hm⟩
  · obtain ⟨e, -, rfl⟩ := Option.map_eq_some_iff.mp hd
    cases hh

theorem SchemaSet.mem_homes_of_resolveFrom {set : SchemaSet} {f : File} {name : String}
    {d : Definition} {h : Home} (hd : set.resolveFrom f name = some d) (hh : d.home? = some h) :
    h ∈ set.homes := by
  unfold resolveFrom at hd
  split at hd
  · exact mem_homes_of_findFull hd hh
  · obtain ⟨_, _, hd⟩ := List.exists_of_findSome?_eq_some hd
    exact mem_homes_of_findFull hd hh

theorem Home.parts_subset {set : SchemaSet} {h p : Home} (hp : p ∈ h.parts set) :
    p ∈ set.homes := by
  obtain ⟨f, -, hf⟩ := List.mem_filterMap.mp hp
  unfold Field.held? at hf
  split at hf
  · obtain ⟨d, hd, hh⟩ := Option.bind_eq_some_iff.mp hf
    unfold FieldType.definition? at hd
    split at hd
    · exact SchemaSet.mem_homes_of_resolveFrom hd hh
    · cases hd
  · cases hf

/-- the full names of all messages -/
def SchemaSet.fullNames (set : SchemaSet) : List String := set.homes.map Home.fullName

/-- walks through `hs` and what they hold: the finished names, or the message on its own trail -/
def Home.check (set : SchemaSet) (trail done : List String) (hs : List Home)
    (known : ∀ h ∈ hs, h ∈ set.homes) : Except Home (List String) :=
  match hs with
  | [] => .ok done
  | h :: rest =>
    have hrest : ∀ g ∈ rest, g ∈ set.homes := fun g hg => known g (List.mem_cons_of_mem h hg)
    if done.contains h.fullName then check set trail done rest hrest
    else if ht : trail.contains h.fullName then .error h
    else
      have hless := length_remaining_cons_lt
        (List.mem_map_of_mem (known h List.mem_cons_self)) (Bool.eq_false_iff.mpr ht)
      match check set (h.fullName :: trail) done (h.parts set) (fun _ hp => parts_subset hp) with
      | .error g => .error g
      | .ok done' => check set trail (h.fullName :: done') rest hrest
termination_by ((remaining set.fullNames trail).length, hs.length)
decreasing_by
  · exact Prod.Lex.right _ (Nat.lt_succ_self _)
  · exact Prod.Lex.left _ _ hless
  · exact Prod.Lex.right _ (Nat.lt_succ_self _)

/-- the messages of the root file -/
def SchemaSet.rootHomes (set : SchemaSet) : List Home :=
  set.root.messages.map fun m => ⟨set.root, m⟩

theorem SchemaSet.rootHomes_subset {set : SchemaSet} {h : Home} (hh : h ∈ set.rootHomes) :
    h ∈ set.homes := by
  obtain ⟨m, hm, rfl⟩ := List.mem_map.mp hh
  exact mem_homes.mpr ⟨List.mem_cons_self, hm⟩

/-- the message that the walk from the root file meets on its own trail -/
def SchemaSet.recursive? (set : SchemaSet) : Option Home :=
  match Home.check set [] [] set.rootHomes (fun _ hh => rootHomes_subset hh) with
  | .ok _ => none
  | .error h => some h

end EnvConfig
