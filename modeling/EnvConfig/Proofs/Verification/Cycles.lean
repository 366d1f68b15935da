import EnvConfig.Nesting
import Mathlib.Data.List.Nodup
import Mathlib.Logic.Relation

/-!
# Messages that hold themselves

What holds what is a graph on the messages of all files.  The walk of `Home.check` knows a message
by its full name; that is enough, because among the messages that a name can lead to no two have
the same full name (`Home.eq_of_fullName`).

* `Home.Holds`: an edge of the graph;
* `Home.cycle_of_check`: the message that stops the walk lies on a cycle;
* `Home.finished_of_check`: a walk that is not stopped finishes every name after the names of what
  it holds, so that nothing it has met lies on a cycle (`Finished.acyclic`);
* `SchemaSet.recursive?_eq_none`: the walk from the root file is stopped exactly if it can meet a
  cycle.
-/

namespace EnvConfig

open Relation

/-- A field of `h`, neither repeated nor one of several alternatives, has a type that means `p` in
the file of `h`. -/
def Home.Holds (set : SchemaSet) (h p : Home) : Prop :=
  ∃ f ∈ h.message.fields, f.label ≠ .repeated ∧ (∀ group, f.label ≠ .oneof group) ∧
    f.type.definition? set h.file = some (.message p.file p.message)

/-- the message lies on a cycle -/
def Home.OnCycle (set : SchemaSet) (h : Home) : Prop := TransGen (Home.Holds set) h h

/-- a message of the root file is the message, or holds it at some depth -/
def SchemaSet.Reaches (set : SchemaSet) (h : Home) : Prop :=
  ∃ r ∈ set.rootHomes, ReflTransGen (Home.Holds set) r h

/-- the message is what its full name means -/
def Home.Found (set : SchemaSet) (h : Home) : Prop :=
  set.findFull h.fullName = some (.message h.file h.message)

theorem Label.holds_iff (l : Label) :
    l.holds = true ↔ l ≠ .repeated ∧ ∀ group, l ≠ .oneof group := by
  cases l <;> simp [Label.holds]

theorem Definition.home?_eq_some {d : Definition} {h : Home} :
    d.home? = some h ↔ d = .message h.file h.message := by
  cases d with
  | message f m =>
    obtain ⟨g, n⟩ := h
    simp [Definition.home?]
  | enum f e => simp [Definition.home?]

theorem Home.holds_iff_mem_parts {set : SchemaSet} {h p : Home} :
    h.Holds set p ↔ p ∈ h.parts set := by
  simp only [Holds, parts, List.mem_filterMap, Field.held?]
  refine exists_congr fun f => and_congr_right fun _ => ?_
  by_cases hl : f.label.holds = true
  · rw [if_pos hl, Option.bind_eq_some_iff]
    simp only [Definition.home?_eq_some, exists_eq_right, ← and_assoc]
    rw [← Label.holds_iff, and_iff_right hl]
  · rw [if_neg hl, ← and_assoc, ← Label.holds_iff]
    simp [hl]

/-! ### full names -/

theorem File.fullName_injective (f : File) {a b : String} (h : f.fullName a = f.fullName b) :
    a = b := by
  unfold fullName at h
  split at h
  · exact String.append_right_inj _ |>.mp h
  · exact h

theorem SchemaSet.fullName_of_findFull {set : SchemaSet} {full : String} {f : File} {m : Message}
    (h : set.findFull full = some (.message f m)) : f.fullName m.name = full := by
  obtain ⟨g, -, hd⟩ := List.exists_of_findSome?_eq_some h
  unfold File.definition? at hd
  rcases Option.or_eq_some_iff.mp hd with hd | ⟨-, hd⟩
  · obtain ⟨n, hn, hnm⟩ := Option.map_eq_some_iff.mp hd
    cases hnm
    simpa using List.find?_some hn
  · obtain ⟨e, -, he⟩ := Option.map_eq_some_iff.mp hd
    cases he

theorem Home.found_of_findFull {set : SchemaSet} {full : String} {h : Home}
    (hd : set.findFull full = some (.message h.file h.message)) : h.Found set := by
  have hname : h.fullName = full := SchemaSet.fullName_of_findFull hd
  unfold Found
  rw [hname, hd]

/-- what a name leads to is found under its full name -/
theorem Home.Holds.found {set : SchemaSet} {h p : Home} (hp : h.Holds set p) : p.Found set := by
  obtain ⟨f, -, -, -, hd⟩ := hp
  unfold FieldType.definition? at hd
  split at hd
  · unfold SchemaSet.resolveFrom at hd
    split at hd
    · exact found_of_findFull hd
    · obtain ⟨_, _, hd⟩ := List.exists_of_findSome?_eq_some hd
      exact found_of_findFull hd
  · cases hd

/-- the root file comes first, so its messages are found if their names are different -/
theorem SchemaSet.found_of_mem_rootHomes {set : SchemaSet}
    (hnodup : (set.root.messages.map (·.name)).Nodup) {h : Home} (hh : h ∈ set.rootHomes) :
    h.Found set := by
  obtain ⟨m, hm, rfl⟩ := List.mem_map.mp hh
  have hfind : set.root.messages.find? (fun n => set.root.fullName n.name ==
      set.root.fullName m.name) = some m := by
    cases hf : set.root.messages.find? (fun n => set.root.fullName n.name ==
        set.root.fullName m.name) with
    | none => exact absurd (List.find?_eq_none.mp hf m hm) (by simp)
    | some n =>
      have hname := File.fullName_injective _ (by simpa using List.find?_some hf)
      rw [List.inj_on_of_nodup_map hnodup (List.mem_of_find?_eq_some hf) hm hname]
  show set.files.findSome? _ = _
  simp only [files, List.findSome?_cons, File.definition?, Home.fullName, hfind, Option.map_some,
    Option.some_or]

theorem Home.eq_of_fullName {set : SchemaSet} {g h : Home} (hg : g.Found set) (hh : h.Found set)
    (hname : g.fullName = h.fullName) : g = h := by
  unfold Found at hg hh
  rw [hname, hh] at hg
  obtain ⟨f, m⟩ := g
  obtain ⟨f', m'⟩ := h
  simp only [Option.some.injEq, Definition.message.injEq] at hg
  rw [hg.1, hg.2]

/-! ### a walk that is stopped -/

namespace Home

variable {set : SchemaSet}

/-- every name on the trail is that of a message that holds all of `hs` at some depth -/
def Trail (set : SchemaSet) (trail : List String) (hs : List Home) : Prop :=
  ∀ n ∈ trail, ∃ t : Home, t.Found set ∧ t.fullName = n ∧ ∀ h ∈ hs, TransGen (Holds set) t h

theorem Trail.tail {trail : List String} {h : Home} {rest : List Home}
    (ht : Trail set trail (h :: rest)) : Trail set trail rest := by
  intro n hn
  obtain ⟨t, hfound, hname, hholds⟩ := ht n hn
  exact ⟨t, hfound, hname, fun h hh => hholds h (List.mem_cons_of_mem _ hh)⟩

/-- one level down the message itself is on the trail -/
theorem Trail.parts {trail : List String} {h : Home} {rest : List Home}
    (ht : Trail set trail (h :: rest)) (hh : h.Found set) :
    Trail set (h.fullName :: trail) (h.parts set) := by
  intro n hn
  rcases List.mem_cons.mp hn with rfl | hn
  · exact ⟨h, hh, rfl, fun p hp => .single (holds_iff_mem_parts.mpr hp)⟩
  · obtain ⟨t, hfound, hname, hholds⟩ := ht n hn
    exact ⟨t, hfound, hname, fun p hp =>
      (hholds h List.mem_cons_self).tail (holds_iff_mem_parts.mpr hp)⟩

theorem found_of_mem_parts {h p : Home} (hp : p ∈ h.parts set) : p.Found set :=
  (holds_iff_mem_parts.mpr hp).found

theorem cycle_of_check {trail done : List String} {hs : List Home}
    {known : ∀ h ∈ hs, h ∈ set.homes} {g : Home} (hcheck : check set trail done hs known = .error g)
    (hfound : ∀ h ∈ hs, h.Found set) (htrail : Trail set trail hs) :
    g.OnCycle set ∧ ∃ h ∈ hs, ReflTransGen (Holds set) h g := by
  fun_induction check set trail done hs known with
  | case1 => cases hcheck
  | case2 trail done h rest _ hrest hdone _ ih =>
    obtain ⟨hcycle, h', hh', hreach⟩ :=
      ih hcheck (fun h hh => hfound h (List.mem_cons_of_mem _ hh)) htrail.tail
    exact ⟨hcycle, h', List.mem_cons_of_mem _ hh', hreach⟩
  | case3 trail done h rest _ hrest hdone ht =>
    cases hcheck
    obtain ⟨t, htfound, hname, hholds⟩ := htrail g.fullName (by simpa using ht)
    have hcycle := hholds g List.mem_cons_self
    rw [eq_of_fullName htfound (hfound g List.mem_cons_self) hname] at hcycle
    exact ⟨hcycle, g, List.mem_cons_self, .refl⟩
  | case4 trail done h rest _ hrest hdone ht hless g' hparts _ ih =>
    cases hcheck
    obtain ⟨hcycle, p, hp, hreach⟩ := ih hparts (fun p hp => found_of_mem_parts hp)
      (htrail.parts (hfound h List.mem_cons_self))
    exact ⟨hcycle, h, List.mem_cons_self, .head (holds_iff_mem_parts.mpr hp) hreach⟩
  | case5 trail done h rest _ hrest hdone ht hless done' hparts _ ihparts ih =>
    obtain ⟨hcycle, h', hh', hreach⟩ :=
      ih hcheck (fun h hh => hfound h (List.mem_cons_of_mem _ hh)) htrail.tail
    exact ⟨hcycle, h', List.mem_cons_of_mem _ hh', hreach⟩

/-! ### a walk that is not stopped -/

/-- each name of the list stands before the names of what its message holds -/
inductive Finished (set : SchemaSet) : List String → Prop
  | nil : Finished set []
  | cons {n : String} {done : List String} (h : Finished set done)
      (hn : ∀ g : Home, g.Found set → g.fullName = n → ∀ p, g.Holds set p → p.fullName ∈ done) :
      Finished set (n :: done)

theorem Finished.closed {done : List String} (hdone : Finished set done) {g p : Home}
    (hg : g.Found set) (hmem : g.fullName ∈ done) (hp : g.Holds set p) : p.fullName ∈ done := by
  induction hdone with
  | nil => cases hmem
  | cons _ hn ih =>
    refine List.mem_cons_of_mem _ ?_
    rcases List.mem_cons.mp hmem with hname | hmem
    · exact hn g hg hname p hp
    · exact ih hmem

theorem Finished.mem_of_reach {done : List String} (hdone : Finished set done) {g p : Home}
    (hg : g.Found set) (hmem : g.fullName ∈ done) (hp : ReflTransGen (Holds set) g p) :
    p.Found set ∧ p.fullName ∈ done := by
  induction hp with
  | refl => exact ⟨hg, hmem⟩
  | tail _ hp ih => exact ⟨hp.found, hdone.closed ih.1 ih.2 hp⟩

/-- a message whose name is finished holds only messages that were finished before it -/
theorem Finished.acyclic {done : List String} (hdone : Finished set done) {g : Home}
    (hg : g.Found set) (hmem : g.fullName ∈ done) : ¬ g.OnCycle set := by
  induction hdone with
  | nil => cases hmem
  | cons hdone hn ih =>
    rename_i n done
    by_cases hold : g.fullName ∈ done
    · exact ih hold
    · intro hcycle
      have hname : g.fullName = n := (List.mem_cons.mp hmem).resolve_right hold
      obtain ⟨p, hp, hback⟩ := TransGen.head'_iff.mp hcycle
      exact hold (hdone.mem_of_reach hp.found (hn g hg hname p hp) hback).2

theorem finished_of_check {trail done : List String} {hs : List Home}
    {known : ∀ h ∈ hs, h ∈ set.homes} {done' : List String}
    (hcheck : check set trail done hs known = .ok done') (hfound : ∀ h ∈ hs, h.Found set)
    (hdone : Finished set done) :
    Finished set done' ∧ (∀ n ∈ done, n ∈ done') ∧ ∀ h ∈ hs, h.fullName ∈ done' := by
  fun_induction check set trail done hs known generalizing done' with
  | case1 =>
    cases hcheck
    exact ⟨hdone, fun _ hn => hn, by simp⟩
  | case2 trail done h rest _ hrest hmem _ ih =>
    obtain ⟨hfinished, hsub, hall⟩ :=
      ih hcheck (fun h hh => hfound h (List.mem_cons_of_mem _ hh)) hdone
    refine ⟨hfinished, hsub, fun h' hh' => ?_⟩
    rcases List.mem_cons.mp hh' with rfl | hh'
    · exact hsub _ (by simpa using hmem)
    · exact hall h' hh'
  | case3 => cases hcheck
  | case4 => cases hcheck
  | case5 trail done h rest _ hrest hmem ht hless done₁ hparts _ ihparts ih =>
    obtain ⟨hfinished₁, hsub₁, hall₁⟩ := ihparts hparts (fun p hp => found_of_mem_parts hp) hdone
    -- what the message holds is finished by now, so its name may come before all of them
    have hself : Finished set (h.fullName :: done₁) := .cons hfinished₁ fun g hg hname p hp => by
      rw [eq_of_fullName hg (hfound h List.mem_cons_self) hname] at hp
      exact hall₁ p (holds_iff_mem_parts.mp hp)
    obtain ⟨hfinished, hsub, hall⟩ :=
      ih hcheck (fun h hh => hfound h (List.mem_cons_of_mem _ hh)) hself
    refine ⟨hfinished, fun n hn => hsub n (List.mem_cons_of_mem _ (hsub₁ n hn)), fun h' hh' => ?_⟩
    rcases List.mem_cons.mp hh' with rfl | hh'
    · exact hsub _ List.mem_cons_self
    · exact hall h' hh'

end Home

/-! ### the walk from the root file -/

namespace SchemaSet

variable {set : SchemaSet}

/-- the message that stops the walk lies on a cycle that the root file reaches -/
theorem cycle_of_recursive? (hnodup : (set.root.messages.map (·.name)).Nodup) {h : Home}
    (hh : set.recursive? = some h) : h.OnCycle set ∧ set.Reaches h := by
  unfold recursive? at hh
  split at hh
  · cases hh
  · rename_i g hcheck
    cases hh
    exact Home.cycle_of_check hcheck (fun h hh => found_of_mem_rootHomes hnodup hh)
      fun n hn => absurd hn List.not_mem_nil

theorem recursive?_eq_none (hnodup : (set.root.messages.map (·.name)).Nodup) :
    set.recursive? = none ↔ ∀ h, set.Reaches h → ¬ h.OnCycle set := by
  constructor
  · intro hnone h hreach
    unfold recursive? at hnone
    split at hnone
    · rename_i done hcheck
      obtain ⟨r, hr, hreach⟩ := hreach
      obtain ⟨hfinished, -, hall⟩ :=
        Home.finished_of_check hcheck (fun h hh => found_of_mem_rootHomes hnodup hh) .nil
      obtain ⟨hfound, hmem⟩ :=
        hfinished.mem_of_reach (found_of_mem_rootHomes hnodup hr) (hall r hr) hreach
      exact hfinished.acyclic hfound hmem
    · cases hnone
  · intro hall
    cases hrec : set.recursive? with
    | none => rfl
    | some h =>
      obtain ⟨hcycle, hreach⟩ := cycle_of_recursive? hnodup hrec
      exact absurd hcycle (hall h hreach)

/-- where every message has a higher rank than those that it holds, none holds itself -/
theorem recursive?_eq_none_of_rank (rank : Home → Nat)
    (hnodup : (set.root.messages.map (·.name)).Nodup)
    (hrank : ∀ h ∈ set.homes, ∀ p ∈ h.parts set, rank p < rank h) : set.recursive? = none := by
  refine (recursive?_eq_none hnodup).mpr fun h _ hcycle => ?_
  have hrun : ∀ p, TransGen (Home.Holds set) h p →
      p ∈ set.homes ∧ (h ∈ set.homes → rank p < rank h) := by
    intro p hp
    induction hp with
    | single hstep =>
      have hpart := Home.holds_iff_mem_parts.mp hstep
      exact ⟨Home.parts_subset hpart, fun hh => hrank _ hh _ hpart⟩
    | tail _ hstep ih =>
      have hpart := Home.holds_iff_mem_parts.mp hstep
      exact ⟨Home.parts_subset hpart, fun hh => Nat.lt_trans (hrank _ ih.1 _ hpart) (ih.2 hh)⟩
  obtain ⟨hmem, hlt⟩ := hrun h hcycle
  exact Nat.lt_irrefl _ (hlt hmem)

end SchemaSet

end EnvConfig
