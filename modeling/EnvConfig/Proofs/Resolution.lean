import EnvConfig.Proofs.Verification.Cycles
import EnvConfig.Text.Segment

/-!
# What a type name means

The search for a type name goes through the scopes around a package and, in each of them, through
the files of the set.  Here the meaning of a name is said without the search.

* `File.Defines`, `SchemaSet.Finds`: a file defines a full name; the definition of a full name that
  counts is that of the first file that defines it;
* `Encloses`, `mem_scopes_iff`: the scopes around a package;
* `SchemaSet.Means`: the definition that a name means in a file, in the innermost scope that has
  one;
* `SchemaSet.resolveFrom_exact`: the search finds the definition that a name means, and fails only
  if there is none; packages are told apart by whole segments.
-/

namespace EnvConfig

open Text

/-! ### definitions of a full name -/

/-- the definition of a full name in a file: a message, or an enum if no message has the name -/
inductive File.Defines (f : File) (full : String) : Definition → Prop
  | message {m : Message} : f.fullName m.name = full → f.message? m.name = some m →
      Defines f full (.message f m)
  | enum {e : Enum} : f.fullName e.name = full → f.message? e.name = none →
      f.enum? e.name = some e → Defines f full (.enum f e)

/-- the first file that defines the full name gives it the definition `d` -/
def SchemaSet.Finds (set : SchemaSet) (full : String) (d : Definition) : Prop :=
  ∃ before f after, set.files = before ++ f :: after ∧ f.Defines full d ∧
    ∀ g ∈ before, ∀ e, ¬ g.Defines full e

theorem File.fullName_beq (f : File) (a b : String) :
    (f.fullName a == f.fullName b) = (a == b) := by
  rw [Bool.eq_iff_iff, beq_iff_eq, beq_iff_eq]
  exact ⟨f.fullName_injective, fun h => by rw [h]⟩

/-- Looking for the full name of a definition is looking for its name. -/
theorem File.definition?_fullName (f : File) (name : String) :
    f.definition? (f.fullName name) =
      ((f.message? name).map (.message f)).or ((f.enum? name).map (.enum f)) := by
  unfold definition? message? enum?
  simp only [fullName_beq]

theorem File.definition?_eq_none_of_forall_ne {f : File} {full : String}
    (h : ∀ name, f.fullName name ≠ full) : f.definition? full = none := by
  unfold definition?
  simp [h]

theorem File.definition?_eq_some_iff {f : File} {full : String} {d : Definition} :
    f.definition? full = some d ↔ f.Defines full d := by
  constructor
  · intro h
    have hex : ∃ name, f.fullName name = full := by
      by_contra hnone
      rw [definition?_eq_none_of_forall_ne fun name he => hnone ⟨name, he⟩] at h
      cases h
    obtain ⟨name, rfl⟩ := hex
    rw [definition?_fullName] at h
    rcases Option.or_eq_some_iff.mp h with hsome | ⟨hnone, hsome⟩
    · obtain ⟨m, hm, rfl⟩ := Option.map_eq_some_iff.mp hsome
      have hname : m.name = name := by simpa using List.find?_some hm
      subst hname
      exact .message rfl hm
    · obtain ⟨e, he, rfl⟩ := Option.map_eq_some_iff.mp hsome
      have hname : e.name = name := by simpa using List.find?_some he
      subst hname
      exact .enum rfl (Option.map_eq_none_iff.mp hnone) he
  · intro h
    cases h with
    | message hfull hm =>
      rw [← hfull, definition?_fullName, hm]
      rfl
    | enum hfull hnone he =>
      rw [← hfull, definition?_fullName, hnone, he]
      rfl

theorem File.definition?_eq_none_iff {f : File} {full : String} :
    f.definition? full = none ↔ ∀ d, ¬ f.Defines full d := by
  rw [Option.eq_none_iff_forall_ne_some]
  exact forall_congr' fun d => not_congr definition?_eq_some_iff

theorem SchemaSet.findFull_eq_some_iff {set : SchemaSet} {full : String} {d : Definition} :
    set.findFull full = some d ↔ set.Finds full d := by
  unfold findFull Finds
  simp only [List.findSome?_eq_some_iff, File.definition?_eq_some_iff,
    File.definition?_eq_none_iff]

theorem SchemaSet.findFull_eq_none_iff {set : SchemaSet} {full : String} :
    set.findFull full = none ↔ ∀ g ∈ set.files, ∀ d, ¬ g.Defines full d := by
  unfold findFull
  simp only [List.findSome?_eq_none_iff, File.definition?_eq_none_iff]

/-! ### the scopes around a package -/

/-- the scope is the package, the part of it before some dot, or empty -/
def Encloses (scope package : String) : Prop :=
  scope = "" ∨ scope = package ∨ ∃ rest, package = scope ++ "." ++ rest

theorem Encloses.isPrefix {scope package : String} (h : Encloses scope package) :
    scope.toList <+: package.toList := by
  obtain rfl | rfl | ⟨rest, rfl⟩ := h
  · exact List.nil_prefix
  · exact List.prefix_refl _
  · rw [String.toList_append, String.toList_append, List.append_assoc]
    exact List.prefix_append _ _

theorem Encloses.eq_of_length {a b package : String} (ha : Encloses a package)
    (hb : Encloses b package) (h : a.length = b.length) : a = b := by
  have hlength : a.toList.length = b.toList.length := by
    rw [String.length_toList, String.length_toList, h]
  have hfront := List.prefix_of_prefix_length_le ha.isPrefix hb.isPrefix (Nat.le_of_eq hlength)
  exact String.toList_inj.mp (hfront.eq_of_length hlength)

/-- the scope of the first `n` segments -/
theorem encloses_take (package : String) (n : Nat) :
    Encloses (String.ofList (join '.' ((segments '.' package.toList).take n))) package := by
  have htext : join '.' ((segments '.' package.toList).take n ++
      (segments '.' package.toList).drop n) = package.toList := by
    rw [List.take_append_drop, join_segments]
  by_cases htake : (segments '.' package.toList).take n = []
  · rw [htake]
    exact .inl rfl
  · by_cases hdrop : (segments '.' package.toList).drop n = []
    · rw [hdrop, List.append_nil] at htext
      rw [htext, String.ofList_toList]
      exact .inr (.inl rfl)
    · rw [join_append '.' htake hdrop] at htext
      refine .inr (.inr ⟨String.ofList (join '.' ((segments '.' package.toList).drop n)), ?_⟩)
      rw [← String.toList_inj]
      refine htext.symm.trans ?_
      simp

/-- A scope that is not empty is made of the first segments of the package. -/
theorem Encloses.segments_prefix {scope package : String} (h : Encloses scope package)
    (hne : scope ≠ "") : segments '.' scope.toList <+: segments '.' package.toList := by
  obtain rfl | rfl | ⟨rest, rfl⟩ := h
  · exact absurd rfl hne
  · exact List.prefix_refl _
  · have htext : (scope ++ "." ++ rest).toList = scope.toList ++ '.' :: rest.toList := by simp
    rw [htext, segments_append_cons]
    exact List.prefix_append _ _

theorem mem_scopes_iff {scope package : String} :
    scope ∈ scopes package ↔ Encloses scope package := by
  unfold scopes
  simp only [List.mem_map, List.mem_reverse, List.mem_range]
  constructor
  · rintro ⟨n, -, rfl⟩
    exact encloses_take package n
  · intro h
    by_cases hne : scope = ""
    · exact ⟨0, by omega, by rw [hne]; rfl⟩
    · obtain ⟨rest, hrest⟩ := h.segments_prefix hne
      refine ⟨(segments '.' scope.toList).length, ?_, ?_⟩
      · rw [← hrest, List.length_append]
        omega
      · rw [← hrest, List.take_left, join_segments, String.ofList_toList]

/-- The scopes are listed inside out. -/
theorem pairwise_scopes (package : String) :
    (scopes package).Pairwise fun inner outer => outer.length ≤ inner.length := by
  unfold scopes
  rw [List.pairwise_map, List.pairwise_reverse]
  refine List.pairwise_lt_range.imp fun {m n} hmn => ?_
  have htake : (segments '.' package.toList).take m <+: (segments '.' package.toList).take n :=
    List.take_prefix_take_left (Nat.le_of_lt hmn)
  have hlength := (join_of_isPrefix '.' htake).length_le
  rwa [String.length_ofList, String.length_ofList]

/-! ### what a name means -/

namespace SchemaSet

/-- the full names that `name` may stand for in `f` -/
inductive Candidate (f : File) (name : String) : String → Prop
  | absolute {full : String} : name = "." ++ full → Candidate f name full
  | relative {scope : String} : (∀ full, name ≠ "." ++ full) →
      Encloses scope (f.package.getD "") → Candidate f name (qualified scope name)

/-- The name means the definition in the file: after a leading dot the rest of it is a full name;
any other name is taken in the innermost scope in which some file defines it. -/
inductive Means (set : SchemaSet) (f : File) (name : String) (d : Definition) : Prop
  | absolute {full : String} : name = "." ++ full → set.Finds full d → Means set f name d
  | relative {scope : String} : (∀ full, name ≠ "." ++ full) →
      Encloses scope (f.package.getD "") → set.Finds (qualified scope name) d →
      (∀ inner, Encloses inner (f.package.getD "") → scope.length < inner.length →
        ∀ g ∈ set.files, ∀ e, ¬ g.Defines (qualified inner name) e) →
      Means set f name d

variable {set : SchemaSet} {f : File} {name : String}

theorem absolute?_eq_some_iff {full : String} :
    absolute? name = some full ↔ name = "." ++ full := by
  have htext : ("." ++ full).toList = '.' :: full.toList := by simp
  have hname : name = "." ++ full ↔ name.toList = '.' :: full.toList := by
    rw [← htext, String.toList_inj]
  rw [hname]
  unfold absolute?
  split
  · rename_i cs hcs
    rw [hcs, Option.some.injEq, List.cons.injEq, and_iff_right rfl, ← String.toList_inj,
      String.toList_ofList]
  · rename_i hne
    exact ⟨fun h => (Option.some_ne_none _ h.symm).elim, fun h => absurd h (hne _)⟩

theorem absolute?_eq_none_iff : absolute? name = none ↔ ∀ full, name ≠ "." ++ full := by
  rw [Option.eq_none_iff_forall_ne_some]
  exact forall_congr' fun full => not_congr absolute?_eq_some_iff

/-- The first scope in the list in which the name is defined is the innermost one. -/
theorem findSome?_scopes_eq_some_iff {package : String} {d : Definition} :
    ((scopes package).findSome? fun scope => set.findFull (qualified scope name)) = some d ↔
      ∃ scope, Encloses scope package ∧ set.Finds (qualified scope name) d ∧
        ∀ inner, Encloses inner package → scope.length < inner.length →
          ∀ g ∈ set.files, ∀ e, ¬ g.Defines (qualified inner name) e := by
  rw [List.findSome?_eq_some_iff]
  constructor
  · rintro ⟨before, scope, after, hscopes, hfound, hbefore⟩
    have hmem : scope ∈ scopes package := by
      rw [hscopes]
      exact List.mem_append_right _ List.mem_cons_self
    refine ⟨scope, mem_scopes_iff.mp hmem, findFull_eq_some_iff.mp hfound, ?_⟩
    intro inner hinner hlength
    -- a longer scope cannot stand behind this one
    have hpairwise := pairwise_scopes package
    rw [hscopes, List.pairwise_append, List.pairwise_cons] at hpairwise
    have hmem := mem_scopes_iff.mpr hinner
    rw [hscopes, List.mem_append, List.mem_cons] at hmem
    rcases hmem with hmem | rfl | hmem
    · exact findFull_eq_none_iff.mp (hbefore inner hmem)
    · exact absurd hlength (Nat.lt_irrefl _)
    · exact absurd (hpairwise.2.1.1 inner hmem) (Nat.not_le_of_lt hlength)
  · rintro ⟨scope, hscope, hfound, hinner⟩
    obtain ⟨before, after, hscopes, hnot⟩ := List.eq_append_cons_of_mem (mem_scopes_iff.mpr hscope)
    refine ⟨before, scope, after, hscopes, findFull_eq_some_iff.mpr hfound, ?_⟩
    intro inner hmem
    have hencloses : Encloses inner package :=
      mem_scopes_iff.mp (hscopes ▸ List.mem_append_left _ hmem)
    have hpairwise := pairwise_scopes package
    rw [hscopes, List.pairwise_append] at hpairwise
    have hle : scope.length ≤ inner.length := hpairwise.2.2 inner hmem scope List.mem_cons_self
    have hne : scope.length ≠ inner.length := fun h => hnot (hscope.eq_of_length hencloses h ▸ hmem)
    exact findFull_eq_none_iff.mpr (hinner inner hencloses (by omega))

theorem resolveFrom_eq_some_iff {d : Definition} :
    set.resolveFrom f name = some d ↔ set.Means f name d := by
  unfold resolveFrom
  cases habsolute : absolute? name with
  | some full =>
    have hname := absolute?_eq_some_iff.mp habsolute
    refine findFull_eq_some_iff.trans ⟨.absolute hname, fun h => ?_⟩
    cases h with
    | absolute hother hfinds =>
      rw [absolute?_eq_some_iff.mpr hother, Option.some.injEq] at habsolute
      rwa [← habsolute]
    | relative hno => exact absurd hname (hno full)
  | none =>
    have hno := absolute?_eq_none_iff.mp habsolute
    refine findSome?_scopes_eq_some_iff.trans ⟨?_, fun h => ?_⟩
    · rintro ⟨scope, hscope, hfinds, hinner⟩
      exact .relative hno hscope hfinds hinner
    · cases h with
      | absolute hname => exact absurd hname (hno _)
      | relative _ hscope hfinds hinner => exact ⟨_, hscope, hfinds, hinner⟩

theorem resolveFrom_eq_none_iff :
    set.resolveFrom f name = none ↔
      ∀ full, Candidate f name full → ∀ g ∈ set.files, ∀ d, ¬ g.Defines full d := by
  unfold resolveFrom
  cases habsolute : absolute? name with
  | some full =>
    have hname := absolute?_eq_some_iff.mp habsolute
    refine findFull_eq_none_iff.trans ⟨fun h other hother => ?_, fun h => h full (.absolute hname)⟩
    cases hother with
    | absolute hother =>
      rw [absolute?_eq_some_iff.mpr hother, Option.some.injEq] at habsolute
      rwa [habsolute]
    | relative hno => exact absurd hname (hno full)
  | none =>
    have hno := absolute?_eq_none_iff.mp habsolute
    simp only [List.findSome?_eq_none_iff, findFull_eq_none_iff, mem_scopes_iff]
    refine ⟨fun h full hfull => ?_, fun h scope hscope => h _ (.relative hno hscope)⟩
    cases hfull with
    | absolute hname => exact absurd hname (hno _)
    | relative _ hscope => exact h _ hscope

/-! ### whole segments -/

end SchemaSet

def Definition.name : Definition → String
  | message _ m => m.name
  | enum _ e => e.name

/-- the segments of the package of a file; none without a package -/
def File.packageSegments (f : File) : List (List Char) :=
  match f.package with
  | some package => segments '.' package.toList
  | none => []

/-- the segments of the full name of a definition, its own name being one -/
def Definition.path (d : Definition) : List (List Char) :=
  d.file.packageSegments ++ [d.name.toList]

/-- the names of all messages and enums are identifiers -/
def SchemaSet.HasIdentifiers (set : SchemaSet) : Prop :=
  ∀ g ∈ set.files, (∀ m ∈ g.messages, isIdentifier m.name.toList = true) ∧
    ∀ e ∈ g.enums, isIdentifier e.name.toList = true

instance (set : SchemaSet) : Decidable set.HasIdentifiers :=
  inferInstanceAs (Decidable (∀ g ∈ set.files, _ ∧ _))

theorem File.segments_fullName (f : File) {name : String} (h : '.' ∉ name.toList) :
    segments '.' (f.fullName name).toList = f.packageSegments ++ [name.toList] := by
  unfold fullName packageSegments
  cases f.package with
  | some package =>
    have htext : (package ++ "." ++ name).toList = package.toList ++ '.' :: name.toList := by simp
    show segments '.' (package ++ "." ++ name).toList = segments '.' package.toList ++ [name.toList]
    rw [htext, segments_append_cons, segments_of_not_mem h]
  | none => exact segments_of_not_mem h

theorem SchemaSet.Finds.segments_eq {set : SchemaSet} (hset : set.HasIdentifiers) {full : String}
    {d : Definition} (h : set.Finds full d) : segments '.' full.toList = d.path := by
  obtain ⟨before, g, after, hfiles, hdefines, -⟩ := h
  have hg : g ∈ set.files := by
    rw [hfiles]
    exact List.mem_append_right _ List.mem_cons_self
  cases hdefines with
  | @message m hfull hm =>
    have hname := (hset g hg).1 m (List.mem_of_find?_eq_some hm)
    rw [← hfull, g.segments_fullName (dot_not_mem_of_isIdentifier hname)]
    rfl
  | @enum e hfull _ he =>
    have hname := (hset g hg).2 e (List.mem_of_find?_eq_some he)
    rw [← hfull, g.segments_fullName (dot_not_mem_of_isIdentifier hname)]
    rfl

/-- A name taken in a scope is the name behind some first segments of the package. -/
theorem segments_qualified {f : File} {scope : String} (name : String)
    (h : Encloses scope (f.package.getD "")) :
    ∃ front, front <+: f.packageSegments ∧
      segments '.' (qualified scope name).toList = front ++ segments '.' name.toList := by
  by_cases hscope : scope = ""
  · refine ⟨[], List.nil_prefix, ?_⟩
    rw [qualified, if_pos hscope, List.nil_append]
  · refine ⟨segments '.' scope.toList, ?_, ?_⟩
    · unfold File.packageSegments
      cases hpackage : f.package with
      | some package =>
        rw [hpackage] at h
        exact h.segments_prefix hscope
      | none =>
        rw [hpackage] at h
        have hempty : scope.toList = [] := List.prefix_nil.mp h.isPrefix
        exact absurd (String.toList_inj.mp hempty) hscope
    · have htext : (scope ++ "." ++ name).toList = scope.toList ++ '.' :: name.toList := by simp
      rw [qualified, if_neg hscope, htext, segments_append_cons]

/-- The search for a type name finds exactly what the name means, and nothing only if no scope has
a definition of it.  The definition and the name agree segment by segment. -/
theorem SchemaSet.resolveFrom_exact (set : SchemaSet) (hset : set.HasIdentifiers) (f : File)
    (name : String) :
    (∀ d, set.resolveFrom f name = some d ↔ set.Means f name d) ∧
    (set.resolveFrom f name = none ↔
      ∀ full, Candidate f name full → ∀ g ∈ set.files, ∀ d, ¬ g.Defines full d) ∧
    ∀ d, set.resolveFrom f name = some d →
      (∀ full, name = "." ++ full → d.path = segments '.' full.toList) ∧
      ((∀ full, name ≠ "." ++ full) → ∃ front, front <+: f.packageSegments ∧
        d.path = front ++ segments '.' name.toList) := by
  refine ⟨fun d => resolveFrom_eq_some_iff, resolveFrom_eq_none_iff, fun d hd => ?_⟩
  cases resolveFrom_eq_some_iff.mp hd with
  | @absolute full hname hfinds =>
    refine ⟨fun other hother => ?_, fun hno => absurd hname (hno full)⟩
    have hsame : full = other := by
      have h := absolute?_eq_some_iff.mpr hname
      rw [absolute?_eq_some_iff.mpr hother, Option.some.injEq] at h
      exact h.symm
    rw [← hsame, hfinds.segments_eq hset]
  | relative hno hscope hfinds _ =>
    refine ⟨fun other hother => absurd hother (hno other), fun _ => ?_⟩
    obtain ⟨front, hfront, hsegments⟩ := segments_qualified name hscope
    exact ⟨front, hfront, by rw [← hfinds.segments_eq hset, hsegments]⟩

/-- a root file in `acme.conf` that imports a file in `acme.config` -/
def neighbourSet : SchemaSet where
  root := { File.empty "conf.proto" with
    package := some "acme.conf"
    messages := [⟨"Root", ⟨1, 0⟩, [], [], .all⟩] }
  imports := [{ File.empty "config.proto" with
    package := some "acme.config"
    messages := [⟨"Extra", ⟨1, 0⟩, [], [], .all⟩] }]

/-- What follows the common beginning of the two packages does not name a definition. -/
theorem resolveFrom_exact_neighbour : neighbourSet.HasIdentifiers ∧
    (∃ d, neighbourSet.resolve "config.Extra" = some d ∧
      neighbourSet.Means neighbourSet.root "config.Extra" d) ∧
    neighbourSet.resolve "ig.Extra" = none ∧
    ∀ full, SchemaSet.Candidate neighbourSet.root "ig.Extra" full →
      ∀ g ∈ neighbourSet.files, ∀ d, ¬ g.Defines full d := by
  have hset : neighbourSet.HasIdentifiers := by decide
  have hexact := neighbourSet.resolveFrom_exact hset neighbourSet.root
  have hsome : (neighbourSet.resolve "config.Extra").isSome = true := by decide
  have hnone : neighbourSet.resolve "ig.Extra" = none := by decide
  obtain ⟨d, hd⟩ := Option.isSome_iff_exists.mp hsome
  exact ⟨hset, ⟨d, hd, ((hexact "config.Extra").1 d).mp hd⟩, hnone,
    (hexact "ig.Extra").2.1.mp hnone⟩

end EnvConfig
