import EnvConfig.Proofs.Verification.Cycles
import EnvConfig.Verification

/-!
# Verification is exact

A schema set passes verification exactly if its root file is well formed: nothing is defined twice,
every type is known, and no message that the root file reaches holds itself.

* `SchemaSet.WellFormed`: what well formed means, said without the order of the checks;
* `SchemaSet.verify_exact`: verification, and what its refusal of a message that holds itself means.
-/

namespace EnvConfig

/-! ### what is well formed -/

/-- a field of the root file may have the type `name` -/
def SchemaSet.Supports (set : SchemaSet) (name : String) : Prop :=
  name = "bytes" ∨ (∃ k : ScalarKind, k.declared = name) ∨
    (∃ s : Storage, name = s.wrapperType ∨ name = "." ++ s.wrapperType) ∨
    ∃ d, set.resolve name = some d

structure Message.WellFormed (set : SchemaSet) (m : Message) : Prop where
  names : (m.fields.map (·.name)).Nodup
  numbers : (m.fields.map (·.number)).Nodup
  positive : ∀ f ∈ m.fields, 0 < f.number.toInt
  types : ∀ f ∈ m.fields, ∀ name ∈ f.type.mentioned, set.Supports name

structure Enum.WellFormed (e : Enum) : Prop where
  inhabited : e.symbols ≠ []
  symbols : (e.symbols.map (·.name)).Nodup

structure SchemaSet.WellFormed (set : SchemaSet) : Prop where
  names : (set.root.messages.map (·.name) ++ set.root.enums.map (·.name)).Nodup
  enums : ∀ e ∈ set.root.enums, e.WellFormed
  messages : ∀ m ∈ set.root.messages, m.WellFormed set
  acyclic : ∀ h, set.Reaches h → ¬ h.OnCycle set

/-! ### the single checks -/

theorem firstRepeated?_eq_none {before ns : List String} :
    firstRepeated? before ns = none ↔ ns.Nodup ∧ ∀ n ∈ ns, n ∉ before := by
  induction ns generalizing before with
  | nil => simp [firstRepeated?]
  | cons n ns ih =>
    unfold firstRepeated?
    by_cases hn : n ∈ before
    · simp [hn]
    · rw [if_neg (by simpa using hn), ih, List.nodup_cons]
      constructor
      · rintro ⟨hnodup, hnew⟩
        refine ⟨⟨fun hmem => hnew n hmem List.mem_cons_self, hnodup⟩, fun m hm => ?_⟩
        rcases List.mem_cons.mp hm with rfl | hm
        · exact hn
        · exact fun hb => hnew m hm (List.mem_cons_of_mem _ hb)
      · rintro ⟨⟨hnot, hnodup⟩, hnew⟩
        refine ⟨hnodup, fun m hm hb => ?_⟩
        rcases List.mem_cons.mp hb with rfl | hb
        · exact hnot hm
        · exact hnew m (List.mem_cons_of_mem _ hm) hb

theorem Enum.violation?_eq_none {e : Enum} : e.violation? = none ↔ e.WellFormed := by
  unfold violation?
  by_cases he : e.symbols = []
  · rw [if_pos (by simp [he])]
    exact ⟨fun h => (by cases h), fun h => absurd he h.inhabited⟩
  · rw [if_neg (by simpa using he), Option.map_eq_none_iff, firstRepeated?_eq_none]
    exact ⟨fun h => ⟨he, h.1⟩, fun h => ⟨h.symbols, fun _ _ => List.not_mem_nil⟩⟩

theorem ScalarKind.isSome_ofDeclared? {name : String} :
    (ofDeclared? name).isSome = true ↔ ∃ k : ScalarKind, k.declared = name := by
  rw [Option.isSome_iff_exists]
  constructor
  · rintro ⟨k, hk⟩
    exact ⟨k, declared_of_ofDeclared? hk⟩
  · rintro ⟨k, rfl⟩
    exact ⟨k, ofDeclared?_declared k⟩

theorem Storage.isSome_ofWrapperType? {name : String} :
    (ofWrapperType? name).isSome = true ↔
      ∃ s : Storage, name = s.wrapperType ∨ name = "." ++ s.wrapperType := by
  unfold ofWrapperType?
  rw [List.find?_isSome]
  constructor
  · rintro ⟨s, -, hs⟩
    exact ⟨s, by simpa using hs⟩
  · rintro ⟨s, hs⟩
    exact ⟨s, mem_all s, by simpa using hs⟩

namespace SchemaSet

variable {set : SchemaSet}

theorem isKnownType_iff {name : String} : set.isKnownType name = true ↔ set.Supports name := by
  unfold isKnownType Supports
  rw [Bool.or_eq_true, Bool.or_eq_true, Bool.or_eq_true, ScalarKind.isSome_ofDeclared?,
    Storage.isSome_ofWrapperType?, Option.isSome_iff_exists, beq_iff_eq, or_assoc, or_assoc]

/-- nothing is wrong with a field that comes after the fields `before` -/
structure Fits (set : SchemaSet) (before : List Field) (f : Field) : Prop where
  name : ∀ b ∈ before, b.name ≠ f.name
  number : ∀ b ∈ before, b.number ≠ f.number
  positive : 0 < f.number.toInt
  types : ∀ name ∈ f.type.mentioned, set.Supports name

theorem fieldViolation?_eq_none {message : String} {before : List Field} {f : Field} :
    set.fieldViolation? message before f = none ↔ set.Fits before f := by
  unfold fieldViolation?
  by_cases hname : before.any (·.name == f.name) = true
  · rw [if_pos hname]
    obtain ⟨b, hb, heq⟩ := List.any_eq_true.mp hname
    exact ⟨fun h => (by cases h), fun h => absurd (by simpa using heq) (h.name b hb)⟩
  rw [if_neg hname]
  by_cases hpositive : f.number.toInt ≤ 0
  · rw [if_pos hpositive]
    exact ⟨fun h => (by cases h), fun h => absurd h.positive (by omega)⟩
  rw [if_neg hpositive]
  by_cases hnumber : before.any (·.number == f.number) = true
  · rw [if_pos hnumber]
    obtain ⟨b, hb, heq⟩ := List.any_eq_true.mp hnumber
    exact ⟨fun h => (by cases h), fun h => absurd (by simpa using heq) (h.number b hb)⟩
  rw [if_neg hnumber, Option.map_eq_none_iff, List.find?_eq_none]
  have htypes : (∀ name ∈ f.type.mentioned, ¬ (!set.isKnownType name) = true) ↔
      ∀ name ∈ f.type.mentioned, set.Supports name :=
    forall₂_congr fun name _ => by rw [← isKnownType_iff]; simp
  rw [htypes]
  refine ⟨fun h => ⟨fun b hb heq => ?_, fun b hb heq => ?_, by omega, h⟩, fun h => h.types⟩
  · exact hname (List.any_eq_true.mpr ⟨b, hb, by simpa using heq⟩)
  · exact hnumber (List.any_eq_true.mpr ⟨b, hb, by simpa using heq⟩)

/-- every field fits after all that come before it, the nearest of them first in the list -/
theorem fieldsViolation?_eq_none {message : String} {before fs : List Field} :
    set.fieldsViolation? message before fs = none ↔
      (∀ f ∈ fs, set.Fits before f) ∧ (fs.map (·.name)).Nodup ∧ (fs.map (·.number)).Nodup := by
  induction fs generalizing before with
  | nil => simp [fieldsViolation?]
  | cons f fs ih =>
    rw [fieldsViolation?, Option.or_eq_none_iff, fieldViolation?_eq_none, ih]
    simp only [List.map_cons, List.nodup_cons, List.mem_map, not_exists, not_and]
    constructor
    · rintro ⟨hf, hfs, hnames, hnumbers⟩
      refine ⟨fun g hg => ?_, ⟨fun g hg heq => ?_, hnames⟩, fun g hg heq => ?_, hnumbers⟩
      · rcases List.mem_cons.mp hg with rfl | hg
        · exact hf
        · have hgfits := hfs g hg
          exact ⟨fun b hb => hgfits.name b (List.mem_cons_of_mem _ hb),
            fun b hb => hgfits.number b (List.mem_cons_of_mem _ hb), hgfits.positive, hgfits.types⟩
      · exact (hfs g hg).name f List.mem_cons_self heq.symm
      · exact (hfs g hg).number f List.mem_cons_self heq.symm
    · rintro ⟨hall, ⟨hname, hnames⟩, hnumber, hnumbers⟩
      refine ⟨hall f List.mem_cons_self, fun g hg => ?_, hnames, hnumbers⟩
      have hgfits := hall g (List.mem_cons_of_mem _ hg)
      refine ⟨fun b hb heq => ?_, fun b hb heq => ?_, hgfits.positive, hgfits.types⟩
      · rcases List.mem_cons.mp hb with rfl | hb
        · exact hname g hg heq.symm
        · exact hgfits.name b hb heq
      · rcases List.mem_cons.mp hb with rfl | hb
        · exact hnumber g hg heq.symm
        · exact hgfits.number b hb heq

theorem messageViolation?_eq_none {m : Message} :
    set.messageViolation? m = none ↔ m.WellFormed set := by
  rw [messageViolation?, fieldsViolation?_eq_none]
  constructor
  · rintro ⟨hfits, hnames, hnumbers⟩
    exact ⟨hnames, hnumbers, fun f hf => (hfits f hf).positive, fun f hf => (hfits f hf).types⟩
  · intro h
    exact ⟨fun f hf => ⟨fun _ hb => absurd hb List.not_mem_nil, fun _ hb => absurd hb
      List.not_mem_nil, h.positive f hf, h.types f hf⟩, h.names, h.numbers⟩

/-! ### only the last check speaks of messages inside themselves -/

theorem enumViolation?_ne_recursive {e : Enum} {name : String} :
    e.violation? ≠ some (.recursive name) := by
  unfold Enum.violation?
  split
  · simp
  · simp [Option.map_eq_some_iff]

theorem fieldsViolation?_ne_recursive {message name : String} {before fs : List Field} :
    set.fieldsViolation? message before fs ≠ some (.recursive name) := by
  induction fs generalizing before with
  | nil => simp [fieldsViolation?]
  | cons f fs ih =>
    intro h
    rcases Option.or_eq_some_iff.mp h with h | ⟨-, h⟩
    · unfold fieldViolation? at h
      split at h
      · cases h
      · split at h
        · cases h
        · split at h
          · cases h
          · simp [Option.map_eq_some_iff] at h
    · exact ih h

/-- the first three checks find nothing when the refusal is for a message that holds itself -/
theorem of_violation?_recursive {name : String} (h : set.violation? = some (.recursive name)) :
    set.root.typeNames.Nodup ∧ ∃ g, set.recursive? = some g ∧ g.message.name = name := by
  unfold violation? at h
  rcases Option.or_eq_some_iff.mp h with h | ⟨htypes, h⟩
  · simp [Option.map_eq_some_iff] at h
  rcases Option.or_eq_some_iff.mp h with h | ⟨-, h⟩
  · obtain ⟨e, -, he⟩ := List.exists_of_findSome?_eq_some h
    exact absurd he enumViolation?_ne_recursive
  rcases Option.or_eq_some_iff.mp h with h | ⟨-, h⟩
  · obtain ⟨m, -, hm⟩ := List.exists_of_findSome?_eq_some h
    exact absurd hm fieldsViolation?_ne_recursive
  obtain ⟨g, hg, hname⟩ := Option.map_eq_some_iff.mp h
  refine ⟨(firstRepeated?_eq_none.mp (Option.map_eq_none_iff.mp htypes)).1, g, hg, ?_⟩
  simpa using hname

theorem messages_nodup (h : set.root.typeNames.Nodup) :
    (set.root.messages.map (·.name)).Nodup := h.of_append_left

theorem violation?_eq_none : set.violation? = none ↔ set.WellFormed := by
  unfold violation?
  rw [Option.or_eq_none_iff, Option.or_eq_none_iff, Option.or_eq_none_iff, Option.map_eq_none_iff,
    Option.map_eq_none_iff, firstRepeated?_eq_none, List.findSome?_eq_none_iff,
    List.findSome?_eq_none_iff]
  simp only [Enum.violation?_eq_none, messageViolation?_eq_none]
  constructor
  · rintro ⟨⟨hnodup, -⟩, henums, hmessages, hacyclic⟩
    exact ⟨hnodup, henums, hmessages, (recursive?_eq_none (messages_nodup hnodup)).mp hacyclic⟩
  · intro h
    exact ⟨⟨h.names, fun _ _ => List.not_mem_nil⟩, h.enums, h.messages,
      (recursive?_eq_none (messages_nodup h.names)).mpr h.acyclic⟩

theorem wellFormed_of_verify (h : set.verify = .ok ()) : set.WellFormed := by
  rw [← violation?_eq_none]
  unfold verify at h
  split at h
  · cases h
  · assumption

/-- the checks one by one -/
theorem verify_of_checks (hnames : firstRepeated? [] set.root.typeNames = none)
    (henums : set.root.enums.findSome? Enum.violation? = none)
    (hmessages : set.root.messages.findSome? set.messageViolation? = none)
    (hrecursive : set.recursive? = none) : set.verify = .ok () := by
  rw [verify, violation?, hnames, henums, hmessages, hrecursive]
  rfl

/-- the checks one by one, with ranks in place of the walk through messages inside messages -/
theorem verify_of_rank (rank : Home → Nat) (hnames : firstRepeated? [] set.root.typeNames = none)
    (henums : set.root.enums.findSome? Enum.violation? = none)
    (hmessages : set.root.messages.findSome? set.messageViolation? = none)
    (hrank : ∀ h ∈ set.homes, ∀ p ∈ h.parts set, rank p < rank h) : set.verify = .ok () := by
  have hnodup : set.root.typeNames.Nodup := (firstRepeated?_eq_none.mp hnames).1
  exact verify_of_checks hnames henums hmessages
    (recursive?_eq_none_of_rank rank (messages_nodup hnodup) hrank)

theorem recursive?_of_verify (h : set.verify = .ok ()) : set.recursive? = none := by
  unfold verify at h
  split at h
  · cases h
  · rename_i hnone
    simp only [violation?, Option.or_eq_none_iff, Option.map_eq_none_iff] at hnone
    exact hnone.2.2.2

/-- Verification accepts exactly the well-formed schema sets.  The message that it names when it
refuses one for recursion lies on a cycle that a message of the root file reaches. -/
theorem verify_exact (set : SchemaSet) :
    (set.verify = .ok () ↔ set.WellFormed) ∧
      ∀ name, set.verify = .error (.recursive name) →
        ∃ h : Home, h.message.name = name ∧ set.Reaches h ∧ h.OnCycle set := by
  refine ⟨?_, fun name h => ?_⟩
  · rw [← violation?_eq_none]
    unfold verify
    cases set.violation? <;> simp
  · have hviolation : set.violation? = some (.recursive name) := by
      unfold verify at h
      split at h
      · rename_i v hv
        cases h
        exact hv
      · cases h
    obtain ⟨hnodup, g, hg, hname⟩ := of_violation?_recursive hviolation
    obtain ⟨hcycle, hreach⟩ := cycle_of_recursive? (messages_nodup hnodup) hg
    exact ⟨g, hname, hreach, hcycle⟩

end SchemaSet

end EnvConfig
