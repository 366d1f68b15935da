import Mathlib.Data.List.Infix
import Mathlib.Data.List.Nodup
import Mathlib.Data.List.Perm.Subperm
import Mathlib.Logic.Relation

/-!
# The order in which imports are discovered

Modules import modules.  Breadth first, those that a module leads to are discovered in rounds: each
round goes over the modules found so far, in their order, and takes up what they import where it is
named for the first time.

* `discovered`: the modules found in so many rounds;
* `isPrefix_discovered`: a round only adds modules at the end;
* `exists_settled`: among finitely many names the rounds come to an end;
* `Settled.mem_iff`: what they have then found is what can be reached;
* `Walk`: a visit that takes its modules from a queue follows the same order, one step at a time
  (`Walk.skip`, `Walk.visit`), and is over when its queue is empty (`Walk.eq_of_empty`).
-/

namespace EnvConfig

/-! ### the first occurrences in a list -/

section

variable {as bs cs : List String} {s : String}

theorem removeAll_congr (h : ∀ s, s ∈ bs ↔ s ∈ cs) : as.removeAll bs = as.removeAll cs := by
  refine List.filter_congr fun s _ => ?_
  rw [Bool.eq_iff_iff]
  simp [h s]

theorem isPrefix_eraseDups (h : as <+: bs) : as.eraseDups <+: bs.eraseDups := by
  obtain ⟨cs, rfl⟩ := h
  rw [List.eraseDups_append]
  exact List.prefix_append _ _

theorem eraseDups_append_congr (h : as.eraseDups = bs.eraseDups) (cs : List String) :
    (as ++ cs).eraseDups = (bs ++ cs).eraseDups := by
  have hmem : ∀ s, s ∈ as ↔ s ∈ bs := fun s => by
    rw [← List.mem_eraseDups, h, List.mem_eraseDups]
  rw [List.eraseDups_append, List.eraseDups_append, h, removeAll_congr hmem]

/-- a name that has been met can be left out -/
theorem eraseDups_append_cons_of_mem (hs : s ∈ as) (bs : List String) :
    (as ++ s :: bs).eraseDups = (as ++ bs).eraseDups := by
  have hskip : (s :: bs).removeAll as = bs.removeAll as := by
    rw [List.removeAll, List.filter_cons_of_neg (by simpa using hs), List.removeAll]
  rw [List.eraseDups_append, List.eraseDups_append, hskip]

theorem eraseDups_concat_of_not_mem (hs : s ∉ as) :
    (as ++ [s]).eraseDups = as.eraseDups ++ [s] := by
  have hkeep : [s].removeAll as = [s] := by
    rw [List.removeAll, List.filter_cons_of_pos (by simpa using hs), List.filter_nil]
  rw [List.eraseDups_append, hkeep, List.eraseDups_cons, List.filter_nil, List.eraseDups_nil]

theorem nodup_eraseDups (as : List String) : as.eraseDups.Nodup := by
  induction as using List.reverseRecOn with
  | nil => exact List.nodup_nil
  | append_singleton as s ih =>
    by_cases hs : s ∈ as
    · rw [eraseDups_append_cons_of_mem hs, List.append_nil]
      exact ih
    · rw [eraseDups_concat_of_not_mem hs, ← List.concat_eq_append]
      exact ih.concat fun h => hs (List.mem_eraseDups.mp h)

theorem eraseDups_of_nodup (h : as.Nodup) : as.eraseDups = as := by
  induction as using List.reverseRecOn with
  | nil => rfl
  | append_singleton as s ih =>
    obtain ⟨has, -, hne⟩ := List.nodup_append.mp h
    have hs : s ∉ as := fun hs => hne s hs s List.mem_cons_self rfl
    rw [eraseDups_concat_of_not_mem hs, ih has]

end

/-! ### rounds -/

section

variable (imports : String → List String) (start : String)

/-- the modules that are known once those of `found` have been gone over -/
def round (found : List String) : List String := (start :: found.flatMap imports).eraseDups

/-- the modules found from `start` in `n` rounds, each where it is first named -/
def discovered : Nat → List String
  | 0 => [start]
  | n + 1 => round imports start (discovered n)

theorem round_eq_cons (found : List String) : ∃ rest, round imports start found = start :: rest :=
  ⟨_, List.eraseDups_cons⟩

theorem discovered_eq_cons (n : Nat) : ∃ rest, discovered imports start n = start :: rest := by
  cases n with
  | zero => exact ⟨[], rfl⟩
  | succ n => exact round_eq_cons imports start _

theorem nodup_discovered (n : Nat) : (discovered imports start n).Nodup := by
  cases n with
  | zero => exact List.nodup_singleton start
  | succ n => exact nodup_eraseDups _

theorem mem_round {found : List String} {m : String} :
    m ∈ round imports start found ↔ m = start ∨ ∃ p ∈ found, m ∈ imports p := by
  rw [round, List.mem_eraseDups, List.mem_cons, List.mem_flatMap]

theorem isPrefix_round {as bs : List String} (h : as <+: bs) :
    round imports start as <+: round imports start bs :=
  isPrefix_eraseDups (List.cons_prefix_cons.mpr ⟨rfl, h.flatMap imports⟩)

theorem isPrefix_discovered_succ (n : Nat) :
    discovered imports start n <+: discovered imports start (n + 1) := by
  induction n with
  | zero =>
    obtain ⟨rest, hrest⟩ := discovered_eq_cons imports start 1
    rw [hrest]
    exact List.prefix_append [start] rest
  | succ n ih => exact isPrefix_round imports start ih

theorem isPrefix_discovered {n k : Nat} (h : n ≤ k) :
    discovered imports start n <+: discovered imports start k := by
  induction k, h using Nat.le_induction with
  | base => exact List.prefix_rfl
  | succ k _ ih => exact ih.trans (isPrefix_discovered_succ imports start k)

/-- what a round does not change begins with all that is discovered -/
theorem isPrefix_discovered_of_round {found : List String} (h : round imports start found = found)
    (n : Nat) : discovered imports start n <+: found := by
  induction n with
  | zero =>
    obtain ⟨rest, hrest⟩ := round_eq_cons imports start found
    rw [← h, hrest]
    exact List.prefix_append [start] rest
  | succ n ih =>
    rw [← h]
    exact isPrefix_round imports start ih

theorem reachable_of_mem_discovered {n : Nat} {m : String}
    (h : m ∈ discovered imports start n) :
    Relation.ReflTransGen (fun a b => b ∈ imports a) start m := by
  induction n generalizing m with
  | zero =>
    rw [List.mem_singleton.mp h]
  | succ n ih =>
    obtain rfl | ⟨p, hp, hm⟩ := (mem_round imports start).mp h
    · exact .refl
    · exact (ih hp).tail hm

/-- `order` is what all rounds find from some round on -/
def Settled (order : List String) : Prop := ∃ n, ∀ k, n ≤ k → discovered imports start k = order

variable {imports start}

theorem length_discovered_lt {n : Nat}
    (h : discovered imports start (n + 1) ≠ discovered imports start n) :
    (discovered imports start n).length < (discovered imports start (n + 1)).length := by
  have hbegins := isPrefix_discovered_succ imports start n
  refine hbegins.length_le.lt_of_ne fun hlength => h ?_
  exact (hbegins.eq_of_length hlength).symm

/-- Every round before the last takes a new name, and there are only so many. -/
theorem exists_settled (start : String) {names : List String} (hnames : ∀ m, imports m ⊆ names) :
    ∃ order, Settled imports start (start :: order) := by
  have hsub : ∀ n, discovered imports start n ⊆ start :: names := fun n m hm => by
    obtain rfl | ⟨p, -, hp⟩ :=
      Relation.ReflTransGen.cases_tail (reachable_of_mem_discovered imports start hm)
    · exact List.mem_cons_self
    · exact List.mem_cons_of_mem _ (hnames p hp)
  have hbound : ∀ n, (discovered imports start n).length ≤ names.length + 1 := fun n =>
    ((nodup_discovered imports start n).subperm (hsub n)).length_le
  obtain ⟨n, hn⟩ : ∃ n, discovered imports start (n + 1) = discovered imports start n := by
    by_contra hgrows
    rw [not_exists] at hgrows
    have hlength : ∀ n, n < (discovered imports start n).length := fun n => by
      induction n with
      | zero => exact Nat.zero_lt_one
      | succ n ih => exact Nat.lt_of_le_of_lt ih (length_discovered_lt (hgrows n))
    exact absurd (hlength (names.length + 1)) (Nat.not_lt.mpr (hbound _))
  obtain ⟨rest, hrest⟩ := discovered_eq_cons imports start n
  refine ⟨rest, n, fun k hk => ?_⟩
  rw [← hrest]
  exact ((isPrefix_discovered_of_round imports start hn k).eq_of_length_le
    (isPrefix_discovered imports start hk).length_le)

namespace Settled

variable {order : List String} (h : Settled imports start order)

include h

theorem nodup : order.Nodup := by
  obtain ⟨n, hn⟩ := h
  rw [← hn n le_rfl]
  exact nodup_discovered imports start n

theorem round_eq : round imports start order = order := by
  obtain ⟨n, hn⟩ := h
  have hlast : discovered imports start n = order := hn n le_rfl
  have hnext : discovered imports start (n + 1) = order := hn (n + 1) (Nat.le_succ n)
  rw [discovered, hlast] at hnext
  exact hnext

theorem isPrefix_of_round {found : List String} (hfound : round imports start found = found) :
    order <+: found := by
  obtain ⟨n, hn⟩ := h
  rw [← hn n le_rfl]
  exact isPrefix_discovered_of_round imports start hfound n

theorem mem_iff (m : String) :
    m ∈ order ↔ Relation.ReflTransGen (fun a b => b ∈ imports a) start m := by
  constructor
  · obtain ⟨n, hn⟩ := h
    rw [← hn n le_rfl]
    exact reachable_of_mem_discovered imports start
  · intro hm
    rw [← h.round_eq]
    induction hm with
    | refl => exact (mem_round imports start).mpr (.inl rfl)
    | tail _ himport ih =>
      rw [h.round_eq] at ih
      exact (mem_round imports start).mpr (.inr ⟨_, ih, himport⟩)

end Settled

/-- the imports of a few modules: in a circle, of itself, and with a name twice -/
def crossed (m : String) : List String :=
  if m = "a.proto" then ["c.proto", "b.proto", "c.proto"]
  else if m = "b.proto" then ["c.proto"] else ["d.proto", "b.proto", "a.proto"]

example : discovered crossed "a.proto" 3 = ["a.proto", "c.proto", "b.proto", "d.proto"] := by
  decide

/-! ### a visit with a queue -/

/-- The modules in `visited` have been visited in the order in which they are discovered, and all
that they import has been visited or waits in `queue`, in that order. -/
structure Walk (imports : String → List String) (start : String)
    (order visited queue : List String) : Prop where
  started : start ∈ visited
  nodup : visited.Nodup
  round_eq : round imports start visited = (visited ++ queue).eraseDups
  early : visited <+: order

namespace Walk

variable {order visited queue : List String} {m : String}

theorem begin : Walk imports start (start :: order) [start] (imports start) where
  started := List.mem_cons_self
  nodup := List.nodup_singleton start
  round_eq := by rw [round, List.flatMap_singleton, List.singleton_append]
  early := List.prefix_append [start] order

theorem skip (h : Walk imports start order visited (m :: queue)) (hm : m ∈ visited) :
    Walk imports start order visited queue where
  started := h.started
  nodup := h.nodup
  round_eq := by rw [h.round_eq, eraseDups_append_cons_of_mem hm]
  early := h.early

/-- A module that has not been visited is the next one to be discovered. -/
theorem visit (hsettled : Settled imports start order)
    (h : Walk imports start order visited (m :: queue)) (hm : m ∉ visited) :
    Walk imports start order (visited ++ [m]) (queue ++ imports m) where
  started := List.mem_append_left _ h.started
  nodup := by
    rw [← List.concat_eq_append]
    exact h.nodup.concat hm
  round_eq := by
    have hround : ((start :: visited.flatMap imports) ++ imports m).eraseDups =
        ((visited ++ m :: queue) ++ imports m).eraseDups :=
      eraseDups_append_congr h.round_eq (imports m)
    rw [round, List.flatMap_append, List.flatMap_singleton, ← List.cons_append, hround]
    simp only [List.append_assoc, List.cons_append, List.nil_append]
  early := by
    have hfound : (visited ++ m :: queue).eraseDups <+: order := by
      rw [← h.round_eq, ← hsettled.round_eq]
      exact isPrefix_round imports start h.early
    have hnext : visited ++ [m] <+: visited ++ m :: queue := by simp
    have hnodup : (visited ++ [m]).eraseDups = visited ++ [m] := by
      rw [eraseDups_concat_of_not_mem hm, eraseDups_of_nodup h.nodup]
    exact hnodup ▸ (isPrefix_eraseDups hnext).trans hfound

theorem next_eq {rest : List String} (hsettled : Settled imports start order)
    (h : Walk imports start order visited (m :: queue)) (hm : m ∉ visited)
    (hrest : order = visited ++ rest) : m ≠ start ∧ ∃ rest', rest = m :: rest' := by
  refine ⟨fun hstart => hm (hstart ▸ h.started), ?_⟩
  obtain ⟨rest', hrest'⟩ := (h.visit hsettled hm).early
  rw [hrest, List.append_assoc, List.singleton_append] at hrest'
  exact ⟨rest', (List.append_cancel_left hrest').symm⟩

theorem eq_of_empty (hsettled : Settled imports start order)
    (h : Walk imports start order visited []) : visited = order := by
  have hround : round imports start visited = visited := by
    rw [h.round_eq, List.append_nil, eraseDups_of_nodup h.nodup]
  exact h.early.eq_of_length_le (hsettled.isPrefix_of_round hround).length_le

end Walk

end

end EnvConfig
