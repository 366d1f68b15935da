import EnvConfig.Import.Loading
import EnvConfig.Proofs.Import.Discovery
import EnvConfig.Proofs.Traversal

/-!
# Imports are loaded breadth first

A schema is loaded with exactly the modules that it leads to, in the order in which they are
discovered.  The name of the root means the root wherever a module imports it, whatever the library
has under that name.

* `Library.rooted`: the library in which the root is a module;
* `Library.read`: a module of a library, read as a file;
* `Library.importsOf`: what a module imports;
* `Library.loadQueue_eq`: the queue gives the files of the modules that are still to be discovered;
* `SchemaSet.load_breadthFirst`: what is loaded, and why nothing is.
-/

namespace EnvConfig

open Relation

namespace Library

/-- the library in which `name` is a module with the given text -/
def rooted (lib : Library) (name text : String) : Library where
  fetch module := if module = name then .ok text else lib.fetch module
  texts := text :: lib.texts
  mem_texts module other h := by
    split at h
    · cases h
      exact List.mem_cons_self
    · exact List.mem_cons_of_mem _ (lib.mem_texts module other h)

/-- a module, read as a file -/
def read (lib : Library) (module : String) : Except LoadError File :=
  match lib.fetch module with
  | .error reason => .error (.unresolved module reason)
  | .ok text => (File.compile module text).mapError .parse

/-- what a module imports, nothing if it cannot be read -/
def importsOf (lib : Library) (module : String) : List String :=
  match lib.read module with
  | .ok f => f.importPaths
  | .error _ => []

variable {lib : Library} {name text m : String} {f : File} {e : LoadError}

theorem read_eq_ok_iff :
    lib.read m = .ok f ↔ ∃ text, lib.fetch m = .ok text ∧ File.compile m text = .ok f := by
  unfold read
  cases lib.fetch m with
  | error reason => simp
  | ok text =>
    cases hf : File.compile m text with
    | error e => simp [Except.mapError, hf]
    | ok g => simp [Except.mapError, hf]

theorem name_of_read (h : lib.read m = .ok f) : f.name = m := by
  obtain ⟨text, -, hf⟩ := read_eq_ok_iff.mp h
  exact File.name_of_compile hf

theorem importsOf_of_read (h : lib.read m = .ok f) : lib.importsOf m = f.importPaths := by
  rw [importsOf, h]

theorem importsOf_of_error (h : lib.read m = .error e) : lib.importsOf m = [] := by
  rw [importsOf, h]

theorem importsOf_subset (lib : Library) (m : String) : lib.importsOf m ⊆ lib.paths [] := by
  cases h : lib.read m with
  | error e =>
    rw [importsOf_of_error h]
    exact List.nil_subset _
  | ok f =>
    obtain ⟨text, hfetch, hf⟩ := read_eq_ok_iff.mp h
    rw [importsOf_of_read h]
    exact importPaths_mem hfetch hf

theorem read_rooted_self : (lib.rooted name text).read name =
    (File.compile name text).mapError .parse := by
  simp only [read, rooted, if_pos]

theorem read_rooted_of_ne (h : m ≠ name) : (lib.rooted name text).read m = lib.read m := by
  simp only [read, rooted, if_neg h]

/-- files that are read from modules have their names -/
theorem forall₂_read_iff {modules : List String} {files : List File} :
    List.Forall₂ (fun m f => lib.read m = .ok f) modules files ↔
      files.map (·.name) = modules ∧ ∀ f ∈ files, lib.read f.name = .ok f := by
  constructor
  · intro h
    induction h with
    | nil => exact ⟨rfl, fun f hf => absurd hf List.not_mem_nil⟩
    | cons hread _ ih =>
      obtain ⟨hnames, hreads⟩ := ih
      have hname := name_of_read hread
      refine ⟨by rw [List.map_cons, hname, hnames], List.forall_mem_cons.mpr ⟨?_, hreads⟩⟩
      rw [hname]
      exact hread
  · rintro ⟨rfl, hreads⟩
    rw [List.forall₂_map_left_iff, List.forall₂_same]
    exact hreads

/-! ### the queue -/

section

variable {first seen queue : List String} (known : ∀ p ∈ m :: queue, p ∈ lib.paths first)

/-- A module that cannot be read ends the loading, if it has not been met before. -/
theorem loadQueue_of_error (hm : m ∉ seen) (h : lib.read m = .error e) :
    lib.loadQueue first seen (m :: queue) known = .error e := by
  rw [loadQueue, dif_neg (by simpa using hm)]
  unfold read at h
  split
  · rename_i reason hfetch
    rw [hfetch] at h
    cases h
    rfl
  · rename_i text hfetch
    rw [hfetch] at h
    split
    · rename_i fault hf
      simp only [hf] at h
      cases h
      rfl
    · rename_i f hf
      simp only [hf] at h
      cases h

/-- A module that is read is a file of its own, and what it imports waits at the end. -/
theorem loadQueue_of_read (hm : m ∉ seen) (h : lib.read m = .ok f) :
    ∃ known', lib.loadQueue first seen (m :: queue) known =
      (lib.loadQueue first (m :: seen) (queue ++ f.importPaths) known').map (f :: ·) := by
  obtain ⟨text, hfetch, hf⟩ := read_eq_ok_iff.mp h
  refine ⟨fun p hp => (List.mem_append.mp hp).elim
    (fun hp => known p (List.mem_cons_of_mem m hp)) (importPaths_mem hfetch hf p), ?_⟩
  rw [loadQueue, dif_neg (by simpa using hm)]
  split
  · rename_i reason hfetch'
    rw [hfetch] at hfetch'
    cases hfetch'
  · rename_i text' hfetch'
    rw [hfetch] at hfetch'
    cases hfetch'
    split
    · rename_i fault hf'
      rw [hf] at hf'
      cases hf'
    · rename_i g hf'
      rw [hf] at hf'
      cases hf'
      rfl

end

/-- The queue gives the files of the modules that are still to be discovered. -/
theorem loadQueue_eq {first order visited rest seen queue : List String}
    {known : ∀ p ∈ queue, p ∈ lib.paths first}
    (hsettled : Settled (lib.rooted name text).importsOf name order)
    (hwalk : Walk (lib.rooted name text).importsOf name order visited queue)
    (hseen : ∀ m, m ∈ seen ↔ m ∈ visited) (hrest : order = visited ++ rest) :
    lib.loadQueue first seen queue known = rest.mapM (lib.rooted name text).read := by
  -- a module that is taken from the queue has been visited, or is the first one of `rest`
  induction seen, queue, known using loadQueue.induct lib first generalizing visited rest with
  | case1 seen known =>
    have hall : rest = [] := by
      have hlast := hwalk.eq_of_empty hsettled
      rw [hrest] at hlast
      exact List.append_cancel_left (hlast.symm.trans (List.append_nil visited).symm)
    rw [hall, loadQueue]
    rfl
  | case2 seen m queue known hm known' ih =>
    have hm' : m ∈ visited := (hseen m).mp (by simpa using hm)
    rw [loadQueue, dif_pos hm]
    exact ih (hwalk.skip hm') hseen hrest
  | case3 seen m queue known hm reason hfetch known' =>
    have hunseen : m ∉ seen := by simpa using hm
    have hread : lib.read m = .error (.unresolved m reason) := by rw [read, hfetch]
    obtain ⟨hne, rest', rfl⟩ := hwalk.next_eq hsettled (fun h => hunseen ((hseen m).mpr h)) hrest
    rw [loadQueue_of_error known hunseen hread, List.mapM_cons, read_rooted_of_ne hne, hread]
    rfl
  | case4 seen m queue known hm text' hfetch fault hf known' =>
    have hunseen : m ∉ seen := by simpa using hm
    have hread : lib.read m = .error (.parse fault) := by
      simp only [read, hfetch, hf]
      rfl
    obtain ⟨hne, rest', rfl⟩ := hwalk.next_eq hsettled (fun h => hunseen ((hseen m).mpr h)) hrest
    rw [loadQueue_of_error known hunseen hread, List.mapM_cons, read_rooted_of_ne hne, hread]
    rfl
  | case5 seen m queue known hm text' hfetch f hf known' ih =>
    have hunseen : m ∉ seen := by simpa using hm
    have hm' : m ∉ visited := fun h => hunseen ((hseen m).mpr h)
    have hread : lib.read m = .ok f := read_eq_ok_iff.mpr ⟨text', hfetch, hf⟩
    obtain ⟨hne, rest', rfl⟩ := hwalk.next_eq hsettled hm' hrest
    have hrooted : (lib.rooted name text).read m = .ok f := by rw [read_rooted_of_ne hne, hread]
    have hvisit := hwalk.visit hsettled hm'
    rw [importsOf_of_read hrooted] at hvisit
    have hseen' : ∀ p, p ∈ m :: seen ↔ p ∈ visited ++ [m] := fun p => by
      rw [List.mem_cons, List.mem_append, List.mem_singleton, hseen p, or_comm]
    have hrest' : order = visited ++ [m] ++ rest' := by
      rw [hrest, List.append_assoc, List.singleton_append]
    obtain ⟨known'', hstep⟩ := loadQueue_of_read known hunseen hread
    rw [hstep, List.mapM_cons, hrooted, ih hvisit hseen' hrest']
    cases rest'.mapM (lib.rooted name text).read <;> rfl

end Library

theorem SchemaSet.files_inj {set other : SchemaSet} : set.files = other.files ↔ set = other := by
  cases set
  cases other
  simp [files]

theorem SchemaSet.load_of_compile (lib : Library) {name text : String} {root : File}
    (h : File.compile name text = .ok root) :
    ∃ known, load name text lib =
      (lib.loadQueue root.importPaths [name] root.importPaths known).map (SchemaSet.mk root) := by
  refine ⟨fun _ hp => List.mem_append_left _ hp, ?_⟩
  rw [load, h]

/-- A load reads the modules that the root leads to in the order in which they are discovered, the
root among them. -/
theorem SchemaSet.load_eq {lib : Library} {name text : String} {order : List String}
    (h : Settled (lib.rooted name text).importsOf name (name :: order)) :
    (load name text lib).map files = (name :: order).mapM (lib.rooted name text).read := by
  rw [List.mapM_cons, Library.read_rooted_self]
  cases hroot : File.compile name text with
  | error fault =>
    rw [load, hroot]
    rfl
  | ok root =>
    have hread : (lib.rooted name text).read name = .ok root := by
      rw [Library.read_rooted_self, hroot]
      rfl
    have hwalk : Walk (lib.rooted name text).importsOf name (name :: order) [name]
        root.importPaths := Library.importsOf_of_read hread ▸ Walk.begin
    obtain ⟨known, hload⟩ := load_of_compile lib hroot
    rw [hload, Library.loadQueue_eq h hwalk (fun m => Iff.rfl) rfl]
    cases order.mapM (lib.rooted name text).read <;> rfl

/-- For modules held in memory, `order` has the modules other than the root that its imports lead
to, in the order in which they are discovered breadth first.  They are loaded in this order, each
once and as the file of its own text.  Nothing is loaded exactly if one of them, or the root, cannot
be read: the error is that of the first one, the root before all others. -/
theorem SchemaSet.load_breadthFirst (modules : List (String × String)) (name text : String) :
    let lib := (Library.given modules).rooted name text
    ∃ order : List String,
      Settled lib.importsOf name (name :: order) ∧
      (name :: order).Nodup ∧
      (∀ m, m ∈ order ↔ m ≠ name ∧ ReflTransGen (fun a b => b ∈ lib.importsOf a) name m) ∧
      (∀ set, load name text (.given modules) = .ok set ↔
        set.files.map (·.name) = name :: order ∧ ∀ f ∈ set.files, lib.read f.name = .ok f) ∧
      ∀ e, load name text (.given modules) = .error e ↔
        ∃ before m after, name :: order = before ++ m :: after ∧
          (∀ b ∈ before, ∃ f, lib.read b = .ok f) ∧ lib.read m = .error e := by
  intro lib
  obtain ⟨order, hsettled⟩ := exists_settled name lib.importsOf_subset
  have hload := SchemaSet.load_eq hsettled
  refine ⟨order, hsettled, hsettled.nodup, fun m => ?_, fun set => ?_, fun e => ?_⟩
  · rw [← hsettled.mem_iff m, List.mem_cons]
    have hroot : name ∉ order := (List.nodup_cons.mp hsettled.nodup).1
    constructor
    · exact fun hm => ⟨fun h => hroot (h ▸ hm), .inr hm⟩
    · exact fun ⟨hne, hm⟩ => hm.resolve_left hne
  · rw [← Library.forall₂_read_iff, ← mapM_eq_ok_iff, ← hload]
    cases load name text (.given modules) with
    | error e => simp [Except.map]
    | ok s => simp only [Except.map, Except.ok.injEq, files_inj]
  · rw [← mapM_eq_error_iff, ← hload]
    cases load name text (.given modules) <;> simp [Except.map]

end EnvConfig
