import EnvConfig.Import.Library
import EnvConfig.Schema.Audience
import EnvConfig.SchemaSet

/-!
# Loading a schema with its imports

The imports of a schema are loaded breadth first, each module once, starting from those of the
root.  The root's own name counts as loaded.  The first module that is refused, or whose text
cannot be read, ends the loading.

Loading ends because every module in the queue is named by the root or by a text of the library:
each text that is read takes one of finitely many names out of the running.
-/

namespace EnvConfig

inductive LoadError where
  | parse (error : ParseError)
  | unresolved (module : String) (reason : AccessError)
deriving Repr, DecidableEq

def LoadError.message : LoadError → String
  | parse e => e.message
  | unresolved module reason => "Unable to resolve import \"" ++ module ++ "\": " ++ reason.message

/-- the paths that a file imports, in order -/
def File.importPaths (f : File) : List String := f.imports.map (·.path)

/-- the paths that a text imports, none if it cannot be read -/
def pathsOf (text : String) : List String :=
  match File.compile "" text with
  | .ok f => f.importPaths
  | .error _ => []

/-- every module path that can come up when `first` are loaded -/
def Library.paths (lib : Library) (first : List String) : List String :=
  first ++ lib.texts.flatMap pathsOf

theorem Library.importPaths_mem {lib : Library} {first : List String} {module text : String}
    {f : File} (hfetch : lib.fetch module = .ok text) (hf : File.compile module text = .ok f) :
    ∀ p ∈ f.importPaths, p ∈ lib.paths first := by
  intro p hp
  obtain ⟨g, hg, himp⟩ := File.imports_of_compile "" hf
  refine List.mem_append_right _ (List.mem_flatMap.mpr ⟨text, lib.mem_texts _ _ hfetch, ?_⟩)
  unfold pathsOf
  rw [hg]
  simpa [File.importPaths, himp] using hp

/-- the files of the modules in `queue` and of those that they import, without those in `seen` -/
def Library.loadQueue (lib : Library) (first seen queue : List String)
    (known : ∀ p ∈ queue, p ∈ lib.paths first) : Except LoadError (List File) :=
  match queue with
  | [] => .ok []
  | m :: rest =>
    if hs : seen.contains m then
      loadQueue lib first seen rest fun p hp => known p (List.mem_cons_of_mem m hp)
    else
      match hfetch : lib.fetch m with
      | .error reason => .error (.unresolved m reason)
      | .ok text =>
        match hf : File.compile m text with
        | .error e => .error (.parse e)
        | .ok f =>
          (loadQueue lib first (m :: seen) (rest ++ f.importPaths) (by
            intro p hp
            rcases List.mem_append.mp hp with hp | hp
            · exact known p (List.mem_cons_of_mem m hp)
            · exact importPaths_mem hfetch hf p hp)).map (f :: ·)
termination_by ((remaining (lib.paths first) seen).length, queue.length)
decreasing_by
  · exact Prod.Lex.right _ (Nat.lt_succ_self _)
  · exact Prod.Lex.left _ _ (length_remaining_cons_lt (known m List.mem_cons_self)
      (by simpa using hs))

/-- the schema with the given root and everything that it imports from `lib` -/
def SchemaSet.load (name text : String) (lib : Library) : Except LoadError SchemaSet :=
  match File.compile name text with
  | .error e => .error (.parse e)
  | .ok root =>
    (lib.loadQueue root.importPaths [name] root.importPaths fun _ hp =>
      List.mem_append_left _ hp).map fun files => ⟨root, files⟩

end EnvConfig
