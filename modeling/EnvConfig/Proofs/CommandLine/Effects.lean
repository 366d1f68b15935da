import EnvConfig.Proofs.Files.Written
import EnvConfig.Proofs.Import.FromDisk

/-!
# What a run does to the disk

What a run has written when it stops is in the tree that it leaves.  Only its last step writes.  So
a run that fails, shows the usage or shows the schema leaves the tree as it was, and one that
generates a file puts just this file into the output directory; it is never the schema.

* `isSeparator_of_mem_outputFile`, `outputFile_ne`: the name of an output file is one name, and not
  that of the schema;
* `Arguments.execute_effect`: what a run leaves.
-/

namespace EnvConfig

open Text

/-! ### names of output files -/

theorem withoutEnd?_eq_some_iff {ending cs rest : List Char} :
    withoutEnd? ending cs = some rest ↔ rest ++ ending = cs :=
  List.isSuffixOf?_eq_some_iff_append_eq

def isSeparator (c : Char) : Bool := c == '/' || c == '\\'

/-- the last name in the name of a schema -/
def baseOf (source : String) : List Char := lastSegment isSeparator source.toList

/-- the last name in the name of a schema, without the ending of schemas -/
def outputStem (source : String) : List Char :=
  (withoutEnd? schemaEnding.toList (baseOf source)).getD (baseOf source)

theorem toList_outputFile (source suffix : String) :
    (outputFile source suffix).toList = outputStem source ++ suffix.toList := by
  rw [outputFile, Text.stem, String.toList_append, String.toList_ofList]
  rfl

theorem outputStem_cases (source : String) :
    outputStem source = baseOf source ∨
      outputStem source ++ schemaEnding.toList = baseOf source := by
  unfold outputStem
  cases hstem : withoutEnd? schemaEnding.toList (baseOf source) with
  | none => exact .inl rfl
  | some rest => exact .inr (withoutEnd?_eq_some_iff.mp hstem)

theorem outputStem_subset (source : String) : outputStem source ⊆ baseOf source := by
  rcases outputStem_cases source with h | h
  · rw [h]
    exact List.Subset.refl _
  · rw [← h]
    exact List.subset_append_left _ _

/-- There are no separators in the name of an output file, whatever is in that of the schema. -/
theorem isSeparator_of_mem_outputFile (source : String) (l : Language) :
    ∀ c ∈ (outputFile source l.suffix).toList, isSeparator c = false := by
  have hsuffix : l.suffix.toList.all (isSeparator · == false) = true := by
    cases l <;> decide
  intro c hc
  rw [toList_outputFile] at hc
  rcases List.mem_append.mp hc with hc | hc
  · exact sep_of_mem_segmentsWhere (lastSegment_mem _ _) (outputStem_subset source hc)
  · exact beq_iff_eq.mp (List.all_eq_true.mp hsuffix c hc)

/-- The output file is never called like the schema. -/
theorem outputFile_ne (source : String) (l : Language) : outputFile source l.suffix ≠ source := by
  intro h
  have hplain := isSeparator_of_mem_outputFile source l
  rw [h] at hplain
  have hbase : baseOf source = source.toList := by
    rw [baseOf, lastSegment, segmentsWhere_of_forall hplain]
    rfl
  have hending : schemaEnding.toList.length = 6 := by decide
  have hsuffix : l.suffix.toList.length = 11 ∨ l.suffix.toList.length = 12 := by
    cases l <;> decide
  have htext := congrArg List.length (toList_outputFile source l.suffix)
  rw [h, ← hbase, List.length_append] at htext
  -- the suffix is neither empty nor as long as the ending that is taken off
  rcases outputStem_cases source with hstem | hstem
  · rw [hstem] at htext
    omega
  · have hlength := congrArg List.length hstem
    rw [List.length_append] at hlength
    omega

/-! ### what a run leaves -/

/-- The file that a run has written: the text generated from the schema that was loaded, in a file
of its own in the output directory. -/
structure Arguments.Generates (a : Arguments) (format : String → Except FormatError String)
    (tree after : FileTree) (path content : String) (schema : String) (set : SchemaSet)
    (file : Generated) (dir : List String) : Prop where
  schema_eq : a.schema = some schema
  loaded : SchemaSet.ofDisk tree.disk schema a.protoPath = .ok set
  generated : a.generate set format = .ok file
  content_eq : content = file.content
  path_eq : path = Path.join a.outDir file.fileName
  /-- the output directory -/
  base : tree.IsBase a.outDir dir
  /-- the name of the file is one name -/
  plain : (∀ c ∈ file.fileName.toList, isSeparator c = false) ∧ file.fileName ≠ "" ∧
    file.fileName ≠ "." ∧ file.fileName ≠ ".."
  written : after.locate path = .ok (.file (dir ++ [file.fileName]) content.toUTF8.toList)
  onlyAt : tree.OnlyAt after (dir ++ [file.fileName])
  /-- the schema is another file, and still there -/
  schema_kept : ∃ names bytes, tree.locate schema = .ok (.file names bytes) ∧
    names ≠ dir ++ [file.fileName] ∧ after.locate schema = .ok (.file names bytes)

/-- The tree is left alone unless a file was generated. -/
def Arguments.Effect (a : Arguments) (format : String → Except FormatError String)
    (tree after : FileTree) : Except RunError Outcome → Prop
  | .ok (.generated path content) =>
    ∃ schema set file dir, a.Generates format tree after path content schema set file dir
  | _ => after = tree

theorem FileTree.locate_of_read {tree : FileTree} {path : String} {bytes : List UInt8}
    (h : tree.read path = .ok bytes) : ∃ names, tree.locate path = .ok (.file names bytes) := by
  unfold read at h
  split at h
  · rename_i names b hlocate
    cases h
    exact ⟨names, hlocate⟩
  · cases h
  · cases h

/-- A path that leads to a file ends in the name of the file. -/
theorem FileTree.getLast?_of_locate {tree : FileTree} {path : String} {names : List String}
    {bytes : List UInt8} (h : tree.locate path = .ok (.file names bytes)) :
    names.getLast? = some (Path.fileName path) := by
  unfold locate at h
  split at h
  · cases h
  · rw [getLast?_of_walk h, namesOf, List.getLast?_map, Path.fileName, lastSegment]
    have hne := segments_ne_nil '/' path.toList
    show Option.map String.ofList (segments '/' path.toList).getLast? =
      some (String.ofList ((segments '/' path.toList).getLast?.getD []))
    rw [List.getLast?_eq_some_getLast hne]
    rfl

/-- The root of a schema from a disk has the name of the file that was read. -/
theorem SchemaSet.name_of_ofDisk {tree : FileTree} {schema : String} {protoPath : Option String}
    {set : SchemaSet} (h : ofDisk tree.disk schema protoPath = .ok set) :
    set.root.name = Path.fileName schema ∧ ∃ bytes, tree.read schema = .ok bytes := by
  obtain ⟨text, htext, hload⟩ := ofDisk_eq_ok_iff.mp h
  obtain ⟨bytes, hread, -⟩ := Disk.readText_eq_ok_iff.mp htext
  exact ⟨File.name_of_compile (of_load hload).1, bytes, hread⟩

namespace Arguments

variable {a : Arguments} {format : String → Except FormatError String} {tree after : FileTree}

/-- a run that succeeds leaves the tree alone or ends with a write -/
theorem of_runOn {outcome : Outcome} (h : a.runOn tree format = .ok (outcome, after)) :
    after = tree ∧ (∀ path content, outcome ≠ .generated path content) ∨
      ∃ schema set file, a.schema = some schema ∧
        SchemaSet.ofDisk tree.disk schema a.protoPath = .ok set ∧ a.generate set format = .ok file ∧
        tree.write (Path.join a.outDir file.fileName) file.content.toUTF8.toList = .ok after ∧
        outcome = .generated (Path.join a.outDir file.fileName) file.content := by
  unfold runOn run at h
  cases hschema : a.schema with
  | none =>
    rw [hschema] at h
    cases h
    exact .inl ⟨rfl, fun _ _ he => by cases he⟩
  | some schema =>
    rw [hschema] at h
    cases hload : SchemaSet.ofDisk tree.disk schema a.protoPath with
    | error e => simp [hload] at h
    | ok set =>
      by_cases hdump : a.dumpSchema = true
      · simp only [hload, hdump, if_true] at h
        cases h
        exact .inl ⟨rfl, fun _ _ he => by cases he⟩
      · simp only [hload, hdump, Bool.false_eq_true, if_false] at h
        cases hgenerate : a.generate set format with
        | error e =>
          unfold generate at hgenerate
          simp [hgenerate] at h
        | ok file =>
          have hfile := hgenerate
          unfold generate at hgenerate
          rw [hgenerate] at h
          cases hwrite : tree.write (Path.join a.outDir file.fileName)
              file.content.toUTF8.toList with
          | error reason =>
            simp only [hwrite] at h
            cases h
          | ok after' =>
            simp only [hwrite] at h
            cases h
            exact .inr ⟨schema, set, file, rfl, hload, hfile, hwrite, rfl⟩

/-- What is written when a run generates a file. -/
theorem generates_of_write {schema : String} {set : SchemaSet} {file : Generated}
    (hschema : a.schema = some schema)
    (hload : SchemaSet.ofDisk tree.disk schema a.protoPath = .ok set)
    (hgenerate : a.generate set format = .ok file)
    (hwrite : tree.write (Path.join a.outDir file.fileName) file.content.toUTF8.toList =
      .ok after) :
    ∃ dir, a.Generates format tree after (Path.join a.outDir file.fileName) file.content schema
      set file dir := by
  obtain ⟨hroot, bytes, hread⟩ := SchemaSet.name_of_ofDisk hload
  have hname : file.fileName = outputFile (Path.fileName schema) a.language.suffix := by
    rw [← hroot]
    exact SchemaSet.fileName_of_generate hgenerate
  have hplain : ∀ c ∈ file.fileName.toList, isSeparator c = false := by
    rw [hname]
    exact isSeparator_of_mem_outputFile _ _
  have hslash : '/' ∉ file.fileName.toList := fun h => absurd (hplain _ h) (by decide)
  obtain ⟨dir, name, hputs⟩ := FileTree.puts_of_write hwrite
  obtain ⟨rfl, hbase⟩ := hputs.base hslash
  obtain ⟨names, hlocate⟩ := FileTree.locate_of_read hread
  have hother : names ≠ dir ++ [file.fileName] := by
    intro he
    have hlast := FileTree.getLast?_of_locate hlocate
    rw [he, List.getLast?_concat, Option.some.injEq, hname] at hlast
    exact outputFile_ne _ _ hlast
  exact ⟨dir, {
    schema_eq := hschema
    loaded := hload
    generated := hgenerate
    content_eq := rfl
    path_eq := rfl
    base := hbase
    plain := ⟨hplain, hputs.named⟩
    written := hputs.locate
    onlyAt := hputs.onlyAt
    schema_kept := ⟨names, bytes, hlocate, hother, hputs.onlyAt.locate hlocate hother⟩ }⟩

/-- What a run leaves is the tree it began with, unless it generates a file; then the trees differ
in this file only, which is in the output directory, is not the schema and holds what was
generated. -/
theorem execute_effect (a : Arguments) (format : String → Except FormatError String)
    (tree : FileTree) :
    ((a.execute format).on tree = match a.runOn tree format with
      | .error e => (.error e, tree)
      | .ok (outcome, after) => (.ok outcome, after)) ∧
    a.Effect format tree ((a.execute format).on tree).2 ((a.execute format).on tree).1 := by
  refine ⟨a.execute_eq format tree, ?_⟩
  rw [a.execute_eq format tree]
  cases hrun : a.runOn tree format with
  | error e => rfl
  | ok result =>
    obtain ⟨outcome, after⟩ := result
    show a.Effect format tree after (.ok outcome)
    rcases of_runOn hrun with ⟨rfl, hnone⟩ | ⟨schema, set, file, hschema, hload, hgenerate,
      hwrite, rfl⟩
    · cases outcome with
      | usage => rfl
      | dumped text => rfl
      | generated path content => exact absurd rfl (hnone path content)
    · obtain ⟨dir, hgenerates⟩ := generates_of_write hschema hload hgenerate hwrite
      exact ⟨schema, set, file, dir, hgenerates⟩

end Arguments

end EnvConfig
