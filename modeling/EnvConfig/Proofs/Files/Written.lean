import EnvConfig.Proofs.Files.Beside

/-!
# A write changes one file

A write puts one file into the directory in front of the last slash of its path, or refuses and
leaves the tree alone.  Paths are walked as before in the tree after it, except for those that lead
to the file.

* `FileTree.OnlyAt`: two trees differ in one file at most;
* `FileTree.Puts`, `FileTree.puts_of_write`: what a write does that is not refused;
* `FileTree.Puts.locate`, `FileTree.OnlyAt.locate`: where paths lead after it;
* `FileTree.IsBase`, `FileTree.Puts.base`: the file is put into the directory that its path is
  joined to.
-/

namespace EnvConfig

open Text

namespace FileTree

variable {tree after : FileTree} {names other : List String} {bytes : List UInt8}

/-- the trees have the same directories, and the same files but for the one with these names -/
structure OnlyAt (tree after : FileTree) (names : List String) : Prop where
  here : after.here = tree.here
  directories : after.directories = tree.directories
  others : ∀ other, other ≠ names → after.bytes? other = tree.bytes? other

theorem bytes?_put_self (tree : FileTree) (names : List String) (bytes : List UInt8) :
    (tree.put names bytes).bytes? names = some bytes := by
  unfold put bytes?
  rw [List.find?_cons_of_pos (by simp)]
  rfl

theorem bytes?_put_of_ne (tree : FileTree) (bytes : List UInt8) (h : other ≠ names) :
    (tree.put names bytes).bytes? other = tree.bytes? other := by
  unfold put bytes?
  rw [List.find?_cons_of_neg (by simpa using h.symm), List.find?_filter]
  congr 2
  funext entry
  by_cases hentry : entry.1 = other
  · simp [hentry, h]
  · simp [hentry]

theorem onlyAt_put (tree : FileTree) (names : List String) (bytes : List UInt8) :
    OnlyAt tree (tree.put names bytes) names :=
  ⟨rfl, rfl, fun _ h => bytes?_put_of_ne tree bytes h⟩

theorem OnlyAt.hasDirectory (h : OnlyAt tree after names) (other : List String) :
    after.hasDirectory other = tree.hasDirectory other := by
  unfold FileTree.hasDirectory
  rw [h.here, h.directories]

/-! ### walks -/

/-- what a walk leads to is not the file with these names -/
def Place.IsNot (names : List String) : Place → Prop
  | .directory _ => True
  | .file others _ => others ≠ names

/-- A walk that leads somewhere else is the same in a tree that differs in the file only. -/
theorem OnlyAt.walk (h : OnlyAt tree after names) {start path : List String} {place : Place}
    (hwalk : tree.walk start path = .ok place) (hplace : Place.IsNot names place) :
    after.walk start path = .ok place := by
  fun_induction FileTree.walk tree start path with
  | case1 start => exact hwalk
  | case2 start name rest hidle ih =>
    rw [FileTree.walk, if_pos hidle]
    exact ih hwalk
  | case3 start rest hidle ih =>
    rw [FileTree.walk, if_neg hidle, if_pos rfl]
    exact ih hwalk
  | case4 => cases hwalk
  | case5 start name rest hidle hup hfits hdirectory ih =>
    rw [FileTree.walk, if_neg hidle, if_neg hup, if_neg hfits, h.hasDirectory, if_pos hdirectory]
    exact ih hwalk
  | case6 start name rest hidle hup hfits hdirectory b hb hrest =>
    cases hwalk
    rw [FileTree.walk, if_neg hidle, if_neg hup, if_neg hfits, h.hasDirectory, if_neg hdirectory,
      h.others _ hplace, hb]
    simp only [hrest, if_true]
  | case7 => cases hwalk
  | case8 => cases hwalk

theorem walk_append {start first rest names : List String}
    (h : tree.walk start first = .ok (.directory names)) :
    tree.walk start (first ++ rest) = tree.walk names rest := by
  fun_induction FileTree.walk tree start first with
  | case1 start => cases h; rfl
  | case2 start name first hidle ih =>
    rw [List.cons_append, FileTree.walk, if_pos hidle]
    exact ih h
  | case3 start first hidle ih =>
    rw [List.cons_append, FileTree.walk, if_neg hidle, if_pos rfl]
    exact ih h
  | case4 => cases h
  | case5 start name first hidle hup hfits hdirectory ih =>
    rw [List.cons_append, FileTree.walk, if_neg hidle, if_neg hup, if_neg hfits,
      if_pos hdirectory]
    exact ih h
  | case6 => cases h
  | case7 => cases h
  | case8 => cases h

/-- the last name on the way to a file is the name of the file -/
theorem getLast?_of_walk {start path : List String}
    (h : tree.walk start path = .ok (.file names bytes)) : names.getLast? = path.getLast? := by
  fun_induction FileTree.walk tree start path with
  | case1 => cases h
  | case2 start name rest _ ih =>
    cases rest with
    | nil => rw [FileTree.walk] at h; cases h
    | cons next rest => rw [ih h, List.getLast?_cons_cons]
  | case3 start rest _ ih =>
    cases rest with
    | nil => rw [FileTree.walk] at h; cases h
    | cons next rest => rw [ih h, List.getLast?_cons_cons]
  | case4 => cases h
  | case5 start name rest _ _ _ _ ih =>
    cases rest with
    | nil => rw [FileTree.walk] at h; cases h
    | cons next rest => rw [ih h, List.getLast?_cons_cons]
  | case6 start name rest _ _ _ _ b _ hrest =>
    cases h
    rw [List.isEmpty_iff.mp hrest, List.getLast?_concat]
    rfl
  | case7 => cases h
  | case8 => cases h

/-! ### writes -/

/-- A write that succeeds puts the last name of its path into the directory that the names before
lead to. -/
structure Puts (tree after : FileTree) (path : String) (bytes : List UInt8)
    (parent : List String) (name : String) : Prop where
  refusal : refusal? path = none
  walk : ∃ front, namesOf path = front ++ [name] ∧
    tree.walk (tree.start path) front = .ok (.directory parent)
  named : name ≠ "" ∧ name ≠ "." ∧ name ≠ ".."
  fits : fits name = true
  file : tree.hasDirectory (parent ++ [name]) = false
  after_eq : after = tree.put (parent ++ [name]) bytes

theorem namesOf_ne_nil (path : String) : namesOf path ≠ [] := by
  unfold namesOf
  simp [segments_ne_nil]

theorem puts_of_write {path : String} (h : tree.write path bytes = .ok after) :
    ∃ parent name, tree.Puts after path bytes parent name := by
  have hnames := List.dropLast_concat_getLast (namesOf_ne_nil path)
  have hlast : (namesOf path).getLast?.getD "" = (namesOf path).getLast (namesOf_ne_nil path) := by
    rw [List.getLast?_eq_some_getLast (namesOf_ne_nil path), Option.getD_some]
  unfold write at h
  simp only [hlast] at h
  split at h
  · cases h
  rename_i hrefusal
  split at h
  · cases h
  · cases h
  rename_i parent hwalk
  split at h
  · cases h
  rename_i hnamed
  split at h
  · cases h
  rename_i hfits
  split at h
  · cases h
  rename_i hdirectory
  cases h
  rw [not_or, not_or] at hnamed
  exact ⟨parent, _, hrefusal, ⟨_, hnames.symm, hwalk⟩, hnamed, by simpa using hfits,
    by simpa using hdirectory, rfl⟩

variable {path : String} {parent : List String} {name : String}

theorem Puts.onlyAt (h : tree.Puts after path bytes parent name) :
    OnlyAt tree after (parent ++ [name]) := by
  rw [h.after_eq]
  exact onlyAt_put _ _ _

/-- After a write its path leads to the file. -/
theorem Puts.locate (h : tree.Puts after path bytes parent name) :
    after.locate path = .ok (.file (parent ++ [name]) bytes) := by
  obtain ⟨front, hnames, hwalk⟩ := h.walk
  obtain ⟨hempty, hdot, hup⟩ := h.named
  have hstart : after.start path = tree.start path := by
    unfold start
    rw [h.onlyAt.here]
  have hbytes : after.bytes? (parent ++ [name]) = some bytes := by
    rw [h.after_eq, bytes?_put_self]
  have hfront := h.onlyAt.walk hwalk trivial
  unfold FileTree.locate
  rw [h.refusal, hnames, hstart]
  show after.walk (tree.start path) (front ++ [name]) = _
  rw [walk_append hfront, FileTree.walk, if_neg (by simp [hempty, hdot]), if_neg hup,
    h.fits, h.onlyAt.hasDirectory, h.file, hbytes]
  rfl

/-- A path that leads to another file leads to it after the write. -/
theorem OnlyAt.locate {names : List String} (h : OnlyAt tree after names) {place : Place}
    (hlocate : tree.locate path = .ok place) (hplace : Place.IsNot names place) :
    after.locate path = .ok place := by
  unfold FileTree.locate at hlocate ⊢
  have hstart : after.start path = tree.start path := by
    unfold start
    rw [h.here]
  cases hrefusal : refusal? path with
  | some reason => rw [hrefusal] at hlocate; cases hlocate
  | none =>
    rw [hrefusal] at hlocate
    show after.walk (after.start path) (namesOf path) = _
    rw [hstart]
    exact h.walk hlocate hplace

/-! ### writes into a directory -/

/-- the directory that the paths joined to `base` go on from -/
def IsBase (tree : FileTree) (base : String) (names : List String) : Prop :=
  base = "" ∧ names = tree.here ∨ tree.locate base = .ok (.directory names)

theorem refusal?_of_append {base rest : String} (h : refusal? (base ++ rest) = none)
    (hbase : base ≠ "") : refusal? base = none := by
  unfold refusal? at h ⊢
  split at h
  · cases h
  rename_i hnul
  split at h
  · cases h
  rename_i hsize
  rw [if_neg, if_neg, if_neg hbase]
  · rw [String.utf8ByteSize_append] at hsize
    omega
  · simp only [List.contains_iff_mem, String.toList_append, List.mem_append] at hnul ⊢
    exact fun hmem => hnul (.inl hmem)

theorem isAbsolute_append {base : String} (rest : String) (hbase : base ≠ "") :
    Path.isAbsolute (base ++ rest) = Path.isAbsolute base := by
  have hne : base.toList ≠ [] := fun h => hbase (String.toList_inj.mp h)
  unfold Path.isAbsolute
  rw [String.toList_append]
  cases hchars : base.toList with
  | nil => exact absurd hchars hne
  | cons c cs => rfl

/-- The names in a path joined to `base` are those in `base` and one more; the empty name behind a
slash at the end of `base` is left out. -/
theorem namesOf_join {base file : String} (hfile : '/' ∉ file.toList) (hbase : base ≠ "") :
    (∃ rest, Path.join base file = base ++ rest) ∧
    ∃ front idle, (idle = [] ∨ idle = [""]) ∧ namesOf base = front ++ idle ∧
      namesOf (Path.join base file) = front ++ [file] := by
  have hlast : (segments '/' file.toList).map String.ofList = [file] := by
    rw [segments_of_not_mem hfile, List.map_singleton, String.ofList_toList]
  by_cases hslash : base.toList.getLast? = some '/'
  · obtain ⟨cs, hcs⟩ := List.getLast?_eq_some_iff.mp hslash
    have hjoin : Path.join base file = base ++ file := by
      simp [Path.join, Path.isAbsolute_of_not_mem hfile, hslash]
    have htext : (base ++ file).toList = cs ++ '/' :: file.toList := by
      rw [String.toList_append, hcs, List.append_assoc]
      rfl
    refine ⟨⟨file, hjoin⟩, (segments '/' cs).map String.ofList, [""], .inr rfl, ?_, ?_⟩
    · rw [namesOf_eq hcs, segments_append_cons, List.map_append]
      rfl
    · rw [hjoin, namesOf_eq htext, segments_append_cons, List.map_append, hlast]
  · have hjoin : Path.join base file = base ++ "/" ++ file := by
      simp [Path.join, Path.isAbsolute_of_not_mem hfile, hslash, hbase]
    have htext : (base ++ "/" ++ file).toList = base.toList ++ '/' :: file.toList := by simp
    refine ⟨⟨"/" ++ file, by rw [hjoin, String.append_assoc]⟩, namesOf base, [], .inl rfl, ?_, ?_⟩
    · rw [List.append_nil]
    · rw [hjoin, namesOf_eq htext, segments_append_cons, List.map_append, hlast]
      rfl

/-- The file whose path is a name joined to a directory is put into this directory. -/
theorem Puts.base {base file : String} (hfile : '/' ∉ file.toList)
    (h : tree.Puts after (Path.join base file) bytes parent name) :
    name = file ∧ tree.IsBase base parent := by
  obtain ⟨front, hnames, hwalk⟩ := h.walk
  by_cases hbase : base = ""
  · subst hbase
    have hjoin : Path.join "" file = file := by simp [Path.join]
    have hstart : tree.start file = tree.here := by
      unfold start
      rw [Path.isAbsolute_of_not_mem hfile]
      rfl
    rw [hjoin, namesOf, segments_of_not_mem hfile, List.map_singleton,
      String.ofList_toList] at hnames
    rw [hjoin, hstart] at hwalk
    have hparts : [] ++ [file] = front ++ [name] := hnames
    obtain ⟨rfl, hname⟩ := List.append_inj' hparts rfl
    rw [FileTree.walk] at hwalk
    cases hwalk
    exact ⟨(List.singleton_inj.mp hname).symm, .inl ⟨rfl, rfl⟩⟩
  · obtain ⟨⟨rest, hjoin⟩, front', idle, hidle, hbaseNames, hjoinNames⟩ :=
      namesOf_join hfile hbase
    rw [hjoinNames] at hnames
    obtain ⟨rfl, hname⟩ := List.append_inj' hnames rfl
    refine ⟨(List.singleton_inj.mp hname).symm, .inr ?_⟩
    have hrefusal := h.refusal
    rw [hjoin] at hrefusal hwalk
    have hstart : tree.start (base ++ rest) = tree.start base := by
      unfold start
      rw [isAbsolute_append rest hbase]
    rw [hstart] at hwalk
    unfold FileTree.locate
    rw [refusal?_of_append hrefusal hbase, hbaseNames]
    show tree.walk (tree.start base) (front' ++ idle) = _
    rw [walk_append hwalk]
    rcases hidle with rfl | rfl
    · rw [FileTree.walk]
    · rw [FileTree.walk, if_pos (.inl rfl), FileTree.walk]

end FileTree

end EnvConfig
