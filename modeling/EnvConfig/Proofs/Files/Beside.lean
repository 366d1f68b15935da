import EnvConfig.Files.Tree
import Mathlib.Data.List.TakeWhile

/-!
# A file is in its own directory

The path of a file names its directory in front of its last slash.  A module with the name of the
file, looked for in that directory, is the file itself: the slashes and single dots that are left
out at the end of the directory's path lead nowhere.

* `Path.withoutIdleNames`: what is left of a path in front of a slash, read from its end;
* `Path.ofModule_beside`: the path of a module that has the name of a file, in the file's directory;
* `FileTree.read_beside`: what is read there.
-/

namespace EnvConfig

open Text

namespace Path

/-! ### the directory and the name in a path -/

/-- a path in front of a slash, read from its end, without the empty names and single dots there -/
def withoutIdleNames : List Char → List Char
  | '/' :: r => withoutIdleNames r
  | '.' :: '/' :: r => withoutIdleNames r
  | r => r

theorem withoutIdleEnd_slash (r : List Char) :
    withoutIdleEnd ('/' :: r) = if withoutIdleNames r = [] then ['/'] else withoutIdleNames r := by
  fun_induction withoutIdleNames r with
  | case1 r ih =>
    rw [withoutIdleEnd]
    · exact ih
    · simp
  | case2 r ih =>
    rw [withoutIdleEnd, withoutIdleEnd]
    · exact ih
    · simp
  | case3 r hslash hdot =>
    cases r with
    | nil => rfl
    | cons c r =>
      have hc : c ≠ '/' := fun h => hslash r (by rw [h])
      rw [withoutIdleEnd, withoutIdleEnd, if_neg (List.cons_ne_nil c r)]
      · simp [hc]
      · simpa using hslash
      · simpa using hdot
      · simp

theorem withoutIdleNames_isSuffix (r : List Char) : withoutIdleNames r <:+ r := by
  fun_induction withoutIdleNames r with
  | case1 r ih => exact ih.trans (List.suffix_cons _ _)
  | case2 r ih => exact ih.trans ((List.suffix_cons _ _).trans (List.suffix_cons _ _))
  | case3 r => exact List.suffix_refl r

theorem head?_withoutIdleNames_ne (r : List Char) : (withoutIdleNames r).head? ≠ some '/' := by
  fun_induction withoutIdleNames r with
  | case1 r ih => exact ih
  | case2 r ih => exact ih
  | case3 r hslash hdot =>
    cases r with
    | nil => simp
    | cons c r =>
      rw [List.head?_cons]
      exact fun h => hslash r (by rw [Option.some.inj h])

/-- a text without slashes, or what is in front of its last slash and what comes after it -/
theorem last_slash_cases (cs : List Char) :
    '/' ∉ cs ∨ ∃ r base : List Char, '/' ∉ base ∧ cs = r.reverse ++ '/' :: base := by
  by_cases h : '/' ∈ cs
  · obtain ⟨base, r, hcs, hbase⟩ := List.eq_append_cons_of_mem (List.mem_reverse.mpr h)
    refine .inr ⟨r, base.reverse, by simpa using hbase, ?_⟩
    rw [← List.reverse_reverse cs, hcs]
    simp
  · exact .inl h

theorem dropEndWhile_of_not_mem {cs : List Char} (h : '/' ∉ cs) :
    dropEndWhile (· != '/') cs = [] := by
  rw [dropEndWhile, List.reverse_eq_nil_iff, List.dropWhile_eq_nil_iff]
  intro c hc
  have hne : c ≠ '/' := fun he => h (he ▸ List.mem_reverse.mp hc)
  simpa using hne

theorem dropEndWhile_slash (cs : List Char) {base : List Char} (h : '/' ∉ base) :
    dropEndWhile (· != '/') (cs ++ '/' :: base) = cs ++ ['/'] := by
  have hbase : base.reverse.dropWhile (· != '/') = [] := List.reverse_eq_nil_iff.mp
    (dropEndWhile_of_not_mem h)
  rw [dropEndWhile, List.reverse_append, List.reverse_cons, List.append_assoc,
    List.dropWhile_append, hbase]
  simp

theorem directory_of_not_mem {path : String} (h : '/' ∉ path.toList) : directory path = "" := by
  rw [directory, dropEndWhile_of_not_mem h]
  rfl

theorem fileName_of_not_mem {path : String} (h : '/' ∉ path.toList) : fileName path = path := by
  have hsegments : segmentsWhere (· == '/') path.toList = [path.toList] := segments_of_not_mem h
  rw [fileName, lastSegment, hsegments]
  exact String.ofList_toList

section

variable {path : String} {r base : List Char}

theorem directory_of_slash (hbase : '/' ∉ base) (h : path.toList = r.reverse ++ '/' :: base) :
    directory path = String.ofList (withoutIdleEnd ('/' :: r)).reverse := by
  rw [directory, h, dropEndWhile_slash _ hbase]
  simp

theorem fileName_of_slash (hbase : '/' ∉ base) (h : path.toList = r.reverse ++ '/' :: base) :
    fileName path = String.ofList base := by
  have hsegments : segmentsWhere (· == '/') base = [base] := segments_of_not_mem hbase
  rw [fileName, lastSegment, h, segmentsWhere_append_cons (by simp), hsegments]
  simp

end

/-! ### the path of a module beside a file -/

theorem ofModule_of_not_mem {root module : String} (h : '/' ∉ module.toList) :
    ofModule root module = join root module := by
  rw [ofModule, if_neg]
  intro hprefix
  have hmem : '/' ∈ wellKnown.toList := by decide
  exact h ((List.isPrefixOf_iff_prefix.mp hprefix).subset hmem)

theorem isAbsolute_of_not_mem {path : String} (h : '/' ∉ path.toList) :
    isAbsolute path = false := by
  unfold isAbsolute
  cases hcs : path.toList with
  | nil => rfl
  | cons c cs =>
    have hne : c ≠ '/' := fun he => h (by rw [hcs, he]; exact List.mem_cons_self)
    simpa using hne

/-- A module with the name of a file, in the directory of the file: the path of the file without
idle names in front of the last slash. -/
theorem ofModule_beside (path : String) :
    ofModule (directory path) (fileName path) = path ∨
      ∃ r base, '/' ∉ base ∧ path.toList = r.reverse ++ '/' :: base ∧
        (ofModule (directory path) (fileName path)).toList =
          (withoutIdleNames r).reverse ++ '/' :: base := by
  rcases last_slash_cases path.toList with h | ⟨r, base, hbase, h⟩
  · left
    rw [directory_of_not_mem h, fileName_of_not_mem h, ofModule_of_not_mem h, join,
      isAbsolute_of_not_mem h]
    simp
  · refine .inr ⟨r, base, hbase, h, ?_⟩
    have hname : '/' ∉ (String.ofList base).toList := by rwa [String.toList_ofList]
    rw [directory_of_slash hbase h, fileName_of_slash hbase h, ofModule_of_not_mem hname, join,
      isAbsolute_of_not_mem hname, withoutIdleEnd_slash]
    by_cases hr : withoutIdleNames r = []
    · simp [hr]
    · simp [hr, head?_withoutIdleNames_ne r]

theorem isAbsolute_withoutIdleNames {path other : String} {r base : List Char}
    (h : path.toList = r.reverse ++ '/' :: base)
    (hother : other.toList = (withoutIdleNames r).reverse ++ '/' :: base) :
    isAbsolute other = isAbsolute path := by
  unfold isAbsolute
  rw [h, hother]
  clear h hother
  fun_induction withoutIdleNames r with
  | case1 r ih =>
    rw [ih, List.reverse_cons]
    cases r.reverse <;> simp
  | case2 r ih =>
    rw [ih, List.reverse_cons, List.reverse_cons]
    cases r.reverse <;> simp
  | case3 r => rfl

end Path

/-! ### what is read beside a file -/

namespace FileTree

variable {tree : FileTree}

/-- the names in a text -/
theorem namesOf_eq {path : String} {cs : List Char} (h : path.toList = cs) :
    namesOf path = (segments '/' cs).map String.ofList := by
  rw [namesOf, h]

/-- an idle name may be left out, if it is not the last one -/
theorem walk_append_idle {start before rest : List String} {name : String}
    (h : name = "" ∨ name = ".") (hrest : rest ≠ []) :
    tree.walk start (before ++ name :: rest) = tree.walk start (before ++ rest) := by
  induction before generalizing start with
  | nil => rw [List.nil_append, List.nil_append, walk, if_pos h]
  | cons first before ih =>
    rw [List.cons_append, List.cons_append, walk, walk, ih, ih, ih]
    simp [hrest]

/-- idle names in front of the last slash lead nowhere -/
theorem walk_withoutIdleNames (start : List String) (r base : List Char) :
    tree.walk start ((segments '/' ((Path.withoutIdleNames r).reverse ++ '/' :: base)).map
      String.ofList) =
        tree.walk start ((segments '/' (r.reverse ++ '/' :: base)).map String.ofList) := by
  have hlast : (segments '/' base).map String.ofList ≠ [] := by
    simp [segments_ne_nil]
  fun_induction Path.withoutIdleNames r with
  | case1 r ih =>
    rw [ih, List.reverse_cons, List.append_assoc, List.singleton_append, segments_append_cons,
      segments_append_cons, List.map_append, List.map_append]
    exact (walk_append_idle (.inl rfl) hlast).symm
  | case2 r ih =>
    have hdot : (r.reverse ++ ['/'] ++ ['.']) ++ '/' :: base =
        r.reverse ++ '/' :: (['.'] ++ '/' :: base) := by simp
    rw [ih, List.reverse_cons, List.reverse_cons, hdot, segments_append_cons, segments_append_cons,
      segments_append_cons, List.map_append, List.map_append, List.map_append]
    exact (walk_append_idle (.inr rfl) hlast).symm
  | case3 r => rfl

theorem refusal?_withoutIdleNames {path other : String} {r base : List Char}
    (h : path.toList = r.reverse ++ '/' :: base)
    (hother : other.toList = (Path.withoutIdleNames r).reverse ++ '/' :: base)
    (hpath : refusal? path = none) : refusal? other = none := by
  obtain ⟨idle, hidle⟩ := Path.withoutIdleNames_isSuffix r
  have hparts : path = String.ofList (Path.withoutIdleNames r).reverse ++ String.ofList idle.reverse
      ++ String.ofList ('/' :: base) := by
    have hr : r.reverse = (Path.withoutIdleNames r).reverse ++ idle.reverse := by
      rw [← List.reverse_append, hidle]
    rw [← String.toList_inj, h, hr]
    simp
  have hparts' : other = String.ofList (Path.withoutIdleNames r).reverse ++
      String.ofList ('/' :: base) := by
    rw [← String.toList_inj, hother]
    simp
  unfold refusal? at hpath ⊢
  split at hpath
  · cases hpath
  rename_i hnul
  split at hpath
  · cases hpath
  rename_i hsize
  split at hpath
  · cases hpath
  rw [if_neg, if_neg, if_neg]
  · rw [hparts']
    simp
  · rw [hparts, String.utf8ByteSize_append, String.utf8ByteSize_append] at hsize
    rw [hparts', String.utf8ByteSize_append]
    omega
  · rw [hparts] at hnul
    rw [hparts']
    simp only [List.contains_iff_mem, String.toList_append, List.mem_append] at hnul ⊢
    exact fun hmem => hnul (hmem.imp_left .inl)

/-- A module that has the name of a file, in the directory of the file, is the file. -/
theorem read_beside {path : String} {bytes : List UInt8} (h : tree.read path = .ok bytes) :
    tree.read (Path.ofModule (Path.directory path) (Path.fileName path)) = .ok bytes := by
  rcases Path.ofModule_beside path with hsame | ⟨r, base, hbase, hpath, hother⟩
  · rwa [hsame]
  · have hunrefused : refusal? path = none := by
      unfold read locate at h
      cases hrefusal : refusal? path with
      | none => rfl
      | some reason =>
        rw [hrefusal] at h
        cases h
    have hlocate : tree.locate (Path.ofModule (Path.directory path) (Path.fileName path)) =
        tree.locate path := by
      unfold locate start
      rw [hunrefused, refusal?_withoutIdleNames hpath hother hunrefused,
        Path.isAbsolute_withoutIdleNames hpath hother, namesOf_eq hpath, namesOf_eq hother,
        walk_withoutIdleNames]
    unfold read at h ⊢
    rw [hlocate]
    exact h

end FileTree

end EnvConfig
