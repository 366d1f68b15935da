import EnvConfig.Proofs.Naming.Statements
import EnvConfig.Proofs.Render.Brackets

/-!
# Brackets of Rust loaders

As in Go, names have no brackets and the fixed texts decide.  Tests and copies of values differ from
kind to kind; each of them is closed.

* `RustCode.sound_statementCode`, `RustCode.sound_procedureCode`: the code of a statement and of a
  procedure is sound;
* `RustCode.sound_loaderCode`: so is that of a file, whose name only stands in a comment.
-/

namespace EnvConfig

open Text

namespace RustCode

open Code Naming

theorem closed_snakeCase {name : String} (h : isIdentifier name.toList = true) :
    Closed (snakeCase name) :=
  closed_of_isNameChar (isNameChar_snakeCase h)

theorem closed_fieldName {name : String} (h : isIdentifier name.toList = true) :
    Closed (fieldName name) := by
  have hsnake := closed_snakeCase h
  obtain hname | hname | hname := fieldName_cases name
  · rw [hname]
    exact .append (closed_ofList rfl) hsnake
  · rw [hname]
    exact .append hsnake (closed_ofList rfl)
  · rwa [hname]

theorem isNameChar_capitalized {cs : List Char} (h : ∀ c ∈ cs, isNameChar c = true) :
    ∀ c ∈ capitalized cs, isNameChar c = true := by
  cases cs with
  | nil => exact List.forall_mem_nil _
  | cons c cs =>
    rw [List.forall_mem_cons] at h
    have hall := forall_nameChar (p := fun c => !isNameChar c || (toUpper c).all isNameChar)
      (by decide +kernel) h.1
    rw [h.1, Bool.not_true, Bool.false_or, List.all_eq_true] at hall
    exact List.forall_mem_append.mpr ⟨hall, h.2⟩

theorem closed_typeName {name : String} (h : isIdentifier name.toList = true) :
    Closed (typeName name) := by
  refine closed_of_isNameChar fun c hc => ?_
  rw [typeName, String.toList_ofList] at hc
  obtain ⟨part, hpart, hc⟩ := List.mem_flatMap.mp hc
  refine isNameChar_capitalized (fun d hd => isNameChar_snakeCase h d ?_) c hc
  rw [← join_segments '_' (snakeCase name).toList]
  exact Grammar.mem_join_of_mem hpart hd

theorem closed_typeOf (s : Storage) : Closed (typeOf s) := by
  cases s <;> exact closed_ofList rfl

theorem closed_getter (s : Storage) : Closed (getter s) := by
  refine .append (.append (closed_ofList rfl) ?_) (closed_ofList rfl)
  split
  · exact closed_ofList rfl
  · exact closed_typeOf s

theorem closed_isZero {expr : String} (h : Closed expr) (s : Storage) : Closed (isZero s expr) := by
  cases s
  case string => exact h.append (closed_ofList rfl)
  case bool => exact .append (closed_ofList rfl) h
  all_goals exact .append (h.append (closed_ofList rfl)) (closed_ofList rfl)

theorem closed_isNonzero {expr : String} (h : Closed expr) (s : Storage) :
    Closed (isNonzero s expr) := by
  cases s
  case string => exact .append (.append (closed_ofList rfl) h) (closed_ofList rfl)
  case bool => exact h
  all_goals exact .append (h.append (closed_ofList rfl)) (closed_ofList rfl)

theorem closed_copyOf {expr : String} (h : Closed expr) (k : ScalarKind) :
    Closed (copyOf k expr) := by
  unfold copyOf
  split
  · exact h.append (closed_ofList rfl)
  · exact h

section
variable {slot : Slot} (hname : Closed (fieldName slot.name)) (hfragment : Closed slot.fragment)

include hfragment in
theorem sound_keyLine : Sound (keyLine slot) :=
  .of_closed (((leaves_ofList rfl).closed hfragment).fixed rfl)

theorem sound_fallback {name zero nonzero copy : String} (hname : Closed name)
    (hzero : Closed zero) (hnonzero : Closed nonzero) (hcopy : Closed copy) :
    PartsSound [fallback name zero nonzero copy] := by
  simp only [fallback, block, AllSound, Sound, PartsSound, ne_eq, reduceCtorEq,
    not_false_eq_true, true_and, and_true]
  refine ⟨.append (closed_ofList rfl) hzero, closed_ofList rfl,
    .append (closed_ofList rfl) hnonzero, .of_closed ?_⟩
  exact ((((leaves_ofList rfl).closed hname).fixed rfl).closed hcopy).fixed rfl

include hname in
theorem closed_self : Closed ("self." ++ fieldName slot.name) := .append (closed_ofList rfl) hname

include hname in
theorem closed_default : Closed ("d." ++ fieldName slot.name) := .append (closed_ofList rfl) hname

include hname hfragment

theorem sound_scalarCode (k : ScalarKind) : AllSound (scalarCode slot k) := by
  have hself := closed_self hname
  have hdefault := closed_default hname
  have hkey := sound_keyLine hfragment
  have hfallback := sound_fallback hname (closed_isZero hself k.storage)
    (closed_isNonzero hdefault k.storage) (closed_copyOf hdefault k)
  refine ⟨hkey, ⟨List.cons_ne_nil _ _, ?_, ⟨.of_closed ?_, trivial⟩, hfallback⟩, trivial⟩
  · exact ((leaves_ofList rfl).closed (closed_getter k.storage)).fixed rfl
  · exact ((leaves_ofList rfl).closed hname).fixed rfl

theorem sound_wrapperCode (k : ScalarKind) : AllSound (wrapperCode slot k) := by
  have hcopy := closed_copyOf (closed_default hname) k
  have hkey := sound_keyLine hfragment
  simp only [wrapperCode, AllSound, Sound, PartsSound, ne_eq, reduceCtorEq, not_false_eq_true,
    true_and, and_true]
  refine ⟨hkey, ?_, .of_closed ?_, ?_, .of_closed ?_⟩
  · exact ((leaves_ofList rfl).closed (closed_getter k.storage)).fixed rfl
  · exact ((leaves_ofList rfl).closed hname).fixed rfl
  · exact ((leaves_ofList rfl).closed hname).fixed rfl
  · exact ((((leaves_ofList rfl).closed hname).fixed rfl).closed hcopy).fixed rfl

theorem sound_enumCode {table : SymbolTable} (htype : Closed (typeName table.name)) :
    AllSound (enumCode slot table) := by
  have hself := closed_self hname
  have hdefault := closed_default hname
  have hkey := sound_keyLine hfragment
  refine ⟨hkey, ⟨List.cons_ne_nil _ _, closed_ofList rfl, ⟨.of_closed ?_, trivial⟩, ?_⟩, trivial⟩
  case refine_2 =>
    exact sound_fallback hname (hself.append (closed_ofList rfl))
      (hdefault.append (closed_ofList rfl)) hdefault
  exact ((((leaves_ofList rfl).closed hname).fixed rfl).closed htype).fixed rfl

theorem sound_enumListCode {table : SymbolTable} (htype : Closed (typeName table.name)) :
    AllSound (enumListCode slot table) := by
  have hself := closed_self hname
  have hdefault := closed_default hname
  have hkey := sound_keyLine hfragment
  refine ⟨hkey, ⟨List.cons_ne_nil _ _, closed_ofList rfl,
    ⟨.of_closed (hself.append (closed_ofList rfl)), .of_closed (closed_ofList rfl), .of_closed ?_,
      .of_closed (closed_ofList rfl), trivial⟩, ?_⟩, trivial⟩
  case refine_2 =>
    exact sound_fallback hname (hself.append (closed_ofList rfl))
      (.append (.append (closed_ofList rfl) hname) (closed_ofList rfl))
      (hdefault.append (closed_ofList rfl))
  exact ((leaves_ofList rfl).closed htype).fixed rfl

theorem sound_nestedCode : AllSound (nestedCode slot) := by
  refine ⟨.of_closed (closed_self hname), .of_closed (closed_ofList rfl), .of_closed ?_, trivial⟩
  exact ((((leaves_ofList rfl).closed hfragment).fixed rfl).closed hname).fixed rfl

omit hfragment in
theorem sound_mergeMapCode : AllSound (mergeMapCode slot) := by
  simp only [mergeMapCode, block, AllSound, Sound, PartsSound, ne_eq, reduceCtorEq,
    not_false_eq_true, true_and, and_true]
  refine ⟨closed_ofList rfl, ?_, .of_closed ?_⟩
  · exact .append (closed_ofList rfl) hname
  · exact ((leaves_ofList rfl).closed hname).fixed rfl

omit hfragment in
theorem sound_mutatorCode (hsnake : Closed (snakeCase slot.name)) :
    AllSound (mutatorCode slot) := by
  have hcomment : IsCommentLine ("/// Merges \x60values\x60 into \x60" ++ fieldName slot.name ++
      "\x60, overwriting existing keys.") := by
    refine .append (.append ?_ hname.oneLine) (Closed.oneLine (closed_ofList rfl))
    exact isCommentLine_ofList rfl (by decide)
  refine ⟨.of_comment hcomment, sound_block ?_ ⟨.of_closed ?_, trivial⟩, trivial⟩
  · exact ((leaves_ofList rfl).closed hsnake).fixed rfl
  · exact ((leaves_ofList rfl).closed hname).fixed rfl

end

theorem sound_statementCode {s : Statement} (hs : s.WellNamed) : AllSound (statementCode s) := by
  have hname := closed_fieldName hs.field
  have hfragment := closed_of_isNameChar hs.isNameChar_fragment
  cases s with
  | scalar slot kind => exact sound_scalarCode hname hfragment kind
  | wrapper slot shape => exact sound_wrapperCode hname hfragment _
  | enum slot table => exact sound_enumCode hname hfragment (closed_typeName (hs.type _ rfl))
  | enumList slot table =>
    exact sound_enumListCode hname hfragment (closed_typeName (hs.type _ rfl))
  | nested slot message => exact sound_nestedCode hname hfragment
  | mergeMap slot => exact sound_mergeMapCode hname

theorem sound_procedureCode {p : Procedure} (hmessage : isIdentifier p.message.toList = true)
    (hstatements : ∀ s ∈ p.statements, s.WellNamed) : AllSound (procedureCode p) := by
  have htype := closed_typeName hmessage
  have hunused : AllSound
      (if p.statements.isEmpty then [line "let _ = (prefix, defaults);"] else []) := by
    split
    · exact ⟨.of_closed (closed_ofList rfl), trivial⟩
    · trivial
  have hloads : AllSound (separated (p.statements.map statementCode)) :=
    allSound_separated (List.forall_mem_map.mpr fun s hs => sound_statementCode (hstatements s hs))
  have hend : AllSound [line "Ok(())"] := ⟨.of_closed (closed_ofList rfl), trivial⟩
  have hmethod : Closed ("fn load_from_env(&mut self, prefix: &str, defaults: Option<&" ++
      typeName p.message ++ ">) -> Result<(), LoadError>") :=
    ((leaves_ofList rfl).closed htype).fixed rfl
  have hmutators : AllSound (separated (p.mapMutators.map mutatorCode)) := by
    refine allSound_separated (List.forall_mem_map.mpr fun slot hslot => ?_)
    have hfield := (hstatements _ (Procedure.mergeMap_of_mem_mapMutators hslot)).field
    exact sound_mutatorCode (closed_fieldName hfield) (closed_snakeCase hfield)
  refine ⟨sound_block (.append (closed_ofList rfl) htype) ⟨.of_comment ?_,
    sound_block hmethod ((hunused.append hloads).append hend), trivial⟩, ?_⟩
  · exact isCommentLine_ofList rfl (by decide)
  · split
    · trivial
    · exact ⟨trivial, sound_block (.append (closed_ofList rfl) htype) hmutators, trivial⟩

theorem sound_loaderCode {u : LoaderUnit} {module : String} (hsource : '\n' ∉ u.source.toList)
    (hmodule : Plain module) (hprocedures : ∀ p ∈ u.procedures, AllSound (procedureCode p)) :
    AllSound (loaderCode u module) := by
  have hhead : Closed ("pub mod " ++ module) := .append (closed_ofList rfl) hmodule.closed
  have huses : AllSound [line "use super::*;", line "#[allow(unused_imports)]",
      line "use protoenv::\x7benv, LoadError, LoadFromEnv\x7d;"] :=
    ⟨.of_closed (closed_ofList rfl), .of_closed (closed_ofList rfl), .of_closed (closed_ofList rfl),
      trivial⟩
  have hbody := huses.append (allSound_flatMap (f := fun p => empty :: procedureCode p)
    fun p hp => ⟨trivial, hprocedures p hp⟩)
  refine ⟨.of_comment (isCommentLine_ofList rfl (by decide)),
    .of_comment (.append (isCommentLine_ofList rfl (by decide)) hsource), trivial,
    sound_block hhead hbody, trivial⟩

end RustCode

end EnvConfig
