import EnvConfig.Proofs.Naming.GoIdentifiers
import EnvConfig.Proofs.Naming.Statements
import EnvConfig.Proofs.Render.Brackets

/-!
# Brackets of Go loaders

The code of each kind of statement is put together from fixed texts and from names.  In names there
are no brackets, so that the fixed texts decide; those of a line or of the head of a block are gone
through one after the other.

* `GoCode.sound_statementCode`, `GoCode.sound_procedureCode`: the code of a statement and of a
  procedure is sound;
* `GoCode.sound_loaderCode`: so is that of a file, whose name only stands in a comment.
-/

namespace EnvConfig

open Text

namespace GoCode

open Code

theorem closed_fieldName {name : String} (h : isIdentifier name.toList = true) :
    Closed (fieldName name) :=
  closed_of_isNameChar (isNameChar_fieldName h)

theorem closed_shortName (s : Storage) : Closed s.shortName := by
  cases s <;> exact closed_ofList rfl

theorem closed_getter (s : Storage) : Closed (getter s) :=
  .append (.append (closed_ofList rfl) (closed_shortName s)) (closed_ofList rfl)

theorem closed_messageName (s : Storage) : Closed s.messageName :=
  .append (closed_shortName s) (closed_ofList rfl)

theorem closed_zeroLiteral (s : Storage) : Closed (zeroLiteral s) := by
  cases s <;> exact closed_ofList rfl

theorem closed_typeOf (s : Storage) : Closed (typeOf s) := by
  cases s <;> exact closed_ofList rfl

theorem closed_default {name : String} (h : Closed name) : Closed (default name) :=
  .append (closed_ofList rfl) h

theorem closed_key {slot : Slot} (h : Closed slot.fragment) : Closed (key slot) :=
  .append (.append (closed_ofList rfl) h) (closed_ofList rfl)

theorem closed_ifDefaults {condition : String} (h : Closed condition) :
    Closed (ifDefaults condition) :=
  .append (closed_ofList rfl) h

section
variable {slot : Slot} (hname : Closed (fieldName slot.name)) (hkey : Closed (key slot))
include hname hkey

theorem sound_scalarCode (s : Storage) : AllSound (scalarCode slot s) := by
  have hdefault := closed_default hname
  have hzero := closed_zeroLiteral s
  simp only [scalarCode, AllSound, Sound, PartsSound, ne_eq, reduceCtorEq, not_false_eq_true,
    true_and, and_true]
  refine ⟨?_, .of_closed ?_, ?_, .of_closed ?_⟩
  · exact ((((leaves_ofList rfl).closed (closed_getter s)).fixed rfl).closed hkey).fixed rfl
  · exact ((leaves_ofList rfl).closed hname).fixed rfl
  · refine (((((leaves_ofList rfl).closed hname).fixed rfl).closed hzero).fixed rfl).closed ?_
    exact closed_ifDefaults ((hdefault.append (closed_ofList rfl)).append hzero)
  · exact (((leaves_ofList rfl).closed hname).fixed rfl).closed hdefault

theorem sound_wellKnownCode (s : Storage) : AllSound (wrapperCode slot (.wellKnown s)) := by
  have hdefault := closed_default hname
  have hmessage : Closed ("wrappers." ++ s.messageName) :=
    .append (closed_ofList rfl) (closed_messageName s)
  have hget := closed_getter (WrapperShape.wellKnown s).scalar.storage
  simp only [wrapperCode, wellKnownParts, block, AllSound, Sound, PartsSound, ne_eq, reduceCtorEq,
    not_false_eq_true, true_and, and_true]
  refine ⟨?_, .of_closed ?_, ?_, .of_comment (isCommentLine_ofList rfl (by decide)),
    .of_comment (isCommentLine_ofList rfl (by decide)), .of_closed ?_, ?_, .of_closed ?_⟩
  · exact ((((leaves_ofList rfl).closed hget).fixed rfl).closed hkey).fixed rfl
  · exact ((((leaves_ofList rfl).closed hname).fixed rfl).closed hmessage).fixed rfl
  · exact ((leaves_ofList rfl).closed hname).fixed rfl
  · exact ((((leaves_ofList rfl).closed hname).fixed rfl).closed hmessage).fixed rfl
  · exact .append (closed_ofList rfl) (closed_ifDefaults (hdefault.append (closed_ofList rfl)))
  · exact ((((((leaves_ofList rfl).closed hname).fixed rfl).closed hmessage).fixed rfl).closed
      hdefault).fixed rfl

theorem sound_optionalCode (kind : ScalarKind) : AllSound (wrapperCode slot (.optional kind)) := by
  have hdefault := closed_default hname
  have hget := closed_getter (WrapperShape.optional kind).scalar.storage
  simp only [wrapperCode, optionalParts, block, AllSound, Sound, PartsSound, ne_eq, reduceCtorEq,
    not_false_eq_true, true_and, and_true]
  refine ⟨?_, .of_closed ?_, ?_, .of_closed ?_, ⟨?_, .of_closed ?_⟩, .of_closed ?_⟩
  · exact ((((leaves_ofList rfl).closed hget).fixed rfl).closed hkey).fixed rfl
  · exact ((leaves_ofList rfl).closed hname).fixed rfl
  · exact ((leaves_ofList rfl).closed hname).fixed rfl
  · exact .append (closed_ofList rfl) (closed_typeOf kind.storage)
  · exact .append (closed_ofList rfl) (closed_ifDefaults (hdefault.append (closed_ofList rfl)))
  · exact .append (closed_ofList rfl) hdefault
  · exact ((leaves_ofList rfl).closed hname).fixed rfl

omit hname in
theorem sound_unknownSymbol : Sound (unknownSymbol slot) := by
  have hreturn : Closed
      ("return fmt.Errorf(\"environment variable %s holds unknown enum symbol %q\", " ++ key slot ++
        ", val)") :=
    ((leaves_ofList rfl).closed hkey).fixed rfl
  exact sound_block (closed_ofList rfl) ⟨.of_closed hreturn, trivial⟩

theorem sound_enumCode {table : SymbolTable} (htype : Closed (fieldName table.name)) :
    AllSound (enumCode slot table) := by
  have hdefault := closed_default hname
  have hsymbol := sound_unknownSymbol hkey
  simp only [enumCode, symbolLine, AllSound, Sound, PartsSound, ne_eq, reduceCtorEq,
    not_false_eq_true, true_and, and_true]
  refine ⟨?_, ⟨.of_closed ?_, hsymbol, .of_closed ?_⟩, ?_, .of_closed ?_⟩
  · exact ((leaves_ofList rfl).closed hkey).fixed rfl
  · exact ((leaves_ofList rfl).closed htype).fixed rfl
  · exact ((((leaves_ofList rfl).closed hname).fixed rfl).closed htype).fixed rfl
  · exact (((leaves_ofList rfl).closed hname).fixed rfl).closed
      (closed_ifDefaults (hdefault.append (closed_ofList rfl)))
  · exact (((leaves_ofList rfl).closed hname).fixed rfl).closed hdefault

theorem sound_enumListCode {table : SymbolTable} (htype : Closed (fieldName table.name)) :
    AllSound (enumListCode slot table) := by
  have hdefault := closed_default hname
  have hsymbol := sound_unknownSymbol hkey
  simp only [enumListCode, symbolLine, block, AllSound, Sound, PartsSound, ne_eq, reduceCtorEq,
    not_false_eq_true, true_and, and_true]
  refine ⟨?_, ⟨.of_closed ?_, ⟨closed_ofList rfl, .of_closed ?_, hsymbol, .of_closed ?_⟩,
    .of_closed ?_⟩, ?_, .of_closed ?_⟩
  · exact ((leaves_ofList rfl).closed hkey).fixed rfl
  · exact ((leaves_ofList rfl).closed htype).fixed rfl
  · exact ((leaves_ofList rfl).closed htype).fixed rfl
  · exact ((leaves_ofList rfl).closed htype).fixed rfl
  · exact ((leaves_ofList rfl).closed hname).fixed rfl
  · exact (((leaves_ofList rfl).closed hname).fixed rfl).closed
      (closed_ifDefaults (((leaves_ofList rfl).closed hdefault).fixed rfl))
  · exact ((((((leaves_ofList rfl).closed hname).fixed rfl).closed htype).fixed rfl).closed
      hdefault).fixed rfl

omit hkey in
theorem sound_nestedCode {message : String} (hfragment : Closed slot.fragment)
    (htype : Closed (fieldName message)) : AllSound (nestedCode slot message) := by
  have hdefault := closed_default hname
  simp only [nestedCode, block, AllSound, Sound, PartsSound, ne_eq, reduceCtorEq,
    not_false_eq_true, true_and, and_true]
  refine ⟨⟨?_, .of_closed ?_⟩, .of_closed ?_, ⟨closed_ofList rfl, .of_closed ?_⟩, ?_,
    .of_closed (closed_ofList rfl)⟩
  · exact ((leaves_ofList rfl).closed hname).fixed rfl
  · exact ((((leaves_ofList rfl).closed hname).fixed rfl).closed htype).fixed rfl
  · exact (((leaves_ofList rfl).closed hname).fixed rfl).closed htype
  · exact (((leaves_ofList rfl).closed hname).fixed rfl).closed hdefault
  · exact ((((((leaves_ofList rfl).closed hname).fixed rfl).closed hfragment).fixed rfl).closed
      hname).fixed rfl

omit hkey in
theorem sound_mergeMapCode : AllSound (mergeMapCode slot) := by
  have hdefault := closed_default hname
  simp only [mergeMapCode, block, AllSound, Sound, PartsSound, ne_eq, reduceCtorEq,
    not_false_eq_true, true_and, and_true]
  refine ⟨?_, ⟨?_, .of_closed ?_⟩, ?_, ?_, .of_closed ?_⟩
  · exact .append (closed_ofList rfl)
      (closed_ifDefaults (((leaves_ofList rfl).closed hdefault).fixed rfl))
  · exact ((leaves_ofList rfl).closed hname).fixed rfl
  · exact ((((leaves_ofList rfl).closed hname).fixed rfl).closed hdefault).fixed rfl
  · exact .append (closed_ofList rfl) hdefault
  · exact ((leaves_ofList rfl).closed hname).fixed rfl
  · exact ((leaves_ofList rfl).closed hname).fixed rfl

omit hkey in
theorem sound_mutatorCode {type : String} (htype : Closed type) :
    AllSound (mutatorCode type slot) := by
  have hcomment : IsCommentLine ("// PutAll" ++ fieldName slot.name ++ " merges values into " ++
      fieldName slot.name ++ ", overwriting existing keys.") := by
    refine .append (.append (.append (.append ?_ hname.oneLine) ?_) hname.oneLine) ?_
    · exact isCommentLine_ofList rfl (by decide)
    all_goals exact Closed.oneLine (closed_ofList rfl)
  simp only [mutatorCode, block, AllSound, Sound, PartsSound, ne_eq, reduceCtorEq,
    not_false_eq_true, true_and, and_true]
  refine ⟨.of_comment hcomment, ?_, ⟨?_, .of_closed ?_⟩, closed_ofList rfl, .of_closed ?_⟩
  · exact ((((leaves_ofList rfl).closed htype).fixed rfl).closed hname).fixed rfl
  · exact ((leaves_ofList rfl).closed hname).fixed rfl
  · exact ((leaves_ofList rfl).closed hname).fixed rfl
  · exact ((leaves_ofList rfl).closed hname).fixed rfl

end

theorem sound_statementCode {s : Statement} (hs : s.WellNamed) : AllSound (statementCode s) := by
  have hname := closed_fieldName hs.field
  have hfragment := closed_of_isNameChar hs.isNameChar_fragment
  have hkey := closed_key hfragment
  cases s with
  | scalar slot kind => exact sound_scalarCode hname hkey _
  | wrapper slot shape =>
    cases shape with
    | wellKnown storage => exact sound_wellKnownCode hname hkey storage
    | optional kind => exact sound_optionalCode hname hkey kind
  | enum slot table => exact sound_enumCode hname hkey (closed_fieldName (hs.type _ rfl))
  | enumList slot table => exact sound_enumListCode hname hkey (closed_fieldName (hs.type _ rfl))
  | nested slot message =>
    exact sound_nestedCode hname hfragment (closed_fieldName (hs.type _ rfl))
  | mergeMap slot => exact sound_mergeMapCode hname

theorem sound_procedureCode {p : Procedure} (hmessage : isIdentifier p.message.toList = true)
    (hstatements : ∀ s ∈ p.statements, s.WellNamed) : AllSound (procedureCode p) := by
  have htype := closed_fieldName hmessage
  have hbody : AllSound (separated (p.statements.map statementCode) ++ [line "return nil"]) := by
    refine (allSound_separated ?_).append ⟨.of_closed (closed_ofList rfl), trivial⟩
    exact List.forall_mem_map.mpr fun s hs => sound_statementCode (hstatements s hs)
  have hhead : Closed ("func (x *" ++ fieldName p.message ++
      ") loadFromEnv(prefix string, defaultValues *" ++ fieldName p.message ++ ") error") :=
    ((((leaves_ofList rfl).closed htype).fixed rfl).closed htype).fixed rfl
  have hend : Closed "initialized." := closed_ofList rfl
  refine AllSound.append ⟨.of_comment (.append (isCommentLine_ofList rfl (by decide)) hend.oneLine),
    sound_block hhead hbody, trivial⟩ (allSound_flatMap fun slot hslot => ?_)
  have hwell := hstatements _ (Procedure.mergeMap_of_mem_mapMutators hslot)
  exact ⟨trivial, sound_mutatorCode (closed_fieldName hwell.field) htype⟩

theorem tidy_importLine {u : LoaderUnit} : ∀ spec ∈ importLines u, Tidy [] [spec] := by
  have hspec : ∀ spec ∈ ["\"fmt\"", "\"strings\"",
      "wrappers \"github.com/golang/protobuf/ptypes/wrappers\""], Tidy [] [spec] := by
    simp only [List.forall_mem_cons]
    refine ⟨?_, ?_, ?_, List.forall_mem_nil _⟩
    all_goals exact ⟨by decide +kernel, [], .nil, by decide +kernel⟩
  intro spec h
  refine hspec spec ?_
  unfold importLines at h
  grind

theorem sound_loaderCode {u : LoaderUnit} {module : String} (hsource : '\n' ∉ u.source.toList)
    (hmodule : Plain module) (hprocedures : ∀ p ∈ u.procedures, AllSound (procedureCode p)) :
    AllSound (loaderCode u module) := by
  have himports : AllSound ((importLines u).map line) :=
    allSound_iff.mpr (List.forall_mem_map.mpr tidy_importLine)
  have hpackage : Closed ("package " ++ module) := .append (closed_ofList rfl) hmodule.closed
  have hheader : AllSound [line "// Code generated by protoenv. DO NOT EDIT.",
      line ("// source: " ++ u.source), empty, line ("package " ++ module)] :=
    ⟨.of_comment (isCommentLine_ofList rfl (by decide)),
      .of_comment (.append (isCommentLine_ofList rfl (by decide)) hsource), trivial,
      .of_closed hpackage, trivial⟩
  refine (hheader.append ?_).append (allSound_flatMap fun p hp => ⟨trivial, hprocedures p hp⟩)
  split
  · trivial
  · exact ⟨trivial, ⟨closed_ofList rfl, himports⟩, trivial⟩

end GoCode

end EnvConfig
