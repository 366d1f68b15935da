import EnvConfig.Proofs.Emission.Loadable
import EnvConfig.Proofs.Resolution
import Mathlib.Data.List.TakeWhile

/-!
# One type under several names

A definition can be named in full, with a leading dot, and relative to the packages around the
root.  Most of the rules for fields ask what the name of a type means.  Two of them ask how it is
spelled: names in the package of the wrapper messages are taken as they stand, and where a value may
be absent so are the names of scalars.

* `Spelling`: what these two rules make of a name;
* `Field.singularClass_eq_classOf`: the class of a single value, from the spelling of its type and
  what it means;
* `Spelling.of_resolved`: where wrapper messages and scalars can only be named in full, what a
  name means says how it is spelled;
* `Field.classify_respelled`: exactly when two names of one definition give one class.
-/

namespace EnvConfig

open Text

/-- what the rules on the text of a type make of a name -/
inductive Spelling where
  /-- a scalar that may be absent -/
  | wrapper (shape : WrapperShape)
  /-- another name in the package of the wrapper messages -/
  | reserved
  /-- a name that is looked up -/
  | free
deriving Repr, DecidableEq

/-- the spelling of the type of a field with the given label -/
def Spelling.of (label : Label) (name : String) : Spelling :=
  match Storage.ofWrapperType? name with
  | some s => .wrapper (.wellKnown s)
  | none =>
    if inWrapperPackage name then .reserved
    else match label, ScalarKind.ofDeclared? name with
      | .optional, some k => .wrapper (.optional k)
      | _, _ => .free

def Spelling.isWrapper : Spelling → Bool
  | wrapper _ => true
  | _ => false

/-- errors of one kind, with whatever they say about it -/
def EmitError.SameKind : EmitError → EmitError → Prop
  | unsupportedType _ _ _, unsupportedType _ _ _ => True
  | unsupportedMap _ _ _ _, unsupportedMap _ _ _ _ => True
  | sameVariable _ _ _ _, sameVariable _ _ _ _ => True
  | _, _ => False

/-- one class, or errors of one kind -/
inductive SameClass : Except EmitError FieldClass → Except EmitError FieldClass → Prop
  | ok (c : FieldClass) : SameClass (.ok c) (.ok c)
  | error {e e' : EmitError} (h : e.SameKind e') : SameClass (.error e) (.error e')

theorem EmitError.SameKind.refl (e : EmitError) : e.SameKind e := by
  cases e <;> trivial

theorem SameClass.refl (r : Except EmitError FieldClass) : SameClass r r := by
  cases r with
  | ok c => exact .ok c
  | error e => exact .error (.refl e)

@[simp]
theorem sameClass_ok_iff {c c' : FieldClass} : SameClass (.ok c) (.ok c') ↔ c = c' :=
  ⟨fun h => by cases h; rfl, fun h => h ▸ .ok c⟩

@[simp]
theorem sameClass_error_iff {e e' : EmitError} :
    SameClass (.error e) (.error e') ↔ e.SameKind e' :=
  ⟨fun h => by cases h; assumption, .error⟩

@[simp]
theorem not_sameClass_ok_error {c : FieldClass} {e : EmitError} :
    ¬ SameClass (.ok c) (.error e) := nofun

@[simp]
theorem not_sameClass_error_ok {c : FieldClass} {e : EmitError} :
    ¬ SameClass (.error e) (.ok c) := nofun

/-! ### classes from spellings -/

/-- the class of a single value whose type is spelled in this way and means `d` -/
def Spelling.classOf (label : Label) (d : Definition) (refusal : EmitError) :
    Spelling → Except EmitError FieldClass
  | wrapper shape => .ok (.wrapper shape)
  | reserved => .error refusal
  | free =>
    match d with
    | .message _ m => .ok (.nested m)
    | .enum _ e => if label = .optional then .error refusal else .ok (.enum e)

/-- Two spellings give one class if they are the same.  Others do only where both of them are
refused: an enum that may be absent is refused, as a name in the package of the wrapper messages
is. -/
theorem Spelling.sameClass_iff {label : Label} {d : Definition} {refusal refusal' : EmitError}
    (h : refusal.SameKind refusal') (s s' : Spelling) :
    SameClass (s.classOf label d refusal) (s'.classOf label d refusal') ↔
      s = s' ∨ label = .optional ∧ (∃ file e, d = .enum file e) ∧
        s.isWrapper = false ∧ s'.isWrapper = false := by
  cases d with
  | message file m => cases s <;> cases s' <;> simp [classOf, isWrapper, h]
  | enum file e =>
    by_cases hlabel : label = .optional <;> cases s <;> cases s' <;>
      simp [classOf, isWrapper, h, hlabel]

namespace Field

/-- the spelling of the type of a field; a map has no other -/
def spelling (f : Field) : Spelling :=
  match f.type with
  | .named name => Spelling.of f.label name
  | .map _ _ => .free

variable {set : SchemaSet} {f g : Field} {message : String} {d : Definition} {t : Target}

theorem exists_named_of_definition? (hd : f.definition? set = some d) :
    ∃ name, f.type = .named name ∧ set.resolve name = some d := by
  unfold definition? at hd
  cases htype : f.type with
  | named name =>
    rw [htype] at hd
    exact ⟨name, rfl, hd⟩
  | map key value =>
    rw [htype] at hd
    cases hd

theorem singularClass_eq_classOf (hd : f.definition? set = some d) :
    f.singularClass set message = f.spelling.classOf f.label d (f.unsupported message) := by
  obtain ⟨name, htype, -⟩ := exists_named_of_definition? hd
  have hspelling : f.spelling = Spelling.of f.label name := by rw [spelling, htype]
  have hrefusal : f.unsupported message = .unsupportedType message f.name name := by
    rw [unsupported, htype]
  rw [hspelling]
  unfold Spelling.of
  cases hwrapper : Storage.ofWrapperType? name with
  | some s => simp only [singularClass, htype, hwrapper, Spelling.classOf]
  | none =>
    cases hpackage : inWrapperPackage name with
    | true =>
      simp only [singularClass, htype, hwrapper, hpackage, if_true, Spelling.classOf, hrefusal]
    | false =>
      simp only [Bool.false_eq_true, if_false]
      split
      · rename_i k hlabel hk
        simp [singularClass, htype, hwrapper, hpackage, hlabel, hk, Spelling.classOf]
      · rename_i hnot
        have hscalar : f.label = .optional → ∀ k : ScalarKind, k.declared ≠ name := by
          rintro hlabel k rfl
          exact hnot k hlabel (ScalarKind.ofDeclared?_declared k)
        rw [singularClass_of_definition message htype hwrapper hpackage hscalar, hd]
        cases d <;> rfl

/-- The type of a field that is left alone or repeated matters by what it means only. -/
theorem sameClass_classify_iff (hg : g = { f with type := g.type })
    (hd : f.definition? set = some d) (hd' : g.definition? set = some d) :
    SameClass (f.classify set message t) (g.classify set message t) ↔
      ¬ f.Loadable set t ∨ f.label = .repeated ∨
        SameClass (f.singularClass set message) (g.singularClass set message) := by
  have hmessage : g.message? set = f.message? set := by
    show (g.definition? set).bind _ = (f.definition? set).bind _
    rw [hd, hd']
  have henum : g.enum? set = f.enum? set := by
    show (g.definition? set).bind _ = (f.definition? set).bind _
    rw [hd, hd']
  have hlabel : g.label = f.label := by rw [hg]
  have htargets : g.targets = f.targets := by rw [hg]
  have hskip : g.skipReason? set t = f.skipReason? set t := by
    rw [skipReason?, skipReason?, hmessage, hlabel, htargets]
  unfold classify
  rw [loadable_iff, hskip, hlabel, henum]
  cases hreason : f.skipReason? set t with
  | some reason => simp
  | none =>
    by_cases hrepeated : f.label = .repeated
    · simp only [hrepeated, if_true, true_or, or_true, iff_true]
      exact .refl _
    · simp [hrepeated]

end Field

/-! ### names of wrapper messages -/

/-- Wrapper messages can be named in full only, and scalars are all that their names can mean: no
other package, the root's included, has `google` in it, and no definition has the name of a
scalar. -/
structure SchemaSet.WrappersApart (set : SchemaSet) : Prop where
  identifiers : set.HasIdentifiers
  root : "google".toList ∉ set.root.packageSegments
  packages : ∀ g ∈ set.files, "google".toList ∈ g.packageSegments →
    g.package = some "google.protobuf"
  scalars : ∀ g ∈ set.files, ∀ name ∈ g.typeNames, ScalarKind.ofDeclared? name = none

theorem wrapperPackage_append_ne (name rest : String) :
    Storage.wrapperPackage ++ name ≠ "." ++ rest := by
  intro h
  have hchars := congrArg (·.toList.head?) h
  simp [Storage.wrapperPackage] at hchars

theorem inWrapperPackage_append (name : String) :
    inWrapperPackage (Storage.wrapperPackage ++ name) = true := by
  rw [inWrapperPackage, withoutDots_of_ne (wrapperPackage_append_ne name), String.toList_append]
  simp

theorem inWrapperPackage_dot (name : String) :
    inWrapperPackage ("." ++ name) = inWrapperPackage name := by
  rw [inWrapperPackage, withoutDots_cons, inWrapperPackage]

theorem inWrapperPackage_of_spelledBy {s : Storage} {name : String} (h : s.SpelledBy name) :
    inWrapperPackage name = true := by
  obtain rfl | rfl := h
  · exact inWrapperPackage_append s.messageName
  · rw [inWrapperPackage_dot]
    exact inWrapperPackage_append s.messageName

namespace SchemaSet

variable {set : SchemaSet} {f : File} {name full : String} {d : Definition}

/-- a definition that is found is one of its file -/
theorem Finds.mem (h : set.Finds full d) : d.file ∈ set.files ∧ d.name ∈ d.file.typeNames := by
  obtain ⟨before, g, after, hfiles, hdefines, -⟩ := h
  have hg : g ∈ set.files := by
    rw [hfiles]
    exact List.mem_append_right _ List.mem_cons_self
  cases hdefines with
  | message _ hm =>
    exact ⟨hg, List.mem_append_left _ (List.mem_map_of_mem (List.mem_of_find?_eq_some hm))⟩
  | enum _ _ he =>
    exact ⟨hg, List.mem_append_right _ (List.mem_map_of_mem (List.mem_of_find?_eq_some he))⟩

/-- a name without its leading dot is the end of the path of what it means -/
theorem exists_path_eq (hset : set.HasIdentifiers) (h : set.resolveFrom f name = some d) :
    ∃ front full, front <+: f.packageSegments ∧ (name = full ∨ name = "." ++ full) ∧
      d.path = front ++ segments '.' full.toList := by
  cases resolveFrom_eq_some_iff.mp h with
  | @absolute full hname hfinds =>
    exact ⟨[], full, List.nil_prefix, .inr hname, (hfinds.segments_eq hset).symm⟩
  | relative _ hscope hfinds _ =>
    obtain ⟨front, hfront, hsegments⟩ := segments_qualified name hscope
    exact ⟨front, name, hfront, .inl rfl, by rw [← hfinds.segments_eq hset, hsegments]⟩

theorem mem_of_resolveFrom (h : set.resolveFrom f name = some d) :
    d.file ∈ set.files ∧ d.name ∈ d.file.typeNames := by
  cases resolveFrom_eq_some_iff.mp h with
  | absolute _ hfinds => exact hfinds.mem
  | relative _ _ hfinds _ => exact hfinds.mem

/-- a text in the package of the wrapper messages has `google` among its segments, and not at the
end -/
theorem exists_segments_of_inWrapperPackage (h : inWrapperPackage full = true) :
    ∃ front back, segments '.' full.toList = front ++ back ∧ "google".toList ∈ front ∧
      back ≠ [] := by
  obtain ⟨rest, hrest⟩ := List.isPrefixOf_iff_prefix.mp h
  have hdots : ∀ dots : List Char, (∀ c ∈ dots, c = '.') →
      "google".toList ∈ segments '.' (dots ++ "google".toList) := by
    intro dots hall
    induction dots with
    | nil => decide
    | cons c dots ih =>
      rw [List.forall_mem_cons] at hall
      obtain ⟨rfl, hall⟩ := hall
      have hcut := segments_append_cons '.' [] (dots ++ "google".toList)
      rw [List.nil_append] at hcut
      rw [List.cons_append, hcut]
      exact List.mem_append_right _ (ih hall)
  have hpackage : Storage.wrapperPackage.toList =
      "google".toList ++ '.' :: "protobuf.".toList := by decide
  have htext : full.toList = (full.toList.takeWhile (· == '.') ++ "google".toList) ++
      '.' :: ("protobuf.".toList ++ rest) := by
    rw [hpackage] at hrest
    conv_lhs => rw [← List.takeWhile_append_dropWhile (p := (· == '.')) (l := full.toList)]
    rw [List.append_assoc]
    congr 1
    rw [← List.cons_append, ← List.append_assoc]
    exact hrest.symm
  refine ⟨_, _, (congrArg (segments '.') htext).trans (segments_append_cons '.' _ _), ?_,
    segments_ne_nil _ _⟩
  exact hdots _ fun c hc => by simpa using List.mem_takeWhile_imp hc

end SchemaSet

/-- a leading dot changes nothing in the package of the wrapper messages -/
theorem Spelling.of_dot (label : Label) (name : String) :
    of label ("." ++ (Storage.wrapperPackage ++ name)) =
      of label (Storage.wrapperPackage ++ name) := by
  have hdot := wrapperPackage_append_ne name
  have hwrapper : Storage.ofWrapperType? ("." ++ (Storage.wrapperPackage ++ name)) =
      Storage.ofWrapperType? (Storage.wrapperPackage ++ name) := by
    refine congrArg Storage.all.find? (funext fun s => decide_eq_decide.mpr ?_)
    rw [String.append_right_inj, or_iff_right (s.wrapperType_ne _).symm, or_iff_left (hdot _)]
  unfold of
  rw [hwrapper, inWrapperPackage_dot, inWrapperPackage_append]
  rfl

section
variable {set : SchemaSet} {name : String} {d : Definition}

/-- what is in the package of the wrapper messages is named in full -/
theorem SchemaSet.WrappersApart.eq_of_package (h : set.WrappersApart)
    (hd : set.resolve name = some d) (hpackage : d.file.package = some "google.protobuf") :
    name = Storage.wrapperPackage ++ d.name ∨ name = "." ++ (Storage.wrapperPackage ++ d.name) := by
  obtain ⟨front, full, hfront, hname, hpath⟩ := exists_path_eq h.identifiers hd
  have hsegments : d.file.packageSegments = ["google".toList, "protobuf".toList] := by
    rw [File.packageSegments, hpackage]
    decide
  rw [Definition.path, hsegments] at hpath
  have hfull : full = Storage.wrapperPackage ++ d.name := by
    cases front with
    | nil =>
      rw [List.nil_append] at hpath
      have hjoin := join_segments '.' full.toList
      rw [← hpath] at hjoin
      rw [← String.toList_inj, ← hjoin, String.toList_append]
      rfl
    | cons x front =>
      obtain ⟨hx, -⟩ := List.cons.inj hpath
      exact absurd (hfront.subset (hx ▸ List.mem_cons_self)) h.root
  rwa [hfull] at hname

/-- nothing else is named as the wrapper messages are -/
theorem SchemaSet.WrappersApart.inWrapperPackage_eq_false (h : set.WrappersApart)
    (hd : set.resolve name = some d) (hpackage : d.file.package ≠ some "google.protobuf") :
    inWrapperPackage name = false := by
  refine Bool.eq_false_iff.mpr fun hin => hpackage ?_
  obtain ⟨front, full, -, hname, hpath⟩ := exists_path_eq h.identifiers hd
  have hfull : inWrapperPackage full = true := by
    obtain rfl | rfl := hname
    · exact hin
    · rwa [inWrapperPackage_dot] at hin
  obtain ⟨as, bs, hsegments, hmem, hne⟩ := exists_segments_of_inWrapperPackage hfull
  -- the name of the definition is the last segment, so `google` is one of the package
  have hlast := congrArg List.dropLast hpath
  rw [Definition.path, hsegments, List.dropLast_concat, ← List.append_assoc,
    List.dropLast_append_of_ne_nil hne] at hlast
  refine h.packages _ (mem_of_resolveFrom hd).1 ?_
  rw [hlast]
  exact List.mem_append_left _ (List.mem_append_right _ hmem)

theorem SchemaSet.WrappersApart.ofDeclared?_eq_none (h : set.WrappersApart)
    (hd : set.resolve name = some d) : ScalarKind.ofDeclared? name = none := by
  refine Option.eq_none_iff_forall_ne_some.mpr fun k hk => ?_
  obtain rfl := ScalarKind.declared_of_ofDeclared? hk
  obtain ⟨front, full, -, hname, hpath⟩ := exists_path_eq h.identifiers hd
  have hdot : '.' ∉ k.declared.toList := by cases k <;> decide
  obtain rfl | hname := hname
  · rw [Definition.path, segments_of_not_mem hdot] at hpath
    obtain ⟨-, hlast⟩ := List.append_inj' hpath rfl
    have hsame : d.name = k.declared := String.toList_inj.mp (List.cons.inj hlast).1
    obtain ⟨hfile, hmem⟩ := mem_of_resolveFrom hd
    have hscalar := h.scalars d.file hfile d.name hmem
    rw [hsame, hk] at hscalar
    cases hscalar
  · rw [hname] at hdot
    simp at hdot

/-- Where the wrapper messages and the scalars are named in full only, what a name means says how it
is spelled. -/
theorem Spelling.of_resolved (h : set.WrappersApart) (hd : set.resolve name = some d)
    (label : Label) : of label name =
      if d.file.package = some "google.protobuf" then of label (Storage.wrapperPackage ++ d.name)
      else .free := by
  split
  · rename_i hpackage
    obtain hname | hname := h.eq_of_package hd hpackage
    · rw [hname]
    · rw [hname, of_dot]
  · rename_i hpackage
    have hin := h.inWrapperPackage_eq_false hd hpackage
    have hwrapper : Storage.ofWrapperType? name = none := by
      refine Option.eq_none_iff_forall_ne_some.mpr fun s hs => ?_
      rw [inWrapperPackage_of_spelledBy (Field.spelledBy_of_ofWrapperType? hs)] at hin
      cases hin
    unfold of
    rw [hwrapper, hin, h.ofDeclared?_eq_none hd]
    cases label <;> rfl

end

/-! ### fields with other names for their types -/

/-- Two fields that differ in the name of a type, where both names mean one definition, have one
class exactly if the field is left alone or repeated, if both names are spelled alike for the rules
on texts, or if the field is refused for either.  All names of a definition are spelled alike where
wrapper messages and scalars can be named in full only. -/
theorem Field.classify_respelled {set : SchemaSet} {f g : Field} {d : Definition}
    (hg : g = { f with type := g.type }) (hd : f.definition? set = some d)
    (hd' : g.definition? set = some d) (message : String) (t : Target) :
    (SameClass (f.classify set message t) (g.classify set message t) ↔
      ¬ f.Loadable set t ∨ f.label = .repeated ∨ f.spelling = g.spelling ∨
        f.label = .optional ∧ (∃ file e, d = .enum file e) ∧
          f.spelling.isWrapper = false ∧ g.spelling.isWrapper = false) ∧
    (set.WrappersApart → SameClass (f.classify set message t) (g.classify set message t)) := by
  have hlabel : g.label = f.label := by rw [hg]
  obtain ⟨name, htype, hname⟩ := exists_named_of_definition? hd
  obtain ⟨name', htype', hname'⟩ := exists_named_of_definition? hd'
  have hrefusal : (f.unsupported message).SameKind (g.unsupported message) := by
    rw [unsupported, unsupported, htype, htype']
    trivial
  have hiff : SameClass (f.classify set message t) (g.classify set message t) ↔
      ¬ f.Loadable set t ∨ f.label = .repeated ∨ f.spelling = g.spelling ∨
        f.label = .optional ∧ (∃ file e, d = .enum file e) ∧
          f.spelling.isWrapper = false ∧ g.spelling.isWrapper = false := by
    rw [sameClass_classify_iff hg hd hd', singularClass_eq_classOf hd, singularClass_eq_classOf hd',
      hlabel, Spelling.sameClass_iff hrefusal]
  refine ⟨hiff, fun h => hiff.mpr (.inr (.inr (.inl ?_)))⟩
  rw [spelling, spelling, htype, htype', hlabel]
  exact (Spelling.of_resolved h hname f.label).trans (Spelling.of_resolved h hname' f.label).symm

/-- the file of the wrapper messages, with one of them -/
def int32WrapperFile : File :=
  { File.empty "google/protobuf/wrappers.proto" with
    package := some "google.protobuf"
    messages := [⟨"Int32Value", ⟨64, 9⟩, [⟨"value", ⟨65, 9⟩, .named "int32", 1, .plain, [], .all⟩],
      [], .all⟩] }

def Field.ofInt32Value : Field :=
  ⟨"b", ⟨1, 0⟩, .named "google.protobuf.Int32Value", 2, .plain, [], .all⟩

def Field.ofInner : Field := ⟨"a", ⟨1, 0⟩, .named "Inner", 1, .plain, [], .all⟩

/-- a root with a message and a wrapper message in it -/
def acmeSet : SchemaSet where
  root := { File.empty "app.proto" with
    package := some "acme"
    messages := [⟨"Root", ⟨1, 0⟩, [.ofInner, .ofInt32Value], [], .all⟩,
      ⟨"Inner", ⟨1, 0⟩, [], [], .all⟩] }
  imports := [int32WrapperFile]

/-- a message by its own name and in full, and a wrapper message with a leading dot and without -/
theorem classify_respelled_acme : acmeSet.WrappersApart ∧
    (∃ d, Field.ofInner.definition? acmeSet = some d ∧
      { Field.ofInner with type := .named ".acme.Inner" }.definition? acmeSet = some d) ∧
    SameClass (Field.ofInner.classify acmeSet "Root" (.of "rust"))
      ({ Field.ofInner with type := .named ".acme.Inner" }.classify acmeSet "Root" (.of "rust")) ∧
    SameClass (Field.ofInt32Value.classify acmeSet "Root" (.of "rust"))
      ({ Field.ofInt32Value with type := .named ".google.protobuf.Int32Value" }.classify acmeSet
        "Root" (.of "rust")) := by
  have hapart : acmeSet.WrappersApart := ⟨by decide, by decide, by decide, by decide⟩
  have hinner : (Field.ofInner.definition? acmeSet).isSome = true := by decide +kernel
  have hwrapper : (Field.ofInt32Value.definition? acmeSet).isSome = true := by decide +kernel
  obtain ⟨d, hd⟩ := Option.isSome_iff_exists.mp hinner
  obtain ⟨e, he⟩ := Option.isSome_iff_exists.mp hwrapper
  have hd' : { Field.ofInner with type := .named ".acme.Inner" }.definition? acmeSet = some d := by
    rw [← hd]
    decide +kernel
  have he' : { Field.ofInt32Value with type := .named ".google.protobuf.Int32Value" }.definition?
      acmeSet = some e := by
    rw [← he]
    decide +kernel
  exact ⟨hapart, ⟨d, hd, hd'⟩, (Field.classify_respelled rfl hd hd' "Root" (.of "rust")).2 hapart,
    (Field.classify_respelled rfl he he' "Root" (.of "rust")).2 hapart⟩

def Field.ofNearbyInt32Value : Field :=
  ⟨"a", ⟨1, 0⟩, .named "protobuf.Int32Value", 1, .plain, [], .all⟩

/-- a root in a package next to that of the wrapper messages -/
def nearbySet : SchemaSet where
  root := { File.empty "app.proto" with
    package := some "google.app"
    messages := [⟨"Root", ⟨1, 0⟩, [.ofNearbyInt32Value, .ofInt32Value], [], .all⟩] }
  imports := [int32WrapperFile]

/-- From a package next to its own a wrapper message can be named by the end of its full name; it is
then loaded as any other message is. -/
theorem classify_respelled_nearby : nearbySet.verify = .ok () ∧
    (∃ d, Field.ofNearbyInt32Value.definition? nearbySet = some d ∧
      { Field.ofNearbyInt32Value with type := Field.ofInt32Value.type }.definition? nearbySet =
        some d) ∧
    (∃ m, Field.ofNearbyInt32Value.classify nearbySet "Root" (.of "rust") = .ok (.nested m)) ∧
    { Field.ofNearbyInt32Value with type := Field.ofInt32Value.type }.classify nearbySet "Root"
      (.of "rust") = .ok (.wrapper (.wellKnown .int32)) ∧
    ¬ SameClass (Field.ofNearbyInt32Value.classify nearbySet "Root" (.of "rust"))
      ({ Field.ofNearbyInt32Value with type := Field.ofInt32Value.type }.classify nearbySet "Root"
        (.of "rust")) := by
  have hverify : nearbySet.verify = .ok () :=
    SchemaSet.verify_of_rank (fun h => if h.message.name = "Root" then 1 else 0) (by decide +kernel)
      (by decide +kernel) (by decide +kernel) (by decide +kernel)
  have hresolved : (Field.ofNearbyInt32Value.definition? nearbySet).isSome = true := by
    decide +kernel
  obtain ⟨d, hd⟩ := Option.isSome_iff_exists.mp hresolved
  have hd' : { Field.ofNearbyInt32Value with type := Field.ofInt32Value.type }.definition?
      nearbySet = some d := by
    rw [← hd]
    decide +kernel
  have hnested : ∃ m, Field.ofNearbyInt32Value.classify nearbySet "Root" (.of "rust") =
      .ok (.nested m) :=
    ⟨⟨"Int32Value", ⟨64, 9⟩, [⟨"value", ⟨65, 9⟩, .named "int32", 1, .plain, [], .all⟩], [], .all⟩,
      by decide +kernel⟩
  have hwrapper : { Field.ofNearbyInt32Value with type := Field.ofInt32Value.type }.classify
      nearbySet "Root" (.of "rust") = .ok (.wrapper (.wellKnown .int32)) := by decide +kernel
  refine ⟨hverify, ⟨d, hd, hd'⟩, hnested, hwrapper, ?_⟩
  obtain ⟨m, hm⟩ := hnested
  rw [hm, hwrapper]
  simp

end EnvConfig
