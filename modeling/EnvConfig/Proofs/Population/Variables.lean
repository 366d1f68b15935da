import EnvConfig.Proofs.Population.ByPath
import EnvConfig.Proofs.Verification.Exact

/-!
# Paths that read one variable

The variable of a path is made of the fragments of its fields, with underscores between them.  A
fragment may have underscores in it, and emission compares the fragments of one message only, so two
paths may end up with one variable.

* `Statement.Reads`: the statements that read the variable of their field;
* `Procedure.Parts`: two paths part at two fields of one message;
* `Slot.Overruns`: how a variable may come out the same beyond that place;
* `LoaderUnit.variable_shared_iff`: this is the only way in which two paths share a variable;
* `LoaderUnit.variables_differ`: no two paths do, if no fragment goes on where that of a nested
  field of the same message ends;
* `variable_shared`: two paths that share a variable.
-/

namespace EnvConfig

/-- the statement reads the variable of its field -/
def Statement.Reads : Statement → Prop
  | .scalar _ _ | .wrapper _ _ | .enum _ _ | .enumList _ _ => True
  | .nested _ _ | .mergeMap _ => False

/-- The fragment of `b` goes on, after an underscore, where the fragment of `a` ends; what it goes
on with, joined to the fields `bs` after `b`, spells the fields `as` after `a`. -/
def Slot.Overruns (b : Slot) (bs : List Slot) (a : Slot) (as : List Slot) : Prop :=
  as ≠ [] ∧ ∃ more, b.fragment = a.fragment ++ "_" ++ more ∧
    "_".intercalate (more :: bs.map (·.fragment)) = "_".intercalate (as.map (·.fragment))

/-- a path through `p` may go on with `slot` and then `slots` -/
def Procedure.GoesOn (p : Procedure) (slot : Slot) (slots : List Slot) : Prop :=
  ∃ s ∈ p.statements, s.slot = slot ∧ (slots ≠ [] → ∃ inner, s = .nested slot inner)

/-- The slots of two paths are the same up to `p`, where the paths go on with `a :: as` and
`b :: bs`, and the fragments of `a` and `b` differ. -/
structure Procedure.Parts (p : Procedure) (path path' : List Slot) (a : Slot) (as : List Slot)
    (b : Slot) (bs : List Slot) : Prop where
  shared : ∃ before, path = before ++ a :: as ∧ path' = before ++ b :: bs
  left : p.GoesOn a as
  right : p.GoesOn b bs
  fragment_ne : a.fragment ≠ b.fragment

/-! ### joined texts -/

theorem intercalate_cons_eq_append (x : String) (xs : List String) :
    "_".intercalate (x :: xs) = x ++ "_".intercalate ("" :: xs) := by
  rw [← String.intercalate_cons_append, String.append_empty]

/-- of two joined texts that agree, the one with the longer first part has an underscore in it where
the other's first part ends -/
theorem underscore_of_intercalate_eq {x z : String} {xs ys : List String} (hz : z ≠ "")
    (h : "_".intercalate ((x ++ z) :: ys) = "_".intercalate (x :: xs)) :
    xs ≠ [] ∧ ∃ more, z = "_" ++ more ∧ "_".intercalate (more :: ys) = "_".intercalate xs := by
  obtain ⟨c, cs, hc⟩ := List.exists_cons_of_ne_nil (mt String.toList_eq_nil_iff.mp hz)
  rw [String.intercalate_cons_append] at h
  by_cases hxs : xs = []
  · rw [hxs, String.intercalate_singleton, String.append_eq_left_iff] at h
    rw [intercalate_cons_eq_append, String.append_eq_empty_iff] at h
    exact absurd h.1 hz
  · rw [String.intercalate_cons_of_ne_nil hxs, String.append_assoc, String.append_right_inj] at h
    have hchars := congrArg String.toList h
    rw [intercalate_cons_eq_append, String.toList_append, String.toList_append, hc] at hchars
    obtain rfl : c = '_' := (List.cons.inj hchars).1
    have hmore : z = "_" ++ String.ofList cs := String.toList_inj.mp (by simp [hc])
    rw [hmore, String.intercalate_cons_append, String.append_right_inj] at h
    exact ⟨hxs, String.ofList cs, hmore, h⟩

theorem intercalate_of_underscore {x y more : String} {xs ys : List String} (hxs : xs ≠ [])
    (hy : y = x ++ "_" ++ more) (h : "_".intercalate (more :: ys) = "_".intercalate xs) :
    "_".intercalate (y :: ys) = "_".intercalate (x :: xs) := by
  rw [hy, String.intercalate_cons_append, h, String.intercalate_cons_of_ne_nil hxs]

theorem intercalate_cons_eq_iff {x y : String} {xs ys : List String} (hne : x ≠ y) :
    "_".intercalate (x :: xs) = "_".intercalate (y :: ys) ↔
      (ys ≠ [] ∧ ∃ more, x = y ++ "_" ++ more ∧
        "_".intercalate (more :: xs) = "_".intercalate ys) ∨
      (xs ≠ [] ∧ ∃ more, y = x ++ "_" ++ more ∧
        "_".intercalate (more :: ys) = "_".intercalate xs) := by
  constructor
  · intro h
    -- one of the two first parts is a beginning of the other
    have hchars := congrArg String.toList h
    rw [intercalate_cons_eq_append x, intercalate_cons_eq_append y, String.toList_append,
      String.toList_append, List.append_eq_append_iff] at hchars
    rcases hchars with ⟨zs, hy, -⟩ | ⟨zs, hx, -⟩
    · obtain rfl : y = x ++ String.ofList zs := by
        rw [← String.toList_inj, hy, String.toList_append, String.toList_ofList]
      have hz : String.ofList zs ≠ "" := fun hz => hne (by rw [hz, String.append_empty])
      obtain ⟨hxs, more, hmore, hrest⟩ := underscore_of_intercalate_eq hz h.symm
      exact .inr ⟨hxs, more, by rw [hmore, String.append_assoc], hrest⟩
    · obtain rfl : x = y ++ String.ofList zs := by
        rw [← String.toList_inj, hx, String.toList_append, String.toList_ofList]
      have hz : String.ofList zs ≠ "" := fun hz => hne (by rw [hz, String.append_empty])
      obtain ⟨hys, more, hmore, hrest⟩ := underscore_of_intercalate_eq hz h
      exact .inl ⟨hys, more, by rw [hmore, String.append_assoc], hrest⟩
  · rintro (⟨hys, more, hx, hrest⟩ | ⟨hxs, more, hy, hrest⟩)
    · exact intercalate_of_underscore hys hx hrest
    · exact (intercalate_of_underscore hxs hy hrest).symm

theorem intercalate_append_inj {before xs ys : List String} {x y : String} :
    "_".intercalate (before ++ x :: xs) = "_".intercalate (before ++ y :: ys) ↔
      "_".intercalate (x :: xs) = "_".intercalate (y :: ys) := by
  by_cases hbefore : before = []
  · rw [hbefore, List.nil_append, List.nil_append]
  · rw [String.intercalate_append_of_ne_nil hbefore (List.cons_ne_nil _ _),
      String.intercalate_append_of_ne_nil hbefore (List.cons_ne_nil _ _), String.append_right_inj]

/-! ### two paths -/

theorem Procedure.GoesOn.last {p : Procedure} {s : Statement} (hs : s ∈ p.statements) :
    p.GoesOn s.slot [] := ⟨s, hs, rfl, fun h => absurd rfl h⟩

theorem Procedure.GoesOn.nested {p : Procedure} {slot : Slot} {inner : String}
    (hs : .nested slot inner ∈ p.statements) (slots : List Slot) : p.GoesOn slot slots :=
  ⟨_, hs, rfl, fun _ => ⟨inner, rfl⟩⟩

theorem Procedure.Parts.cons {p : Procedure} {path path' as bs : List Slot} {a b : Slot}
    (h : p.Parts path path' a as b bs) (slot : Slot) :
    p.Parts (slot :: path) (slot :: path') a as b bs := by
  obtain ⟨before, hpath, hpath'⟩ := h.shared
  exact ⟨⟨slot :: before, by rw [hpath, List.cons_append], by rw [hpath', List.cons_append]⟩,
    h.left, h.right, h.fragment_ne⟩

theorem variableOf_of_path {lead : String} {slots before as : List Slot} {s : Statement} {a : Slot}
    (h : slots ++ [s.slot] = before ++ a :: as) :
    variableOf lead slots s = lead ++ "_".intercalate
      (before.map (·.fragment) ++ a.fragment :: as.map (·.fragment)) := by
  have hfragments := congrArg (List.map (·.fragment)) h
  simp only [List.map_append, List.map_cons, List.map_nil] at hfragments
  rw [variableOf, hfragments]

theorem variableOf_eq_iff {lead : String} {p : Procedure} {slots slots' : List Slot}
    {s s' : Statement} {a b : Slot} {as bs : List Slot}
    (h : p.Parts (slots ++ [s.slot]) (slots' ++ [s'.slot]) a as b bs) :
    variableOf lead slots s = variableOf lead slots' s' ↔
      a.Overruns as b bs ∨ b.Overruns bs a as := by
  obtain ⟨before, hpath, hpath'⟩ := h.shared
  rw [variableOf_of_path hpath, variableOf_of_path hpath', String.append_right_inj,
    intercalate_append_inj, intercalate_cons_eq_iff h.fragment_ne]
  simp only [Slot.Overruns, ne_eq, List.map_eq_nil_iff]

namespace LoaderUnit

variable {set : SchemaSet} {t : Target} {u : LoaderUnit}

/-- paths part at once if they go on with different statements -/
theorem parts_of_ne (hemit : emit set t = .ok u) {message : String} {p : Procedure}
    (hp : u.procedure? message = some p) {s s' : Statement} (hs : s ∈ p.statements)
    (hs' : s' ∈ p.statements) (hne : s ≠ s') {as bs : List Slot} (has : p.GoesOn s.slot as)
    (hbs : p.GoesOn s'.slot bs) : p.Parts (s.slot :: as) (s'.slot :: bs) s.slot as s'.slot bs where
  shared := ⟨[], rfl, rfl⟩
  left := has
  right := hbs
  fragment_ne h :=
    hne (List.inj_on_of_nodup_map (fragments_nodup hemit (mem_of_procedure? hp)) hs hs' h)

/-- two paths part somewhere, if neither of them ends at a nested statement -/
theorem exists_parts (hemit : emit set t = .ok u) {message : String} {slots slots' : List Slot}
    {s s' : Statement} (h : u.Leads message slots s) (h' : u.Leads message slots' s')
    (hs : s.Reads) (hs' : s'.Reads) (hne : (slots, s) ≠ (slots', s')) :
    ∃ p ∈ u.procedures, ∃ a as b bs,
      p.Parts (slots ++ [s.slot]) (slots' ++ [s'.slot]) a as b bs := by
  -- along the first path: while the second one takes the same nested statements, both go inside
  induction h generalizing slots' with
  | @here message p s hp hmem =>
    refine ⟨p, mem_of_procedure? hp, ?_⟩
    cases h' with
    | @here _ p' _ hp' hmem' =>
      obtain rfl : p = p' := Option.some.inj (hp.symm.trans hp')
      refine ⟨_, _, _, _, parts_of_ne hemit hp hmem hmem' ?_ (.last hmem) (.last hmem')⟩
      rintro rfl
      exact hne rfl
    | @inside _ inner p' slot slots' _ hp' hslot h' =>
      obtain rfl : p = p' := Option.some.inj (hp.symm.trans hp')
      refine ⟨_, _, _, _, parts_of_ne hemit hp hmem hslot ?_ (.last hmem) (.nested hslot _)⟩
      rintro rfl
      exact hs
  | @inside message inner p slot slots s hp hslot h ih =>
    cases h' with
    | @here _ p' _ hp' hmem' =>
      obtain rfl : p = p' := Option.some.inj (hp.symm.trans hp')
      refine ⟨p, mem_of_procedure? hp, _, _, _, _,
        parts_of_ne hemit hp hslot hmem' ?_ (.nested hslot _) (.last hmem')⟩
      rintro rfl
      exact hs'
    | @inside _ inner' p' slot' slots' _ hp' hslot' h' =>
      obtain rfl : p = p' := Option.some.inj (hp.symm.trans hp')
      by_cases hsame : Statement.nested slot inner = .nested slot' inner'
      · obtain ⟨rfl, rfl⟩ := Statement.nested.inj hsame
        obtain ⟨q, hq, a, as, b, bs, hparts⟩ := ih h' hs (by simpa using hne)
        exact ⟨q, hq, a, as, b, bs, hparts.cons slot⟩
      · exact ⟨p, mem_of_procedure? hp, _, _, _, _,
          parts_of_ne hemit hp hslot hslot' hsame (.nested hslot _) (.nested hslot' _)⟩

/-- Two different paths from one message to statements that read a variable part at two fields of
one message.  They read the same variable exactly if the fragment of one of these fields goes on,
after an underscore, where that of the other ends, and the rests of the paths make up for that. -/
theorem variable_shared_iff (hemit : emit set t = .ok u) {message : String}
    {slots slots' : List Slot} {s s' : Statement} (h : u.Leads message slots s)
    (h' : u.Leads message slots' s') (hs : s.Reads) (hs' : s'.Reads)
    (hne : (slots, s) ≠ (slots', s')) :
    ∃ p ∈ u.procedures, ∃ a as b bs,
      p.Parts (slots ++ [s.slot]) (slots' ++ [s'.slot]) a as b bs ∧
        ∀ lead, variableOf lead slots s = variableOf lead slots' s' ↔
          a.Overruns as b bs ∨ b.Overruns bs a as := by
  obtain ⟨p, hp, a, as, b, bs, hparts⟩ := exists_parts hemit h h' hs hs' hne
  exact ⟨p, hp, a, as, b, bs, hparts, fun _ => variableOf_eq_iff hparts⟩

/-- Different paths read different variables if in no message the fragment of a field begins with
that of a nested field and an underscore. -/
theorem variables_differ (hemit : emit set t = .ok u)
    (happart : ∀ p ∈ u.procedures, ∀ slot inner, .nested slot inner ∈ p.statements →
      ∀ s ∈ p.statements, ∀ more, s.slot.fragment ≠ slot.fragment ++ "_" ++ more)
    {message : String} {slots slots' : List Slot} {s s' : Statement}
    (h : u.Leads message slots s) (h' : u.Leads message slots' s') (hs : s.Reads) (hs' : s'.Reads)
    (hne : (slots, s) ≠ (slots', s')) (lead : String) :
    variableOf lead slots s ≠ variableOf lead slots' s' := by
  obtain ⟨p, hp, a, as, b, bs, hparts⟩ := exists_parts hemit h h' hs hs' hne
  obtain ⟨sa, hsa, rfl, hleft⟩ := hparts.left
  obtain ⟨sb, hsb, rfl, hright⟩ := hparts.right
  rw [ne_eq, variableOf_eq_iff hparts]
  rintro (⟨hbs, more, hmore, -⟩ | ⟨has, more, hmore, -⟩)
  · obtain ⟨inner, hnested⟩ := hright hbs
    exact happart p hp _ inner (hnested ▸ hsb) sa hsa more hmore
  · obtain ⟨inner, hnested⟩ := hleft has
    exact happart p hp _ inner (hnested ▸ hsa) sb hsb more hmore

end LoaderUnit

/-! ### a variable of two fields -/

/-- `Server` has a text `tls_key` of its own, and the text `key` in what it nests -/
def sharingSchema : SchemaSet :=
  ⟨⟨"sharing.proto", none, none, [], [],
    [⟨"Server", .start, [⟨"tls_key", .start, .named "string", 1, .plain, [], .all⟩,
      ⟨"tls", .start, .named "Tls", 2, .plain, [], .all⟩], [], .all⟩,
     ⟨"Tls", .start, [⟨"key", .start, .named "string", 1, .plain, [], .all⟩], [], .all⟩], []⟩, []⟩

def ownKey : Statement := .scalar ⟨"tls_key", "TLS_KEY"⟩ .string

def nestedKey : Statement := .scalar ⟨"key", "KEY"⟩ .string

def tlsSlot : Slot := ⟨"tls", "TLS"⟩

def sharingUnit : LoaderUnit :=
  ⟨"sharing.proto", [⟨"Server", [ownKey, .nested tlsSlot "Tls"]⟩, ⟨"Tls", [nestedKey]⟩]⟩

theorem emit_sharingSchema : LoaderUnit.emit sharingSchema ⟨"rust"⟩ = .ok sharingUnit := by
  decide +kernel

theorem leads_ownKey : sharingUnit.Leads "Server" [] ownKey := .here rfl List.mem_cons_self

theorem leads_nestedKey : sharingUnit.Leads "Server" [tlsSlot] nestedKey :=
  .inside rfl (List.mem_cons_of_mem _ List.mem_cons_self) (.here rfl List.mem_cons_self)

/-- the two paths part in `Server`, where `TLS_KEY` goes on after `TLS` -/
theorem variable_shared_iff_server :
    LoaderUnit.emit sharingSchema ⟨"rust"⟩ = .ok sharingUnit ∧
      ∃ p ∈ sharingUnit.procedures, ∃ a as b bs,
        p.Parts [ownKey.slot] [tlsSlot, nestedKey.slot] a as b bs ∧
          ∀ lead, variableOf lead [] ownKey = variableOf lead [tlsSlot] nestedKey ↔
            a.Overruns as b bs ∨ b.Overruns bs a as :=
  ⟨emit_sharingSchema, LoaderUnit.variable_shared_iff emit_sharingSchema leads_ownKey
    leads_nestedKey trivial trivial (by simp)⟩

/-- The schema is verified and has a loader, and one variable sets both texts. -/
theorem variable_shared :
    sharingSchema.verify = .ok () ∧ LoaderUnit.emit sharingSchema ⟨"rust"⟩ = .ok sharingUnit ∧
      sharingUnit.Leads "Server" [] ownKey ∧ sharingUnit.Leads "Server" [tlsSlot] nestedKey ∧
      ownKey.Reads ∧ nestedKey.Reads ∧ ownKey ≠ nestedKey ∧
      (∀ lead, variableOf lead [] ownKey = variableOf lead [tlsSlot] nestedKey) ∧
      ∃ w, (sharingUnit.populate (.table [("TLS_KEY", "x")]) "Server" (.empty "Server") ""
          none).value = w ∧
        w.at? ["tls_key"] = some (.string "x") ∧ w.at? ["tls", "key"] = some (.string "x") := by
  have hverify : sharingSchema.verify = .ok () := SchemaSet.verify_of_checks (by decide +kernel)
    (by decide +kernel) (by decide +kernel) (by cbv)
  refine ⟨hverify, emit_sharingSchema, leads_ownKey, leads_nestedKey, trivial, trivial,
    by decide, fun lead => ?_, _, rfl, rfl, rfl⟩
  rw [variableOf_cons, variableOf_nil, variableOf_nil, String.append_assoc, String.append_assoc]
  rfl

end EnvConfig
