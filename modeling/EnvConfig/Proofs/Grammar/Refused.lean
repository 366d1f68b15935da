import EnvConfig.Grammar.Declaration
import EnvConfig.Proofs.Grammar.Lookahead
import EnvConfig.Proofs.Lexical.Lossless

/-!
# Where a refusal shows

Every phrase and declaration looks one token ahead at most.  So a file is read declaration by
declaration up to the end of its text or up to a token that fits nowhere, and the tokens behind the
next one have no part in the error.

* `local_setting`, `local_field`, …: the phrases;
* `local_member`, `local_declaration`, …: the items of bodies and of files;
* `Tokens.all`: the tokens with the empty one at the end of the text;
* `File.ofTokens_settled`: what becomes of a list of tokens.
-/

namespace EnvConfig

namespace Grammar

open Reader Text

/-! ### phrases -/

theorem local_identifier (what : Expectation) : Local (identifier what) := local_token _ _

theorem local_typeName (what : Expectation) : Local (typeName what) := local_token _ _

theorem local_literal (what : Expectation) : Local (literal what) :=
  (local_token _ _).bind fun _ => local_pure _

/-- an integer with a bad value is taken, and still it is the token that is refused -/
theorem local_integer (what : Expectation) : Local (integer what) := by
  refine local_of_cons (localAt_nil_of_error rfl rfl) fun t ts => ?_
  simp only [integer_cons]
  refine .branch ?_ (localAt_refuse _ t ts)
  cases (Number.literal? t.text.toList).bind Number.toInt32? with
  | some n => exact (local_pure n).tail t ts
  | none => exact ⟨0, .of_error (Nat.zero_le _) rfl fun _ _ => rfl⟩

theorem local_suffix : Local suffix :=
  local_of_cons (localAt_nil_of_ok rfl) (local_ite_token (isDotSuffix ·.toList) (·.text) "")

theorem local_optionName : Local optionName := by
  refine (local_skips _).bind fun _ => .ite ?_ ?_
  · exact (local_typeName _).bind fun _ => (local_mark _).bind fun _ =>
      local_suffix.bind fun _ => local_pure _
  · exact (local_typeName _).bind fun _ => local_pure _

theorem local_optionValue : Local optionValue := by
  refine local_peek.bind fun _ => .ite ?_ ?_
  · exact local_skipBlock.bind fun _ => local_pure _
  · exact (local_token _ _).bind fun _ => local_pure _

theorem local_setting : Local setting :=
  local_optionName.bind fun _ => (local_mark _).bind fun _ =>
    local_optionValue.bind fun _ => local_pure _

theorem local_optionStatement : Local optionStatement :=
  local_setting.bind fun _ => (local_mark _).bind fun _ => local_pure _

theorem local_nextSetting (before : List Setting) : Local (nextSetting before) :=
  (local_mark _).bind fun _ => local_setting.bind fun _ => local_pure _

theorem local_settings : Local settings := by
  refine (local_skips _).bind fun _ => .ite ?_ (local_pure _)
  exact local_setting.bind fun _ => local_foldUntil local_nextSetting _

/-! ### fields -/

/-- the one phrase that takes two tokens or none -/
theorem local_mapOpening : Local mapOpening := by
  rintro (_ | ⟨t, _ | ⟨u, ts⟩⟩)
  · exact localAt_nil_of_ok rfl
  · refine ⟨0, .of_ok (a := false) (Nat.zero_le _) fun us hus => ?_⟩
    obtain ⟨us, rfl, htail⟩ := exists_cons_of_take hus
    obtain rfl : us = [] := by simpa using htail
    rfl
  · by_cases hmap : (t.text == "map" && u.text == "<") = true
    · refine ⟨2, .of_ok (a := true) (Nat.le_add_left ..) fun us hus => ?_⟩
      obtain ⟨us, rfl, htail⟩ := exists_cons_of_take hus
      obtain ⟨us, rfl, -⟩ := exists_cons_of_take htail
      exact congrArg Except.ok (if_pos hmap)
    · refine ⟨0, .of_ok (a := false) (Nat.zero_le _) fun us hus => ?_⟩
      obtain ⟨us, rfl, htail⟩ := exists_cons_of_take hus
      obtain ⟨us, rfl, -⟩ := exists_cons_of_take htail
      exact congrArg Except.ok (if_neg hmap)

theorem local_fieldType : Local fieldType := by
  refine local_mapOpening.bind fun _ => .ite ?_ ?_
  · exact (local_typeName _).bind fun _ => (local_mark _).bind fun _ =>
      (local_typeName _).bind fun _ => (local_mark _).bind fun _ => local_pure _
  · exact (local_typeName _).bind fun _ => local_pure _

theorem local_label : Local label := by
  refine (local_skips _).bind fun _ => .ite (local_pure _) ?_
  refine (local_skips _).bind fun _ => .ite (local_pure _) ?_
  exact (local_skips _).bind fun _ => local_pure _

theorem local_labelled (l : Label) : Local (labelled l) :=
  local_fieldType.bind fun _ => (local_identifier _).bind fun _ => (local_mark _).bind fun _ =>
    (local_integer _).bind fun _ => local_settings.bind fun _ => (local_mark _).bind fun _ =>
    local_pure _

theorem local_field : Local field := local_label.bind local_labelled

theorem local_passedOver (what : Expectation) : Local (passedOver what) :=
  (local_typeName _).bind fun _ => local_skipBlock

/-! ### messages -/

theorem local_alternative (group : String) (fs : List Field) : Local (alternative group fs) := by
  refine (local_skips _).bind fun _ => .ite ?_ ?_
  · exact local_optionStatement.bind fun _ => local_pure _
  · refine (local_skips _).bind fun _ => .ite (local_pure _) ?_
    exact (local_labelled _).bind fun _ => local_pure _

theorem local_oneof : Local oneof :=
  (local_identifier _).bind fun _ => (local_mark _).bind fun _ =>
    local_foldUntil (local_alternative _) _

/-- a definition is told from a field of the type `message` by the token behind the keyword -/
theorem local_member (m : Message) : Local (member m) := by
  refine local_of_cons (localAt_nil_of_error rfl rfl) fun t ts => ?_
  simp only [member]
  refine .branch ?_ (.branch ?_ (.branch ?_ (.branch ?_ (.branch ?_ ?_))))
  · exact (local_pure m).tail t ts
  · exact (local_optionStatement.map _).tail t ts
  · exact (local_skipStatement.map _).tail t ts
  · exact ((local_passedOver _).map _).tail t ts
  · exact (local_oneof.map _).tail t ts
  · exact .branch_next (fun text => isDefinition t.text && isIdentifier text.toList)
      (localAt_refuse _ t ts) ((local_field.map _).given t ts)

theorem local_message : Local message :=
  (local_identifier _).bind fun _ => (local_mark _).bind fun _ => local_foldUntil local_member _

/-! ### enums -/

theorem local_symbol : Local symbol :=
  (local_identifier _).bind fun _ => (local_mark _).bind fun _ => (local_integer _).bind fun _ =>
    local_settings.bind fun _ => (local_mark _).bind fun _ => local_pure _

theorem local_enumItem (e : Enum) : Local (enumItem e) := by
  refine local_of_cons (localAt_nil_of_error rfl rfl) fun t ts => ?_
  simp only [enumItem]
  refine .branch ?_ (.branch ?_ (.branch ?_ ?_))
  · exact (local_pure e).tail t ts
  · exact (local_optionStatement.map _).tail t ts
  · exact (local_skipStatement.map _).tail t ts
  · exact (local_symbol.map _).given t ts

theorem local_enum : Local enum :=
  (local_identifier _).bind fun _ => (local_mark _).bind fun _ => local_foldUntil local_enumItem _

/-! ### files -/

theorem local_dialect : Local dialect :=
  (local_mark _).bind fun _ => (local_literal _).bind fun _ => (local_mark _).bind fun _ =>
    local_pure _

theorem local_package : Local package :=
  (local_typeName _).bind fun _ => (local_mark _).bind fun _ => local_pure _

theorem local_importKind : Local importKind := by
  refine (local_skips _).bind fun _ => .ite (local_pure _) ?_
  exact (local_skips _).bind fun _ => .ite (local_pure _) (local_pure _)

theorem local_importStatement : Local importStatement :=
  local_importKind.bind fun _ => (local_literal _).bind fun _ => (local_mark _).bind fun _ =>
    local_pure _

theorem local_declaration (f : File) : Local (declaration f) := by
  refine local_of_cons (localAt_nil_of_error rfl rfl) fun t ts => ?_
  simp only [declaration]
  refine .branch ?_ (.branch ?_ (.branch ?_ (.branch ?_ (.branch ?_ (.branch ?_ (.branch ?_
    (.branch ?_ ?_)))))))
  · exact (local_pure f).tail t ts
  · exact (local_dialect.map _).tail t ts
  · exact .branch (localAt_refuse _ t ts) ((local_package.map _).tail t ts)
  · exact (local_importStatement.map _).tail t ts
  · exact (local_optionStatement.map _).tail t ts
  · exact (local_message.map _).tail t ts
  · exact (local_enum.map _).tail t ts
  · exact ((local_passedOver _).map _).tail t ts
  · exact localAt_refuse _ t ts

end Grammar

/-! ### whole texts -/

/-- the tokens with the empty one at the end of the text -/
def Tokens.all (ts : Tokens) : List Token := ts.list ++ [⟨"", ts.finish⟩]

/-- no token is empty but the one at the end of the text -/
def Tokens.Proper (ts : Tokens) : Prop := ∀ t ∈ ts.list, t.text ≠ ""

theorem Tokens.proper_of_scan {text : String} {ts : Tokens} (h : scan text = .ok ts) :
    ts.Proper := by
  obtain ⟨parts, hcut, rfl⟩ := scan_eq_ok_iff.mp h
  exact text_ne_of_mem_tokensAfter hcut []

open Reader

variable {ts us : Tokens} {n : Nat}

theorem Tokens.getElem?_all (h : n ≤ ts.list.length) :
    ts.all[n]? = some ((ts.list[n]?).getD ⟨"", ts.finish⟩) := by
  obtain hlt | rfl := Nat.lt_or_eq_of_le h
  · rw [all, List.getElem?_append_left hlt, List.getElem?_eq_getElem hlt]
    rfl
  · rw [all, List.getElem?_concat_length, List.getElem?_eq_none (Nat.le_refl _)]
    rfl

theorem Refusal.position_located (r : Refusal) (finish : Position) :
    (r.located finish).position = (r.token.getD ⟨"", finish⟩).position := by
  unfold located
  cases r.token with
  | none => rfl
  | some t => rfl

theorem Refusal.located_eq {r : Refusal} {t : Token} (h : r.token = some t) (p q : Position) :
    r.located p = r.located q := by
  unfold located
  rw [h]
  rfl

theorem File.ofTokens_of_refused {r : Refusal}
    (h : foldAll Grammar.declaration Grammar.takes_declaration (.empty "") ts.list = .error r)
    (name : String) : ofTokens name ts = .error (r.located ts.finish) := by
  rw [ofTokens, contents, h]
  rfl

theorem Tokens.eq_of_all (h : us.all = ts.all) : us = ts := by
  obtain ⟨hlist, hfinish⟩ := List.append_inj' h rfl
  obtain ⟨list, finish⟩ := us
  simp_all

/-- what stands in front of the end of the text is known from the empty token there -/
theorem Tokens.Proper.takeWhile_all (h : ts.Proper) (n : Nat) :
    (ts.all.take n).takeWhile (·.text != "") = ts.list.take n := by
  rw [all, List.take_append, List.takeWhile_append_of_pos]
  · cases n - ts.list.length with
    | zero => simp
    | succ m => simp
  · intro t ht
    simpa using h t (List.mem_of_mem_take ht)

/-- with all tokens up to the end of the text and one place more, nothing is left open -/
theorem Tokens.eq_of_take_all
    (h : us.all.take (ts.list.length + 2) = ts.all.take (ts.list.length + 2)) : us = ts := by
  have hlength : ts.all.length = ts.list.length + 1 := by simp [all]
  rw [List.take_of_length_le (by omega : ts.all.length ≤ ts.list.length + 2)] at h
  have hle := congrArg List.length h
  rw [List.length_take] at hle
  rw [List.take_of_length_le (by omega)] at h
  exact eq_of_all h

/-- Reading tokens comes to an end, and no empty token is taken on the way.  Declaration by
declaration the whole text is read, or the error stands at a token `t` of the text, the one behind
`k` others.  Then all texts that begin with the same `k + 2` tokens have this error; a text that
ends with `t` is the only one that begins so. -/
theorem File.ofTokens_settled (hts : ts.Proper) :
    ∃ f rest, Progress Grammar.declaration (.empty "") ts.list f rest ∧
      ((rest = [] ∧ ∀ name, ofTokens name ts = .ok { f with name := name }) ∨
        ∃ r k t, Grammar.declaration f rest = .error r ∧ ts.all[k]? = some t ∧
          (r.located ts.finish).position = t.position ∧
          (∀ name, ofTokens name ts = .error (r.located ts.finish)) ∧
          ∀ name (us : Tokens), us.Proper → us.all.take (k + 2) = ts.all.take (k + 2) →
            ofTokens name us = .error (r.located ts.finish)) := by
  obtain ⟨f, rest, hprogress, hend⟩ :=
    progress_foldAll Grammar.takes_declaration Grammar.local_declaration (.empty "") hts
  refine ⟨f, rest, hprogress, ?_⟩
  obtain ⟨hrest, hread⟩ | ⟨r, hrefused, hread⟩ := hend
  · refine .inl ⟨hrest, fun name => ?_⟩
    rw [ofTokens, contents, hread]
    rfl
  · obtain ⟨k, hle, htoken, hsame⟩ := stopped_of_foldAll Grammar.local_declaration hread
    refine .inr ⟨r, k, _, hrefused, Tokens.getElem?_all hle, ?_, ofTokens_of_refused hread,
      fun name us hus hall => ?_⟩
    · rw [Refusal.position_located, htoken]
    · obtain hlt | rfl := Nat.lt_or_eq_of_le hle
      · have hlist : us.list.take (k + 2) = ts.list.take (k + 2) := by
          rw [← hus.takeWhile_all, ← hts.takeWhile_all, hall]
        rw [List.getElem?_eq_getElem hlt] at htoken
        rw [ofTokens_of_refused (hsame us.list hlist), Refusal.located_eq htoken]
      · rw [Tokens.eq_of_take_all hall]
        exact ofTokens_of_refused hread name

/-- A definition inside a message, behind a whole declaration: the error stands at the token behind
six others, and every text that begins with the same eight tokens has it. -/
theorem File.ofTokens_settled_nested :
    let ts : Tokens := ⟨[⟨"package", ⟨1, 1⟩⟩, ⟨"p", ⟨1, 9⟩⟩, ⟨";", ⟨1, 10⟩⟩, ⟨"message", ⟨2, 1⟩⟩,
      ⟨"M", ⟨2, 9⟩⟩, ⟨"\x7b", ⟨2, 11⟩⟩, ⟨"enum", ⟨2, 13⟩⟩, ⟨"E", ⟨2, 18⟩⟩, ⟨"\x7b", ⟨2, 20⟩⟩],
      ⟨2, 21⟩⟩
    Tokens.scan "package p;\nmessage M \x7b enum E \x7b" = .ok ts ∧ ts.Proper ∧
    ts.all[6]? = some ⟨"enum", ⟨2, 13⟩⟩ ∧
    (∀ name, ofTokens name ts = .error ⟨.nested "enum", ⟨2, 13⟩⟩) ∧
    ∀ name (us : Tokens), us.Proper → us.all.take 8 = ts.all.take 8 →
      ofTokens name us = .error ⟨.nested "enum", ⟨2, 13⟩⟩ := by
  intro ts
  have hscan : Tokens.scan "package p;\nmessage M \x7b enum E \x7b" = .ok ts := by decide +kernel
  have hts := Tokens.proper_of_scan hscan
  have hrefused : ofTokens "a" ts = .error ⟨.nested "enum", ⟨2, 13⟩⟩ := by decide +kernel
  have honly : ∀ k < 10, ∀ t ∈ ts.all[k]?, t.position = ⟨2, 13⟩ → k = 6 := by decide +kernel
  refine ⟨hscan, hts, rfl, ?_⟩
  obtain ⟨f, rest, -, ⟨-, hread⟩ | ⟨r, k, t, -, htoken, hposition, hname, hsame⟩⟩ :=
    ofTokens_settled hts
  · rw [hread] at hrefused
    cases hrefused
  · have herror : r.located ts.finish = ⟨.nested "enum", ⟨2, 13⟩⟩ :=
      Except.error.inj ((hname "a").symm.trans hrefused)
    rw [herror] at hposition hname hsame
    have hk : k < 10 := (List.getElem?_eq_some_iff.mp htoken).1
    obtain rfl := honly k hk t htoken hposition.symm
    exact ⟨hname, hsame⟩

end EnvConfig
