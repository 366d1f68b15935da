import EnvConfig.Proofs.Printing.Phrases

/-!
# What has been read can be printed

* `Reader.Gives`: all that a reader can give has a property;
* `File.printable_of_ofTokens`: a file that tokens declare is printable.
-/

namespace EnvConfig

namespace Reader

variable {α β σ : Type} {P : α → Prop} {Q : β → Prop}

/-- whatever `r` gives has the property `P` -/
def Gives (r : Reader α) (P : α → Prop) : Prop :=
  ∀ ts a rest, r ts = .ok (a, rest) → P a

theorem gives_true (r : Reader α) : Gives r fun _ => True := fun _ _ _ _ => trivial

theorem gives_pure {a : α} (h : P a) : Gives (pure a) P := by
  rintro ts b rest ⟨⟩
  exact h

theorem Gives.bind {r : Reader α} {f : α → Reader β} (hr : Gives r P)
    (hf : ∀ a, P a → Gives (f a) Q) : Gives (r >>= f) Q := by
  intro ts b rest h
  obtain ⟨a, mid, ha, hb⟩ := bind_eq_ok.mp h
  exact hf a (hr ts a mid ha) mid b rest hb

theorem Gives.map {r : Reader α} {f : α → β} (hr : Gives r P) (hf : ∀ a, P a → Q (f a)) :
    Gives (f <$> r) Q := by
  rw [map_eq_pure_bind]
  exact hr.bind fun a ha => gives_pure (hf a ha)

theorem Gives.ite {c : Prop} [Decidable c] {r s : Reader α} (hr : Gives r P) (hs : Gives s P) :
    Gives (if c then r else s) P := by
  split
  · exact hr
  · exact hs

theorem gives_token (test : String → Bool) (what : Expectation) :
    Gives (token test what) fun t => test t.text = true := by
  intro ts t rest h
  unfold token at h
  split at h
  · split at h
    · rename_i htest
      cases h
      exact htest
    · cases h
  · cases h

theorem gives_foldUntil {close : String} {item : σ → Reader σ} {takes : ∀ s, (item s).Takes}
    {I : σ → Prop} (hitem : ∀ s, I s → Gives (item s) I) {s : σ} (hs : I s) :
    Gives (foldUntil close item takes s) I := by
  intro ts
  fun_induction foldUntil close item takes s ts with
  | case1 s t rest =>
    rintro a r ⟨⟩
    exact hs
  | case2 s t rest _ s' rest' h ih =>
    intro a r hr
    exact ih (hitem s hs _ _ _ h) a r hr
  | case3 => intro a r h; cases h
  | case4 s => intro a r h; exact hitem s hs _ _ _ h

theorem of_foldAll {item : σ → Reader σ} {takes : ∀ s, (item s).Takes} {I : σ → Prop}
    (hitem : ∀ s, I s → Gives (item s) I) {s a : σ} {ts : List Token} (hs : I s)
    (h : foldAll item takes s ts = .ok a) : I a := by
  fun_induction foldAll item takes s ts with
  | case1 s => cases h; exact hs
  | case2 s t rest s' rest' hs' ih => exact ih (hitem s hs _ _ _ hs') h
  | case3 => cases h

/-- a word that is not skipped does not stand there -/
theorem of_skips_false {w : String} {ts rest : List Token} (hw : w ≠ "")
    (h : skips w ts = .ok (false, rest)) : rest = ts ∧ headText ts ≠ w := by
  cases ts with
  | nil =>
    cases h
    exact ⟨rfl, hw.symm⟩
  | cons t ts =>
    have hite : Except.ok (if t.text == w then (true, ts) else (false, t :: ts)) =
        (Except.ok (false, rest) : Except Refusal _) := h
    split at hite
    · cases hite
    · rename_i hne
      cases hite
      exact ⟨rfl, fun he => hne (beq_iff_eq.mpr he)⟩

end Reader

namespace Grammar

open Reader Text

theorem forall_mem_concat {α : Type} {P : α → Prop} {as : List α} {a : α} (has : ∀ b ∈ as, P b)
    (ha : P a) : ∀ b ∈ as ++ [a], P b := by
  intro b hb
  rcases List.mem_append.mp hb with hb | hb
  · exact has b hb
  · rw [List.mem_singleton.mp hb]
    exact ha

/-! ### options -/

theorem gives_suffix : Gives suffix fun s => s = "" ∨ isDotSuffix s.toList = true := by
  intro ts s rest h
  unfold suffix at h
  split at h
  · split at h
    · rename_i hsuffix
      cases h
      exact .inr hsuffix
    · cases h
      exact .inl rfl
  · cases h
    exact .inl rfl

theorem gives_optionName : Gives optionName IsOptionName := by
  refine (gives_true _).bind fun b _ => Gives.ite ?_ ?_
  · refine (gives_token _ _).bind fun inner hinner => ?_
    refine (gives_true _).bind fun _ _ => gives_suffix.bind fun more hmore => gives_pure ?_
    refine .inr ⟨inner.text.toList, more.toList, hinner, ?_, ?_⟩
    · rcases hmore with rfl | hmore
      · exact .inl rfl
      · exact .inr hmore
    · rw [← String.toList_inj]
      simp
  · exact (gives_token _ _).bind fun t ht => gives_pure (.inl ht)

theorem gives_setting : Gives setting fun s => IsOptionName s.name :=
  gives_optionName.bind fun _ hname => (gives_true _).bind fun _ _ => (gives_true _).bind fun _ _ =>
    gives_pure hname

theorem gives_optionStatement : Gives optionStatement fun s => IsOptionName s.name :=
  gives_setting.bind fun _ hs => (gives_true _).bind fun _ _ => gives_pure hs

theorem gives_settings : Gives settings fun ss => ∀ s ∈ ss, IsOptionName s.name := by
  refine (gives_true _).bind fun b _ => Gives.ite ?_ (gives_pure (by simp))
  refine gives_setting.bind fun first hfirst => gives_foldUntil (fun before hbefore => ?_)
    (by simpa using hfirst)
  refine (gives_true _).bind fun _ _ => gives_setting.bind fun s hs => gives_pure ?_
  exact forall_mem_concat hbefore hs

/-! ### fields -/

theorem gives_fieldType : Gives fieldType FieldType.Printable := by
  refine (gives_true _).bind fun b _ => Gives.ite ?_ ?_
  · refine (gives_token _ _).bind fun key hkey => (gives_true _).bind fun _ _ => ?_
    refine (gives_token _ _).bind fun value hvalue => (gives_true _).bind fun _ _ => ?_
    exact gives_pure ⟨hkey, hvalue⟩
  · exact (gives_token _ _).bind fun name hname => gives_pure hname

theorem of_mapOpening_false {ts rest : List Token} (h : mapOpening ts = .ok (false, rest)) :
    rest = ts := by
  unfold mapOpening at h
  split at h
  · split at h
    · cases h
    · cases h
      rfl
  · cases h
    rfl

/-- the first token that a reader of one token takes -/
theorem headText_of_token {test : String → Bool} {what : Expectation} {t : Token}
    {ts rest : List Token} (h : token test what ts = .ok (t, rest)) : headText ts = t.text := by
  unfold token at h
  split at h
  · split at h
    · cases h
      rfl
    · cases h
  · cases h

/-- a type that is a name is the first token -/
theorem headText_of_fieldType {name : String} {ts rest : List Token}
    (h : fieldType ts = .ok (.named name, rest)) : headText ts = name := by
  obtain ⟨b, mid, hb, htype⟩ := bind_eq_ok.mp h
  cases b with
  | true =>
    rw [if_pos rfl] at htype
    obtain ⟨k, _, -, htype⟩ := bind_eq_ok.mp htype
    obtain ⟨_, _, -, htype⟩ := bind_eq_ok.mp htype
    obtain ⟨v, _, -, htype⟩ := bind_eq_ok.mp htype
    obtain ⟨_, _, -, htype⟩ := bind_eq_ok.mp htype
    cases htype
  | false =>
    rw [if_neg Bool.false_ne_true, of_mapOpening_false hb] at htype
    obtain ⟨t, _, ht, htype⟩ := bind_eq_ok.mp htype
    cases htype
    exact headText_of_token ht

/-- what the parts of a field after its label are -/
theorem gives_labelled (l : Label) : Gives (labelled l) fun f => isIdentifier f.name.toList = true ∧
    f.type.Printable ∧ f.label = l ∧ (∀ s ∈ f.options, IsOptionName s.name) ∧ f.targets = .all := by
  refine gives_fieldType.bind fun type htype => (gives_token _ _).bind fun name hname => ?_
  refine (gives_true _).bind fun _ _ => (gives_true _).bind fun _ _ => ?_
  refine gives_settings.bind fun options hoptions => (gives_true _).bind fun _ _ => ?_
  exact gives_pure ⟨hname, htype, rfl, hoptions, rfl⟩

theorem headText_of_labelled {l : Label} {f : Field} {ts rest : List Token}
    (h : labelled l ts = .ok (f, rest)) {name : String} (hname : f.type = .named name) :
    headText ts = name := by
  obtain ⟨type, _, htype, h⟩ := bind_eq_ok.mp h
  obtain ⟨_, _, -, h⟩ := bind_eq_ok.mp h
  obtain ⟨_, _, -, h⟩ := bind_eq_ok.mp h
  obtain ⟨_, _, -, h⟩ := bind_eq_ok.mp h
  obtain ⟨_, _, -, h⟩ := bind_eq_ok.mp h
  obtain ⟨_, _, -, h⟩ := bind_eq_ok.mp h
  cases h
  cases hname
  exact headText_of_fieldType htype

theorem gives_field : Gives field Field.Printable := by
  have hlabel : Gives label fun l => ∀ group, l ≠ .oneof group := by
    refine (gives_true _).bind fun _ _ => Gives.ite (gives_pure nofun) ?_
    refine (gives_true _).bind fun _ _ => Gives.ite (gives_pure nofun) ?_
    exact (gives_true _).bind fun _ _ => gives_pure nofun
  refine hlabel.bind fun l hl => ?_
  intro ts f rest h
  obtain ⟨hname, htype, hlabel, hoptions, htargets⟩ := gives_labelled l ts f rest h
  refine ⟨hname, htype, ?_, hoptions, htargets⟩
  rw [hlabel]
  cases l with
  | oneof group => exact absurd rfl (hl group)
  | _ => trivial

/-! ### messages -/

theorem gives_alternative {group : String} (hgroup : isIdentifier group.toList = true)
    (fs : List Field) (hfs : ∀ f ∈ fs, f.Printable) :
    Gives (alternative group fs) fun fs => ∀ f ∈ fs, f.Printable := by
  intro ts gs rest h
  obtain ⟨b, mid, hoption, hitem⟩ := bind_eq_ok.mp h
  cases b with
  | true =>
    rw [if_pos rfl] at hitem
    obtain ⟨_, _, -, hitem⟩ := bind_eq_ok.mp hitem
    cases hitem
    exact hfs
  | false =>
    obtain ⟨hmid, hne⟩ := of_skips_false (by decide) hoption
    rw [if_neg Bool.false_ne_true, hmid] at hitem
    obtain ⟨b, mid', hmark, hfield⟩ := bind_eq_ok.mp hitem
    cases b with
    | true =>
      rw [if_pos rfl] at hfield
      cases hfield
      exact hfs
    | false =>
      rw [if_neg Bool.false_ne_true, (of_skips_false (by decide) hmark).1] at hfield
      obtain ⟨f, _, hf, hadd⟩ := bind_eq_ok.mp hfield
      cases hadd
      obtain ⟨hname, htype, hlabel, hoptions, htargets⟩ := gives_labelled _ _ _ _ hf
      refine forall_mem_concat hfs ⟨hname, htype, ?_, hoptions, htargets⟩
      rw [hlabel]
      exact ⟨hgroup, fun he => hne (headText_of_labelled hf he)⟩

theorem gives_oneof : Gives oneof fun fs => ∀ f ∈ fs, f.Printable := by
  refine (gives_token _ _).bind fun group hgroup => (gives_true _).bind fun _ _ => ?_
  exact gives_foldUntil (gives_alternative hgroup) (by simp)

theorem gives_member (m : Message) (hm : m.Printable) : Gives (member m) Message.Printable := by
  have hfields : ∀ fs : List Field, (∀ f ∈ fs, f.Printable) → (m.withFields fs).Printable := by
    intro fs hfs
    refine ⟨hm.name, fun f hf => ?_, hm.options, hm.targets⟩
    rcases List.mem_append.mp hf with hf | hf
    · exact hm.fields f hf
    · exact hfs f hf
  have hoption : ∀ s : Setting, IsOptionName s.name → (m.withOption s).Printable := by
    intro s hs
    exact ⟨hm.name, hm.fields, forall_mem_concat hm.options hs, hm.targets⟩
  intro ts m' rest h
  cases ts with
  | nil => cases h
  | cons t ts =>
    simp only [member] at h
    split at h
    · cases h
      exact hm
    · split at h
      · exact gives_optionStatement.map hoption _ _ _ h
      · split at h
        · exact (gives_true _).map (fun _ _ => hm) _ _ _ h
        · split at h
          · exact (gives_true _).map (fun _ _ => hm) _ _ _ h
          · split at h
            · exact gives_oneof.map hfields _ _ _ h
            · split at h
              · cases h
              · exact gives_field.map (fun f hf => hfields [f] (by simpa using hf)) _ _ _ h

theorem gives_message : Gives message Message.Printable := by
  refine (gives_token _ _).bind fun name hname => (gives_true _).bind fun _ _ => ?_
  exact gives_foldUntil gives_member ⟨hname, by simp, by simp, rfl⟩

/-! ### enums -/

/-- the name of a symbol is the first token -/
theorem headText_of_symbol {s : Symbol} {ts rest : List Token} (h : symbol ts = .ok (s, rest)) :
    headText ts = s.name ∧ isIdentifier s.name.toList = true := by
  obtain ⟨t, _, ht, h⟩ := bind_eq_ok.mp h
  obtain ⟨_, _, -, h⟩ := bind_eq_ok.mp h
  obtain ⟨_, _, -, h⟩ := bind_eq_ok.mp h
  obtain ⟨_, _, -, h⟩ := bind_eq_ok.mp h
  obtain ⟨_, _, -, h⟩ := bind_eq_ok.mp h
  cases h
  exact ⟨headText_of_token ht, gives_token _ _ _ _ _ ht⟩

theorem gives_enumItem (e : Enum) (he : e.Printable) : Gives (enumItem e) Enum.Printable := by
  have hsymbol : ∀ {ts : List Token} {e' rest}, headText ts ≠ "option" →
      headText ts ≠ "reserved" → (e.withSymbol <$> symbol) ts = .ok (e', rest) → e'.Printable := by
    intro ts e' rest hoption hreserved h
    rw [map_eq_pure_bind] at h
    obtain ⟨s, _, hs, h⟩ := bind_eq_ok.mp h
    cases h
    obtain ⟨hhead, hname⟩ := headText_of_symbol hs
    rw [hhead] at hoption hreserved
    exact ⟨he.name, forall_mem_concat he.symbols ⟨hname, hoption, hreserved⟩⟩
  intro ts e' rest h
  cases ts with
  | nil => exact @hsymbol [] _ _ (by decide) (by decide) h
  | cons t ts =>
    simp only [enumItem] at h
    split at h
    · cases h
      exact he
    · split at h
      · exact (gives_true _).map (fun _ _ => he) _ _ _ h
      · rename_i hoption
        split at h
        · exact (gives_true _).map (fun _ _ => he) _ _ _ h
        · rename_i hreserved
          refine @hsymbol (t :: ts) _ _ ?_ ?_ h
          · exact fun he => hoption (beq_iff_eq.mpr he)
          · exact fun he => hreserved (beq_iff_eq.mpr he)

theorem gives_enum : Gives enum Enum.Printable := by
  refine (gives_token _ _).bind fun name hname => (gives_true _).bind fun _ _ => ?_
  exact gives_foldUntil gives_enumItem ⟨hname, by simp⟩

/-! ### files -/

theorem gives_package : Gives package fun p => isDotted p.toList = true := by
  refine (gives_token _ _).bind fun name hname => (gives_true _).bind fun _ _ => gives_pure ?_
  rw [String.toList_ofList]
  unfold isTypeName at hname
  split at hname
  · rename_i cs heq
    have hdrop : name.text.toList.dropWhile (· == '.') = cs.dropWhile (· == '.') := by
      rw [heq]
      exact List.dropWhile_cons_of_pos rfl
    rw [hdrop, dropWhile_dot_of_isDotted hname]
    exact hname
  · rw [dropWhile_dot_of_isDotted hname]
    exact hname

theorem gives_declaration (f : File) (hf : f.Printable) :
    Gives (declaration f) File.Printable := by
  intro ts g rest h
  cases ts with
  | nil => cases h
  | cons t ts =>
    simp only [declaration] at h
    split at h
    · cases h
      exact hf
    · split at h
      · refine (gives_true _).map (fun s _ => ?_) _ _ _ h
        exact ⟨hf.package, hf.options, hf.messages, hf.enums⟩
      · split at h
        · split at h
          · cases h
          · refine gives_package.map (fun p hp => ?_) _ _ _ h
            refine ⟨fun q hq => ?_, hf.options, hf.messages, hf.enums⟩
            rwa [← Option.some.inj hq]
        · split at h
          · refine (gives_true _).map (fun i _ => ?_) _ _ _ h
            exact ⟨hf.package, hf.options, hf.messages, hf.enums⟩
          · split at h
            · refine gives_optionStatement.map (fun s hs => ?_) _ _ _ h
              exact ⟨hf.package, forall_mem_concat hf.options hs, hf.messages, hf.enums⟩
            · split at h
              · refine gives_message.map (fun m hm => ?_) _ _ _ h
                exact ⟨hf.package, hf.options, forall_mem_concat hf.messages hm, hf.enums⟩
              · split at h
                · refine gives_enum.map (fun e he => ?_) _ _ _ h
                  exact ⟨hf.package, hf.options, hf.messages, forall_mem_concat hf.enums he⟩
                · split at h
                  · exact (gives_true _).map (fun _ _ => hf) _ _ _ h
                  · cases h

end Grammar

theorem File.printable_empty (name : String) : (File.empty name).Printable :=
  ⟨by simp [empty], by simp [empty], by simp [empty], by simp [empty]⟩

/-- whatever tokens declare is printable -/
theorem File.printable_of_ofTokens {name : String} {ts : Tokens} {f : File}
    (h : File.ofTokens name ts = .ok f) : f.Printable := by
  unfold ofTokens contents at h
  cases hall : Reader.foldAll Grammar.declaration Grammar.takes_declaration (.empty "") ts.list with
  | error e =>
    rw [hall] at h
    cases h
  | ok g =>
    rw [hall] at h
    cases h
    have hg := Reader.of_foldAll Grammar.gives_declaration (printable_empty "") hall
    exact ⟨hg.package, hg.options, hg.messages, hg.enums⟩

end EnvConfig
