import EnvConfig.Proofs.Printing.Words

/-!
# Reading printed words

* `Reader.Reads`: a reader takes tokens with given texts, and what it gives has a property;
* `Reads.bind`: two readers after each other;
* `Steps.items`: what is read item by item, up to a closing token or to the end of the text.
-/

namespace EnvConfig

namespace Reader

variable {α β σ ι : Type} {next w : String} {ws vs : List String} {P Q : α → Prop}

/-- `r` takes tokens with the texts `ws` before a token `next`, and gives something with `P` -/
def Reads (next : String) (r : Reader α) (ws : List String) (P : α → Prop) : Prop :=
  ∀ ts rest : List Token, ts.map (·.text) = ws → headText rest = next →
    ∃ a, r (ts ++ rest) = .ok (a, rest) ∧ P a

theorem headText_append {ts rest : List Token} :
    headText (ts ++ rest) = (ts.map (·.text)).headD (headText rest) := by
  cases ts with
  | nil => rfl
  | cons t ts => rfl

theorem Reads.mono {r : Reader α} (h : Reads next r ws P) (hPQ : ∀ a, P a → Q a) :
    Reads next r ws Q := by
  intro ts rest hts hrest
  obtain ⟨a, ha, hP⟩ := h ts rest hts hrest
  exact ⟨a, ha, hPQ a hP⟩

theorem reads_pure {a : α} (h : P a) : Reads next (pure a) [] P := by
  intro ts rest hts _
  rw [List.map_eq_nil_iff] at hts
  subst hts
  exact ⟨a, rfl, h⟩

theorem Reads.bind {r : Reader α} {f : α → Reader β} {R : β → Prop}
    (h : Reads (vs.headD next) r ws P) (hf : ∀ a, P a → Reads next (f a) vs R) :
    Reads next (r >>= f) (ws ++ vs) R := by
  intro ts rest hts hrest
  obtain ⟨us, us', rfl, hus, hus'⟩ := List.map_eq_append_iff.mp hts
  obtain ⟨a, ha, hP⟩ := h us (us' ++ rest) hus (by rw [headText_append, hus', hrest])
  obtain ⟨b, hb, hR⟩ := hf a hP us' rest hus' hrest
  rw [List.append_assoc]
  exact ⟨b, bind_eq_ok.mpr ⟨a, _, ha, hb⟩, hR⟩

/-- a reader of one token, and what comes after it -/
theorem Reads.bind_cons {r : Reader α} {f : α → Reader β} {R : β → Prop}
    (h : Reads (vs.headD next) r [w] P) (hf : ∀ a, P a → Reads next (f a) vs R) :
    Reads next (r >>= f) (w :: vs) R :=
  h.bind hf

/-- a reader that takes nothing, and what comes after it -/
theorem Reads.bind_nil {r : Reader α} {f : α → Reader β} {R : β → Prop}
    (h : Reads (ws.headD next) r [] P) (hf : ∀ a, P a → Reads next (f a) ws R) :
    Reads next (r >>= f) ws R :=
  h.bind hf

theorem Reads.map {r : Reader α} {f : α → β} {R : β → Prop} (h : Reads next r ws P)
    (hf : ∀ a, P a → R (f a)) : Reads next (f <$> r) ws R := by
  rw [map_eq_pure_bind, ← List.append_nil ws]
  exact Reads.bind h fun a ha => reads_pure (hf a ha)

theorem reads_token {test : String → Bool} {what : Expectation} (h : test w = true) :
    Reads next (token test what) [w] fun t => t.text = w := by
  intro ts rest hts _
  obtain ⟨t, ts, rfl, ht, hnil⟩ := List.map_eq_cons_iff.mp hts
  rw [List.map_eq_nil_iff] at hnil
  subst hnil
  exact ⟨t, if_pos (ht ▸ h), ht⟩

theorem reads_mark (w : String) : Reads next (mark w) [w] fun _ => True := by
  unfold mark
  exact Reads.bind_cons (reads_token (beq_self_eq_true w)) fun _ _ => reads_pure trivial

theorem reads_skips (w : String) : Reads next (skips w) [w] (· = true) := by
  intro ts rest hts _
  obtain ⟨t, ts, rfl, ht, hnil⟩ := List.map_eq_cons_iff.mp hts
  rw [List.map_eq_nil_iff] at hnil
  subst hnil
  refine ⟨true, ?_, rfl⟩
  show Except.ok (if t.text == w then (true, rest) else (false, t :: rest)) = _
  rw [if_pos (by simpa using ht)]

theorem reads_skips_of_ne (h : next ≠ w) : Reads next (skips w) [] (· = false) := by
  intro ts rest hts hrest
  rw [List.map_eq_nil_iff] at hts
  subst hts
  refine ⟨false, ?_, rfl⟩
  cases rest with
  | nil => rfl
  | cons t rest =>
    have ht : ¬ t.text = w := fun he => h (hrest ▸ he)
    show Except.ok (if t.text == w then (true, rest) else (false, t :: rest)) = _
    rw [if_neg (by simpa using ht)]

theorem reads_peek : Reads next peek [] (· = next) := by
  intro ts rest hts hrest
  rw [List.map_eq_nil_iff] at hts
  subst hts
  exact ⟨headText rest, rfl, hrest⟩

/-- a reader that looks at the first token `w` and goes on with another one after it -/
theorem reads_after {r : Reader α} (r' : Reader α) (h : ∀ t ts, t.text = w → r (t :: ts) = r' ts)
    (hr : Reads next r' ws P) : Reads next r (w :: ws) P := by
  intro ts rest hts hrest
  obtain ⟨t, ts, rfl, ht, hts⟩ := List.map_eq_cons_iff.mp hts
  obtain ⟨a, ha, hP⟩ := hr ts rest hts hrest
  exact ⟨a, (h t _ ht).trans ha, hP⟩

/-- a reader that looks at the first token `w` and goes on with another one before it -/
theorem reads_before {r : Reader α} (r' : Reader α)
    (h : ∀ t ts, t.text = w → r (t :: ts) = r' (t :: ts)) (hr : Reads next r' (w :: ws) P) :
    Reads next r (w :: ws) P := by
  intro ts rest hts hrest
  obtain ⟨a, ha, hP⟩ := hr ts rest hts hrest
  obtain ⟨t, ts, rfl, ht, -⟩ := List.map_eq_cons_iff.mp hts
  exact ⟨a, (h t _ ht).trans ha, hP⟩

/-! ### item by item -/

/-- `K s ws` is left of reading `ws` in the state `s`: an item that begins with a word that is
`good` can be read first -/
def Steps (item : σ → Reader σ) (good : String → Prop) (K : σ → List String → Prop) : Prop :=
  ∀ s w ws vs (P : σ → Prop), good w → (∀ next, Reads next (item s) (w :: ws) P) →
    (∀ s', P s' → K s' vs) → K s (w :: ws ++ vs)

variable {item : σ → Reader σ} {takes : ∀ s, (item s).Takes} {close : String}

theorem steps_foldUntil (next : String) (R : σ → Prop) :
    Steps item (· ≠ close) fun s ws => Reads next (foldUntil close item takes s) ws R := by
  intro s w ws vs P hw hitem hrest ts rest hts hnext
  obtain ⟨us, us', rfl, hus, hus'⟩ := List.map_eq_append_iff.mp hts
  obtain ⟨s', hs', hP⟩ := hitem _ us (us' ++ rest) hus rfl
  obtain ⟨a, ha, hR⟩ := hrest s' hP us' rest hus' hnext
  obtain ⟨t, us, rfl, ht, -⟩ := List.map_eq_cons_iff.mp hus
  have hclose : ¬ (t.text == close) = true := by simpa [ht] using hw
  refine ⟨a, ?_, hR⟩
  rw [List.append_assoc, List.cons_append, foldUntil_cons, if_neg hclose, ← List.cons_append, hs']
  exact ha

theorem reads_foldUntil_close {s : σ} {R : σ → Prop} (h : R s) :
    Reads next (foldUntil close item takes s) [close] R := by
  refine reads_after (pure s) (fun t ts ht => ?_) (reads_pure h)
  rw [foldUntil, if_pos (by simpa using ht)]
  rfl

/-- what is left of reading `ws` with `foldAll` -/
def ReadsAll (item : σ → Reader σ) (takes : ∀ s, (item s).Takes) (R : σ → Prop) (s : σ)
    (ws : List String) : Prop :=
  ∀ ts : List Token, ts.map (·.text) = ws → ∃ a, foldAll item takes s ts = .ok a ∧ R a

theorem steps_foldAll (R : σ → Prop) : Steps item (fun _ => True) (ReadsAll item takes R) := by
  intro s w ws vs P _ hitem hrest ts hts
  obtain ⟨us, us', rfl, hus, hus'⟩ := List.map_eq_append_iff.mp hts
  obtain ⟨s', hs', hP⟩ := hitem _ us us' hus rfl
  obtain ⟨a, ha, hR⟩ := hrest s' hP us' hus'
  obtain ⟨t, us, rfl, -⟩ := List.map_eq_cons_iff.mp hus
  refine ⟨a, ?_, hR⟩
  rw [List.cons_append, foldAll_cons, ← List.cons_append, hs']
  exact ha

theorem readsAll_nil {s : σ} {R : σ → Prop} (h : R s) : ReadsAll item takes R s [] := by
  intro ts hts
  rw [List.map_eq_nil_iff] at hts
  subst hts
  exact ⟨s, by rw [foldAll], h⟩

/-- Several items of one kind.  `I done s` says that the items `done` have led to the state `s`. -/
theorem Steps.items {good : String → Prop} {K : σ → List String → Prop} (hK : Steps item good K)
    {words : ι → List String} (I : List ι → σ → Prop) {items : List ι}
    (hwords : ∀ i ∈ items, ∃ w ws, words i = w :: ws ∧ good w)
    (hitem : ∀ i ∈ items, ∀ done s next, I done s →
      Reads next (item s) (words i) (I (done ++ [i])))
    {s : σ} (hs : I [] s) (hrest : ∀ s', I items s' → K s' vs) :
    K s (items.flatMap words ++ vs) := by
  have hfrom : ∀ done s, I done s → (∀ s', I (done ++ items) s' → K s' vs) →
      K s (items.flatMap words ++ vs) := by
    clear hs hrest
    induction items with
    | nil =>
      intro done s hs hrest
      rw [List.append_nil] at hrest
      exact hrest s hs
    | cons i items ih =>
      intro done s hs hrest
      obtain ⟨w, ws, hw, hgood⟩ := hwords i List.mem_cons_self
      have hfirst := fun next => hitem i List.mem_cons_self done s next hs
      simp only [hw] at hfirst
      rw [List.flatMap_cons, List.append_assoc, hw]
      refine hK s w ws _ _ hgood hfirst fun s' hs' => ?_
      refine ih (fun j hj => hwords j (List.mem_cons_of_mem _ hj))
        (fun j hj => hitem j (List.mem_cons_of_mem _ hj)) _ _ hs' fun s'' hs'' => hrest s'' ?_
      rwa [List.append_assoc] at hs''
  exact hfrom [] s hs hrest

/-- an item that may be there -/
theorem Steps.option {good : String → Prop} {K : σ → List String → Prop} (hK : Steps item good K)
    {words : ι → List String} {o : Option ι} {s : σ} (s' : σ)
    (hwords : ∀ i ∈ o, ∃ w ws, words i = w :: ws ∧ good w) (hnone : o = none → s' = s)
    (hsome : ∀ i ∈ o, ∀ next, Reads next (item s) (words i) (· = s')) (hrest : K s' vs) :
    K s (o.toList.flatMap words ++ vs) := by
  cases o with
  | none => exact hnone rfl ▸ hrest
  | some i =>
    obtain ⟨w, ws, hw, hgood⟩ := hwords i rfl
    have hitem := hsome i rfl
    simp only [hw] at hitem
    rw [Option.toList_some, List.flatMap_singleton, hw]
    exact hK s w ws vs _ hgood hitem fun s'' hs'' => hs'' ▸ hrest

end Reader

end EnvConfig
