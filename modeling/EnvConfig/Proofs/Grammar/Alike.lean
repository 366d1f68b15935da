import EnvConfig.Grammar.Reader

/-!
# Readers look at texts only

Two lists of tokens with the same texts are read alike, wherever their tokens stand: what is read
from them is the same up to positions, or they are refused for the same fault.

* `Reader.SameTexts`: lists of tokens that differ in nothing but positions;
* `Reader.SameOutcome`, `Reader.Alike`: results that are the same up to what a function leaves out,
  and two readers that give such results for such lists;
* `Reader.Alike.bind`, `Reader.alike_foldUntil`, …: readers that are made of such readers;
* `Reader.sameOutcome_foldAll`: what is read up to the end of two such lists.
-/

namespace EnvConfig

namespace Reader

variable {α β γ δ σ : Type}

/-- the tokens of both lists have the same texts -/
def SameTexts (ts us : List Token) : Prop := ts.map (·.text) = us.map (·.text)

/-- both give results that are equal under `f`, or both refuse for the same fault -/
inductive SameOutcome (f : α → β) : Except Refusal α → Except Refusal α → Prop
  | ok {a b : α} (hresult : f a = f b) : SameOutcome f (.ok a) (.ok b)
  | refused {e e' : Refusal} (hfault : e.fault = e'.fault) : SameOutcome f (.error e) (.error e')

/-- what `f` makes of a result, and the texts that are left -/
def bare (f : α → β) (p : α × List Token) : β × List String := (f p.1, p.2.map (·.text))

/-- the readers read lists of tokens with the same texts alike, up to what `f` leaves out -/
def Alike (f : α → β) (r r' : Reader α) : Prop :=
  ∀ ts us, SameTexts ts us → SameOutcome (bare f) (r ts) (r' us)

variable {f : α → β} {g : γ → δ}

theorem SameTexts.cons {t u : Token} {ts us : List Token} (htext : t.text = u.text)
    (h : SameTexts ts us) : SameTexts (t :: ts) (u :: us) := by
  unfold SameTexts at h ⊢
  rw [List.map_cons, List.map_cons, htext, h]

theorem SameTexts.eq_nil {us : List Token} (h : SameTexts [] us) : us = [] :=
  List.map_eq_nil_iff.mp h.symm

theorem SameTexts.exists_cons {t : Token} {ts us : List Token} (h : SameTexts (t :: ts) us) :
    ∃ u us', us = u :: us' ∧ t.text = u.text ∧ SameTexts ts us' := by
  obtain ⟨u, us', hus, htext, hrest⟩ := List.map_eq_cons_iff.mp h.symm
  exact ⟨u, us', hus, htext.symm, hrest.symm⟩

theorem SameTexts.headText_eq {ts us : List Token} (h : SameTexts ts us) :
    headText ts = headText us := by
  cases ts with
  | nil => rw [h.eq_nil]
  | cons t ts =>
    obtain ⟨u, us, rfl, htext, -⟩ := h.exists_cons
    exact htext

theorem SameOutcome.of_pair {a b : α} {ts us : List Token} (hresult : f a = f b)
    (hrest : SameTexts ts us) : SameOutcome (bare f) (.ok (a, ts)) (.ok (b, us)) :=
  .ok (Prod.ext hresult hrest)

/-! ### parts of readers -/

/-- lists with the same texts are empty together, or have first tokens with the same text -/
theorem Alike.of_cases {r r' : Reader α} (hnil : SameOutcome (bare f) (r []) (r' []))
    (hcons : ∀ t u ts us, t.text = u.text → SameTexts ts us →
      SameOutcome (bare f) (r (t :: ts)) (r' (u :: us))) : Alike f r r' := by
  intro ts us h
  cases ts with
  | nil =>
    rw [h.eq_nil]
    exact hnil
  | cons t ts =>
    obtain ⟨u, us, rfl, htext, hrest⟩ := h.exists_cons
    exact hcons t u ts us htext hrest

theorem SameOutcome.ite {c : Prop} [Decidable c] {x y x' y' : Except Refusal α}
    (h : SameOutcome f x x') (h' : SameOutcome f y y') :
    SameOutcome f (if c then x else y) (if c then x' else y') := by
  split
  · exact h
  · exact h'

theorem Alike.ite {c : Prop} [Decidable c] {r s r' s' : Reader α} (hr : Alike f r r')
    (hs : Alike f s s') : Alike f (if c then r else s) (if c then r' else s') := by
  split
  · exact hr
  · exact hs

theorem alike_pure {a b : α} (h : f a = f b) : Alike f (pure a) (pure b) :=
  fun _ _ hrest => .of_pair h hrest

theorem SameOutcome.bind {x y : Except Refusal α} {k k' : α → Except Refusal γ}
    (h : SameOutcome f x y) (hk : ∀ a b, f a = f b → SameOutcome g (k a) (k' b)) :
    SameOutcome g (x.bind k) (y.bind k') := by
  cases h with
  | ok hresult => exact hk _ _ hresult
  | refused hfault => exact .refused hfault

theorem SameOutcome.exists_ok {a : α} {y : Except Refusal α} (h : SameOutcome f (.ok a) y) :
    ∃ b, y = .ok b ∧ f a = f b := by
  cases h with
  | ok hresult => exact ⟨_, rfl, hresult⟩

theorem SameOutcome.exists_error {e : Refusal} {y : Except Refusal α}
    (h : SameOutcome f (.error e) y) : ∃ e', y = .error e' ∧ e.fault = e'.fault := by
  cases h with
  | refused hfault => exact ⟨_, rfl, hfault⟩

theorem Alike.bind {r r' : Reader α} {k k' : α → Reader γ} (hr : Alike f r r')
    (hk : ∀ a b, f a = f b → Alike g (k a) (k' b)) : Alike g (r >>= k) (r' >>= k') := by
  intro ts us h
  refine (hr ts us h).bind fun p q hpq => ?_
  obtain ⟨hresult, hrest⟩ := Prod.mk.inj hpq
  exact hk p.1 q.1 hresult p.2 q.2 hrest

/-- a first reader whose results hold no positions -/
theorem Alike.bind_same {r r' : Reader α} {k k' : α → Reader γ} (hr : Alike id r r')
    (hk : ∀ a, Alike g (k a) (k' a)) : Alike g (r >>= k) (r' >>= k') := by
  refine hr.bind fun a b h => ?_
  rw [id_eq, id_eq] at h
  rw [h]
  exact hk b

theorem Alike.map {r r' : Reader α} {h h' : α → γ} (hr : Alike f r r')
    (hmap : ∀ a b, f a = f b → g (h a) = g (h' b)) : Alike g (h <$> r) (h' <$> r') := by
  rw [map_eq_pure_bind, map_eq_pure_bind]
  exact hr.bind fun a b hab => alike_pure (hmap a b hab)

theorem Alike.map_same {r r' : Reader α} {h h' : α → γ} (hr : Alike id r r')
    (hmap : ∀ a, g (h a) = g (h' a)) : Alike g (h <$> r) (h' <$> r') := by
  rw [map_eq_pure_bind, map_eq_pure_bind]
  exact hr.bind_same fun a => alike_pure (hmap a)

/-! ### single tokens -/

theorem alike_token (test : String → Bool) (what : Expectation) :
    Alike Token.text (token test what) (token test what) := by
  refine .of_cases (.refused rfl) fun t u ts us htext hrest => ?_
  simp only [token, htext]
  exact .ite (.of_pair htext hrest) (.refused rfl)

theorem alike_mark (text : String) : Alike id (mark text) (mark text) :=
  (alike_token _ _).bind fun _ _ _ => alike_pure rfl

theorem alike_skips (text : String) : Alike id (skips text) (skips text) := by
  refine .of_cases (.of_pair rfl rfl) fun t u ts us htext hrest => ?_
  simp only [skips, htext]
  split
  · exact .of_pair rfl hrest
  · exact .of_pair rfl (hrest.cons htext)

theorem alike_peek : Alike id peek peek := fun _ _ h => .of_pair h.headText_eq h

/-! ### skipping -/

theorem skipToClosing_cons (depth : Nat) (t : Token) (ts : List Token) :
    skipToClosing depth (t :: ts) =
      if t.text == opening then skipToClosing (depth + 1) ts
      else if t.text == closing then
        match depth with
        | 0 => .ok ((), ts)
        | depth + 1 => skipToClosing depth ts
      else skipToClosing depth ts := rfl

theorem alike_skipToClosing (depth : Nat) :
    Alike id (skipToClosing depth) (skipToClosing depth) := by
  intro ts us h
  fun_induction skipToClosing depth ts generalizing us with
  | case1 depth t ts hopening ih =>
    obtain ⟨u, us, rfl, htext, hrest⟩ := h.exists_cons
    rw [htext] at hopening
    rw [skipToClosing_cons, if_pos hopening]
    exact ih us hrest
  | case2 t ts hopening hclosing =>
    obtain ⟨u, us, rfl, htext, hrest⟩ := h.exists_cons
    rw [htext] at hopening hclosing
    rw [skipToClosing, if_neg hopening, if_pos hclosing]
    exact .of_pair rfl hrest
  | case3 t ts hopening hclosing depth ih =>
    obtain ⟨u, us, rfl, htext, hrest⟩ := h.exists_cons
    rw [htext] at hopening hclosing
    rw [skipToClosing, if_neg hopening, if_pos hclosing]
    exact ih us hrest
  | case4 depth t ts hopening hclosing ih =>
    obtain ⟨u, us, rfl, htext, hrest⟩ := h.exists_cons
    rw [htext] at hopening hclosing
    rw [skipToClosing_cons, if_neg hopening, if_neg hclosing]
    exact ih us hrest
  | case5 depth =>
    rw [h.eq_nil]
    exact .refused rfl

theorem alike_skipBlock : Alike id skipBlock skipBlock :=
  (alike_mark _).bind_same fun _ => alike_skipToClosing 0

theorem alike_skipStatement : Alike id skipStatement skipStatement := by
  intro ts us h
  fun_induction skipStatement ts generalizing us with
  | case1 t ts hend =>
    obtain ⟨u, us, rfl, htext, hrest⟩ := h.exists_cons
    rw [htext] at hend
    rw [skipStatement, if_pos hend]
    exact .of_pair rfl hrest
  | case2 t ts hend ih =>
    obtain ⟨u, us, rfl, htext, hrest⟩ := h.exists_cons
    rw [htext] at hend
    rw [skipStatement, if_neg hend]
    exact ih us hrest
  | case3 =>
    rw [h.eq_nil]
    exact .refused rfl

/-! ### item by item -/

section

variable {item item' : σ → Reader σ} {takes : ∀ s, (item s).Takes}
  {takes' : ∀ s, (item' s).Takes} {f : σ → β}

/-- the induction is on the items that are read: each leaves equal states and equal texts -/
theorem alike_foldUntil {close : String}
    (hitem : ∀ s s', f s = f s' → Alike f (item s) (item' s')) {s s' : σ} (h : f s = f s') :
    Alike f (foldUntil close item takes s) (foldUntil close item' takes' s') := by
  intro ts us hsame
  fun_induction foldUntil close item takes s ts generalizing us s' with
  | case1 s t ts hclose =>
    obtain ⟨u, us, rfl, htext, hrest⟩ := hsame.exists_cons
    rw [htext] at hclose
    rw [foldUntil, if_pos hclose]
    exact .of_pair h hrest
  | case2 s t ts hclose a rest hread ih =>
    have hfirst := hitem s s' h _ _ hsame
    rw [hread] at hfirst
    obtain ⟨⟨b, rest'⟩, hread', hboth⟩ := hfirst.exists_ok
    obtain ⟨hstate, hrest⟩ := Prod.mk.inj hboth
    obtain ⟨u, us, rfl, htext, -⟩ := hsame.exists_cons
    rw [htext] at hclose
    rw [foldUntil_cons, if_neg hclose, hread']
    exact ih hstate rest' hrest
  | case3 s t ts hclose e hread =>
    have hfirst := hitem s s' h _ _ hsame
    rw [hread] at hfirst
    obtain ⟨e', hread', hfault⟩ := hfirst.exists_error
    obtain ⟨u, us, rfl, htext, -⟩ := hsame.exists_cons
    rw [htext] at hclose
    rw [foldUntil_cons, if_neg hclose, hread']
    exact .refused hfault
  | case4 s =>
    rw [hsame.eq_nil, foldUntil]
    exact hitem s s' h [] [] rfl

/-- what items are read into up to the end of two lists with the same texts -/
theorem sameOutcome_foldAll (hitem : ∀ s s', f s = f s' → Alike f (item s) (item' s')) {s s' : σ}
    (h : f s = f s') {ts us : List Token} (hsame : SameTexts ts us) :
    SameOutcome f (foldAll item takes s ts) (foldAll item' takes' s' us) := by
  fun_induction foldAll item takes s ts generalizing us s' with
  | case1 s =>
    rw [hsame.eq_nil, foldAll]
    exact .ok h
  | case2 s t ts a rest hread ih =>
    have hfirst := hitem s s' h _ _ hsame
    rw [hread] at hfirst
    obtain ⟨⟨b, rest'⟩, hread', hboth⟩ := hfirst.exists_ok
    obtain ⟨hstate, hrest⟩ := Prod.mk.inj hboth
    obtain ⟨u, us, rfl, -⟩ := hsame.exists_cons
    rw [foldAll_cons, hread']
    exact ih hstate hrest
  | case3 s t ts e hread =>
    have hfirst := hitem s s' h _ _ hsame
    rw [hread] at hfirst
    obtain ⟨e', hread', hfault⟩ := hfirst.exists_error
    obtain ⟨u, us, rfl, -⟩ := hsame.exists_cons
    rw [foldAll_cons, hread']
    exact .refused hfault

end

end Reader

end EnvConfig
