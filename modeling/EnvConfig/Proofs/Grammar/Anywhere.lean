import EnvConfig.Proofs.Grammar.Alike
import EnvConfig.Proofs.Lexical.Joined

/-!
# Readers look at nothing behind what they take

The tokens that a reader has taken settle what it has read: put some lines lower and followed by
any other tokens, they are read to the same, some lines lower.  A reader that may leave off in front
of a token looks at this one too, but only at its text.

* `Reader.ReadsAnywhere`: what a reader gives for tokens at any lower place, in front of any others;
* `Reader.Anywhere`: the tokens taken settle the result;
* `Reader.AnywhereAhead`: they do with the text of the next token;
* `Reader.Anywhere.bind`, `Reader.AnywhereAhead.bind_anywhere`, …: readers that are made of such
  readers;
* `Reader.anywhere_foldUntil`, `Reader.foldAll_anywhere`: items that are read one after another.
-/

namespace EnvConfig

namespace Reader

variable {α β γ δ σ τ : Type} {n : Nat}

/-- `r` takes the tokens of `ts` in front of `rest`, put `n` lines lower, and gives `b`, whatever
comes behind them -/
def ReadsAnywhere (n : Nat) (r : Reader β) (ts : List Token) (b : β) (rest : List Token) : Prop :=
  ∃ taken, ts = taken ++ rest ∧
    ∀ rest', r (taken.map (Token.lowered n) ++ rest') = .ok (b, rest')

/-- The tokens that `r` takes settle what it gives: `n` lines lower and in front of anything, `r'`
takes them too and gives what `f` makes of it. -/
def Anywhere (n : Nat) (f : α → β) (r : Reader α) (r' : Reader β) : Prop :=
  ∀ ts a rest, r ts = .ok (a, rest) → ReadsAnywhere n r' ts (f a) rest

/-- The tokens that `r` takes and the text of the next one settle what it gives. -/
def AnywhereAhead (n : Nat) (f : α → β) (r : Reader α) (r' : Reader β) : Prop :=
  ∀ ts a rest, r ts = .ok (a, rest) → ∃ taken, ts = taken ++ rest ∧
    ∀ rest', headText rest' = headText rest →
      r' (taken.map (Token.lowered n) ++ rest') = .ok (f a, rest')

variable {f : α → β} {g : γ → δ}

/-- the next token has the same text if some tokens are left to be taken, or what follows has it -/
theorem headText_lowered {taken rest rest' : List Token} (h : headText rest' = headText rest) :
    headText (taken.map (Token.lowered n) ++ rest') = headText (taken ++ rest) := by
  cases taken with
  | nil => exact h
  | cons t taken => rfl

theorem headText_lowered_of_ne_nil {taken : List Token} (h : taken ≠ []) (rest rest' : List Token) :
    headText (taken.map (Token.lowered n) ++ rest') = headText (taken ++ rest) := by
  cases taken with
  | nil => exact absurd rfl h
  | cons t taken => rfl

theorem Takes.ne_nil {r : Reader α} (htakes : r.Takes) {taken rest : List Token} {a : α}
    (h : r (taken ++ rest) = .ok (a, rest)) : taken ≠ [] := by
  rintro rfl
  exact absurd (htakes _ _ _ h) (Nat.lt_irrefl _)

/-- the first token of what a reader has taken has the same text anywhere -/
theorem Takes.headText_lowered {r : Reader α} (htakes : r.Takes) {taken rest : List Token} {a : α}
    (h : r (taken ++ rest) = .ok (a, rest)) (rest' : List Token) :
    headText (taken.map (Token.lowered n) ++ rest') = headText (taken ++ rest) :=
  headText_lowered_of_ne_nil (htakes.ne_nil h) rest rest'

/-- a token more in front of those that are read -/
theorem ReadsAnywhere.cons {r r' : Reader β} {t : Token} {ts rest : List Token} {b : β}
    (h : ReadsAnywhere n r ts b rest) (hstep : ∀ us, r' (t.lowered n :: us) = r us) :
    ReadsAnywhere n r' (t :: ts) b rest := by
  obtain ⟨taken, rfl, hall⟩ := h
  exact ⟨t :: taken, rfl, fun rest' => (hstep _).trans (hall rest')⟩

/-- a single token that is read -/
theorem readsAnywhere_singleton {r : Reader β} {t : Token} {b : β} (rest : List Token)
    (hstep : ∀ us, r (t.lowered n :: us) = .ok (b, us)) : ReadsAnywhere n r (t :: rest) b rest :=
  ⟨[t], rfl, hstep⟩

theorem Anywhere.ahead {r : Reader α} {r' : Reader β} (h : Anywhere n f r r') :
    AnywhereAhead n f r r' := by
  intro ts a rest hread
  obtain ⟨taken, hts, hall⟩ := h ts a rest hread
  exact ⟨taken, hts, fun rest' _ => hall rest'⟩

/-! ### one reader after another -/

theorem bind_of_ok {r : Reader α} {k : α → Reader γ} {ts rest : List Token} {a : α}
    (h : r ts = .ok (a, rest)) : (r >>= k) ts = k a rest := by
  show (r ts).bind (fun p => k p.1 p.2) = _
  rw [h]
  rfl

theorem Anywhere.bind {r : Reader α} {r' : Reader β} {k : α → Reader γ} {k' : β → Reader δ}
    (hr : Anywhere n f r r') (hk : ∀ a, Anywhere n g (k a) (k' (f a))) :
    Anywhere n g (r >>= k) (r' >>= k') := by
  intro ts c rest h
  obtain ⟨a, mid, hread, hmore⟩ := bind_eq_ok.mp h
  obtain ⟨taken, rfl, hall⟩ := hr ts a mid hread
  obtain ⟨more, rfl, hall'⟩ := hk a mid c rest hmore
  refine ⟨taken ++ more, (List.append_assoc ..).symm, fun rest' => ?_⟩
  rw [List.map_append, List.append_assoc, bind_of_ok (hall _)]
  exact hall' rest'

theorem AnywhereAhead.bind {r : Reader α} {r' : Reader β} {k : α → Reader γ} {k' : β → Reader δ}
    (hr : AnywhereAhead n f r r') (hk : ∀ a, AnywhereAhead n g (k a) (k' (f a))) :
    AnywhereAhead n g (r >>= k) (r' >>= k') := by
  intro ts c rest h
  obtain ⟨a, mid, hread, hmore⟩ := bind_eq_ok.mp h
  obtain ⟨taken, rfl, hall⟩ := hr ts a mid hread
  obtain ⟨more, rfl, hall'⟩ := hk a mid c rest hmore
  refine ⟨taken ++ more, (List.append_assoc ..).symm, fun rest' hhead => ?_⟩
  rw [List.map_append, List.append_assoc, bind_of_ok (hall _ (headText_lowered hhead))]
  exact hall' rest' hhead

/-- what comes after settles the next token if it takes one -/
theorem AnywhereAhead.bind_anywhere {r : Reader α} {r' : Reader β} {k : α → Reader γ}
    {k' : β → Reader δ} (hr : AnywhereAhead n f r r') (hk : ∀ a, Anywhere n g (k a) (k' (f a)))
    (htakes : ∀ a, (k a).Takes) : Anywhere n g (r >>= k) (r' >>= k') := by
  intro ts c rest h
  obtain ⟨a, mid, hread, hmore⟩ := bind_eq_ok.mp h
  obtain ⟨taken, rfl, hall⟩ := hr ts a mid hread
  obtain ⟨more, rfl, hall'⟩ := hk a mid c rest hmore
  refine ⟨taken ++ more, (List.append_assoc ..).symm, fun rest' => ?_⟩
  have hnext := (htakes a).headText_lowered (n := n) hmore rest'
  rw [List.map_append, List.append_assoc, bind_of_ok (hall _ hnext)]
  exact hall' rest'

theorem anywhere_pure {a : α} {b : β} (h : f a = b) : Anywhere n f (pure a) (pure b) := by
  intro ts c rest hread
  cases hread
  exact ⟨[], rfl, fun rest' => by rw [h]; rfl⟩

theorem anywhere_error (e : Refusal) (r' : Reader β) : Anywhere n f (fun _ => .error e) r' := by
  intro ts a rest h
  cases h

theorem anywhere_refuse (fault : Fault) (t : Token) (r' : Reader β) :
    Anywhere n f (fun ts => refuse fault (t :: ts)) r' := by
  intro ts a rest h
  cases h

theorem Anywhere.map {r : Reader α} {r' : Reader β} {h : α → γ} {h' : β → δ}
    (hr : Anywhere n f r r') (hmap : ∀ a, g (h a) = h' (f a)) :
    Anywhere n g (h <$> r) (h' <$> r') := by
  rw [map_eq_pure_bind, map_eq_pure_bind]
  exact hr.bind fun a => anywhere_pure (hmap a)

theorem exists_of_map_eq_ok {r : Reader α} {h : α → β} {ts rest : List Token} {b : β}
    (hread : (h <$> r) ts = .ok (b, rest)) : ∃ a, r ts = .ok (a, rest) ∧ b = h a := by
  rw [map_eq_pure_bind] at hread
  obtain ⟨a, mid, ha, hpure⟩ := bind_eq_ok.mp hread
  cases hpure
  exact ⟨a, ha, rfl⟩

theorem Anywhere.ite {c : Prop} [Decidable c] {r s : Reader α} {r' s' : Reader β}
    (hr : Anywhere n f r r') (hs : Anywhere n f s s') :
    Anywhere n f (if c then r else s) (if c then r' else s') := by
  split
  · exact hr
  · exact hs

/-- two readers that are told apart before they are given the tokens -/
theorem Anywhere.branch {c : Prop} [Decidable c] {r s : Reader α} {r' s' : Reader β}
    (hr : Anywhere n f r r') (hs : Anywhere n f s s') :
    Anywhere n f (fun ts => if c then r ts else s ts) (fun ts => if c then r' ts else s' ts) := by
  have hwhole := Anywhere.ite (c := c) hr hs
  split at hwhole <;> rename_i hc <;> simpa only [hc, if_true, if_false] using hwhole

theorem AnywhereAhead.ite {c : Prop} [Decidable c] {r s : Reader α} {r' s' : Reader β}
    (hr : AnywhereAhead n f r r') (hs : AnywhereAhead n f s s') :
    AnywhereAhead n f (if c then r else s) (if c then r' else s') := by
  split
  · exact hr
  · exact hs

/-! ### single tokens -/

theorem anywhere_token (test : String → Bool) (what : Expectation) :
    Anywhere n (Token.lowered n) (token test what) (token test what) := by
  intro ts a rest h
  cases ts with
  | nil => cases h
  | cons t ts =>
    simp only [token] at h
    split at h
    · rename_i htest
      have htest' : test (t.lowered n).text = true := htest
      cases h
      exact readsAnywhere_singleton _ fun _ => if_pos htest'
    · cases h

theorem anywhere_mark (text : String) : Anywhere n id (mark text) (mark text) :=
  (anywhere_token _ _).bind fun _ => anywhere_pure rfl

/-- A reader that takes the next token if its text passes a test, and none otherwise.  No text at
all does not pass, so the end of the tokens is a text like any other. -/
theorem ahead_of_test {r : Reader α} (test : String → Bool) (taken : String → α) (left : α)
    (hempty : test "" = false)
    (htake : ∀ t ts, test t.text = true → r (t :: ts) = .ok (taken t.text, ts))
    (hleave : ∀ ts, test (headText ts) = false → r ts = .ok (left, ts)) :
    AnywhereAhead n id r r := by
  intro ts a rest h
  cases htest : test (headText ts) with
  | true =>
    cases ts with
    | nil => exact absurd (hempty.symm.trans htest) Bool.false_ne_true
    | cons t ts =>
      rw [htake t ts htest] at h
      cases h
      exact ⟨[t], rfl, fun rest' _ => htake (t.lowered n) rest' htest⟩
  | false =>
    rw [hleave ts htest] at h
    cases h
    exact ⟨[], rfl, fun rest' hhead => hleave rest' (hhead ▸ htest)⟩

/-- whether a token is skipped is settled by the text of the next one, as no token is empty -/
theorem ahead_skips {text : String} (hne : text ≠ "") :
    AnywhereAhead n id (skips text) (skips text) := by
  refine ahead_of_test (· == text) (fun _ => true) false (beq_false_of_ne hne.symm)
    (fun t ts htest => ?_) fun ts htest => ?_
  · exact congrArg Except.ok (if_pos htest)
  · cases ts with
    | nil => rfl
    | cons t ts => exact congrArg Except.ok (if_neg (Bool.eq_false_iff.mp htest))

theorem ahead_peek : AnywhereAhead n id peek peek := by
  intro ts a rest h
  cases h
  exact ⟨[], rfl, fun rest' hhead => by rw [List.map_nil, List.nil_append, peek, hhead]; rfl⟩

/-- a reader that begins behind its first token -/
theorem anywhere_of_cons {r : Reader α} {r' : Reader β} (hnil : ∀ p, r [] ≠ .ok p)
    (hcons : ∀ t : Token, Anywhere n f (fun ts => r (t :: ts)) (fun ts => r' (t.lowered n :: ts))) :
    Anywhere n f r r' := by
  intro ts a rest h
  cases ts with
  | nil => exact absurd h (hnil _)
  | cons t ts => exact (hcons t ts a rest h).cons fun _ => rfl

/-- a reader that is given its first token again -/
theorem Anywhere.given {r : Reader α} {r' : Reader β} (h : Anywhere n f r r') (htakes : r.Takes)
    (t : Token) : Anywhere n f (fun ts => r (t :: ts)) (fun ts => r' (t.lowered n :: ts)) := by
  intro ts a rest hread
  obtain ⟨taken, hts, hall⟩ := h (t :: ts) a rest hread
  replace hread : r (t :: ts) = .ok (a, rest) := hread
  rw [hts] at hread
  cases taken with
  | nil => exact absurd rfl (htakes.ne_nil hread)
  | cons u taken =>
    cases hts
    exact ⟨taken, rfl, hall⟩

/-! ### what a skipped token decides -/

theorem skips_bind_cons (text : String) (k : Bool → Reader α) (t : Token) (ts : List Token) :
    (skips text >>= k) (t :: ts) = if t.text == text then k true ts else k false (t :: ts) := by
  by_cases htext : (t.text == text) = true
  · rw [if_pos htext]
    exact bind_of_ok (congrArg Except.ok (if_pos htext))
  · rw [if_neg htext]
    exact bind_of_ok (congrArg Except.ok (if_neg htext))

theorem takes_skips_bind (text : String) {k : Bool → Reader α} (hskipped : (k true).Keeps)
    (hleft : (k false).Takes) : (skips text >>= k).Takes := by
  intro ts a rest h
  cases ts with
  | nil => exact hleft [] a rest h
  | cons t ts =>
    rw [skips_bind_cons] at h
    split at h
    · exact Nat.lt_succ_of_le (hskipped ts a rest h)
    · exact hleft _ a rest h

/-- a token that is skipped or else taken is not looked at as the next one -/
theorem anywhere_skips_bind (text : String) {k : Bool → Reader α} {k' : Bool → Reader β}
    (hskipped : Anywhere n f (k true) (k' true)) (hleft : Anywhere n f (k false) (k' false))
    (htakes : (k false).Takes) : Anywhere n f (skips text >>= k) (skips text >>= k') := by
  refine anywhere_of_cons (fun p h => ?_) fun t => ?_
  · exact absurd (htakes [] p.1 p.2 h) (Nat.not_lt_zero _)
  · simp only [skips_bind_cons]
    exact .branch hskipped (hleft.given htakes t)

/-! ### skipping -/

theorem anywhere_skipToClosing (depth : Nat) :
    Anywhere n id (skipToClosing depth) (skipToClosing depth) := by
  intro ts a rest h
  fun_induction skipToClosing depth ts with
  | case1 depth t ts hopening ih => exact (ih h).cons fun _ => if_pos hopening
  | case2 t ts hopening hclosing =>
    cases h
    exact readsAnywhere_singleton _ fun _ => (if_neg hopening).trans (if_pos hclosing)
  | case3 t ts hopening hclosing depth ih =>
    exact (ih h).cons fun _ => (if_neg hopening).trans (if_pos hclosing)
  | case4 depth t ts hopening hclosing ih =>
    refine (ih h).cons fun _ => (skipToClosing_cons ..).trans ?_
    exact (if_neg hopening).trans (if_neg hclosing)
  | case5 depth => cases h

theorem anywhere_skipBlock : Anywhere n id skipBlock skipBlock :=
  (anywhere_mark _).bind fun _ => anywhere_skipToClosing 0

theorem anywhere_skipStatement : Anywhere n id skipStatement skipStatement := by
  intro ts a rest h
  fun_induction skipStatement ts with
  | case1 t ts hend =>
    cases h
    exact readsAnywhere_singleton _ fun _ => if_pos hend
  | case2 t ts hend ih => exact (ih h).cons fun _ => if_neg hend
  | case3 => cases h

/-! ### item by item -/

section

variable {item : σ → Reader σ} {item' : τ → Reader τ} {takes : ∀ s, (item s).Takes}
  {takes' : ∀ s, (item' s).Takes} {f : σ → τ}

theorem foldUntil_of_item {close : String} {s s' : σ} {ts rest : List Token}
    (hclose : headText ts ≠ close) (h : item s ts = .ok (s', rest)) :
    foldUntil close item takes s ts = foldUntil close item takes s' rest := by
  cases ts with
  | nil => exact absurd (takes s _ _ _ h) (Nat.not_lt_zero _)
  | cons t ts =>
    have hne : ¬ (t.text == close) = true := by
      rw [beq_iff_eq]
      exact hclose
    rw [foldUntil_cons, if_neg hne, h]
    rfl

/-- the induction is on the items that are read; each begins with a token that it takes, so whether
it is the closing one is settled too -/
theorem anywhere_foldUntil {close : String}
    (hitem : ∀ s, Anywhere n f (item s) (item' (f s))) (s : σ) :
    Anywhere n f (foldUntil close item takes s) (foldUntil close item' takes' (f s)) := by
  intro ts a rest h
  fun_induction foldUntil close item takes s ts with
  | case1 s t ts hclose =>
    have hclose' : ((t.lowered n).text == close) = true := hclose
    cases h
    exact readsAnywhere_singleton _ fun _ => (foldUntil_cons ..).trans (if_pos hclose')
  | case2 s t ts hclose s' mid hread ih =>
    obtain ⟨taken, hts, hall⟩ := hitem s _ _ _ hread
    obtain ⟨more, rfl, hall'⟩ := ih h
    refine ⟨taken ++ more, by rw [hts, List.append_assoc], fun rest' => ?_⟩
    rw [List.map_append, List.append_assoc, ← hall' rest']
    refine foldUntil_of_item ?_ (hall _)
    rw [hts] at hread
    rw [(takes s).headText_lowered hread, ← hts]
    exact fun hhead => hclose (beq_iff_eq.mpr hhead)
  | case3 s t ts hclose e hread => cases h
  | case4 s => exact absurd (takes s _ _ _ h) (Nat.not_lt_zero _)

theorem foldAll_of_item {s s' : σ} {ts rest : List Token} (h : item s ts = .ok (s', rest)) :
    foldAll item takes s ts = foldAll item takes s' rest := by
  cases ts with
  | nil => exact absurd (takes s _ _ _ h) (Nat.not_lt_zero _)
  | cons t ts =>
    rw [foldAll_cons, h]
    rfl

/-- What items are read into up to the end of the tokens goes on with anything behind them, if each
item that leads to a state with `q` is read anywhere, and from a state with `q`. -/
theorem foldAll_anywhere (takes' : ∀ s, (item' s).Takes) {q : σ → Prop}
    (hitem : ∀ s ts s' rest, item s ts = .ok (s', rest) → q s' →
      q s ∧ ReadsAnywhere n (item' (f s)) ts (f s') rest)
    {s s' : σ} {ts : List Token} (h : foldAll item takes s ts = .ok s') (hend : q s') :
    q s ∧ ∀ us, foldAll item' takes' (f s) (ts.map (Token.lowered n) ++ us) =
      foldAll item' takes' (f s') us := by
  fun_induction foldAll item takes s ts with
  | case1 s =>
    cases h
    exact ⟨hend, fun _ => rfl⟩
  | case2 s t ts s₁ mid hread ih =>
    obtain ⟨hq, hall⟩ := ih h
    obtain ⟨hqs, taken, hts, hfirst⟩ := hitem s _ _ _ hread hq
    refine ⟨hqs, fun us => ?_⟩
    rw [hts, List.map_append, List.append_assoc, foldAll_of_item (hfirst _), hall]
  | case3 s t ts e hread => cases h

end

end Reader

end EnvConfig
