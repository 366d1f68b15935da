import EnvConfig.Lexical.Token

/-!
# Readers of token lists

A reader takes tokens off the front of a list and gives what they mean, or refuses them.  A refusal
names its fault and the token at which it shows; no token stands for the end of the text.

* `Reader.Takes r`: when `r` succeeds it has taken one token at least;
* `Reader.Keeps r`: when `r` succeeds it has put no token in front of the rest;
* `Reader.foldUntil`: reads items up to a closing token.  It ends because each item takes a token.
-/

set_option linter.unusedVariables false

namespace EnvConfig

/-- why tokens are refused, and at which of them -/
structure Refusal where
  fault : Fault
  token : Option Token
deriving Repr, DecidableEq

/-- the position of the refused token, or `finish` for the end of the text -/
def Refusal.located (r : Refusal) (finish : Position) : ParseError :=
  ⟨r.fault, (r.token.map (·.position)).getD finish⟩

/-- what the tokens at the front of a list mean, and the tokens after them -/
abbrev Reader (α : Type) := StateT (List Token) (Except Refusal) α

namespace Reader

variable {α β σ : Type}

/-- the text of the first token, empty at the end of the text -/
def headText : List Token → String
  | [] => ""
  | t :: _ => t.text

def refuse (fault : Fault) (ts : List Token) : Except Refusal (α × List Token) :=
  .error ⟨fault, ts.head?⟩

/-- takes a token whose text passes `test` -/
def token (test : String → Bool) (what : Expectation) : Reader Token
  | t :: ts => if test t.text then .ok (t, ts) else refuse (.expected what t.text) (t :: ts)
  | [] => refuse (.expected what "") []

/-- takes the token `text` -/
def mark (text : String) : Reader Unit := do
  let _ ← token (· == text) (.mark text)

/-- takes the token `text` if it stands there, and says whether it did -/
def skips (text : String) : Reader Bool
  | t :: ts => .ok (if t.text == text then (true, ts) else (false, t :: ts))
  | [] => .ok (false, [])

/-- the text of the first token, which stays -/
def peek : Reader String := fun ts => .ok (headText ts, ts)

def Takes (r : Reader α) : Prop := ∀ ts a rest, r ts = .ok (a, rest) → rest.length < ts.length

def Keeps (r : Reader α) : Prop := ∀ ts a rest, r ts = .ok (a, rest) → rest.length ≤ ts.length

theorem Takes.keeps {r : Reader α} (h : r.Takes) : r.Keeps :=
  fun ts a rest e => Nat.le_of_lt (h ts a rest e)

theorem bind_eq_ok {r : Reader α} {f : α → Reader β} {ts rest : List Token} {b : β} :
    (r >>= f) ts = .ok (b, rest) ↔ ∃ a mid, r ts = .ok (a, mid) ∧ f a mid = .ok (b, rest) := by
  simp only [bind, StateT.bind, Except.bind]
  cases r ts with
  | error e => simp
  | ok p =>
    constructor
    · intro h
      exact ⟨p.1, p.2, rfl, h⟩
    · rintro ⟨a, mid, hp, h⟩
      cases hp
      exact h

theorem Keeps.bind {r : Reader α} {f : α → Reader β} (hr : r.Keeps) (hf : ∀ a, (f a).Keeps) :
    (r >>= f).Keeps := by
  intro ts b rest h
  obtain ⟨a, mid, h1, h2⟩ := bind_eq_ok.mp h
  exact Nat.le_trans (hf a mid b rest h2) (hr ts a mid h1)

theorem Takes.bind {r : Reader α} {f : α → Reader β} (hr : r.Takes) (hf : ∀ a, (f a).Keeps) :
    (r >>= f).Takes := by
  intro ts b rest h
  obtain ⟨a, mid, h1, h2⟩ := bind_eq_ok.mp h
  exact Nat.lt_of_le_of_lt (hf a mid b rest h2) (hr ts a mid h1)

theorem Keeps.bind_takes {r : Reader α} {f : α → Reader β} (hr : r.Keeps)
    (hf : ∀ a, (f a).Takes) : (r >>= f).Takes := by
  intro ts b rest h
  obtain ⟨a, mid, h1, h2⟩ := bind_eq_ok.mp h
  exact Nat.lt_of_lt_of_le (hf a mid b rest h2) (hr ts a mid h1)

theorem keeps_pure (a : α) : Keeps (pure a : Reader α) := by
  intro ts b rest h
  cases h
  exact Nat.le_refl _

theorem keeps_error (e : Refusal) : Keeps (fun _ => .error e : Reader α) := by
  intro ts a rest h
  cases h

theorem takes_token (test : String → Bool) (what : Expectation) : (token test what).Takes := by
  intro ts a rest h
  unfold token at h
  split at h
  · split at h
    · cases h; simp
    · cases h
  · cases h

theorem takes_mark (text : String) : (mark text).Takes :=
  (takes_token _ _).bind fun _ => keeps_pure _

theorem keeps_skips (text : String) : (skips text).Keeps := by
  intro ts a rest h
  unfold skips at h
  split at h
  · split at h <;> cases h <;> simp
  · cases h; simp

theorem keeps_peek : peek.Keeps := by
  intro ts a rest h
  cases h
  exact Nat.le_refl _

theorem Takes.map {r : Reader α} (hr : r.Takes) (f : α → β) : (f <$> r : Reader β).Takes := by
  rw [map_eq_pure_bind]
  exact hr.bind fun _ => keeps_pure _

theorem Keeps.ite {c : Prop} [Decidable c] {r s : Reader α} (hr : r.Keeps) (hs : s.Keeps) :
    (if c then r else s).Keeps := by
  split
  · exact hr
  · exact hs

theorem Takes.ite {c : Prop} [Decidable c] {r s : Reader α} (hr : r.Takes) (hs : s.Takes) :
    (if c then r else s).Takes := by
  split
  · exact hr
  · exact hs

/-- reads items into `s` until the token `close`, which is taken too -/
def foldUntil (close : String) (item : σ → Reader σ) (takes : ∀ s, (item s).Takes) (s : σ) :
    Reader σ := fun ts =>
  match ts with
  | t :: rest =>
    if t.text == close then .ok (s, rest)
    else match h : item s (t :: rest) with
      | .ok (s', rest') => foldUntil close item takes s' rest'
      | .error e => .error e
  | [] => item s []
termination_by ts => ts.length
decreasing_by exact takes s _ _ _ h

theorem foldUntil_cons (close : String) (item : σ → Reader σ) (takes : ∀ s, (item s).Takes)
    (s : σ) (t : Token) (ts : List Token) : foldUntil close item takes s (t :: ts) =
      if t.text == close then .ok (s, ts)
      else (item s (t :: ts)).bind fun p => foldUntil close item takes p.1 p.2 := by
  rw [foldUntil]
  congr 1
  split
  · rename_i h
    rw [h, Except.bind]
  · rename_i h
    rw [h, Except.bind]

theorem takes_foldUntil (close : String) (item : σ → Reader σ) (takes : ∀ s, (item s).Takes)
    (s : σ) : (foldUntil close item takes s).Takes := by
  intro ts
  fun_induction foldUntil close item takes s ts with
  | case1 s t rest => intro a r h; cases h; simp
  | case2 s t rest _ s' rest' h ih =>
    intro a r hr
    exact Nat.lt_trans (ih a r hr) (takes s _ _ _ h)
  | case3 => intro a r h; cases h
  | case4 s => intro a r h; exact takes s _ _ _ h

/-- reads items into `s` until no token is left -/
def foldAll (item : σ → Reader σ) (takes : ∀ s, (item s).Takes) (s : σ) (ts : List Token) :
    Except Refusal σ :=
  match ts with
  | [] => .ok s
  | t :: rest =>
    match h : item s (t :: rest) with
    | .ok (s', rest') => foldAll item takes s' rest'
    | .error e => .error e
termination_by ts.length
decreasing_by exact takes s _ _ _ h

theorem foldAll_cons (item : σ → Reader σ) (takes : ∀ s, (item s).Takes) (s : σ) (t : Token)
    (ts : List Token) : foldAll item takes s (t :: ts) =
      (item s (t :: ts)).bind fun p => foldAll item takes p.1 p.2 := by
  rw [foldAll]
  split
  · rename_i h
    rw [h, Except.bind]
  · rename_i h
    rw [h, Except.bind]

/-! ### skipping -/

def opening : String := "\x7b"
def closing : String := "\x7d"

/-- up to the closing brace of a block that is open `depth + 1` times -/
def skipToClosing : Nat → Reader Unit
  | depth, t :: ts =>
    if t.text == opening then skipToClosing (depth + 1) ts
    else if t.text == closing then
      match depth with
      | 0 => .ok ((), ts)
      | depth + 1 => skipToClosing depth ts
    else skipToClosing depth ts
  | _, [] => refuse .unfinished []

/-- a block in braces with the blocks inside it -/
def skipBlock : Reader Unit := do
  mark opening
  skipToClosing 0

/-- up to the next semicolon, which is taken too -/
def skipStatement : Reader Unit
  | t :: ts => if t.text == ";" then .ok ((), ts) else skipStatement ts
  | [] => refuse .unfinished []

theorem takes_skipToClosing (depth : Nat) : (skipToClosing depth).Takes := by
  intro ts
  fun_induction skipToClosing depth ts with
  | case1 d t ts _ ih => intro a r h; exact Nat.lt_succ_of_lt (ih a r h)
  | case2 t ts => intro a r h; cases h; simp
  | case3 t ts _ _ d ih => intro a r h; exact Nat.lt_succ_of_lt (ih a r h)
  | case4 d t ts _ _ ih => intro a r h; exact Nat.lt_succ_of_lt (ih a r h)
  | case5 => intro a r h; cases h

theorem takes_skipBlock : skipBlock.Takes :=
  (takes_mark _).bind fun _ => (takes_skipToClosing 0).keeps

theorem takes_skipStatement : skipStatement.Takes := by
  intro ts
  fun_induction skipStatement ts with
  | case1 t ts => intro a r h; cases h; simp
  | case2 t ts _ ih => intro a r h; exact Nat.lt_succ_of_lt (ih a r h)
  | case3 => intro a r h; cases h

end Reader

end EnvConfig
