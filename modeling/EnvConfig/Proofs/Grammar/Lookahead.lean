import EnvConfig.Grammar.Reader

/-!
# Readers look one token ahead

A reader stops at a place: it has taken the tokens in front of it, or refuses the token there.  It
has looked at this token and at the next one, and at nothing behind them.

* `Reader.StopsAt`: where a reader stops, and what has no part in it;
* `Reader.Local`: a reader that stops in this way on every list of tokens;
* `Reader.Local.bind`, `Reader.local_foldUntil`, …: readers that are made of such readers;
* `Reader.Progress`: items that are read one after another, each from tokens of its own;
* `Reader.progress_foldAll`, `Reader.stopped_of_foldAll`: what is read up to the end of a list,
  and where a refusal shows.
-/

namespace EnvConfig

namespace Reader

variable {α β σ : Type}

/-- `r` takes the first `n` tokens of `ts`, or refuses the token behind them.  It does the same for
every list that has these tokens and the next two. -/
structure StopsAt (r : Reader α) (ts : List Token) (n : Nat) : Prop where
  le_length : n ≤ ts.length
  refused : ∀ e, r ts = .error e → e.token = ts[n]?
  same : ∀ us : List Token, us.take (n + 2) = ts.take (n + 2) →
    r us = (r ts).map fun p => (p.1, us.drop n)

def LocalAt (r : Reader α) (ts : List Token) : Prop := ∃ n, StopsAt r ts n

/-- wherever `r` stops, it has looked at two tokens more at most -/
def Local (r : Reader α) : Prop := ∀ ts, LocalAt r ts

variable {r r' : Reader α} {k : α → Reader β} {ts us rest : List Token} {t : Token} {a : α}
  {e : Refusal} {n m : Nat}

/-! ### lists that begin alike -/

theorem take_eq_of_le (h : us.take m = ts.take m) (hle : n ≤ m) : us.take n = ts.take n := by
  rw [← Nat.min_eq_left hle, ← List.take_take, h, List.take_take]

theorem take_drop_eq (h : us.take (n + m) = ts.take (n + m)) :
    (us.drop n).take m = (ts.drop n).take m := by
  rw [List.take_drop, List.take_drop, h]

theorem exists_cons_of_take (h : us.take (n + 1) = (t :: ts).take (n + 1)) :
    ∃ us', us = t :: us' ∧ us'.take n = ts.take n := by
  cases us with
  | nil => cases h
  | cons u us =>
    rw [List.take_succ_cons, List.take_succ_cons, List.cons.injEq] at h
    exact ⟨us, by rw [h.1], h.2⟩

theorem headText_eq_of_take (h : us.take (n + 1) = ts.take (n + 1)) :
    headText us = headText ts := by
  cases us with
  | nil =>
    cases ts with
    | nil => rfl
    | cons t ts => cases h
  | cons u us =>
    cases ts with
    | nil => cases h
    | cons t ts =>
      rw [List.take_succ_cons, List.take_succ_cons, List.cons.injEq] at h
      rw [h.1]
      rfl

/-! ### where a reader stops -/

theorem StopsAt.same_ok (hr : StopsAt r ts n) (h : r ts = .ok (a, rest))
    (hus : us.take (n + 2) = ts.take (n + 2)) : r us = .ok (a, us.drop n) := by
  rw [hr.same us hus, h]
  rfl

theorem StopsAt.same_error (hr : StopsAt r ts n) (h : r ts = .error e)
    (hus : us.take (n + 2) = ts.take (n + 2)) : r us = .error e := by
  rw [hr.same us hus, h]
  rfl

/-- what is left behind the place where a reader stops -/
theorem StopsAt.rest_eq (hr : StopsAt r ts n) (h : r ts = .ok (a, rest)) : rest = ts.drop n := by
  have hsame := hr.same_ok h rfl
  rw [h] at hsame
  exact (Prod.mk.inj (Except.ok.inj hsame)).2

theorem StopsAt.of_ok (hle : n ≤ ts.length)
    (h : ∀ us, us.take (n + 2) = ts.take (n + 2) → r us = .ok (a, us.drop n)) :
    StopsAt r ts n := by
  refine ⟨hle, fun e he => ?_, fun us hus => ?_⟩
  · rw [h ts rfl] at he
    cases he
  · rw [h us hus, h ts rfl]
    rfl

theorem StopsAt.of_error (hle : n ≤ ts.length) (htoken : e.token = ts[n]?)
    (h : ∀ us, us.take (n + 2) = ts.take (n + 2) → r us = .error e) : StopsAt r ts n := by
  refine ⟨hle, fun e' he => ?_, fun us hus => ?_⟩
  · rw [h ts rfl] at he
    rw [← Except.error.inj he, htoken]
  · rw [h us hus, h ts rfl]
    rfl

/-- readers that agree on all lists that begin alike stop at the same place -/
theorem StopsAt.congr (h : StopsAt r' ts n)
    (hsame : ∀ us, us.take (n + 2) = ts.take (n + 2) → r us = r' us) : StopsAt r ts n := by
  refine ⟨h.le_length, fun e he => h.refused e ?_, fun us hus => ?_⟩
  · rw [← hsame ts rfl, he]
  · rw [hsame us hus, hsame ts rfl, h.same us hus]

theorem StopsAt.bind (hr : StopsAt r ts n) (h : r ts = .ok (a, rest))
    (hk : StopsAt (k a) rest m) : StopsAt (r >>= k) ts (n + m) := by
  obtain rfl := hr.rest_eq h
  have hbind : ∀ us, us.take (n + m + 2) = ts.take (n + m + 2) →
      (r >>= k) us = k a (us.drop n) := by
    intro us hus
    show (r us).bind (fun p => k p.1 p.2) = _
    rw [hr.same_ok h (take_eq_of_le hus (by omega))]
    rfl
  have hle := hk.le_length
  rw [List.length_drop] at hle
  refine ⟨by have := hr.le_length; omega, fun e he => ?_, fun us hus => ?_⟩
  · rw [hbind ts rfl] at he
    rw [hk.refused e he, List.getElem?_drop]
  · rw [hbind us hus, hbind ts rfl, hk.same _ (take_drop_eq (by rwa [← Nat.add_assoc])),
      List.drop_drop]

theorem StopsAt.bind_error (hr : StopsAt r ts n) (h : r ts = .error e) :
    StopsAt (r >>= k) ts n := by
  refine .of_error hr.le_length (hr.refused e h) fun us hus => ?_
  show (r us).bind (fun p => k p.1 p.2) = _
  rw [hr.same_error h hus]
  rfl

/-! ### readers made of readers -/

theorem LocalAt.bind (hr : LocalAt r ts)
    (hk : ∀ a rest, r ts = .ok (a, rest) → LocalAt (k a) rest) : LocalAt (r >>= k) ts := by
  obtain ⟨n, hr⟩ := hr
  cases h : r ts with
  | error e => exact ⟨n, hr.bind_error h⟩
  | ok p =>
    obtain ⟨m, hm⟩ := hk p.1 p.2 h
    exact ⟨n + m, hr.bind h hm⟩

theorem Local.bind (hr : Local r) (hk : ∀ a, Local (k a)) : Local (r >>= k) :=
  fun ts => (hr ts).bind fun a rest _ => hk a rest

theorem local_pure (a : α) : Local (pure a : Reader α) :=
  fun _ => ⟨0, .of_ok (Nat.zero_le _) fun _ _ => rfl⟩

theorem Local.map (hr : Local r) (f : α → β) : Local (f <$> r) := by
  rw [map_eq_pure_bind]
  exact hr.bind fun _ => local_pure _

theorem Local.ite {c : Prop} [Decidable c] (hr : Local r) (hr' : Local r') :
    Local (if c then r else r') := by
  split
  · exact hr
  · exact hr'

/-- readers that are told apart by what the lists that begin alike have in common -/
theorem LocalAt.branch {c : Prop} [Decidable c] (hr : LocalAt r ts) (hr' : LocalAt r' ts) :
    LocalAt (fun us => if c then r us else r' us) ts := by
  by_cases hc : c
  · simpa only [hc, if_true] using hr
  · simpa only [hc, if_false] using hr'

/-- readers that are told apart by the text behind the first token -/
theorem LocalAt.branch_next (test : String → Bool) (hr : LocalAt r (t :: ts))
    (hr' : LocalAt r' (t :: ts)) :
    LocalAt (fun us => if test (headText us.tail) then r us else r' us) (t :: ts) := by
  have hnext : ∀ n (us : List Token), us.take (n + 2) = (t :: ts).take (n + 2) →
      headText us.tail = headText ts := by
    intro n us hus
    obtain ⟨us, rfl, htail⟩ := exists_cons_of_take hus
    exact headText_eq_of_take htail
  by_cases htest : test (headText ts) = true
  · obtain ⟨n, hr⟩ := hr
    exact ⟨n, hr.congr fun us hus => if_pos (by rw [hnext n us hus, htest])⟩
  · obtain ⟨n, hr'⟩ := hr'
    exact ⟨n, hr'.congr fun us hus => if_neg (by rw [hnext n us hus]; exact htest)⟩

/-! ### readers that look at their first token -/

/-- a reader that takes the token `t` and goes on as another one -/
theorem StopsAt.cons (h : StopsAt r' ts n) (hstep : ∀ us, r (t :: us) = r' us) :
    StopsAt r (t :: ts) (n + 1) := by
  refine ⟨Nat.succ_le_succ h.le_length, fun e he => h.refused e ?_, fun us hus => ?_⟩
  · rw [← hstep, he]
  · obtain ⟨us, rfl, htail⟩ := exists_cons_of_take hus
    rw [hstep, hstep, h.same us htail]
    rfl

theorem Local.tail (h : Local r) (t : Token) (ts : List Token) :
    LocalAt (fun us => r us.tail) (t :: ts) := by
  obtain ⟨n, h⟩ := h ts
  exact ⟨n + 1, h.cons fun _ => rfl⟩

/-- a reader that is given its first token again -/
theorem Local.given (h : Local r) (t : Token) (ts : List Token) :
    LocalAt (fun us => r (t :: us.tail)) (t :: ts) := by
  obtain ⟨n, h⟩ := h (t :: ts)
  refine ⟨n, h.congr fun us hus => ?_⟩
  obtain ⟨us, rfl, -⟩ := exists_cons_of_take hus
  rfl

theorem localAt_refuse (fault : Fault) (t : Token) (ts : List Token) :
    LocalAt (fun us => refuse fault (t :: us.tail) : Reader α) (t :: ts) :=
  ⟨0, .of_error (e := ⟨fault, some t⟩) (Nat.zero_le _) rfl fun _ _ => rfl⟩

/-- nothing but an empty list begins like an empty list -/
theorem localAt_nil_of_error (h : r [] = .error e) (htoken : e.token = none) : LocalAt r [] := by
  refine ⟨0, .of_error (Nat.le_refl _) htoken fun us hus => ?_⟩
  obtain rfl : us = [] := by simpa using hus
  exact h

theorem localAt_nil_of_ok (h : r [] = .ok (a, [])) : LocalAt r [] := by
  refine ⟨0, .of_ok (a := a) (Nat.le_refl _) fun us hus => ?_⟩
  obtain rfl : us = [] := by simpa using hus
  exact h

theorem LocalAt.of_cons (h : LocalAt r' (t :: ts)) (hstep : ∀ us, r (t :: us) = r' (t :: us)) :
    LocalAt r (t :: ts) := by
  obtain ⟨n, h⟩ := h
  refine ⟨n, h.congr fun us hus => ?_⟩
  obtain ⟨us, rfl, -⟩ := exists_cons_of_take hus
  exact hstep us

theorem local_of_cons (hnil : LocalAt r [])
    (hcons : ∀ t ts, LocalAt (fun us => r (t :: us.tail)) (t :: ts)) : Local r := by
  intro ts
  cases ts with
  | nil => exact hnil
  | cons t ts => exact (hcons t ts).of_cons fun _ => rfl

theorem local_token (test : String → Bool) (what : Expectation) : Local (token test what) := by
  refine local_of_cons (localAt_nil_of_error rfl rfl) fun t ts => ?_
  simp only [token]
  exact .branch ((local_pure t).tail t ts) (localAt_refuse _ t ts)

theorem local_mark (text : String) : Local (mark text) :=
  (local_token _ _).bind fun _ => local_pure _

/-- a token that is taken if its text passes a test -/
theorem local_ite_token (test : String → Bool) (taken : Token → α) (left : α) (t : Token)
    (ts : List Token) : LocalAt (fun us =>
      .ok (if test t.text then (taken t, us.tail) else (left, t :: us.tail)) : Reader α)
      (t :: ts) := by
  by_cases htest : test t.text = true
  · simp only [htest, if_true]
    exact (local_pure (taken t)).tail t ts
  · simp only [htest]
    exact (local_pure left).given t ts

theorem local_skips (text : String) : Local (skips text) :=
  local_of_cons (localAt_nil_of_ok rfl) (local_ite_token (· == text) (fun _ => true) false)

theorem local_peek : Local peek := fun _ =>
  ⟨0, .of_ok (Nat.zero_le _) fun us hus => by rw [peek, headText_eq_of_take hus]; rfl⟩

/-! ### skipping -/

theorem local_skipToClosing (depth : Nat) : Local (skipToClosing depth) := by
  intro ts
  fun_induction skipToClosing depth ts with
  | case1 depth t ts hopening ih =>
    obtain ⟨n, ih⟩ := ih
    exact ⟨n + 1, ih.cons fun _ => if_pos hopening⟩
  | case2 t ts hopening hclosing =>
    obtain ⟨n, hpure⟩ := local_pure () ts
    exact ⟨n + 1, hpure.cons fun _ => (if_neg hopening).trans (if_pos hclosing)⟩
  | case3 t ts hopening hclosing depth ih =>
    obtain ⟨n, ih⟩ := ih
    exact ⟨n + 1, ih.cons fun _ => (if_neg hopening).trans (if_pos hclosing)⟩
  | case4 depth t ts hopening hclosing ih =>
    obtain ⟨n, ih⟩ := ih
    refine ⟨n + 1, ih.cons fun us => ?_⟩
    rw [skipToClosing.eq_def]
    exact (if_neg hopening).trans (if_neg hclosing)
  | case5 depth => exact localAt_nil_of_error rfl rfl

theorem local_skipBlock : Local skipBlock :=
  (local_mark _).bind fun _ => local_skipToClosing 0

theorem local_skipStatement : Local skipStatement := by
  intro ts
  fun_induction skipStatement ts with
  | case1 t ts hend =>
    obtain ⟨n, hpure⟩ := local_pure () ts
    exact ⟨n + 1, hpure.cons fun _ => if_pos hend⟩
  | case2 t ts hend ih =>
    obtain ⟨n, ih⟩ := ih
    exact ⟨n + 1, ih.cons fun _ => if_neg hend⟩
  | case3 => exact localAt_nil_of_error rfl rfl

/-! ### item by item -/

/-- `item` reads from the state `s` and the tokens `ts` to the state `s'` and the tokens `rest`, one
item after another.  Each item takes tokens of its own, and none that is empty. -/
inductive Progress (item : σ → Reader σ) : σ → List Token → σ → List Token → Prop
  | stop (s : σ) (ts : List Token) : Progress item s ts s ts
  | step {s s' s'' : σ} {piece rest rest' : List Token}
      (hread : item s (piece ++ rest) = .ok (s', rest)) (hne : piece ≠ [])
      (htexts : ∀ t ∈ piece, t.text ≠ "") (h : Progress item s' rest s'' rest') :
      Progress item s (piece ++ rest) s'' rest'

section

variable {item : σ → Reader σ} {takes : ∀ s, (item s).Takes} {s s' : σ} {close : String}

/-- the induction is on the items that are read: the places where they stop add up -/
theorem local_foldUntil (hitem : ∀ s, Local (item s)) (s : σ) :
    Local (foldUntil close item takes s) := by
  intro ts
  fun_induction foldUntil close item takes s ts with
  | case1 s t ts hclose =>
    obtain ⟨n, hpure⟩ := local_pure s ts
    exact ⟨n + 1, hpure.cons fun us => (foldUntil_cons ..).trans (if_pos hclose)⟩
  | case2 s t ts hclose s' rest hread ih =>
    have hmore : LocalAt (item s >>= foldUntil close item takes) (t :: ts) := by
      refine (hitem s _).bind fun a rest' h => ?_
      rw [hread] at h
      cases h
      exact ih
    exact hmore.of_cons fun us => (foldUntil_cons ..).trans (if_neg hclose)
  | case3 s t ts hclose e hread =>
    have hmore : LocalAt (item s >>= foldUntil close item takes) (t :: ts) := by
      refine (hitem s _).bind fun a rest h => ?_
      rw [hread] at h
      cases h
    exact hmore.of_cons fun us => (foldUntil_cons ..).trans (if_neg hclose)
  | case4 s =>
    obtain ⟨n, h⟩ := hitem s []
    refine ⟨n, h.congr fun us hus => ?_⟩
    obtain rfl : us = [] := by simpa using hus
    rw [foldUntil]

variable (takes) in
/-- what is read up to the end of a list, or up to an item that is refused -/
theorem progress_foldAll (hitem : ∀ s, Local (item s)) (s : σ)
    (htexts : ∀ t ∈ ts, t.text ≠ "") :
    ∃ s' rest, Progress item s ts s' rest ∧
      ((rest = [] ∧ foldAll item takes s ts = .ok s') ∨
        ∃ e, item s' rest = .error e ∧ foldAll item takes s ts = .error e) := by
  fun_induction foldAll item takes s ts with
  | case1 s => exact ⟨s, [], .stop s [], .inl ⟨rfl, rfl⟩⟩
  | case2 s t ts s' rest hread ih =>
    obtain ⟨n, hstop⟩ := hitem s (t :: ts)
    obtain rfl := hstop.rest_eq hread
    obtain ⟨s'', rest, hmore, hend⟩ := ih fun u hu => htexts u (List.mem_of_mem_drop hu)
    refine ⟨s'', rest, ?_, hend⟩
    have hsplit : (t :: ts).take n ++ (t :: ts).drop n = t :: ts := List.take_append_drop ..
    have hne : (t :: ts).take n ≠ [] := by
      intro hnil
      rw [hnil, List.nil_append] at hsplit
      exact absurd (takes s _ _ _ hread) (by rw [hsplit]; exact Nat.lt_irrefl _)
    have hstep := Progress.step (by rw [hsplit]; exact hread) hne
      (fun u hu => htexts u (List.mem_of_mem_take hu)) hmore
    rwa [hsplit] at hstep
  | case3 s t ts e hread => exact ⟨s, t :: ts, .stop s _, .inr ⟨e, hread, rfl⟩⟩

/-- where a refusal shows, and what has no part in it -/
theorem stopped_of_foldAll (hitem : ∀ s, Local (item s))
    (h : foldAll item takes s ts = .error e) :
    ∃ n ≤ ts.length, e.token = ts[n]? ∧
      ∀ us : List Token, us.take (n + 2) = ts.take (n + 2) →
        foldAll item takes s us = .error e := by
  fun_induction foldAll item takes s ts with
  | case1 s => cases h
  | case2 s t ts s' rest hread ih =>
    obtain ⟨n, hstop⟩ := hitem s (t :: ts)
    obtain rfl := hstop.rest_eq hread
    obtain ⟨m, hle, htoken, hsame⟩ := ih h
    have hlength := hstop.le_length
    rw [List.length_drop] at hle
    refine ⟨n + m, by omega, by rw [htoken, List.getElem?_drop], fun us hus => ?_⟩
    obtain ⟨us, rfl, -⟩ := exists_cons_of_take hus
    rw [foldAll_cons, hstop.same_ok hread (take_eq_of_le hus (by omega))]
    exact hsame _ (take_drop_eq (by rwa [← Nat.add_assoc]))
  | case3 s t ts e' hread =>
    obtain rfl := Except.error.inj h
    obtain ⟨n, hstop⟩ := hitem s (t :: ts)
    refine ⟨n, hstop.le_length, hstop.refused _ hread, fun us hus => ?_⟩
    obtain ⟨us, rfl, -⟩ := exists_cons_of_take hus
    rw [foldAll_cons, hstop.same_error hread hus]
    rfl

end

end Reader

end EnvConfig
