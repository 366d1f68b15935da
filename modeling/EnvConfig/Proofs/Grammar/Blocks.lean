import EnvConfig.Proofs.Grammar.Anywhere
import EnvConfig.Proofs.Grammar.Refused

/-!
# Blocks that are passed over

A block in braces is passed over up to the brace that closes it.  This is the first place where as
many braces have been closed as opened, however deep the blocks inside are nested and whatever else
stands in between.

* `Reader.excess`: the opened braces less the closed ones;
* `Reader.ReturnsAt`: the first place where the excess is zero again;
* `Reader.skipToClosing_step`, `Reader.skipToClosing_cases`: the walk to the closing brace;
* `Reader.BlockTo`, `Reader.skipBlock_cases`: blocks in front of a list of tokens;
* `Tokens.ClosesAt`, `Tokens.skipBlock_exact`: which blocks of a text are passed over, up to where,
  and where it shows that there is none;
* `Grammar.foldAll_block`, `Grammar.member_block`, `Grammar.optionValue_block`: nothing inside a
  block gets into a file, and what follows the block is read as it stands.
-/

namespace EnvConfig

namespace Reader

variable {t : Token} {ts : List Token} {e : Int} {n m : Nat}

/-! ### opened and closed braces -/

/-- how many more braces are opened than closed -/
def excess (ts : List Token) : Int :=
  (ts.countP (·.text == opening) : Int) - ts.countP (·.text == closing)

theorem excess_nil : excess [] = 0 := rfl

theorem excess_append (ts us : List Token) : excess (ts ++ us) = excess ts + excess us := by
  simp only [excess, List.countP_append]
  omega

theorem excess_cons (t : Token) (ts : List Token) : excess (t :: ts) = excess [t] + excess ts :=
  excess_append [t] ts

/-- what is open behind a token and `n` more: what the token leaves open, and what the others add -/
theorem excess_take_succ (e : Int) (t : Token) (ts : List Token) (n : Nat) :
    e + excess ((t :: ts).take (n + 1)) = e + excess [t] + excess (ts.take n) := by
  rw [List.take_succ_cons, excess_cons, Int.add_assoc]

theorem excess_opening (h : t.text = opening) : excess [t] = 1 := by
  simp [excess, h, opening, closing]

theorem excess_closing (h : t.text = closing) : excess [t] = -1 := by
  simp [excess, h, opening, closing]

theorem excess_eq_zero (h : ∀ t ∈ ts, t.text ≠ opening ∧ t.text ≠ closing) : excess ts = 0 := by
  have hopening : ts.countP (·.text == opening) = 0 :=
    List.countP_eq_zero.mpr fun t ht => by simpa using (h t ht).1
  have hclosing : ts.countP (·.text == closing) = 0 :=
    List.countP_eq_zero.mpr fun t ht => by simpa using (h t ht).2
  rw [excess, hopening, hclosing]
  rfl

/-- `e` braces are open in front of `ts`, and behind the token at the place `n` none is; this is the
first such token -/
structure ReturnsAt (e : Int) (ts : List Token) (n : Nat) : Prop where
  zero : e + excess (ts.take (n + 1)) = 0
  first : ∀ k < n, e + excess (ts.take (k + 1)) ≠ 0

theorem ReturnsAt.of_head (h : e + excess [t] = 0) : ReturnsAt e (t :: ts) 0 := by
  refine ⟨?_, fun k hk => absurd hk (Nat.not_lt_zero k)⟩
  rwa [Nat.zero_add, List.take_succ_cons, List.take_zero]

theorem ReturnsAt.cons (hne : e + excess [t] ≠ 0) (h : ReturnsAt (e + excess [t]) ts n) :
    ReturnsAt e (t :: ts) (n + 1) := by
  refine ⟨?_, fun k hk => ?_⟩
  · rw [excess_take_succ]
    exact h.zero
  · cases k with
    | zero => rwa [Nat.zero_add, List.take_succ_cons, List.take_zero]
    | succ k =>
      rw [excess_take_succ]
      exact h.first k (Nat.lt_of_succ_lt_succ hk)

theorem ReturnsAt.eq (hn : ReturnsAt e ts n) (hm : ReturnsAt e ts m) : n = m := by
  obtain hlt | heq | hlt := Nat.lt_trichotomy n m
  · exact absurd hn.zero (hm.first n hlt)
  · exact heq
  · exact absurd hm.zero (hn.first m hlt)

/-! ### the walk to the closing brace -/

/-- where `inner` blocks are open inside the one that is passed over, a token closes this one, or
the walk goes on with as many blocks open as the token leaves -/
theorem skipToClosing_step (inner : Nat) (t : Token) (ts : List Token) :
    (inner + 1 + excess [t] = 0 ∧ t.text = closing ∧
      skipToClosing inner (t :: ts) = .ok ((), ts)) ∨
    ∃ inner' : Nat, (inner' : Int) + 1 = inner + 1 + excess [t] ∧
      skipToClosing inner (t :: ts) = skipToClosing inner' ts := by
  rw [skipToClosing_cons]
  by_cases hopening : t.text = opening
  · refine .inr ⟨inner + 1, ?_, if_pos (beq_iff_eq.mpr hopening)⟩
    rw [excess_opening hopening]
    omega
  · rw [if_neg (by simpa using hopening)]
    by_cases hclosing : t.text = closing
    · rw [if_pos (beq_iff_eq.mpr hclosing), excess_closing hclosing]
      cases inner with
      | zero => exact .inl ⟨rfl, hclosing, rfl⟩
      | succ inner => exact .inr ⟨inner, by omega, rfl⟩
    · refine .inr ⟨inner, ?_, if_neg (by simpa using hclosing)⟩
      rw [excess_eq_zero (by simpa using And.intro hopening hclosing)]
      omega

/-- The walk ends behind the first brace that leaves no block open, or else at the end of the text.
The induction is on the tokens, and the step says how many blocks the rest of the walk starts
with. -/
theorem skipToClosing_cases (inner : Nat) (ts : List Token) :
    (∃ n t, ts[n]? = some t ∧ t.text = closing ∧ ReturnsAt (inner + 1) ts n ∧
      skipToClosing inner ts = .ok ((), ts.drop (n + 1))) ∨
    (∀ n, inner + 1 + excess (ts.take n) ≠ 0) ∧
      skipToClosing inner ts = .error ⟨.unfinished, none⟩ := by
  induction ts generalizing inner with
  | nil =>
    refine .inr ⟨fun n => ?_, rfl⟩
    rw [List.take_nil, excess_nil]
    omega
  | cons t ts ih =>
    obtain ⟨hzero, hclosing, hread⟩ | ⟨inner', hinner, hread⟩ := skipToClosing_step inner t ts
    · exact .inl ⟨0, t, rfl, hclosing, .of_head hzero, hread⟩
    · -- one block at least is open behind `t`, so the place looked for is not that of `t`
      rw [hread]
      obtain ⟨n, u, hu, hclosing, hreturns, hread⟩ | ⟨hopen, hread⟩ := ih inner'
      · rw [hinner] at hreturns
        exact .inl ⟨n + 1, u, hu, hclosing, hreturns.cons (by omega), hread⟩
      · refine .inr ⟨fun n => ?_, hread⟩
        cases n with
        | zero =>
          rw [List.take_zero, excess_nil]
          omega
        | succ n =>
          rw [excess_take_succ, ← hinner]
          exact hopen n

/-! ### blocks -/

theorem skipBlock_refused (h : headText ts ≠ opening) :
    skipBlock ts = .error ⟨.expected (.mark opening) (headText ts), ts.head?⟩ := by
  cases ts with
  | nil => rfl
  | cons t ts =>
    have htoken : token (· == opening) (.mark opening) (t :: ts) =
        refuse (.expected (.mark opening) t.text) (t :: ts) :=
      if_neg fun htext => h (beq_iff_eq.mp htext)
    simp only [skipBlock, mark, bind, StateT.bind, Except.bind, htoken]
    rfl

theorem skipBlock_opening (h : t.text = opening) (ts : List Token) :
    skipBlock (t :: ts) = skipToClosing 0 ts := by
  have htoken : token (· == opening) (.mark opening) (t :: ts) = .ok (t, ts) :=
    if_pos (beq_iff_eq.mpr h)
  have hmark : mark opening (t :: ts) = .ok ((), ts) := bind_of_ok htoken
  exact bind_of_ok hmark

/-- a block begins in front of `ts`, and the token at the place `n` is the one that closes it -/
structure BlockTo (ts : List Token) (n : Nat) : Prop where
  opens : headText ts = opening
  returns : ReturnsAt 0 ts n

/-- an opened block is passed over up to the brace that closes it, or it is open at the end of the
text -/
theorem skipBlock_cases (h : headText ts = opening) :
    (∃ n t, 0 < n ∧ ts[n]? = some t ∧ t.text = closing ∧ BlockTo ts n ∧
      skipBlock ts = .ok ((), ts.drop (n + 1))) ∨
    (∀ n, ¬ BlockTo ts n) ∧ skipBlock ts = .error ⟨.unfinished, none⟩ := by
  cases ts with
  | nil => exact absurd h (by decide)
  | cons t ts =>
    have hone : (0 : Int) + excess [t] = 1 := by rw [excess_opening h]; rfl
    rw [skipBlock_opening h]
    obtain ⟨n, u, hu, hclosing, hreturns, hread⟩ | ⟨hopen, hread⟩ := skipToClosing_cases 0 ts
    · refine .inl ⟨n + 1, u, Nat.succ_pos n, hu, hclosing, ⟨h, .cons ?_ ?_⟩, hread⟩
      · omega
      · rw [hone]
        exact hreturns
    · refine .inr ⟨fun n hblock => ?_, hread⟩
      have hzero := hblock.returns.zero
      rw [excess_take_succ, hone] at hzero
      exact hopen n hzero

theorem BlockTo.passedOver (h : BlockTo ts n) : skipBlock ts = .ok ((), ts.drop (n + 1)) := by
  obtain ⟨m, t, -, -, -, hm, hread⟩ | ⟨hnot, -⟩ := skipBlock_cases h.opens
  · rw [h.returns.eq hm.returns, hread]
  · exact absurd h (hnot n)

end Reader

/-! ### blocks of a text -/

open Reader

namespace Tokens

variable {ts : Tokens} {i j n : Nat}

/-- the token at the place `i`; the end of the text stands at all places behind it too -/
def tokenAt (ts : Tokens) (i : Nat) : Token := (ts.all[i]?).getD ⟨"", ts.finish⟩

/-- The block that is opened by the token at the place `i` is closed by the token at the place `j`:
from the one through the other as many braces are opened as closed, and for the first time. -/
structure ClosesAt (ts : Tokens) (i j : Nat) : Prop where
  opens : (ts.tokenAt i).text = opening
  le : i ≤ j
  zero : excess (ts.all.extract i (j + 1)) = 0
  first : ∀ k, i ≤ k → k < j → excess (ts.all.extract i (k + 1)) ≠ 0

theorem tokenAt_eq (ts : Tokens) (i : Nat) :
    ts.tokenAt i = (ts.list[i]?).getD ⟨"", ts.finish⟩ := by
  obtain hlt | hle := Nat.lt_or_ge ts.list.length i
  · rw [tokenAt, List.getElem?_eq_none (by simpa [all] using Nat.succ_le_of_lt hlt),
      List.getElem?_eq_none (Nat.le_of_lt hlt)]
  · rw [tokenAt, getElem?_all hle]
    rfl

theorem headText_drop (ts : Tokens) (i : Nat) :
    headText (ts.list.drop i) = (ts.tokenAt i).text := by
  rw [tokenAt_eq, ← List.head?_drop]
  cases ts.list.drop i with
  | nil => rfl
  | cons t rest => rfl

/-- the end of the text is no brace -/
theorem excess_through (ts : Tokens) (i n : Nat) :
    excess (ts.all.extract i (i + n + 1)) = excess ((ts.list.drop i).take (n + 1)) := by
  have hend : ∀ a b, excess ((List.drop a [⟨"", ts.finish⟩]).take b) = 0 := by
    intro a b
    refine excess_eq_zero fun t ht => ?_
    obtain rfl := List.mem_singleton.mp (List.mem_of_mem_drop (List.mem_of_mem_take ht))
    exact ⟨by simp [opening], by simp [closing]⟩
  have hlength : i + n + 1 - i = n + 1 := by omega
  rw [List.extract_eq_take_drop, hlength, all, List.drop_append, List.take_append, excess_append,
    hend, Int.add_zero]

theorem closesAt_iff : ts.ClosesAt i (i + n) ↔ BlockTo (ts.list.drop i) n := by
  constructor
  · intro h
    refine ⟨(headText_drop ts i).trans h.opens, ?_, fun k hk => ?_⟩
    · rw [Int.zero_add, ← excess_through]
      exact h.zero
    · rw [Int.zero_add, ← excess_through]
      exact h.first (i + k) (Nat.le_add_right ..) (Nat.add_lt_add_left hk i)
  · rintro ⟨hopens, h⟩
    refine ⟨(headText_drop ts i).symm.trans hopens, Nat.le_add_right .., ?_, fun k hle hlt => ?_⟩
    · rw [excess_through, ← Int.zero_add (excess _)]
      exact h.zero
    · obtain ⟨k, rfl⟩ := Nat.exists_eq_add_of_le hle
      rw [excess_through, ← Int.zero_add (excess _)]
      exact h.first k (Nat.lt_of_add_lt_add_left hlt)

theorem ClosesAt.exists_blockTo (h : ts.ClosesAt i j) :
    ∃ n, j = i + n ∧ BlockTo (ts.list.drop i) n := by
  obtain ⟨n, rfl⟩ := Nat.exists_eq_add_of_le h.le
  exact ⟨n, rfl, closesAt_iff.mp h⟩

theorem ClosesAt.passedOver (h : ts.ClosesAt i j) :
    i < j ∧ (ts.tokenAt j).text = closing ∧
      skipBlock (ts.list.drop i) = .ok ((), ts.list.drop (j + 1)) := by
  obtain ⟨n, rfl, hblock⟩ := h.exists_blockTo
  obtain ⟨m, t, hpos, ht, hclosing, hm, hread⟩ | ⟨hnot, -⟩ := skipBlock_cases hblock.opens
  · obtain rfl := hblock.returns.eq hm.returns
    rw [List.getElem?_drop] at ht
    refine ⟨Nat.lt_add_of_pos_right hpos, ?_, ?_⟩
    · rw [tokenAt_eq, ht]
      exact hclosing
    · rw [hread, List.drop_drop, Nat.add_assoc]
  · exact absurd hblock (hnot n)

theorem skipBlock_elsewhere (h : (ts.tokenAt i).text ≠ opening) :
    skipBlock (ts.list.drop i) =
      .error ⟨.expected (.mark opening) (ts.tokenAt i).text, ts.list[i]?⟩ := by
  rw [← headText_drop] at h ⊢
  rw [skipBlock_refused h, List.head?_drop]

theorem skipBlock_unclosed (hopens : (ts.tokenAt i).text = opening)
    (hnot : ∀ j, ¬ ts.ClosesAt i j) :
    skipBlock (ts.list.drop i) = .error ⟨.unfinished, none⟩ := by
  obtain ⟨n, -, -, -, -, hblock, -⟩ | ⟨-, hread⟩ :=
    skipBlock_cases ((headText_drop ts i).trans hopens)
  · exact absurd (closesAt_iff.mpr hblock) (hnot (i + n))
  · exact hread

theorem located_tokenAt (fault : Fault) (ts : Tokens) (i : Nat) :
    (⟨fault, ts.list[i]?⟩ : Refusal).located ts.finish = ⟨fault, (ts.tokenAt i).position⟩ := by
  rw [tokenAt_eq, Refusal.located]
  cases ts.list[i]? with
  | none => rfl
  | some t => rfl

theorem Proper.eq_of_mem_all {t : Token} (hts : ts.Proper) (ht : t ∈ ts.all) (h : t.text = "") :
    t = ⟨"", ts.finish⟩ := by
  obtain hlist | hend := List.mem_append.mp ht
  · exact absurd h (hts t hlist)
  · exact List.mem_singleton.mp hend

/-- A block is passed over as a whole, and nothing behind it.  There is one if and only if a brace
stands at the place `i` and another one closes it, and reading goes on behind this one.  Where no
brace stands, the token that does is refused.  Where none closes the block, the empty token at the
end of the text is. -/
theorem skipBlock_exact (hts : ts.Proper) (i : Nat) :
    ((∃ rest, skipBlock (ts.list.drop i) = .ok ((), rest)) ↔ ∃ j, ts.ClosesAt i j) ∧
    (∀ j, ts.ClosesAt i j → i < j ∧ (ts.tokenAt j).text = closing ∧
      skipBlock (ts.list.drop i) = .ok ((), ts.list.drop (j + 1))) ∧
    ((ts.tokenAt i).text ≠ opening → ∃ r, skipBlock (ts.list.drop i) = .error r ∧
      r.located ts.finish =
        ⟨.expected (.mark opening) (ts.tokenAt i).text, (ts.tokenAt i).position⟩) ∧
    ((ts.tokenAt i).text = opening → (∀ j, ¬ ts.ClosesAt i j) →
      ∃ r, skipBlock (ts.list.drop i) = .error r ∧
        ∀ t ∈ ts.all, t.text = "" → r.located ts.finish = ⟨.unfinished, t.position⟩) := by
  refine ⟨⟨?_, ?_⟩, fun j hj => hj.passedOver, fun hopens => ?_, fun hopens hnot => ?_⟩
  · rintro ⟨rest, hread⟩
    by_cases hopens : (ts.tokenAt i).text = opening
    · by_contra hnot
      rw [skipBlock_unclosed hopens (not_exists.mp hnot)] at hread
      cases hread
    · rw [skipBlock_elsewhere hopens] at hread
      cases hread
  · rintro ⟨j, hj⟩
    exact ⟨_, hj.passedOver.2.2⟩
  · exact ⟨_, skipBlock_elsewhere hopens, located_tokenAt ..⟩
  · refine ⟨_, skipBlock_unclosed hopens hnot, fun t ht htext => ?_⟩
    rw [hts.eq_of_mem_all ht htext]
    rfl

/-- blocks inside a block, a word where a block should be, a block that stays open, and a place
behind the end of the text -/
theorem skipBlock_exact_services :
    let ts : Tokens := ⟨[⟨"service", ⟨1, 1⟩⟩, ⟨"S", ⟨1, 9⟩⟩, ⟨"\x7b", ⟨1, 11⟩⟩, ⟨"rpc", ⟨1, 13⟩⟩,
      ⟨"\x7b", ⟨1, 17⟩⟩, ⟨"\x7b", ⟨1, 19⟩⟩, ⟨"\x7d", ⟨1, 21⟩⟩, ⟨"\x7d", ⟨1, 23⟩⟩, ⟨"\x7d", ⟨1, 25⟩⟩,
      ⟨"extend", ⟨2, 1⟩⟩, ⟨"S", ⟨2, 8⟩⟩, ⟨"\x7b", ⟨2, 10⟩⟩, ⟨"rpc", ⟨2, 12⟩⟩, ⟨"\x7b", ⟨2, 16⟩⟩,
      ⟨"\x7d", ⟨2, 18⟩⟩], ⟨2, 19⟩⟩
    scan "service S \x7b rpc \x7b \x7b \x7d \x7d \x7d\nextend S \x7b rpc \x7b \x7d" = .ok ts ∧
    ts.Proper ∧
    (ts.ClosesAt 2 8 ∧ skipBlock (ts.list.drop 2) = .ok ((), ts.list.drop 9)) ∧
    ((ts.tokenAt 9).text ≠ opening ∧ ∃ r, skipBlock (ts.list.drop 9) = .error r ∧
      r.located ts.finish = ⟨.expected (.mark opening) "extend", ⟨2, 1⟩⟩) ∧
    ((ts.tokenAt 11).text = opening ∧ (∀ j, ¬ ts.ClosesAt 11 j) ∧
      ∃ r, skipBlock (ts.list.drop 11) = .error r ∧
        ∀ t ∈ ts.all, t.text = "" → r.located ts.finish = ⟨.unfinished, t.position⟩) ∧
    (ts.tokenAt 20).text ≠ opening ∧ ∃ r, skipBlock (ts.list.drop 20) = .error r ∧
      r.located ts.finish = ⟨.expected (.mark opening) "", ⟨2, 19⟩⟩ := by
  intro ts
  have hscan : scan
      "service S \x7b rpc \x7b \x7b \x7d \x7d \x7d\nextend S \x7b rpc \x7b \x7d" = .ok ts := by
    decide +kernel
  have hts := proper_of_scan hscan
  have hcloses : ts.ClosesAt 2 (2 + 6) :=
    closesAt_iff.mpr ⟨by decide +kernel, by decide +kernel, by decide +kernel⟩
  have hopen : ∀ j, ¬ ts.ClosesAt 11 j := by
    -- there are endlessly many places `j`, but a block that is closed at one of them would be read
    intro j hj
    have hread : skipBlock (ts.list.drop 11) = .error ⟨.unfinished, none⟩ := by decide +kernel
    rw [hj.passedOver.2.2] at hread
    cases hread
  have hword : (ts.tokenAt 9).text ≠ opening := by decide +kernel
  have hbrace : (ts.tokenAt 11).text = opening := by decide +kernel
  have hend : (ts.tokenAt 20).text ≠ opening := by decide +kernel
  exact ⟨hscan, hts, ⟨hcloses, ((skipBlock_exact hts 2).2.1 8 hcloses).2.2⟩,
    ⟨hword, (skipBlock_exact hts 9).2.2.1 hword⟩,
    ⟨hbrace, hopen, (skipBlock_exact hts 11).2.2.2 hbrace hopen⟩,
    hend, (skipBlock_exact hts 20).2.2.1 hend⟩

end Tokens

/-! ### where blocks stand -/

namespace Grammar

variable {t name : Token} {ts : List Token} {n : Nat}

theorem passedOver_block {α : Type} (a : α) (what : Expectation)
    (hname : Text.isTypeName name.text.toList = true) (hblock : BlockTo ts n) :
    ((fun _ => a) <$> passedOver what) (name :: ts) = .ok (a, ts.drop (n + 1)) := by
  have hread : typeName what (name :: ts) = .ok (name, ts) := if_pos hname
  rw [map_eq_pure_bind]
  exact bind_of_ok ((bind_of_ok hread).trans hblock.passedOver)

/-- a service declares nothing, and neither does an extension of a message -/
theorem declaration_block (f : File) (hkeyword : t.text = "service" ∨ t.text = "extend")
    (hname : Text.isTypeName name.text.toList = true) (hblock : BlockTo ts n) :
    declaration f (t :: name :: ts) = .ok (f, ts.drop (n + 1)) := by
  rcases hkeyword with h | h
  · simpa [declaration, h] using passedOver_block f .identifier hname hblock
  · simpa [declaration, h] using passedOver_block f .identifier hname hblock

/-- a file declares what it would declare without the service or the extension -/
theorem foldAll_block (f : File) (hkeyword : t.text = "service" ∨ t.text = "extend")
    (hname : Text.isTypeName name.text.toList = true) (hblock : BlockTo ts n) :
    foldAll declaration takes_declaration f (t :: name :: ts) =
      foldAll declaration takes_declaration f (ts.drop (n + 1)) := by
  rw [foldAll_cons, declaration_block f hkeyword hname hblock]
  rfl

/-- an extension inside a message adds nothing to it -/
theorem member_block (m : Message) (hkeyword : t.text = "extend")
    (hname : Text.isTypeName name.text.toList = true) (hblock : BlockTo ts n) :
    member m (t :: name :: ts) = .ok (m, ts.drop (n + 1)) := by
  simpa [member, hkeyword] using passedOver_block m .typeName hname hblock

/-- a block is a value of an option, and stands for nothing -/
theorem optionValue_block (hblock : BlockTo ts n) :
    optionValue ts = .ok ("", ts.drop (n + 1)) := by
  have hpeek : peek ts = .ok (opening, ts) := by rw [peek, hblock.opens]
  rw [optionValue, bind_of_ok hpeek, if_pos (beq_self_eq_true opening)]
  exact bind_of_ok hblock.passedOver

end Grammar

end EnvConfig
