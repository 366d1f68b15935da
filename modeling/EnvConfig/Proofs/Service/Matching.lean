import EnvConfig.Proofs.Population.Step
import EnvConfig.Service.Loading
import Mathlib.Data.List.Forall2

/-!
# Services and the values that match them

* `Service.Matches`: a value holds in every field what the service holds; an unset field counts as
  zero, and an unset wrapper or nested message as none;
* `RespectsZero.getD_keptOr`: the rule for a field without a readable variable is the same for a
  service as for a value;
* `Value.HoldsAll.set`: setting one field keeps what holds of the others.
-/

namespace EnvConfig

open Number

/-! ### doubles -/

/-- equal as numbers, or both no numbers -/
def Number.Double.Agrees (x y : Double) : Prop :=
  x.same y = true ∨ x.isNaN = true ∧ y.isNaN = true

namespace Number.Double

theorem isZero_of_isNaN {x : Double} (h : x.isNaN = true) : x.isZero = false := by
  unfold isNaN Reading.isNaN at h
  unfold isZero Reading.isZero
  split at h
  · rename_i hread
    rw [hread]
  · cases h

theorem isNaN_of_isZero {x : Double} (h : x.isZero = true) : x.isNaN = false := by
  by_contra hnan
  rw [isZero_of_isNaN (by simpa using hnan)] at h
  cases h

theorem Agrees.refl (x : Double) : x.Agrees x := by
  cases h : x.isNaN with
  | true => exact .inr ⟨h, h⟩
  | false => exact .inl (by simp [same, h])

theorem Agrees.isZero_eq {x y : Double} (h : x.Agrees y) : x.isZero = y.isZero := by
  rcases h with h | ⟨hx, hy⟩
  · simp only [same, Bool.and_eq_true, Bool.or_eq_true, beq_iff_eq] at h
    rcases h.2 with rfl | ⟨hx, hy⟩
    · rfl
    · rw [hx, hy]
  · rw [isZero_of_isNaN hx, isZero_of_isNaN hy]

theorem agrees_of_isZero {x y : Double} (hx : x.isZero = true) (hy : y.isZero = true) :
    x.Agrees y :=
  .inl (by simp [same, isNaN_of_isZero hx, isNaN_of_isZero hy, hx, hy])

end Number.Double

/-! ### values with a zero -/

/-- Values stand by `R` for data with a zero.  A value is zero if what it stands for is, and `zero`
stands for everything that is zero. -/
structure RespectsZero {α : Type} (isZero : α → Bool) (R : α → Value → Prop) (zero : Value) :
    Prop where
  isZero_zero : zero.isZero = true
  isZero_eq : ∀ {a v}, R a v → v.isZero = isZero a
  of_isZero : ∀ {a}, isZero a = true → R a zero

/-- a default stands for another one, an unset field of it for what `zero` stands for -/
def DefaultReads {α : Type} (R : α → Value → Prop) (zero : Value) (default? : Option α)
    (held? : Option Value) : Prop :=
  match default? with
  | none => held? = none
  | some d => R d (held?.getD zero)

namespace RespectsZero

variable {α : Type} {isZero : α → Bool} {R : α → Value → Prop} {zero : Value}
  (hR : RespectsZero isZero R zero)

include hR

/-- a field that is not zero holds what it stands for, and any other counts as unset -/
theorem nonZero_cases {a : α} {held? : Option Value} (h : R a (held?.getD zero)) :
    isZero a = true ∧ nonZero held? = none ∨
      isZero a = false ∧ ∃ v, nonZero held? = some v ∧ R a v := by
  have hzero := hR.isZero_eq h
  cases held? with
  | none =>
    rw [Option.getD_none, hR.isZero_zero] at hzero
    exact .inl ⟨hzero.symm, rfl⟩
  | some v =>
    rw [Option.getD_some] at h hzero
    cases ha : isZero a with
    | true => exact .inl ⟨rfl, by simp [nonZero, Option.filter_some, hzero, ha]⟩
    | false => exact .inr ⟨rfl, v, by simp [nonZero, Option.filter_some, hzero, ha], h⟩

/-- what a variable, the field and the default leave is matched by what they leave in a value -/
theorem getD_keptOr {a : α} {set? default? : Option α} {set?' held? default?' : Option Value}
    (hset : Option.Rel R set? set?') (hheld : R a (held?.getD zero))
    (hdefault : DefaultReads R zero default? default?') :
    R (set?.getD (keptOr isZero a default?))
      (((set?'.or (nonZero held?)).or (nonZero default?')).getD zero) := by
  cases hset with
  | some h => exact h
  | none =>
    rw [Option.getD_none, Option.none_or]
    unfold keptOr
    rcases hR.nonZero_cases hheld with ⟨ha, hnone⟩ | ⟨ha, v, hv, hav⟩
    · rw [if_pos ha, hnone, Option.none_or]
      cases default? with
      | none =>
        have hnone : default?' = none := hdefault
        rw [hnone]
        exact hR.of_isZero ha
      | some d =>
        show R (if isZero d = true then a else d) _
        rcases hR.nonZero_cases (show R d _ from hdefault) with ⟨hd, hnone⟩ | ⟨hd, v, hv, hdv⟩
        · rw [if_pos hd, hnone]
          exact hR.of_isZero ha
        · rw [if_neg (by rw [hd]; simp), hv]
          exact hdv
    · rw [if_neg (by rw [ha]; simp), hv, Option.some_or, Option.getD_some]
      exact hav

end RespectsZero

theorem respectsZero_of_eq {α : Type} {isZero : α → Bool} {f : α → Value} {zero : Value}
    (hzero : zero.isZero = true) (h : ∀ a, (f a).isZero = isZero a)
    (hf : ∀ a, isZero a = true → f a = zero) :
    RespectsZero isZero (fun a v => v = f a) zero :=
  ⟨hzero, fun hv => hv ▸ h _, fun ha => (hf _ ha).symm⟩

theorem respectsZero_string : RespectsZero (· == "") (fun s v => v = .string s) (.string "") :=
  respectsZero_of_eq rfl (fun _ => rfl) fun s hs => by rw [beq_iff_eq.mp hs]

theorem respectsZero_bool : RespectsZero (!·) (fun b v => v = .bool b) (.bool false) :=
  respectsZero_of_eq rfl (fun _ => rfl) fun b hb => by cases b <;> simp_all

theorem respectsZero_int32 : RespectsZero (· == 0) (fun n v => v = .int32 n) (.int32 0) :=
  respectsZero_of_eq rfl (fun _ => rfl) fun n hn => by rw [beq_iff_eq.mp hn]

theorem respectsZero_list :
    RespectsZero List.isEmpty (fun ns v => v = .list (ns.map .int32)) (.list []) :=
  respectsZero_of_eq rfl (fun ns => by cases ns <;> rfl) fun ns hns => by
    rw [List.isEmpty_iff.mp hns, List.map_nil]

/-- a value that is a double in agreement with `x` -/
def Number.Double.Reads (x : Double) (v : Value) : Prop := ∃ y, v = .double y ∧ y.Agrees x

theorem respectsZero_double : RespectsZero Double.isZero Double.Reads (.double .zero) where
  isZero_zero := Value.isZero_zero .double
  isZero_eq := by
    rintro x v ⟨y, rfl, h⟩
    exact h.isZero_eq
  of_isZero h := ⟨.zero, rfl, Double.agrees_of_isZero Double.isZero_zero h⟩

/-! ### messages by their fields -/

/-- a message that holds in each field what `holds` says of it -/
structure Value.HoldsAll {K : Type} (field : K → String) (holds : K → Option Value → Prop)
    (w : Value) : Prop where
  message : w.IsMessage
  holds : ∀ k, holds k (w.get? (field k))

/-- setting a field matters to what is said of that field only; that the same is said of the others
can be seen key by key -/
theorem Value.HoldsAll.set {K : Type} {field : K → String} {holds holds' : K → Option Value → Prop}
    {w v : Value} (hfield : Function.Injective field) (h : w.HoldsAll field holds) (k : K)
    (hv : holds' k (some v))
    (hsame : ∀ j, j ≠ k → holds' j = holds j := by
      rintro (_ | _) hj <;> first | rfl | exact absurd rfl hj) :
    (w.set (field k) v).HoldsAll field holds' := by
  refine ⟨h.message.set _ _, fun j => ?_⟩
  by_cases hj : j = k
  · rw [hj, h.message.get?_set]
    exact hv
  · rw [Value.get?_set_of_ne v w fun he => hj (hfield he), hsame j hj]
    exact h.holds j

/-! ### matching -/

inductive Reporting.Key where
  | endpoint
  | port
  | secure
  | sampleRatio
deriving DecidableEq

def Reporting.Key.field : Key → String
  | endpoint => "endpoint"
  | port => "port"
  | secure => "secure"
  | sampleRatio => "sample_ratio"

/-- a field of a value matches that of the record -/
def Reporting.Holds (r : Reporting) : Key → Option Value → Prop
  | .endpoint, v? => v?.getD (.string "") = .string r.endpoint
  | .port, v? => v? = r.port.map .uint32
  | .secure, v? => v?.getD (.bool false) = .bool r.secure
  | .sampleRatio, v? => r.sampleRatio.Reads (v?.getD (.double .zero))

def Reporting.Matches (r : Reporting) (w : Value) : Prop := w.HoldsAll Key.field r.Holds

inductive Service.Key where
  | name
  | timeout
  | tags
  | opts
  | reporting
  | accent
deriving DecidableEq

def Service.Key.field : Key → String
  | name => "name"
  | timeout => "timeout"
  | tags => "tags"
  | opts => "opts"
  | reporting => "reporting"
  | accent => "accent"

def Service.Holds (s : Service) : Key → Option Value → Prop
  | .name, v? => v?.getD (.string "") = .string s.name
  | .timeout, v? => v? = s.timeout.map .int32
  | .tags, v? => v?.getD (.list []) = .list (s.tags.map .int32)
  | .opts, v? => ∃ es, v?.getD (.map []) = .map es ∧ ∀ k, es.get? k = s.opts.get? k
  | .reporting, v? => Option.Rel Reporting.Matches s.reporting v?
  | .accent, v? => v?.getD (.int32 0) = .int32 s.accent

def Service.Matches (s : Service) (w : Value) : Prop := w.HoldsAll Key.field s.Holds

theorem Reporting.Key.field_injective : Function.Injective field := by
  intro j k h
  cases j <;> cases k <;> first | rfl | exact absurd h (by decide)

theorem Service.Key.field_injective : Function.Injective field := by
  intro j k h
  cases j <;> cases k <;> first | rfl | exact absurd h (by decide)

theorem Reporting.matches_empty : Reporting.empty.Matches (.empty "Reporting") where
  message := Value.isMessage_empty _
  holds k := by
    cases k with
    | sampleRatio => exact ⟨.zero, rfl, .refl _⟩
    | _ => rfl

theorem Service.matches_empty : Service.empty.Matches (.empty "Service") where
  message := Value.isMessage_empty _
  holds k := by
    cases k with
    | opts => exact ⟨[], rfl, fun _ => rfl⟩
    | reporting => exact .none
    | _ => rfl

/-! ### defaults -/

section

variable {α β : Type} {R : α → Value → Prop} {zero : Value} {M : β → Value → Prop}
  {defaults : Option β} {defaults' : Option Value} {field : String} {part : β → α}

theorem defaultReads (h : Option.Rel M defaults defaults')
    (hpart : ∀ b v, M b v → R (part b) ((v.get? field).getD zero)) :
    DefaultReads R zero (defaults.map part) (default? defaults' field) := by
  cases h with
  | none => rfl
  | some h => exact hpart _ _ h

theorem default?_eq_map {part? : β → Option α} {f : α → Value} (h : Option.Rel M defaults defaults')
    (hpart : ∀ b v, M b v → v.get? field = (part? b).map f) :
    default? defaults' field = (defaults.bind part?).map f := by
  cases h with
  | none => rfl
  | some h => exact hpart _ _ h

theorem rel_default? {part? : β → Option α} (h : Option.Rel M defaults defaults')
    (hpart : ∀ b v, M b v → Option.Rel R (part? b) (v.get? field)) :
    Option.Rel R (defaults.bind part?) (default? defaults' field) := by
  cases h with
  | none => exact .none
  | some h => exact hpart _ _ h

end

end EnvConfig
