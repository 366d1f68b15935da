/-!
# Entries

A finite map with texts as keys, kept as the list of its entries.  New keys find their place in
the order of keys; a key that is there keeps its place.

* `get?_insert_self`, `get?_insert_of_ne`: what an insertion does to look-ups.
-/

namespace EnvConfig

abbrev Entries (α : Type) := List (String × α)

namespace Entries

variable {α β : Type}

/-- the value at `k` -/
def get? (k : String) : Entries α → Option α
  | [] => none
  | (k', v) :: es => if k' = k then some v else get? k es

/-- the entries with a new key at its place in the order -/
def place (k : String) (v : α) : Entries α → Entries α
  | [] => [(k, v)]
  | (k', v') :: es => if k < k' then (k, v) :: (k', v') :: es else (k', v') :: place k v es

/-- the entries with another value at a key that is there -/
def replace (k : String) (v : α) : Entries α → Entries α
  | [] => []
  | (k', v') :: es => if k' = k then (k, v) :: es else (k', v') :: replace k v es

/-- the entries with the value `v` at `k` -/
def insert (k : String) (v : α) (es : Entries α) : Entries α :=
  if (es.get? k).isSome then es.replace k v else es.place k v

/-- all of `news` inserted into `es`, one after the other -/
def insertAll (es news : Entries α) : Entries α := news.foldl (fun es e => es.insert e.1 e.2) es

/-- those of `news` inserted whose keys are absent -/
def insertAbsent (es news : Entries α) : Entries α :=
  news.foldl (fun es e => if (es.get? e.1).isSome then es else es.insert e.1 e.2) es

/-- the given entries in order, the last one of a key being the one that counts -/
def ofList (es : List (String × α)) : Entries α := insertAll [] es

theorem get?_nil (k : String) : get? k ([] : Entries α) = none := rfl

theorem get?_cons (k k' : String) (v : α) (es : Entries α) :
    get? k ((k', v) :: es) = if k' = k then some v else get? k es := rfl

theorem get?_place_self {k : String} (v : α) {es : Entries α} (h : es.get? k = none) :
    (es.place k v).get? k = some v := by
  induction es with
  | nil => simp [place, get?]
  | cons e es ih =>
    obtain ⟨k', v'⟩ := e
    rw [get?_cons] at h
    split at h
    · cases h
    · rename_i hne
      unfold place
      split
      · simp [get?]
      · rw [get?_cons, if_neg hne, ih h]

theorem get?_place_of_ne {k j : String} (v : α) (es : Entries α) (h : j ≠ k) :
    (es.place k v).get? j = es.get? j := by
  induction es with
  | nil => simp [place, get?, Ne.symm h]
  | cons e es ih =>
    obtain ⟨k', v'⟩ := e
    unfold place
    split
    · rw [get?_cons, if_neg (Ne.symm h)]
    · rw [get?_cons, get?_cons, ih]

theorem get?_replace_self {k : String} (v : α) {es : Entries α} (h : (es.get? k).isSome) :
    (es.replace k v).get? k = some v := by
  induction es with
  | nil => cases h
  | cons e es ih =>
    obtain ⟨k', v'⟩ := e
    rw [get?_cons] at h
    unfold replace
    split
    · simp [get?]
    · rename_i hne
      rw [if_neg hne] at h
      rw [get?_cons, if_neg hne, ih h]

theorem get?_replace_of_ne {k j : String} (v : α) (es : Entries α) (h : j ≠ k) :
    (es.replace k v).get? j = es.get? j := by
  induction es with
  | nil => rfl
  | cons e es ih =>
    obtain ⟨k', v'⟩ := e
    unfold replace
    split
    · rename_i heq
      rw [get?_cons, get?_cons, if_neg (Ne.symm h), heq, if_neg (Ne.symm h)]
    · rw [get?_cons, get?_cons, ih]

theorem get?_insert_self (k : String) (v : α) (es : Entries α) :
    (es.insert k v).get? k = some v := by
  unfold insert
  split
  · exact get?_replace_self v (by assumption)
  · rename_i h
    exact get?_place_self v (by simpa using h)

theorem get?_insert_of_ne {k j : String} (v : α) (es : Entries α) (h : j ≠ k) :
    (es.insert k v).get? j = es.get? j := by
  unfold insert
  split
  · exact get?_replace_of_ne v es h
  · exact get?_place_of_ne v es h

/-- a value put where it already is changes nothing -/
theorem insert_of_get? {k : String} {v : α} {es : Entries α} (h : es.get? k = some v) :
    es.insert k v = es := by
  have hrep : ∀ es : Entries α, es.get? k = some v → es.replace k v = es := by
    intro es
    induction es with
    | nil => intro h; cases h
    | cons e es ih =>
      intro h
      obtain ⟨k', v'⟩ := e
      rw [get?_cons] at h
      unfold replace
      split at h
      · rename_i heq
        cases h
        rw [if_pos heq, heq]
      · rename_i hne
        rw [if_neg hne, ih h]
  unfold insert
  rw [if_pos (by rw [h]; rfl), hrep es h]

end Entries

end EnvConfig
