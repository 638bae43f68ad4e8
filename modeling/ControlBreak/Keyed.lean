/-!
# Keyed values

Pairs of a key and a value, in the order in which the keys first came. A value
set under a key that is there takes the place of the old one.

* `isSome_keyed?_iff`: what is found at all;
* `keyed?_setKeyed`: what is found after a value was set;
* `keyed?_append`: of two lists, the first one counts;
* `map_fst_setKeyed`, `setKeyed_append`: where a value that is set goes.
-/

namespace ControlBreak

variable {κ α : Type} [DecidableEq κ]

/-- The value of the first pair with a given key. -/
def keyed? (pairs : List (κ × α)) (key : κ) : Option α :=
  (pairs.find? fun e => e.1 == key).map (·.2)

/-- The pairs with a value under a key: in its old place if the key was there,
    else at the end. -/
def setKeyed (key : κ) (value : α) : List (κ × α) → List (κ × α)
  | [] => [(key, value)]
  | (k, v) :: rest => if k = key then (k, value) :: rest else (k, v) :: setKeyed key value rest

theorem isSome_keyed?_iff {pairs : List (κ × α)} {key : κ} :
    (keyed? pairs key).isSome = true ↔ key ∈ pairs.map (·.1) := by
  simp [keyed?]

theorem keyed?_setKeyed (key other : κ) (value : α) (pairs : List (κ × α)) :
    keyed? (setKeyed key value pairs) other =
      if other = key then some value else keyed? pairs other := by
  induction pairs with
  | nil =>
    by_cases h : key = other
    · subst h; simp [setKeyed, keyed?]
    · simp [setKeyed, keyed?, h, Ne.symm h]
  | cons e rest ih =>
    obtain ⟨k, v⟩ := e
    simp only [keyed?] at ih ⊢
    by_cases hk : k = key
    · subst hk
      by_cases h : other = k
      · subst h; simp [setKeyed]
      · have h' : (k == other) = false := by simpa using fun e => h e.symm
        simp [setKeyed, h, h']
    · by_cases ho : k = other
      · subst ho; simp [setKeyed, hk]
      · have h' : (k == other) = false := by simpa using ho
        simp [setKeyed, hk, h', ih]

theorem keyed?_append (pairs pairs' : List (κ × α)) (key : κ) :
    keyed? (pairs ++ pairs') key = (keyed? pairs key).or (keyed? pairs' key) := by
  rw [keyed?, keyed?, keyed?, List.find?_append, Option.map_or]

theorem map_fst_setKeyed {key : κ} {value : α} {pairs : List (κ × α)}
    (h : key ∈ pairs.map (·.1)) : (setKeyed key value pairs).map (·.1) = pairs.map (·.1) := by
  induction pairs with
  | nil => cases h
  | cons e rest ih =>
    rw [setKeyed]
    split
    · rfl
    · rename_i hne
      rw [List.map_cons, List.mem_cons] at h
      rw [List.map_cons, List.map_cons, ih (h.resolve_left (Ne.symm hne))]

theorem setKeyed_append {key : κ} {value : α} {pairs : List (κ × α)}
    (h : key ∉ pairs.map (·.1)) (pairs' : List (κ × α)) :
    setKeyed key value (pairs ++ pairs') = pairs ++ setKeyed key value pairs' := by
  induction pairs with
  | nil => rfl
  | cons e rest ih =>
    rw [List.map_cons, List.mem_cons, not_or] at h
    rw [List.cons_append, setKeyed, if_neg (Ne.symm h.1), ih h.2, List.cons_append]

theorem setKeyed_of_notMem {key : κ} {value : α} {pairs : List (κ × α)}
    (h : key ∉ pairs.map (·.1)) : setKeyed key value pairs = pairs ++ [(key, value)] := by
  have happend : setKeyed key value (pairs ++ []) = pairs ++ setKeyed key value [] :=
    setKeyed_append h []
  rwa [List.append_nil] at happend

end ControlBreak
