import ControlBreak.Proofs.Expression.Reads
import Mathlib.Data.List.Induction
import Mathlib.Data.List.Nodup
import Mathlib.Tactic.Common

/-!
# Names without repetitions

Of names that are collected, each counts where it comes first. Names are texts, which are keys as
long as they are equal, so this is the same for lists of texts and for lists of keys.

* `nodup_eraseDups`, `eraseDups_filter`, `eraseDups_append_eraseDups`: what becomes of lists
  whose repetitions are left out;
* `Value.distinctKeys_map_str`: texts as keys.
-/

namespace ControlBreak

/-! ### Lists -/

section EraseDups

variable {α : Type} [BEq α] [LawfulBEq α]

theorem nodup_eraseDups (l : List α) : l.eraseDups.Nodup := by
  induction l using List.reverseRecOn with
  | nil => exact List.nodup_nil
  | append_singleton l a ih =>
    rw [List.eraseDups_append]
    by_cases ha : a ∈ l
    · have hnone : [a].removeAll l = [] := by simp [List.removeAll, ha]
      rwa [hnone, List.eraseDups_nil, List.append_nil]
    · have hone : [a].removeAll l = [a] := by simp [List.removeAll, ha]
      rw [hone, List.eraseDups_cons, List.filter_nil, List.eraseDups_nil, ← List.concat_eq_append]
      exact ih.concat (List.mem_eraseDups.not.2 ha)

theorem eraseDups_filter (p : α → Bool) (l : List α) :
    (l.filter p).eraseDups = l.eraseDups.filter p := by
  induction hn : l.length using Nat.strongRecOn generalizing l with
  | ind n ih =>
    cases l with
    | nil => rfl
    | cons a l =>
      have hlt : (l.filter fun b => !b == a).length < n := by
        have := List.length_filter_le (fun b => !b == a) l
        simp only [List.length_cons] at hn
        omega
      have hrest := ih _ hlt _ rfl
      rw [List.eraseDups_cons]
      by_cases ha : p a
      · rw [List.filter_cons_of_pos ha, List.eraseDups_cons, List.filter_cons_of_pos ha, ← hrest,
          List.filter_filter, List.filter_filter]
        simp only [Bool.and_comm]
      · -- What `p` refuses is not missed when it is taken out of the rest.
        rw [List.filter_cons_of_neg ha, List.filter_cons_of_neg ha, ← hrest, List.filter_filter]
        congr 1
        refine List.filter_congr fun b _ => ?_
        by_cases hb : b = a
        · simp [hb, ha]
        · simp [hb]

theorem eraseDups_eraseDups (l : List α) : l.eraseDups.eraseDups = l.eraseDups := by
  induction hn : l.length using Nat.strongRecOn generalizing l with
  | ind n ih =>
    cases l with
    | nil => rfl
    | cons a l =>
      have hlt : (l.filter fun b => !b == a).length < n := by
        have := List.length_filter_le (fun b => !b == a) l
        simp only [List.length_cons] at hn
        omega
      rw [List.eraseDups_cons, List.eraseDups_cons, ← eraseDups_filter, List.filter_filter]
      simp only [Bool.and_self]
      rw [ih _ hlt _ rfl]

/-- Of two lists, the second one adds what is not in the first. -/
theorem eraseDups_append_eraseDups (as bs : List α) :
    (as.eraseDups ++ bs.eraseDups).eraseDups = (as ++ bs).eraseDups := by
  have hmem : ∀ b, as.eraseDups.elem b = as.elem b := fun b => by
    rw [Bool.eq_iff_iff, List.elem_iff, List.elem_iff, List.mem_eraseDups]
  rw [List.eraseDups_append, List.eraseDups_append, List.removeAll, List.removeAll,
    eraseDups_filter, eraseDups_filter, eraseDups_eraseDups, eraseDups_eraseDups]
  simp only [hmem]

/-- What is taken without repetitions from each of several lists can be taken so from all of
    them at once. -/
theorem eraseDups_flatMap_eraseDups (ls : List (List α)) :
    (ls.flatMap List.eraseDups).eraseDups = ls.flatten.eraseDups := by
  induction ls with
  | nil => rfl
  | cons l ls ih =>
    rw [List.flatMap_cons, List.flatten_cons, ← eraseDups_append_eraseDups, ih,
      eraseDups_eraseDups, eraseDups_append_eraseDups]

end EraseDups

/-! ### Keys -/

namespace Value

theorem distinct_map_str (names : List String) :
    distinct (names.map .str) = names.eraseDups.map .str := by
  suffices h : ∀ seen : List String, (names.map Value.str).foldl
      (fun seen k => if seen.any (sameKey · k) then seen else seen ++ [k]) (seen.map .str) =
        (seen ++ (names.removeAll seen).eraseDups).map .str by
    have hall := h []
    have hnil : names.removeAll [] = names := by simp [List.removeAll]
    rwa [List.nil_append, hnil] at hall
  induction names with
  | nil => simp [List.removeAll]
  | cons name names ih =>
    intro seen
    have hany : (seen.map Value.str).any (sameKey · (.str name)) = seen.elem name := by
      rw [Bool.eq_iff_iff, List.any_eq_true, List.elem_iff]
      simp [sameKey_str]
    rw [List.map_cons, List.foldl_cons, hany, List.removeAll]
    by_cases hs : seen.elem name
    · rw [if_pos hs, ih seen, List.filter_cons_of_neg (by simpa using hs)]
      rfl
    · have hsnoc := ih (seen ++ [name])
      rw [List.map_append, List.map_singleton] at hsnoc
      rw [if_neg hs, hsnoc, List.filter_cons_of_pos (by simpa using hs), List.eraseDups_cons,
        List.append_assoc, List.singleton_append, List.removeAll, List.filter_filter]
      congr 4
      refine List.filter_congr fun b _ => ?_
      rw [Bool.eq_iff_iff]
      simp [and_comm]

/-- Texts may be keys, and two of them are one key if they are equal. -/
theorem distinctKeys_map_str (names : List String) :
    distinctKeys (names.map .str) = .ok (names.eraseDups.map .str) := by
  rw [distinctKeys, if_pos (by simp [isHashable]), distinct_map_str]

end Value

end ControlBreak
