import ControlBreak.Proofs.Dependency.Circle
import Mathlib

/-!
# Reachability

A name depends on another one if a path of one or more dependencies leads from it there. The
path may lead back to where it started, so on a circle a name depends on itself.

One search goes forward with a stack and stops as soon as it meets what it looks for; the other
goes through the graph backward with a queue and lists all that it meets. What a search *meets*
is told without either: the unseen names that wait, and those that come next after what was met.
In which order they wait does not matter. Where no step leaves the unseen names, this is all
that can be reached.

* `leadsTo_iff`: the stack leads to a name exactly if the search meets it;
* `mem_explore`, `nodup_explore`: the queue lists what the search meets, and nothing twice;
* `edge_reversed`: backward, edges are the same edges;
* `dependsOn_iff`, `mem_dependents_iff`: so both find the ends of paths;
* `dependsOn_iff_mem_dependents`: and agree in any graph.
-/

namespace ControlBreak

namespace Graph

open Relation

variable {ν : Type} [BEq ν] {g : Graph ν} {unseen waiting waiting' : List ν} {n m k d : ν}

/-- The names that a search meets from those that wait on. -/
inductive Meets (g : Graph ν) (unseen waiting : List ν) : ν → Prop
  | waiting {n : ν} : n ∈ waiting → n ∈ unseen → Meets g unseen waiting n
  | step {m n : ν} : Meets g unseen waiting m → g.Edge m n → n ∈ unseen → Meets g unseen waiting n

theorem Meets.mem_unseen (h : g.Meets unseen waiting n) : n ∈ unseen := by
  cases h with
  | waiting _ hu => exact hu
  | step _ _ hu => exact hu

theorem not_meets_nil : ¬g.Meets unseen [] n := by
  intro h
  induction h with
  | waiting hw _ => exact List.not_mem_nil hw
  | step _ _ _ ih => exact ih

/-- A name that was seen leads nowhere. -/
theorem meets_cons_of_notMem (hm : m ∉ unseen) :
    g.Meets unseen (m :: waiting) n ↔ g.Meets unseen waiting n := by
  constructor
  · intro h
    induction h with
    | waiting hw hu =>
      rcases List.mem_cons.1 hw with rfl | hw
      exacts [absurd hu hm, .waiting hw hu]
    | step _ hn hu ih => exact ih.step hn hu
  · intro h
    induction h with
    | waiting hw hu => exact .waiting (List.mem_cons_of_mem _ hw) hu
    | step _ hn hu ih => exact ih.step hn hu

/-- From where every step can reach, what is met is what one or more steps reach. -/
theorem meets_iff_transGen (hw : ∀ m, m ∈ waiting ↔ g.Edge n m)
    (h : ∀ m k, g.Edge m k → k ∈ unseen) :
    g.Meets unseen waiting d ↔ TransGen g.Edge n d := by
  constructor
  · intro hd
    induction hd with
    | waiting hm _ => exact .single ((hw _).1 hm)
    | step _ hn _ ih => exact ih.tail hn
  · intro hd
    induction hd with
    | single hn => exact .waiting ((hw _).2 hn) (h _ _ hn)
    | tail _ hk ih => exact ih.step hk (h _ _ hk)

/-! ### The searches -/

section Lawful

variable [LawfulBEq ν]

/-- An unseen name that waits is met, and what comes next after it is met without it. -/
theorem meets_cons_of_mem (hu : unseen.Nodup) (hm : m ∈ unseen)
    (hw : ∀ k, k ∈ waiting' ↔ k ∈ waiting ∨ g.Edge m k) :
    g.Meets unseen (m :: waiting) n ↔ n = m ∨ g.Meets (without unseen m) waiting' n := by
  constructor
  · intro h
    induction h with
    | @waiting n hn hun =>
      by_cases he : n = m
      · exact .inl he
      · have hn := (List.mem_cons.1 hn).resolve_left he
        exact .inr (.waiting ((hw n).2 (.inl hn)) ((mem_without hu).2 ⟨he, hun⟩))
    | @step k n _ hk hun ih =>
      by_cases he : n = m
      · exact .inl he
      have hun : n ∈ without unseen m := (mem_without hu).2 ⟨he, hun⟩
      -- A path that comes by `m` again may as well start there.
      rcases ih with rfl | ih
      · exact .inr (.waiting ((hw n).2 (.inr hk)) hun)
      · exact .inr (ih.step hk hun)
  · have hstart : g.Meets unseen (m :: waiting) m := .waiting List.mem_cons_self hm
    rintro (rfl | h)
    · exact hstart
    · induction h with
      | waiting hn hun =>
        have hun := ((mem_without hu).1 hun).2
        rcases (hw _).1 hn with hn | hn
        · exact .waiting (List.mem_cons_of_mem _ hn) hun
        · exact hstart.step hn hun
      | step _ hk hun ih => exact ih.step hk ((mem_without hu).1 hun).2

/-- The queue lists what the search meets. -/
theorem mem_explore (hu : unseen.Nodup) :
    n ∈ g.explore unseen waiting ↔ g.Meets unseen waiting n := by
  induction unseen, waiting using explore.induct g with
  | case1 unseen =>
    rw [explore]
    exact iff_of_false List.not_mem_nil not_meets_nil
  | case2 unseen m rest hm ih =>
    rw [explore, if_pos hm, List.mem_cons, ih (nodup_without hu m),
      meets_cons_of_mem hu (any_beq_iff.1 hm) fun _ => List.mem_append]
  | case3 unseen m rest hm ih =>
    rw [explore, if_neg hm, ih hu, meets_cons_of_notMem fun h => hm (any_beq_iff.2 h)]

/-- It lists nothing twice. -/
theorem nodup_explore (hu : unseen.Nodup) : (g.explore unseen waiting).Nodup := by
  induction unseen, waiting using explore.induct g with
  | case1 unseen =>
    rw [explore]
    exact List.nodup_nil
  | case2 unseen m rest hm ih =>
    have hu' := nodup_without hu m
    rw [explore, if_pos hm, List.nodup_cons]
    refine ⟨fun h => ?_, ih hu'⟩
    exact ((mem_without hu).1 ((mem_explore hu').1 h).mem_unseen).1 rfl
  | case3 unseen m rest hm ih =>
    rw [explore, if_neg hm]
    exact ih hu

/-- The stack leads to a name exactly if the search meets it. The name stays unseen, as the
    search ends with it. -/
theorem leadsTo_iff (hu : unseen.Nodup) (hs : d ∈ waiting → d ∈ unseen)
    (hd : ∀ m, g.Edge m d → d ∈ unseen) :
    g.leadsTo d unseen waiting = true ↔ g.Meets unseen waiting d := by
  induction unseen, waiting using leadsTo.induct g d with
  | case1 unseen =>
    rw [leadsTo]
    exact iff_of_false Bool.false_ne_true not_meets_nil
  | case2 unseen m rest he =>
    rw [leadsTo, if_pos he]
    obtain rfl : m = d := by simpa using he
    exact iff_of_true rfl (.waiting List.mem_cons_self (hs List.mem_cons_self))
  | case3 unseen m rest he hm ih =>
    have hne : d ≠ m := by simpa using Ne.symm (ne_of_beq_false (Bool.eq_false_iff.2 he))
    have hnext (k : ν) : k ∈ (g.deps m).reverse ++ rest ↔ k ∈ rest ∨ g.Edge m k := by
      rw [List.mem_append, List.mem_reverse, or_comm]
      rfl
    have hkept : d ∈ unseen → d ∈ without unseen m := fun h => (mem_without hu).2 ⟨hne, h⟩
    rw [leadsTo, if_neg he, if_pos hm, ih (nodup_without hu m) ?_ fun k hk => hkept (hd k hk),
      meets_cons_of_mem hu (any_beq_iff.1 hm) hnext, or_iff_right hne]
    intro hw
    rcases (hnext d).1 hw with hw | hw
    exacts [hkept (hs (List.mem_cons_of_mem _ hw)), hkept (hd m hw)]
  | case4 unseen m rest he hm ih =>
    rw [leadsTo, if_neg he, if_neg hm, ih hu (fun h => hs (List.mem_cons_of_mem _ h)) hd,
      meets_cons_of_notMem fun h => hm (any_beq_iff.2 h)]

/-! ### Backward -/

section Reversed

variable {entries : List (ν × List ν)}

theorem deps_cons_self {ns : List ν} : deps ⟨(d, ns) :: entries⟩ d = ns := by
  simp [deps]

theorem deps_cons_of_ne {ns : List ν} (h : m ≠ d) :
    deps ⟨(m, ns) :: entries⟩ d = deps ⟨entries⟩ d := by
  simp [deps, h]

/-- A link adds one dependency, as the last one. -/
theorem deps_link :
    deps ⟨link m k entries⟩ d = deps ⟨entries⟩ d ++ if m == d then [k] else [] := by
  induction entries with
  | nil =>
    have hnone : deps ⟨[]⟩ d = [] := rfl
    rw [link, hnone, List.nil_append]
    split
    · rename_i h
      rw [beq_iff_eq.1 h, deps_cons_self]
    · rename_i h
      rw [deps_cons_of_ne (mt beq_iff_eq.2 h), hnone]
  | cons e rest ih =>
    obtain ⟨c, ns⟩ := e
    rw [link]
    by_cases h : c = m
    · subst h
      rw [if_pos (beq_self_eq_true c)]
      by_cases hd : c = d
      · subst hd
        rw [deps_cons_self, deps_cons_self, if_pos (beq_self_eq_true c)]
      · rw [deps_cons_of_ne hd, deps_cons_of_ne hd, if_neg (mt beq_iff_eq.1 hd), List.append_nil]
    · rw [if_neg (mt beq_iff_eq.1 h)]
      by_cases hd : c = d
      · subst hd
        rw [deps_cons_self, deps_cons_self, if_neg (mt beq_iff_eq.1 (Ne.symm h)), List.append_nil]
      · rw [deps_cons_of_ne hd, deps_cons_of_ne hd, ih]

theorem deps_foldl_link (ds : List ν) :
    deps ⟨ds.foldl (fun entries c => link c k entries) entries⟩ d =
      deps ⟨entries⟩ d ++ (ds.filter (· == d)).map fun _ => k := by
  induction ds generalizing entries with
  | nil => simp
  | cons c rest ih =>
    rw [List.foldl_cons, ih, deps_link, List.filter_cons, List.append_assoc]
    split <;> rfl

theorem deps_foldl_entries (es : List (ν × List ν)) :
    deps ⟨es.foldl (fun entries e => e.2.foldl (fun entries c => link c e.1 entries) entries)
        entries⟩ d =
      deps ⟨entries⟩ d ++ es.flatMap fun e => (e.2.filter (· == d)).map fun _ => e.1 := by
  induction es generalizing entries with
  | nil => simp
  | cons e rest ih =>
    rw [List.foldl_cons, ih, deps_foldl_link, List.flatMap_cons, List.append_assoc]

/-- Backward, a name leads to each name once for each time that it is among its dependencies. -/
theorem deps_reversed : g.reversed.deps d =
    g.entries.flatMap fun e => (e.2.filter (· == d)).map fun _ => e.1 := by
  rw [reversed, deps_foldl_entries]
  rfl

end Reversed

/-- Where a name has one entry, the entry holds all that it depends on. -/
theorem edge_of_mem {e : ν × List ν} (hk : g.keys.Nodup) (he : e ∈ g.entries) (hd : d ∈ e.2) :
    g.Edge e.1 d := by
  rw [Edge, deps, find?_eq_some_of_key hk he]
  exact hd

/-- Backward, edges are the same edges. -/
theorem edge_reversed (hk : g.keys.Nodup) : g.reversed.Edge d n ↔ g.Edge n d := by
  rw [Edge, deps_reversed, List.mem_flatMap]
  constructor
  · rintro ⟨e, he, hn⟩
    obtain ⟨c, hc, rfl⟩ := List.mem_map.1 hn
    obtain ⟨hc, hd⟩ := List.mem_filter.1 hc
    exact edge_of_mem hk he (beq_iff_eq.1 hd ▸ hc)
  · intro h
    obtain ⟨e, he, rfl, hd⟩ := h.exists_entry
    exact ⟨e, he, List.mem_map.2 ⟨d, List.mem_filter.2 ⟨hd, beq_self_eq_true d⟩, rfl⟩⟩

/-! ### Both directions -/

/-- A name depends on another one exactly if a path leads there. -/
theorem dependsOn_iff : g.dependsOn n d = true ↔ TransGen g.Edge n d := by
  have hmem (m k : ν) (h : g.Edge m k) : k ∈ g.nodes := h.mem_nodes
  have hw (m : ν) : m ∈ (g.deps n).reverse ↔ g.Edge n m := List.mem_reverse
  rw [dependsOn, leadsTo_iff (nodup_nodes g) (fun h => hmem n d ((hw d).1 h)) fun m => hmem m d,
    meets_iff_transGen hw hmem]

/-- The dependents of a name are those from which a path leads there. -/
theorem mem_dependents_iff (hk : g.keys.Nodup) :
    n ∈ g.dependents d ↔ TransGen g.Edge n d := by
  have hmem (m k : ν) (h : g.reversed.Edge m k) : k ∈ g.nodes :=
    mem_nodes.2 (.inl ((edge_reversed hk).1 h).mem_keys)
  have hedge : g.reversed.Edge = Function.swap g.Edge := by
    funext m k
    exact propext (edge_reversed hk)
  rw [dependents, mem_explore (nodup_nodes g), meets_iff_transGen (fun _ => Iff.rfl) hmem, hedge,
    transGen_swap]

end Lawful

/-- In a graph with one entry for each name, forward and backward search agree, and both find
    exactly the paths of one or more dependencies; backward, nothing is found twice. -/
theorem dependsOn_iff_mem_dependents (g : Graph String) (hk : g.keys.Nodup) (n d : String) :
    (g.dependsOn n d = true ↔ TransGen g.Edge n d) ∧
      (g.dependsOn n d = true ↔ n ∈ g.dependents d) ∧ (g.dependents d).Nodup :=
  ⟨dependsOn_iff, dependsOn_iff.trans (mem_dependents_iff hk).symm,
    nodup_explore (nodup_nodes g)⟩

/-- A name that leads to a circle of two others. -/
def lasso : Graph String := ⟨[("a", ["b", "x"]), ("b", ["c"]), ("c", ["b"])]⟩

/-- On the circle a name depends on itself, but one that only leads there does not. -/
theorem dependsOn_iff_mem_dependents_lasso : lasso.keys.Nodup ∧
    TransGen lasso.Edge "b" "b" ∧ "b" ∈ lasso.dependents "b" ∧
    ¬TransGen lasso.Edge "a" "a" ∧ (lasso.dependents "b").Nodup := by
  have hk : lasso.keys.Nodup := by decide
  have hb : lasso.dependsOn "b" "b" = true := by cbv
  have ha : lasso.dependsOn "a" "a" = false := by cbv
  obtain ⟨hpath, hback, hnodup⟩ := dependsOn_iff_mem_dependents lasso hk "b" "b"
  obtain ⟨hnone, -, -⟩ := dependsOn_iff_mem_dependents lasso hk "a" "a"
  exact ⟨hk, hpath.1 hb, hback.1 hb, fun h => by simp [hnone.2 h] at ha, hnodup⟩

end Graph

end ControlBreak
