import ControlBreak.Proofs.Dependency.Schedule

/-!
# What changes with some names

Some names of a graph change, and with them all names that depend on them. These are ordered
anew, in the part of the graph that they make up; dependencies that lead out of it are dropped.

Nothing is lost by this. Whatever depends on an affected name is affected, so a path that ends
at one goes through affected names only: between them the part has the paths of the whole
graph, and its circles are those of the graph that hold nothing else.

* `edge_affected`, `transGen_affected`, `isCircle_affected`: edges, paths and circles of the
  part, told by those of the graph;
* `partialOrder_affected_or_circular`: what the order of the part is, and when there is none.
-/

namespace ControlBreak

namespace Graph

open Relation

variable {ν : Type} [BEq ν] {g : Graph ν} {changed names order before later cycle : List ν}
  {n d : ν}

/-- Whether a name changes with some others: it is one of them, or depends on one. -/
def IsAffected (g : Graph ν) (changed : List ν) (n : ν) : Prop :=
  n ∈ changed ∨ ∃ c ∈ changed, TransGen g.Edge n c

/-- The affected names of a graph, each once and after all others that it depends on in the
    graph, directly or through any names. -/
structure IsPartialSchedule (g : Graph ν) (changed order : List ν) : Prop where
  nodup : order.Nodup
  mem_iff : ∀ n, n ∈ order ↔
    (n ∈ g.keys ∨ ∃ e ∈ g.entries, n ∈ e.2) ∧ g.IsAffected changed n
  after : ∀ before n later, order = before ++ n :: later →
    ∀ d ∈ order, g.dependsOn n d = true → d ∈ before

/-- What depends on an affected name is affected. -/
theorem IsAffected.of_edge (hd : g.IsAffected changed d) (h : g.Edge n d) :
    g.IsAffected changed n := by
  rcases hd with hd | ⟨c, hc, hd⟩
  exacts [.inr ⟨d, hd, .single h⟩, .inr ⟨c, hc, .head h hd⟩]

/-- In a schedule a name comes after all that it depends on, directly or through others. -/
theorem IsSchedule.mem_of_transGen (h : g.IsSchedule order) (hd : TransGen g.Edge n d)
    (ho : order = before ++ n :: later) : d ∈ before := by
  induction hd using TransGen.head_induction_on generalizing before later with
  | single hd => exact h.after _ _ _ ho _ hd
  | @head n m hm _ ih =>
    have hm : m ∈ before := h.after _ _ _ ho _ hm
    obtain ⟨first, rest, rfl⟩ := List.append_of_mem hm
    exact List.mem_append_left _ (ih (by rw [ho, List.append_assoc, List.cons_append]))

/-! ### Parts of a graph -/

theorem keys_restrict : (g.restrict names).keys = firsts names := by
  rw [keys, restrict, List.map_map]
  exact List.map_id _

section Lawful

variable [LawfulBEq ν]

/-- A part of a graph has the edges between its names. -/
theorem edge_restrict : (g.restrict names).Edge n d ↔ n ∈ names ∧ d ∈ names ∧ g.Edge n d := by
  constructor
  · intro h
    obtain ⟨e, he, rfl, hd⟩ := h.exists_entry
    obtain ⟨n, hn, rfl⟩ := List.mem_map.1 he
    obtain ⟨hd, hkept⟩ := List.mem_filter.1 hd
    exact ⟨mem_firsts.1 hn, by simpa using hkept, hd⟩
  · rintro ⟨hn, hd, h⟩
    have hkeys : (g.restrict names).keys.Nodup := by
      rw [keys_restrict]
      exact nodup_firsts names
    have he : (n, (g.deps n).filter (firsts names).contains) ∈ (g.restrict names).entries :=
      List.mem_map_of_mem (mem_firsts.2 hn)
    exact edge_of_mem hkeys he (List.mem_filter.2 ⟨h, by simpa using hd⟩)

theorem mem_nodes_restrict : n ∈ (g.restrict names).nodes ↔ n ∈ names := by
  rw [mem_nodes, keys_restrict, mem_firsts]
  constructor
  · rintro (hn | ⟨e, he, hn⟩)
    · exact hn
    · obtain ⟨m, -, rfl⟩ := List.mem_map.1 he
      simpa using (List.mem_filter.1 hn).2
  · exact .inl

/-! ### The affected part -/

/-- The names of the affected part are the affected ones. -/
theorem mem_nodes_affected (hk : g.keys.Nodup) :
    n ∈ (g.affected changed).nodes ↔ n ∈ g.nodes ∧ g.IsAffected changed n := by
  rw [affected, mem_nodes_restrict, List.mem_filter]
  simp only [List.contains_iff_mem, List.mem_append, List.mem_flatMap, mem_dependents_iff hk,
    IsAffected]

/-- Its edges are those that lead to an affected name. -/
theorem edge_affected (hk : g.keys.Nodup) :
    (g.affected changed).Edge n d ↔ g.Edge n d ∧ g.IsAffected changed d := by
  have hname (m : ν) : m ∈ g.nodes.filter (changed ++ changed.flatMap g.dependents).contains ↔
      m ∈ g.nodes ∧ g.IsAffected changed m := by
    rw [← mem_nodes_affected hk, affected, mem_nodes_restrict]
  rw [affected, edge_restrict, hname, hname]
  constructor
  · rintro ⟨-, ⟨-, hd⟩, h⟩
    exact ⟨h, hd⟩
  · rintro ⟨h, hd⟩
    exact ⟨⟨mem_nodes.2 (.inl h.mem_keys), hd.of_edge h⟩, ⟨h.mem_nodes, hd⟩, h⟩

/-- A path to an affected name stays within the part. -/
theorem transGen_affected (hk : g.keys.Nodup) (hd : g.IsAffected changed d)
    (h : TransGen g.Edge n d) : TransGen (g.affected changed).Edge n d := by
  induction h with
  | single h => exact .single ((edge_affected hk).2 ⟨h, hd⟩)
  | tail _ h ih => exact (ih (hd.of_edge h)).tail ((edge_affected hk).2 ⟨h, hd⟩)

/-- The circles of the part are those of the graph on which all names are affected. -/
theorem isCircle_affected (hk : g.keys.Nodup) : (g.affected changed).IsCircle cycle ↔
    g.IsCircle cycle ∧ ∀ n ∈ cycle, g.IsAffected changed n := by
  constructor
  · refine fun h => ⟨h.imp fun n d _ _ he => ((edge_affected hk).1 he).1, fun d hd => ?_⟩
    obtain ⟨n, hn⟩ := h.exists_edge hd
    exact ((edge_affected hk).1 hn).2
  · rintro ⟨h, hc⟩
    exact h.imp fun n d _ hd he => (edge_affected hk).2 ⟨he, hc d hd⟩

/-- A schedule of the part is one of the affected names. -/
theorem isPartialSchedule_of_isSchedule (hk : g.keys.Nodup)
    (h : (g.affected changed).IsSchedule order) : g.IsPartialSchedule changed order := by
  have hmem (n : ν) : n ∈ order ↔
      (n ∈ g.keys ∨ ∃ e ∈ g.entries, n ∈ e.2) ∧ g.IsAffected changed n := by
    rw [h.mem_iff, ← mem_nodes, mem_nodes_affected hk, mem_nodes]
  refine ⟨h.nodup, hmem, fun before n later ho d hd hdep => ?_⟩
  exact h.mem_of_transGen (transGen_affected hk ((hmem d).1 hd).2 (dependsOn_iff.1 hdep)) ho

end Lawful

/-- In a graph with one entry for each name, the affected names have no order exactly if there
    is a circle of them, and then one is reported; else they are listed after all that they
    depend on in the whole graph. A circle elsewhere is no hindrance. -/
theorem partialOrder_affected_or_circular (g : Graph String) (hk : g.keys.Nodup)
    (changed : List String) :
    (∃ cycle, g.partialOrder changed = .error cycle ∧
        g.IsCircle cycle ∧ ∀ n ∈ cycle, g.IsAffected changed n) ∨
      (¬∃ cycle, g.IsCircle cycle ∧ ∀ n ∈ cycle, g.IsAffected changed n) ∧
        ∃ order, g.partialOrder changed = .ok order ∧ g.IsPartialSchedule changed order := by
  cases hc : (g.affected changed).findCycle with
  | some cycle =>
    refine .inl ⟨cycle, ?_, (isCircle_affected hk).1 (isCircle_of_findCycle hc)⟩
    rw [partialOrder, order, hc]
  | none =>
    have hacyclic : (g.affected changed).IsAcyclic := findCycle_eq_none_iff.1 hc
    have horder : (g.affected changed).order =
        .ok ((g.affected changed).orderFrom [] (g.affected changed).nodes) :=
      order_eq_ok_iff.2 ⟨hacyclic, rfl⟩
    refine .inr ⟨?_, _, horder, ?_⟩
    · rintro ⟨cycle, hcycle⟩
      exact ((isCircle_affected hk).2 hcycle).not_isAcyclic hacyclic
    · exact isPartialSchedule_of_isSchedule hk (isSchedule_of_order horder)

/-- A total with a tax on a price, and two rates that wait for each other. -/
def invoice : Graph String :=
  ⟨[("total", ["tax", "price"]), ("tax", ["price", "rate"]), ("rate", ["index"]),
    ("index", ["rate"])]⟩

/-- The price changes, and a name that is not there: the tax and the total follow, although the
    tax depends on a circle as well. -/
theorem partialOrder_affected_or_circular_invoice : invoice.keys.Nodup ∧
    invoice.partialOrder ["price", "weight"] = .ok ["price", "tax", "total"] ∧
    invoice.IsPartialSchedule ["price", "weight"] ["price", "tax", "total"] := by
  have hk : invoice.keys.Nodup := by decide
  have ho : invoice.partialOrder ["price", "weight"] = .ok ["price", "tax", "total"] := by cbv
  rcases partialOrder_affected_or_circular invoice hk ["price", "weight"] with
    ⟨cycle, hc, -⟩ | ⟨-, order, horder, hschedule⟩
  · rw [ho] at hc
    cases hc
  · rw [ho] at horder
    cases horder
    exact ⟨hk, ho, hschedule⟩

end Graph

end ControlBreak
